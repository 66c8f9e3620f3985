import MicroMachines.Vmm.Branch

set_option autoImplicit false

/-! # The image of guest RAM

A snapshot holds guest RAM in one file. `dump_guest_memory` writes it in chunks of 1 MiB and
`write_branch_image` region by region at running offsets; `load_guest_memory` reads it back in
chunks, and `allocate_cow_guest_memory` maps each region privately from its offset in the file.
None of them knows of the others.

* `memoryImage_roundTrip`: all four agree on one layout, the concatenation of the regions.
-/

namespace MicroMachines.Vmm

/-- Guest RAM: its regions, and the byte at each guest-physical address. -/
structure GuestMemory where
  layout : List Region
  byte : Nat → UInt8

namespace GuestMemory

/-- The `n` bytes from an address on. -/
def slice (m : GuestMemory) (addr n : Nat) : List UInt8 :=
  (List.range n).map (fun i => m.byte (addr + i))

/-- The range lies in one region. -/
def covers (m : GuestMemory) (addr n : Nat) : Bool :=
  m.layout.any (fun r => decide (r.base ≤ addr ∧ addr + n ≤ r.base + r.size))

def readSlice (m : GuestMemory) (addr n : Nat) : Option (List UInt8) :=
  if m.covers addr n then some (m.slice addr n) else none

/-- Overwrite the bytes from an address on. -/
def poke (m : GuestMemory) (addr : Nat) (data : List UInt8) : GuestMemory :=
  { m with byte := fun a =>
      if addr ≤ a ∧ a < addr + data.length then data.getD (a - addr) 0 else m.byte a }

def writeSlice (m : GuestMemory) (addr : Nat) (data : List UInt8) : Option GuestMemory :=
  if m.covers addr data.length then some (m.poke addr data) else none

end GuestMemory

/-- `u64::checked_add`. -/
def checkedAdd (a b : Nat) : Option Nat := if a + b < 2 ^ 64 then some (a + b) else none

/-- The buffer of the two copying loops: 1 MiB. -/
def CHUNK : Nat := 0x100000

theorem CHUNK_pos : 0 < CHUNK := by decide

/-! ## Writing -/

/-- The loop of `dump_guest_memory` over one region, from `offset` on. -/
def dumpRegion (m : GuestMemory) (r : Region) (offset : Nat) (file : List UInt8) :
    Except VmmError (List UInt8) :=
  if _h : offset < r.size then
    match checkedAdd r.base offset with
    | none => .error (.memory "dump: address overflow")
    | some addr =>
      match m.readSlice addr (min (r.size - offset) CHUNK) with
      | none => .error (.memory "dump read: invalid guest address")
      | some data =>
        dumpRegion m r (offset + min (r.size - offset) CHUNK) (file ++ data)
  else .ok file
termination_by r.size - offset
decreasing_by
  have := CHUNK_pos
  omega

def dumpRegions (m : GuestMemory) : List Region → List UInt8 → Except VmmError (List UInt8)
  | [], file => .ok file
  | r :: rs, file =>
    match dumpRegion m r 0 file with
    | .error e => .error e
    | .ok file => dumpRegions m rs file

/-- The file that `dump_guest_memory` leaves. -/
def GuestMemory.dumpGuestMemory (m : GuestMemory) : Except VmmError (List UInt8) := dumpRegions m m.layout []

/-- `write_all_at`: overwrite the file at an offset. A gap behind its end is filled with zeros. -/
def writeAllAt (file : List UInt8) (src : List UInt8) (offset : Nat) : List UInt8 :=
  (file ++ List.replicate (offset - file.length) 0).take offset ++ src ++
    file.drop (offset + src.length)

/-- The loop of `write_branch_image`. The regions are read through their host mapping. -/
def writeRegions (m : GuestMemory) : List Region → List UInt8 → Nat → List UInt8
  | [], file, _ => file
  | r :: rs, file, offset =>
    writeRegions m rs (writeAllAt file (m.slice r.base r.size) offset) (offset + r.size)

/-- The file that `write_branch_image` leaves (it is emptied, set to its full length, and written),
and the number of pages it returns. -/
def GuestMemory.writeBranchImage (m : GuestMemory) : List UInt8 × Nat :=
  let total := (m.layout.map Region.size).sum
  (writeRegions m m.layout (List.replicate total 0) 0, total / BRANCH_PAGE_SIZE)

/-! ## Reading -/

/-- The loop of `load_guest_memory` over one region, from `offset` on; `rest` is what has not been
read yet. -/
def loadRegion (m : GuestMemory) (r : Region) (offset : Nat) (rest : List UInt8) :
    Except VmmError (GuestMemory × List UInt8) :=
  if _h : offset < r.size then
    if rest.length < min (r.size - offset) CHUNK then .error osError
    else
      match checkedAdd r.base offset with
      | none => .error (.memory "load: address overflow")
      | some addr =>
        match m.writeSlice addr (rest.take (min (r.size - offset) CHUNK)) with
        | none => .error (.memory "load write: invalid guest address")
        | some m' =>
          loadRegion m' r (offset + min (r.size - offset) CHUNK)
            (rest.drop (min (r.size - offset) CHUNK))
  else .ok (m, rest)
termination_by r.size - offset
decreasing_by
  have := CHUNK_pos
  omega

def loadRegions (m : GuestMemory) : List Region → List UInt8 → Except VmmError GuestMemory
  | [], _ => .ok m
  | r :: rs, rest =>
    match loadRegion m r 0 rest with
    | .error e => .error e
    | .ok (m, rest) => loadRegions m rs rest

def GuestMemory.loadGuestMemory (m : GuestMemory) (file : List UInt8) : Except VmmError GuestMemory :=
  loadRegions m m.layout file

/-- A region that is mapped from a file offset on. -/
structure CowRegion where
  region : Region
  fileOffset : Nat
  deriving DecidableEq, Repr

/-- Map the regions one after the other. A mapping must not go beyond the end of the file. -/
def cowRegions (file : List UInt8) : List Region → Nat → Except VmmError (List CowRegion)
  | [], _ => .ok []
  | r :: rs, fileOffset =>
    if file.length < fileOffset + r.size then .error (.memory "cow mmap: MappingPastEof")
    else
      match cowRegions file rs (fileOffset + r.size) with
      | .error e => .error e
      | .ok mapped => .ok (⟨r, fileOffset⟩ :: mapped)

/-- What a private mapping that nobody has written to shows. -/
def cowByte (file : List UInt8) (mapped : List CowRegion) (addr : Nat) : UInt8 :=
  match mapped.find? (fun c => decide (c.region.Contains addr)) with
  | none => 0
  | some c => file.getD (c.fileOffset + (addr - c.region.base)) 0

/-- `allocate_cow_guest_memory`. -/
def allocateCowGuestMemory (memoryMib : Nat) (file : List UInt8) : Except VmmError GuestMemory :=
  match checkedMul memoryMib MIB with
  | none => .error (.memory ("memory size " ++ toString memoryMib ++ " MiB overflows"))
  | some memSize =>
    match cowRegions file (ramRanges memSize) 0 with
    | .error e => .error e
    | .ok mapped => .ok ⟨ramRanges memSize, cowByte file mapped⟩

/-- A memory size that the constructor accepts: it is not zero, does not overflow, and no region
ends beyond the 64-bit addresses. -/
def AcceptedSize (memoryMib : Nat) (layout : List Region) : Prop :=
  0 < memoryMib ∧ allocateGuestMemory memoryMib = .ok layout ∧
    ∀ r ∈ layout, r.base + r.size < 2 ^ 64

/-! ## One layout -/

namespace GuestMemory

variable (m : GuestMemory)

/-- The regions one after the other. -/
def image (rs : List Region) : List UInt8 := rs.flatMap (fun r => m.slice r.base r.size)

theorem image_cons (r : Region) (rs : List Region) :
    m.image (r :: rs) = m.slice r.base r.size ++ m.image rs := List.flatMap_cons

@[simp] theorem slice_length (addr n : Nat) : (m.slice addr n).length = n := by
  simp [slice]

theorem slice_append (addr n k : Nat) :
    m.slice addr n ++ m.slice (addr + n) k = m.slice addr (n + k) := by
  simp only [slice, List.range_add, List.map_append, List.map_map]
  congr 1
  refine List.map_congr_left (fun i _ => ?_)
  simp only [Function.comp_apply, Nat.add_assoc]

theorem slice_getElem? {addr n i : Nat} (h : i < n) :
    (m.slice addr n)[i]? = some (m.byte (addr + i)) := by
  simp [slice, h]

theorem covers_of_mem {r : Region} (hr : r ∈ m.layout) {offset n : Nat}
    (h : offset + n ≤ r.size) : m.covers (r.base + offset) n = true := by
  refine List.any_eq_true.mpr ⟨r, hr, decide_eq_true ⟨Nat.le_add_right _ _, ?_⟩⟩
  omega

end GuestMemory

theorem checkedAdd_eq {a b : Nat} (h : a + b < 2 ^ 64) : checkedAdd a b = some (a + b) := if_pos h

/-- Copying a region in chunks appends all that is left of it. -/
theorem dumpRegion_eq {m : GuestMemory} {r : Region} (hr : r ∈ m.layout)
    (hfit : r.base + r.size < 2 ^ 64) (offset : Nat) (file : List UInt8) :
    dumpRegion m r offset file = .ok (file ++ m.slice (r.base + offset) (r.size - offset)) := by
  fun_induction dumpRegion m r offset file with
  | case1 offset file h hnone =>
    rw [checkedAdd_eq (by omega)] at hnone
    cases hnone
  | case2 offset file h addr haddr hnone =>
    rw [checkedAdd_eq (by omega)] at haddr
    cases haddr
    rw [GuestMemory.readSlice, if_pos (m.covers_of_mem hr (by omega))] at hnone
    cases hnone
  | case3 offset file h addr haddr data hdata ih =>
    rw [checkedAdd_eq (by omega)] at haddr
    cases haddr
    rw [GuestMemory.readSlice, if_pos (m.covers_of_mem hr (by omega))] at hdata
    cases hdata
    have hlen : r.size - offset = min (r.size - offset) CHUNK +
        (r.size - (offset + min (r.size - offset) CHUNK)) := by omega
    rw [ih, List.append_assoc, ← Nat.add_assoc, GuestMemory.slice_append, ← hlen]
  | case4 offset file h =>
    have hzero : r.size - offset = 0 := by omega
    rw [hzero]
    simp [GuestMemory.slice]

theorem dumpRegions_eq {m : GuestMemory} {rs : List Region} (hrs : ∀ r ∈ rs, r ∈ m.layout)
    (hfit : ∀ r ∈ rs, r.base + r.size < 2 ^ 64) (file : List UInt8) :
    dumpRegions m rs file = .ok (file ++ m.image rs) := by
  induction rs generalizing file with
  | nil =>
    rw [dumpRegions, GuestMemory.image, List.flatMap_nil, List.append_nil]
  | cons r rs ih =>
    rw [List.forall_mem_cons] at hrs hfit
    rw [dumpRegions, dumpRegion_eq hrs.1 hfit.1, Nat.add_zero, Nat.sub_zero]
    show dumpRegions m rs (file ++ m.slice r.base r.size) = _
    rw [ih hrs.2 hfit.2, GuestMemory.image_cons, List.append_assoc]

/-- Writing inside the file replaces what was there. -/
theorem writeAllAt_mid (a b c src : List UInt8) (h : b.length = src.length) :
    writeAllAt (a ++ b ++ c) src a.length = a ++ src ++ c := by
  have hzero : a.length - (a ++ b ++ c).length = 0 := by simp
  rw [writeAllAt, hzero, List.replicate_zero, List.append_nil, List.append_assoc a b c,
    List.take_left, ← h, ← List.length_append, ← List.append_assoc, List.drop_left]

/-- The regions fill the file from the front. -/
theorem writeRegions_eq (m : GuestMemory) (rs : List Region) (done : List UInt8) :
    writeRegions m rs (done ++ List.replicate ((rs.map Region.size).sum) 0) done.length =
      done ++ m.image rs := by
  induction rs generalizing done with
  | nil => rfl
  | cons r rs ih =>
    have hsplit : done ++ List.replicate (((r :: rs).map Region.size).sum) (0 : UInt8) =
        done ++ List.replicate r.size 0 ++ List.replicate ((rs.map Region.size).sum) 0 := by
      rw [List.map_cons, List.sum_cons, List.replicate_add, List.append_assoc]
    have hlen : done.length + r.size = (done ++ m.slice r.base r.size).length := by simp
    rw [writeRegions, hsplit, writeAllAt_mid _ _ _ _ (by simp), hlen, ih,
      GuestMemory.image_cons, List.append_assoc]

/-- Loading a region in chunks overwrites what is left of it with the next bytes of the file, and
nothing else. -/
theorem loadRegion_eq {m : GuestMemory} {r : Region} {offset : Nat} {rest : List UInt8}
    (hr : r ∈ m.layout) (hfit : r.base + r.size < 2 ^ 64) (hlen : r.size - offset ≤ rest.length) :
    ∃ m', loadRegion m r offset rest = .ok (m', rest.drop (r.size - offset)) ∧
      m'.layout = m.layout ∧ ∀ a, m'.byte a =
        if r.base + offset ≤ a ∧ a < r.base + r.size then rest.getD (a - (r.base + offset)) 0
        else m.byte a := by
  fun_induction loadRegion m r offset rest with
  | case1 m offset rest h hshort => omega
  | case2 m offset rest h hshort hnone =>
    rw [checkedAdd_eq (by omega)] at hnone
    cases hnone
  | case3 m offset rest h hshort addr haddr hnone =>
    rw [checkedAdd_eq (by omega)] at haddr
    cases haddr
    have htake : (rest.take (min (r.size - offset) CHUNK)).length =
        min (r.size - offset) CHUNK := List.length_take_of_le (by omega)
    rw [GuestMemory.writeSlice, htake, if_pos (m.covers_of_mem hr (by omega))] at hnone
    cases hnone
  | case4 m offset rest h hshort addr haddr m₁ hm₁ ih =>
    rw [checkedAdd_eq (by omega)] at haddr
    cases haddr
    have htake : (rest.take (min (r.size - offset) CHUNK)).length =
        min (r.size - offset) CHUNK := List.length_take_of_le (by omega)
    rw [GuestMemory.writeSlice, htake, if_pos (m.covers_of_mem hr (by omega))] at hm₁
    cases hm₁
    obtain ⟨m', hload, hlayout, hbyte⟩ := ih hr (by rw [List.length_drop]; omega)
    refine ⟨m', ?_, hlayout, fun a => ?_⟩
    · rw [hload, List.drop_drop]
      congr 3
      omega
    · rw [hbyte a]
      by_cases hrest : r.base + (offset + min (r.size - offset) CHUNK) ≤ a ∧ a < r.base + r.size
      · have hidx : min (r.size - offset) CHUNK +
            (a - (r.base + (offset + min (r.size - offset) CHUNK))) = a - (r.base + offset) := by
          omega
        rw [if_pos hrest, if_pos (by omega), List.getD_eq_getElem?_getD, List.getElem?_drop, hidx,
          List.getD_eq_getElem?_getD]
      · rw [if_neg hrest]
        show (if r.base + offset ≤ a ∧ a < r.base + offset + (rest.take _).length then _ else _) = _
        rw [htake]
        by_cases hchunk : r.base + offset ≤ a ∧
            a < r.base + offset + min (r.size - offset) CHUNK
        · rw [if_pos hchunk, if_pos (by omega), List.getD_eq_getElem?_getD,
            List.getElem?_take_of_lt (by omega), List.getD_eq_getElem?_getD]
        · rw [if_neg hchunk, if_neg (by omega)]
  | case5 m offset rest h =>
    have hzero : r.size - offset = 0 := by omega
    refine ⟨m, by rw [hzero, List.drop_zero], rfl, fun a => ?_⟩
    rw [if_neg (by omega)]

/-- No address lies in two regions. -/
def Region.Apart (r r' : Region) : Prop := ∀ a, r.Contains a → ¬ r'.Contains a

/-- Loading the image of regions that are apart restores them, and leaves the rest alone. -/
theorem loadRegions_image (m : GuestMemory) {rs : List Region} {m₀ : GuestMemory}
    (hrs : ∀ r ∈ rs, r ∈ m₀.layout) (hfit : ∀ r ∈ rs, r.base + r.size < 2 ^ 64)
    (hapart : rs.Pairwise Region.Apart) :
    ∃ m', loadRegions m₀ rs (m.image rs) = .ok m' ∧ m'.layout = m₀.layout ∧
      (∀ r ∈ rs, ∀ a, r.Contains a → m'.byte a = m.byte a) ∧
      ∀ a, (∀ r ∈ rs, ¬ r.Contains a) → m'.byte a = m₀.byte a := by
  induction rs generalizing m₀ with
  | nil => exact ⟨m₀, rfl, rfl, fun _ h => absurd h List.not_mem_nil, fun _ _ => rfl⟩
  | cons r rs ih =>
    rw [List.forall_mem_cons] at hrs hfit
    rw [List.pairwise_cons] at hapart
    obtain ⟨m₁, hload, hlayout₁, hbyte₁⟩ := @loadRegion_eq m₀ r 0 (m.image (r :: rs)) hrs.1 hfit.1
      (by simp [GuestMemory.image_cons])
    have hdrop : (m.image (r :: rs)).drop (r.size - 0) = m.image rs := by
      rw [GuestMemory.image_cons, Nat.sub_zero,
        List.drop_left' (GuestMemory.slice_length m r.base r.size)]
    obtain ⟨m', hloads, hlayout, hin, hout⟩ :=
      @ih m₁ (fun r' hr' => hlayout₁ ▸ hrs.2 r' hr') hfit.2 hapart.2
    have hfirst : ∀ a, r.Contains a → m₁.byte a = m.byte a := by
      rintro a ⟨hlo, hhi⟩
      have hlt : a - r.base < r.size := by omega
      rw [hbyte₁ a, Nat.add_zero, if_pos ⟨hlo, hhi⟩, GuestMemory.image_cons,
        List.getD_eq_getElem?_getD, List.getElem?_append_left (by simpa using hlt),
        m.slice_getElem? hlt, Nat.add_sub_cancel' hlo]
      rfl
    refine ⟨m', ?_, hlayout.trans hlayout₁, ?_, fun a ha => ?_⟩
    · rw [loadRegions, hload, hdrop]
      exact hloads
    · rw [List.forall_mem_cons]
      refine ⟨fun a ha => ?_, hin⟩
      rw [hout a (fun r' hr' => hapart.1 r' hr' a ha)]
      exact hfirst a ha
    · rw [List.forall_mem_cons] at ha
      rw [hout a ha.2, hbyte₁ a, Nat.add_zero]
      exact if_neg ha.1

/-- Each region is mapped from where its bytes are in the image. -/
theorem cowRegions_image (m : GuestMemory) (rs : List Region) (before : List UInt8) :
    ∃ mapped, cowRegions (before ++ m.image rs) rs before.length = .ok mapped ∧
      ∀ r ∈ rs, ∀ a, r.Contains a → cowByte (before ++ m.image rs) mapped a = m.byte a := by
  induction rs generalizing before with
  | nil => exact ⟨[], rfl, fun _ h => absurd h List.not_mem_nil⟩
  | cons r rs ih =>
    obtain ⟨mapped, hmapped, hbyte⟩ := ih (before ++ m.slice r.base r.size)
    have hfile : before ++ m.image (r :: rs) = before ++ m.slice r.base r.size ++ m.image rs := by
      rw [GuestMemory.image_cons, List.append_assoc]
    have hlen : (before ++ m.slice r.base r.size).length = before.length + r.size := by simp
    rw [hlen] at hmapped
    rw [hfile]
    refine ⟨⟨r, before.length⟩ :: mapped, ?_, fun r' hr' a ha => ?_⟩
    · rw [cowRegions, if_neg (by rw [List.length_append, hlen]; omega), hmapped]
    · by_cases hr : r.Contains a
      · have hlt : a - r.base < r.size := by
          have := hr.1
          have := hr.2
          omega
        have hfind : (⟨r, before.length⟩ :: mapped).find?
            (fun c : CowRegion => decide (c.region.Contains a)) = some ⟨r, before.length⟩ :=
          List.find?_cons_of_pos (decide_eq_true hr)
        rw [cowByte, hfind]
        show (before ++ m.slice r.base r.size ++ m.image rs).getD
          (before.length + (a - r.base)) 0 = m.byte a
        rw [List.getD_eq_getElem?_getD, List.append_assoc,
          List.getElem?_append_right (Nat.le_add_right _ _), Nat.add_sub_cancel_left,
          List.getElem?_append_left (by simpa using hlt), m.slice_getElem? hlt,
          Nat.add_sub_cancel' hr.1]
        rfl
      · have hmem : r' ∈ rs := by
          rcases List.mem_cons.mp hr' with rfl | h
          · exact absurd ha hr
          · exact h
        have hfind : (⟨r, before.length⟩ :: mapped).find?
            (fun c : CowRegion => decide (c.region.Contains a)) =
              mapped.find? (fun c => decide (c.region.Contains a)) :=
          List.find?_cons_of_neg (by simpa using hr)
        rw [cowByte, hfind]
        exact hbyte r' hmem a ha

/-- RAM below the hole and RAM above it. -/
theorem ramRanges_apart (memSize : Nat) : (ramRanges memSize).Pairwise Region.Apart := by
  unfold ramRanges
  split_ifs with h
  · exact List.pairwise_singleton _ _
  · refine List.pairwise_pair.mpr (fun a ha ha' => ?_)
    simp only [Region.Contains, MMIO_GAP_START, RAM_64BIT_START] at ha ha'
    omega

/-- **The image of guest RAM.** For every accepted memory size and every content of RAM, a dump and
the image of a branch are the same file; loaded into a machine of that size it restores every
byte, and mapped copy-on-write it shows every byte. -/
theorem memoryImage_roundTrip (memoryMib : Nat) (layout : List Region)
    (hsize : AcceptedSize memoryMib layout) (m : GuestMemory) (hm : m.layout = layout) :
    ∃ file, m.dumpGuestMemory = .ok file ∧ m.writeBranchImage.1 = file ∧
      (∀ fresh : GuestMemory, fresh.layout = layout →
        ∃ loaded, fresh.loadGuestMemory file = .ok loaded ∧ loaded.layout = layout ∧
          ∀ r ∈ layout, ∀ a, r.Contains a → loaded.byte a = m.byte a) ∧
      ∃ cow, allocateCowGuestMemory memoryMib file = .ok cow ∧ cow.layout = layout ∧
        ∀ r ∈ layout, ∀ a, r.Contains a → cow.byte a = m.byte a := by
  obtain ⟨_, halloc, hfit⟩ := hsize
  subst hm
  obtain ⟨memSize, hmul, hlayout⟩ : ∃ memSize, checkedMul memoryMib MIB = some memSize ∧
      m.layout = ramRanges memSize := by
    unfold allocateGuestMemory at halloc
    cases hmul : checkedMul memoryMib MIB with
    | none =>
      rw [hmul] at halloc
      cases halloc
    | some memSize =>
      rw [hmul] at halloc
      exact ⟨memSize, rfl, (Except.ok.inj halloc).symm⟩
  have hapart : m.layout.Pairwise Region.Apart := hlayout ▸ ramRanges_apart memSize
  refine ⟨m.image m.layout, ?_, ?_, fun fresh hfresh => ?_, ?_⟩
  · rw [GuestMemory.dumpGuestMemory, dumpRegions_eq (fun _ h => h) hfit, List.nil_append]
  · have h := writeRegions_eq m m.layout []
    rwa [List.nil_append, List.nil_append] at h
  · obtain ⟨loaded, hload, hl, hin, _⟩ :=
      @loadRegions_image m m.layout fresh (fun r hr => hfresh ▸ hr) hfit hapart
    refine ⟨loaded, ?_, hl.trans hfresh, hin⟩
    rw [GuestMemory.loadGuestMemory, hfresh]
    exact hload
  · obtain ⟨mapped, hmapped, hbyte⟩ := cowRegions_image m m.layout []
    rw [List.nil_append] at hmapped hbyte
    refine ⟨⟨m.layout, cowByte (m.image m.layout) mapped⟩, ?_, rfl, hbyte⟩
    rw [hlayout] at hmapped ⊢
    simp only [allocateCowGuestMemory, hmul]
    rw [show cowRegions (m.image (ramRanges memSize)) (ramRanges memSize) 0 = .ok mapped from
      hmapped]

/-- A guest of 4 GiB, which has a region above the hole. -/
theorem memoryImage_roundTrip_4096 :
    ∃ file, GuestMemory.dumpGuestMemory ⟨ramRanges 0x100000000, UInt8.ofNat⟩ = .ok file ∧
      (GuestMemory.writeBranchImage ⟨ramRanges 0x100000000, UInt8.ofNat⟩).1 = file ∧
      ∃ cow, allocateCowGuestMemory 4096 file = .ok cow ∧ cow.byte 0x100000007 = 7 := by
  have hlayout : ramRanges 0x100000000 = [⟨0, 0xc0000000⟩, ⟨0x100000000, 0x40000000⟩] := by decide
  have hsize : AcceptedSize 4096 (ramRanges 0x100000000) := by
    refine ⟨by decide, by rfl, ?_⟩
    rw [hlayout]
    decide
  obtain ⟨file, hdump, hbranch, _, cow, hcow, _, hbyte⟩ :=
    memoryImage_roundTrip 4096 _ hsize ⟨ramRanges 0x100000000, UInt8.ofNat⟩ rfl
  refine ⟨file, hdump, hbranch, cow, hcow, ?_⟩
  rw [hbyte ⟨0x100000000, 0x40000000⟩ (by rw [hlayout]; decide) 0x100000007 (by decide)]
  decide

end MicroMachines.Vmm
