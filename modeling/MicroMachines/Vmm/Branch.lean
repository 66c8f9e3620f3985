import MicroMachines.Lib.Bitmap
import MicroMachines.Vmm.Orchestrator

set_option autoImplicit false

/-! # The image that `branch` writes

`branch` copies guest RAM into `memory.bin` while the guest runs, and copies the pages that
were written meanwhile once more at a final barrier. A write is seen through one of two
bitmaps: the KVM dirty log of the slot (the guest and KVM itself) or the region's
`AtomicBitmap` (device workers); the bit is set after the bytes are stored.

This module runs the script `branch` on host memory, byte by byte, against any interleaving of
stores, bit updates and the copy, and proves that a branch that returns `Ok` leaves the guest
RAM of the final barrier in the file (`branch_image_coherent`). The invariant of the copy is
`Tracked`: a byte that has been copied is still the one in RAM, or its page is marked, or the
mark is on its way.
-/

namespace MicroMachines.Vmm

open MicroMachines.Lib

def BRANCH_PAGE_SIZE : Nat := 4096

/-! ## Guest RAM on the host -/

/-- A memory slot: where its region is mapped on the host, and its length. -/
structure Slot where
  hostBase : Nat
  len : Nat
  deriving DecidableEq, Repr

/-- The regions in slot order: whole pages, mapped at disjoint host addresses. -/
structure GuestRam where
  slots : List Slot
  aligned : ∀ s ∈ slots, BRANCH_PAGE_SIZE ∣ s.len
  disjoint : slots.Pairwise (fun a b =>
    a.hostBase + a.len ≤ b.hostBase ∨ b.hostBase + b.len ≤ a.hostBase)

/-- The number of bytes of all slots. -/
def total (slots : List Slot) : Nat := (slots.map Slot.len).sum

/-- Where the bytes of slot `i` begin in `memory.bin`. -/
def fileBase (slots : List Slot) (i : Nat) : Nat := total (slots.take i)

/-- The host address of the byte that belongs at position `p` of `memory.bin`. -/
def hostAt : List Slot → Nat → Nat
  | [], _ => 0
  | s :: ss, p => if p < s.len then s.hostBase + p else hostAt ss (p - s.len)

/-- Guest RAM as one list of bytes, region after region. -/
def image (slots : List Slot) (mem : Nat → UInt8) : List UInt8 :=
  slots.flatMap (fun s => (List.range s.len).map (fun o => mem (s.hostBase + o)))

@[simp] theorem fileBase_zero (slots : List Slot) : fileBase slots 0 = 0 := by
  simp [fileBase, total]

@[simp] theorem fileBase_succ (s : Slot) (ss : List Slot) (i : Nat) :
    fileBase (s :: ss) (i + 1) = s.len + fileBase ss i := by
  simp [fileBase, total]

theorem fileBase_add_lt_total {slots : List Slot} {i o : Nat} {s : Slot}
    (hs : slots[i]? = some s) (ho : o < s.len) : fileBase slots i + o < total slots := by
  induction slots generalizing i with
  | nil => simp at hs
  | cons t ss ih =>
    have htotal : total (t :: ss) = t.len + total ss := by simp [total]
    cases i with
    | zero =>
      obtain rfl : t = s := by simpa using hs
      rw [fileBase_zero]
      omega
    | succ i =>
      have := ih (by simpa using hs)
      rw [fileBase_succ]
      omega

theorem hostAt_fileBase {slots : List Slot} {i o : Nat} {s : Slot}
    (hs : slots[i]? = some s) (ho : o < s.len) :
    hostAt slots (fileBase slots i + o) = s.hostBase + o := by
  induction slots generalizing i with
  | nil => simp at hs
  | cons t ss ih =>
    cases i with
    | zero =>
      obtain rfl : t = s := by simpa using hs
      rw [fileBase_zero, Nat.zero_add, hostAt, if_pos ho]
    | succ i =>
      have hsub : t.len + fileBase ss i + o - t.len = fileBase ss i + o := by omega
      rw [fileBase_succ, hostAt, if_neg (by omega), hsub]
      exact ih (by simpa using hs)

/-- A file agrees with RAM if it does so in each slot, at the slot's place in the file. -/
theorem map_range_eq_image {slots : List Slot} {byte mem : Nat → UInt8}
    (h : ∀ i s o, slots[i]? = some s → o < s.len →
      byte (fileBase slots i + o) = mem (s.hostBase + o)) :
    (List.range (total slots)).map byte = image slots mem := by
  induction slots generalizing byte with
  | nil => rfl
  | cons t ss ih =>
    have htotal : total (t :: ss) = t.len + total ss := by simp [total]
    have hrest : (List.range (total ss)).map (fun p => byte (t.len + p)) = image ss mem := by
      refine ih (fun i s o hs ho => ?_)
      have := h (i + 1) s o (by simpa using hs) ho
      rwa [fileBase_succ, Nat.add_assoc] at this
    have hfirst : (List.range t.len).map byte
        = (List.range t.len).map (fun o => mem (t.hostBase + o)) := by
      refine List.map_congr_left (fun o ho => ?_)
      have := h 0 t o rfl (List.mem_range.mp ho)
      rwa [fileBase_zero, Nat.zero_add] at this
    rw [htotal, List.range_add, List.map_append, List.map_map, hfirst]
    have himage : image (t :: ss) mem
        = (List.range t.len).map (fun o => mem (t.hostBase + o)) ++ image ss mem := by
      simp [image]
    rw [himage, ← hrest]
    rfl

/-- Two slots share no host address. -/
theorem GuestRam.slot_unique (ram : GuestRam) {i j : Nat} {s t : Slot} {o u : Nat}
    (hs : ram.slots[i]? = some s) (ht : ram.slots[j]? = some t) (ho : o < s.len) (hu : u < t.len)
    (heq : s.hostBase + o = t.hostBase + u) : i = j := by
  have hdis := List.pairwise_iff_getElem.mp ram.disjoint
  obtain ⟨hi, rfl⟩ := List.getElem?_eq_some_iff.mp hs
  obtain ⟨hj, rfl⟩ := List.getElem?_eq_some_iff.mp ht
  rcases Nat.lt_trichotomy i j with hij | hij | hij
  · have := hdis i j hi hj hij
    omega
  · exact hij
  · have := hdis j i hj hi hij
    omega

/-! ## Writes, bitmaps and the file -/

/-- A write whose bytes are stored and whose page is not marked yet. -/
structure Mark where
  viaKvm : Bool
  slot : Nat
  page : Nat
  deriving DecidableEq, Repr

/-- A page to copy again: its host address and its place in `memory.bin`. -/
structure DirtyPage where
  hostAddr : Nat
  fileOffset : Nat
  deriving DecidableEq, Repr

structure File where
  len : Nat
  byte : Nat → UInt8

/-- The bytes of the file. -/
def File.contents (f : File) : List UInt8 := (List.range f.len).map f.byte

/-- `write_all_at`: `n` bytes of `mem` from `host` on, at offset `off`. -/
def File.writeAt (f : File) (off n host : Nat) (mem : Nat → UInt8) : File :=
  { f with byte := fun p => if off ≤ p ∧ p < off + n then mem (host + (p - off)) else f.byte p }

structure BranchState where
  /-- Host memory. -/
  mem : Nat → UInt8
  /-- Whether KVM logs dirty pages of a slot, its log, and the region's bitmap. -/
  logging : Nat → Bool
  kvmLog : Nat → Bitmap
  bitmap : Nat → Bitmap
  pending : List Mark
  /-- The barrier is held. -/
  held : Bool
  /-- Host memory when the barrier was last reached. -/
  barrierRam : Nat → UInt8
  file : File
  /-- How far the live copy has come. -/
  copied : Nat
  /-- The dirty pages collected and not yet copied again. -/
  pages : List DirtyPage

/-- What the rest of the machine does between the barriers: store a byte, or set the bit of a
stored byte. A participant parks between two writes, so nothing is stored while the barrier is
held. -/
inductive Traffic
  | store (viaKvm : Bool) (slot off : Nat) (byte : UInt8)
  | mark (k : Nat)
  deriving DecidableEq

/-- Set the bit of a write. A slot that does not log forgets it. -/
def BranchState.setDirty (st : BranchState) (m : Mark) : BranchState :=
  { st with
    kvmLog :=
      if m.viaKvm && st.logging m.slot then
        Function.update st.kvmLog m.slot ((st.kvmLog m.slot).setBit m.page)
      else st.kvmLog
    bitmap :=
      if m.viaKvm then st.bitmap
      else Function.update st.bitmap m.slot ((st.bitmap m.slot).setBit m.page) }

def traffic (ram : GuestRam) (st : BranchState) : Traffic → Option BranchState
  | .store viaKvm slot off byte =>
    match ram.slots[slot]? with
    | none => none
    | some s =>
      if st.held = false ∧ off < s.len then
        some { st with
          mem := Function.update st.mem (s.hostBase + off) byte
          pending := ⟨viaKvm, slot, off / BRANCH_PAGE_SIZE⟩ :: st.pending }
      else none
  | .mark k =>
    match st.pending[k]? with
    | none => none
    | some m => some ({ st with pending := st.pending.eraseIdx k }.setDirty m)

/-! ## The operations of `branch` -/

/-- Set the logging flag of a slot. KVM starts a fresh log when logging is switched on. -/
def BranchState.setLogging (st : BranchState) (enable : Bool) (slot : Nat) : BranchState :=
  { st with
    logging := Function.update st.logging slot enable
    kvmLog :=
      if enable && !st.logging slot then Function.update st.kvmLog slot (st.kvmLog slot).clear
      else st.kvmLog }

/-- The dirty pages of one slot; bits beyond its last page are padding. -/
def dirtyPages (ram : GuestRam) (st : BranchState) (slot : Nat) (s : Slot) : List DirtyPage :=
  (Bitmap.setBits (st.kvmLog slot) (st.bitmap slot)).filterMap (fun page =>
    let pageOff := page * BRANCH_PAGE_SIZE
    if s.len ≤ pageOff then none
    else some ⟨s.hostBase + page * BRANCH_PAGE_SIZE, fileBase ram.slots slot + pageOff⟩)

/-- Read and clear both bitmaps of one slot. -/
def BranchState.collect (ram : GuestRam) (st : BranchState) (slot : Nat) (s : Slot) : BranchState :=
  { st with
    pages := st.pages ++ dirtyPages ram st slot s
    kvmLog := Function.update st.kvmLog slot (st.kvmLog slot).clear
    bitmap := Function.update st.bitmap slot (st.bitmap slot).clear }

/-- The next `n` bytes of the live copy. -/
def BranchState.copy (ram : GuestRam) (st : BranchState) (n : Nat) : BranchState :=
  { st with
    file := { st.file with byte := fun p =>
      if st.copied ≤ p ∧ p < st.copied + n then st.mem (hostAt ram.slots p) else st.file.byte p }
    copied := st.copied + n }

/-- Copy the first of the collected pages again. -/
def BranchState.recopy (st : BranchState) : Option BranchState :=
  match st.pages with
  | [] => none
  | d :: ds => some { st with
      file := st.file.writeAt d.fileOffset BRANCH_PAGE_SIZE d.hostAddr st.mem
      pages := ds }

/-- The plain stores of the orchestrator cannot fail. -/
def Op.fallible : Op → Bool
  | .clearReleased | .setRequested _ | .clearRequested | .setReleased | .newPages
  | .setVcpuPause => false
  | _ => true

/-- The operations, as far as they touch memory, bitmaps and the file. An operation that fails
changes nothing that matters here. -/
def branchOp (ram : GuestRam) (o : Op) (out : Outcome) (st : BranchState) : Option BranchState :=
  match out with
  | .progress n =>
    match o with
    | .writeBranchImage =>
      if st.copied + n ≤ total ram.slots then some (st.copy ram n) else none
    | .recopyBranchPages => st.recopy
    | _ => none
  | .err => if o.fallible then some st else none
  | .ok =>
    match o with
    | .waitUntilParked _ =>
      if st.pending = [] then some { st with held := true, barrierRam := st.mem } else none
    | .clearRequested => some { st with held := false }
    | .setDirtyLogging enable slot => some (st.setLogging enable slot)
    | .newPages => some { st with pages := [] }
    | .getDirtyLog slot =>
      match ram.slots[slot]? with
      | none => none
      | some s => if st.logging slot then some (st.collect ram slot s) else none
    | .openImage => some { st with file := ⟨total ram.slots, fun _ => 0⟩, copied := 0 }
    | .writeBranchImage => if st.copied = total ram.slots then some st else none
    | .recopyBranchPages => if st.pages = [] then some st else none
    | _ => some st

/-- The shape of a machine with this RAM. -/
def GuestRam.shape (ram : GuestRam) (nVcpu nDev : Nat) : Shape := ⟨nVcpu, nDev, ram.slots.length⟩

/-- A machine that can only be branched. -/
def branchMachine (ram : GuestRam) (nVcpu nDev : Nat) :
    Machine BranchState Traffic Op Unit (Except VmmError Unit) where
  env := traffic ram
  op := branchOp ram
  enter := fun _ st => st
  script := fun _ => branch (ram.shape nVcpu nDev)

/-! ## The invariant -/

/-- The bitmaps have a bit for every page, and a pending mark is for an existing page. -/
structure BranchState.Wf (ram : GuestRam) (st : BranchState) : Prop where
  kvmLog : ∀ i s, ram.slots[i]? = some s → s.len ≤ 64 * BRANCH_PAGE_SIZE * (st.kvmLog i).length
  bitmap : ∀ i s, ram.slots[i]? = some s → s.len ≤ 64 * BRANCH_PAGE_SIZE * (st.bitmap i).length
  pending : ∀ m ∈ st.pending, ∃ s, ram.slots[m.slot]? = some s ∧ m.page * BRANCH_PAGE_SIZE < s.len

/-- A state in which `branch` can be called. -/
structure BranchStart (ram : GuestRam) where
  state : BranchState
  wf : state.Wf ram

/-- The page is marked, or its mark is on its way. -/
def BranchState.DirtyAt (st : BranchState) (i page : Nat) : Prop :=
  (st.kvmLog i).testBit page = true ∨ (st.bitmap i).testBit page = true ∨
    ∃ m ∈ st.pending, m.slot = i ∧ m.page = page

/-- Every byte of the file below `upTo` is the byte in RAM, or its page is dirty. -/
def Tracked (ram : GuestRam) (st : BranchState) (upTo : Nat) : Prop :=
  ∀ i s o, ram.slots[i]? = some s → o < s.len → fileBase ram.slots i + o < upTo →
    st.file.byte (fileBase ram.slots i + o) = st.mem (s.hostBase + o) ∨
      st.DirtyAt i (o / BRANCH_PAGE_SIZE)

def AllLogging (ram : GuestRam) (st : BranchState) : Prop :=
  ∀ i s, ram.slots[i]? = some s → st.logging i = true

/-- The entry of `collect_dirty_pages` for a page of a slot. -/
def pageEntry (ram : GuestRam) (i : Nat) (s : Slot) (page : Nat) : DirtyPage :=
  ⟨s.hostBase + page * BRANCH_PAGE_SIZE, fileBase ram.slots i + page * BRANCH_PAGE_SIZE⟩

/-- With the bitmaps of the slots below `j` collected: a byte of the file is the byte in RAM,
or its page is marked in a slot still to come, or it is in the list. -/
structure Collecting (ram : GuestRam) (st : BranchState) (j : Nat) : Prop where
  bytes : ∀ i s o, ram.slots[i]? = some s → o < s.len →
    st.file.byte (fileBase ram.slots i + o) = st.mem (s.hostBase + o) ∨
      (j ≤ i ∧ ((st.kvmLog i).testBit (o / BRANCH_PAGE_SIZE) = true ∨
        (st.bitmap i).testBit (o / BRANCH_PAGE_SIZE) = true)) ∨
      pageEntry ram i s (o / BRANCH_PAGE_SIZE) ∈ st.pages
  entries : ∀ d ∈ st.pages, ∃ i s page, ram.slots[i]? = some s ∧
    page * BRANCH_PAGE_SIZE < s.len ∧ d = pageEntry ram i s page

/-- The barrier is held and nothing is on its way. -/
structure AtBarrier (st : BranchState) : Prop where
  held : st.held = true
  pending : st.pending = []
  ram : st.barrierRam = st.mem

/-- How far a successful `branch` has come. -/
inductive BranchPhase
  /-- Nothing is known; also after an error. -/
  | idle
  /-- At the first barrier, with the slots below `j` logging. -/
  | arming (j : Nat)
  | tracking
  | copying
  | copied
  /-- At the final barrier. -/
  | final
  /-- The dirty pages of the slots below `j` are collected. -/
  | collecting (j : Nat)
  | coherent
  deriving DecidableEq, Repr

def BranchPhaseInv (ram : GuestRam) (st : BranchState) : BranchPhase → Prop
  | .idle => True
  | .arming j => st.held = true ∧ ∀ i, i < j → st.logging i = true
  | .tracking => AllLogging ram st
  | .copying => AllLogging ram st ∧ st.file.len = total ram.slots ∧ Tracked ram st st.copied
  | .copied => AllLogging ram st ∧ st.file.len = total ram.slots ∧
      Tracked ram st (total ram.slots)
  | .final => AtBarrier st ∧ st.file.len = total ram.slots ∧ Tracked ram st (total ram.slots)
  | .collecting j => AtBarrier st ∧ st.file.len = total ram.slots ∧ Collecting ram st j
  | .coherent => st.file.len = total ram.slots ∧ ∀ i s o, ram.slots[i]? = some s → o < s.len →
      st.file.byte (fileBase ram.slots i + o) = st.barrierRam (s.hostBase + o)

def BranchInv (ram : GuestRam) (v : BranchPhase) (st : BranchState) : Prop :=
  st.Wf ram ∧ BranchPhaseInv ram st v

/-- How an operation moves the phase, for a machine with `n` slots. -/
def branchNext (n : Nat) (o : Op) (ok : Bool) (v : BranchPhase) : BranchPhase :=
  if ok || !o.fallible then
    match o, v with
    | .waitUntilParked _, .idle => .arming 0
    | .waitUntilParked _, .copied => .final
    | .waitUntilParked _, _ => .idle
    | .setDirtyLogging true i, .arming j => if i = j then .arming (j + 1) else .arming j
    | .setDirtyLogging _ _, .coherent => .coherent
    | .setDirtyLogging _ _, _ => .idle
    | .clearRequested, .arming j => if n ≤ j then .tracking else .idle
    | .clearRequested, .final => .idle
    | .clearRequested, .collecting _ => .idle
    | .clearRequested, v => v
    | .newPages, .final => .collecting 0
    | .newPages, .collecting _ => .idle
    | .newPages, v => v
    | .getDirtyLog i, .collecting j => if i = j then .collecting (j + 1) else .idle
    | .getDirtyLog _, .arming j => .arming j
    | .getDirtyLog _, .coherent => .coherent
    | .getDirtyLog _, _ => .idle
    | .openImage, .tracking => .copying
    | .openImage, _ => .idle
    | .writeBranchImage, .copying => .copied
    | .recopyBranchPages, .collecting j => if n ≤ j then .coherent else .idle
    | _, v => v
  else v

/-- The two copies run only where their result is accounted for. -/
def branchPre (o : Op) (v : BranchPhase) : Prop :=
  match o with
  | .writeBranchImage => v = .copying ∨ v = .idle
  | .recopyBranchPages => (∃ j, v = .collecting j) ∨ v = .idle
  | _ => True

/-! ### Stores and marks -/

theorem Wf.page_lt {len words page : Nat} (hlen : len ≤ 64 * BRANCH_PAGE_SIZE * words)
    (hpage : page * BRANCH_PAGE_SIZE < len) : page / 64 < words := by
  simp only [BRANCH_PAGE_SIZE] at hlen hpage
  omega

theorem page_mul_le (o : Nat) : o / BRANCH_PAGE_SIZE * BRANCH_PAGE_SIZE ≤ o :=
  Nat.div_mul_le_self o BRANCH_PAGE_SIZE

/-- What a step of the rest of the machine does. -/
theorem traffic_cases {ram : GuestRam} {st st' : BranchState} {t : Traffic}
    (h : traffic ram st t = some st') :
    (∃ viaKvm slot off byte s, ram.slots[slot]? = some s ∧ st.held = false ∧ off < s.len ∧
      st' = { st with
        mem := Function.update st.mem (s.hostBase + off) byte
        pending := ⟨viaKvm, slot, off / BRANCH_PAGE_SIZE⟩ :: st.pending }) ∨
    (∃ k m, st.pending[k]? = some m ∧
      st' = { st with pending := st.pending.eraseIdx k }.setDirty m) := by
  cases t with
  | store viaKvm slot off byte =>
    simp only [traffic] at h
    split at h
    next => cases h
    next s hs =>
      split_ifs at h with hc
      cases h
      exact Or.inl ⟨viaKvm, slot, off, byte, s, hs, hc.1, hc.2, rfl⟩
  | mark k =>
    simp only [traffic] at h
    split at h
    next => cases h
    next m hm =>
      cases h
      exact Or.inr ⟨k, m, hm, rfl⟩

theorem length_clear (ws : Bitmap) : ws.clear.length = ws.length := List.length_map _

/-- A step changes neither the number of words of a bitmap, nor leaves a mark behind without
its page. -/
theorem BranchState.Wf.traffic {ram : GuestRam} {st st' : BranchState} {t : Traffic} (hwf : st.Wf ram)
    (h : traffic ram st t = some st') : st'.Wf ram := by
  rcases traffic_cases h with ⟨viaKvm, slot, off, byte, s, hs, -, hoff, rfl⟩ | ⟨k, m, hm, rfl⟩
  · refine ⟨hwf.kvmLog, hwf.bitmap, fun m hmem => ?_⟩
    rcases List.mem_cons.mp hmem with rfl | hmem
    · exact ⟨s, hs, Nat.lt_of_le_of_lt (page_mul_le off) hoff⟩
    · exact hwf.pending m hmem
  · refine ⟨fun i s hs => ?_, fun i s hs => ?_, fun m' hmem => ?_⟩
    · have := hwf.kvmLog i s hs
      simp only [BranchState.setDirty]
      split_ifs
      · by_cases hi : i = m.slot
        · subst hi
          simpa using this
        · simpa [Function.update_of_ne hi] using this
      · exact this
    · have := hwf.bitmap i s hs
      simp only [BranchState.setDirty]
      split_ifs
      · exact this
      · by_cases hi : i = m.slot
        · subst hi
          simpa using this
        · simpa [Function.update_of_ne hi] using this
    · exact hwf.pending m' (List.mem_of_mem_eraseIdx hmem)

/-- Setting the bit of a write keeps every page dirty that was dirty, if the slots log. -/
theorem DirtyAt.setDirty {ram : GuestRam} {st : BranchState} (hwf : st.Wf ram)
    (hlog : AllLogging ram st) {k : Nat} {m : Mark} (hm : st.pending[k]? = some m) {i page : Nat}
    (hd : st.DirtyAt i page) :
    ({ st with pending := st.pending.eraseIdx k }.setDirty m).DirtyAt i page := by
  obtain ⟨s, hs, hpage⟩ := hwf.pending m (List.mem_of_getElem? hm)
  have hk := Wf.page_lt (hwf.kvmLog _ s hs) hpage
  have hb := Wf.page_lt (hwf.bitmap _ s hs) hpage
  have hlog' := hlog _ s hs
  -- the bit of `m` is set now, and no bit was cleared
  have hkvm : ((st.kvmLog i).testBit page = true ∨ (m.viaKvm = true ∧ m.slot = i ∧ m.page = page)) →
      (({ st with pending := st.pending.eraseIdx k }.setDirty m).kvmLog i).testBit page = true := by
    intro h
    simp only [BranchState.setDirty, hlog', Bool.and_true]
    split_ifs with hvia
    · by_cases hi : i = m.slot
      · subst hi
        rw [Function.update_self, Bitmap.testBit_setBit _ hk]
        rcases h with h | ⟨-, -, h⟩ <;> simp [h]
      · rw [Function.update_of_ne hi]
        rcases h with h | ⟨-, h, -⟩
        · exact h
        · exact absurd h.symm hi
    · rcases h with h | ⟨h, -, -⟩
      · exact h
      · exact absurd h hvia
  have hdev : ((st.bitmap i).testBit page = true ∨ (m.viaKvm = false ∧ m.slot = i ∧ m.page = page)) →
      (({ st with pending := st.pending.eraseIdx k }.setDirty m).bitmap i).testBit page = true := by
    intro h
    simp only [BranchState.setDirty]
    split_ifs with hvia
    · rcases h with h | ⟨h, -, -⟩
      · exact h
      · rw [hvia] at h
        cases h
    · by_cases hi : i = m.slot
      · subst hi
        rw [Function.update_self, Bitmap.testBit_setBit _ hb]
        rcases h with h | ⟨-, -, h⟩ <;> simp [h]
      · rw [Function.update_of_ne hi]
        rcases h with h | ⟨-, h, -⟩
        · exact h
        · exact absurd h.symm hi
  rcases hd with h | h | ⟨m', hmem, hslot, hpg⟩
  · exact Or.inl (hkvm (Or.inl h))
  · exact Or.inr (Or.inl (hdev (Or.inl h)))
  · by_cases hmm : m' = m
    · subst hmm
      cases hv : m'.viaKvm with
      | true => exact Or.inl (hkvm (Or.inr ⟨hv, hslot, hpg⟩))
      | false => exact Or.inr (Or.inl (hdev (Or.inr ⟨hv, hslot, hpg⟩)))
    · have hleft : m' ∈ st.pending.eraseIdx k := by
        obtain ⟨k', hk'⟩ := List.mem_iff_getElem?.mp hmem
        have hne : k' ≠ k := by
          intro e
          rw [e, hm] at hk'
          exact hmm (Option.some.inj hk').symm
        exact List.mem_eraseIdx_iff_getElem?.mpr ⟨k', hne, hk'⟩
      exact Or.inr (Or.inr ⟨m', hleft, hslot, hpg⟩)

/-- **The copy stays tracked** whatever the rest of the machine does. -/
theorem Tracked.traffic {ram : GuestRam} {st st' : BranchState} {t : Traffic} {upTo : Nat}
    (hwf : st.Wf ram) (hlog : AllLogging ram st) (htr : Tracked ram st upTo)
    (h : traffic ram st t = some st') : Tracked ram st' upTo := by
  intro i s o hs ho hup
  rcases traffic_cases h with ⟨viaKvm, slot, off, byte, s', hs', -, hoff, rfl⟩ | ⟨k, m, hm, rfl⟩
  · by_cases haddr : s.hostBase + o = s'.hostBase + off
    · -- the byte that was stored: its mark is pending
      obtain rfl := ram.slot_unique hs hs' ho hoff haddr
      obtain rfl : s = s' := Option.some.inj (hs.symm.trans hs')
      have : o = off := by omega
      exact Or.inr (Or.inr (Or.inr ⟨_, List.mem_cons_self, rfl, by rw [this]⟩))
    · rcases htr i s o hs ho hup with heq | h1 | h1 | ⟨m, hmem, hslot, hpage⟩
      · refine Or.inl (heq.trans ?_)
        exact (Function.update_of_ne haddr _ _).symm
      · exact Or.inr (Or.inl h1)
      · exact Or.inr (Or.inr (Or.inl h1))
      · exact Or.inr (Or.inr (Or.inr ⟨m, List.mem_cons_of_mem _ hmem, hslot, hpage⟩))
  · rcases htr i s o hs ho hup with heq | hd
    · exact Or.inl heq
    · exact Or.inr (DirtyAt.setDirty hwf hlog hm hd)

theorem branchInv_traffic {ram : GuestRam} {v : BranchPhase} {st st' : BranchState} {t : Traffic}
    (hinv : BranchInv ram v st) (h : traffic ram st t = some st') : BranchInv ram v st' := by
  obtain ⟨hwf, hph⟩ := hinv
  refine ⟨hwf.traffic h, ?_⟩
  have hcases := traffic_cases h
  cases v with
  | idle => trivial
  | arming j | tracking | coherent =>
    rcases hcases with ⟨_, _, _, _, _, _, -, -, rfl⟩ | ⟨_, _, -, rfl⟩ <;> exact hph
  | copying | copied =>
    have htr := hph.2.2.traffic hwf hph.1 h
    rcases hcases with ⟨_, _, _, _, _, _, -, -, rfl⟩ | ⟨_, _, -, rfl⟩ <;>
      exact ⟨hph.1, hph.2.1, htr⟩
  | final =>
    -- at the barrier nothing is stored and no mark is left to set
    rcases hcases with ⟨_, _, _, _, _, _, hheld, -, -⟩ | ⟨k, m, hm, -⟩
    · rw [hph.1.held] at hheld
      cases hheld
    · rw [hph.1.pending] at hm
      simp at hm
  | collecting j =>
    rcases hcases with ⟨_, _, _, _, _, _, hheld, -, -⟩ | ⟨k, m, hm, -⟩
    · rw [hph.1.held] at hheld
      cases hheld
    · rw [hph.1.pending] at hm
      simp at hm

/-! ### The two copies -/

theorem Tracked.copy {ram : GuestRam} {st : BranchState} {n : Nat}
    (htr : Tracked ram st st.copied) : Tracked ram (st.copy ram n) (st.copied + n) := by
  intro i s o hs ho hup
  by_cases hnew : st.copied ≤ fileBase ram.slots i + o
  · -- a byte copied just now
    refine Or.inl ?_
    show (if _ ∧ _ then _ else _) = _
    rw [if_pos ⟨hnew, hup⟩, hostAt_fileBase hs ho]
    rfl
  · rcases htr i s o hs ho (by omega) with heq | hd
    · refine Or.inl ?_
      show (if _ ∧ _ then _ else _) = _
      rw [if_neg (fun hc => hnew hc.1)]
      exact heq
    · exact Or.inr hd

/-- Writing a collected page makes the bytes it covers equal to RAM. -/
theorem writeAt_pageEntry {ram : GuestRam} {i : Nat} {s : Slot} {page : Nat}
    (hs : ram.slots[i]? = some s) (hpage : page * BRANCH_PAGE_SIZE < s.len) (f : File)
    (mem : Nat → UInt8) (p : Nat) : (f.writeAt (pageEntry ram i s page).fileOffset BRANCH_PAGE_SIZE
        (pageEntry ram i s page).hostAddr mem).byte p =
      if (pageEntry ram i s page).fileOffset ≤ p ∧
          p < (pageEntry ram i s page).fileOffset + BRANCH_PAGE_SIZE
      then mem (hostAt ram.slots p) else f.byte p := by
  unfold File.writeAt
  by_cases hc : (pageEntry ram i s page).fileOffset ≤ p ∧
      p < (pageEntry ram i s page).fileOffset + BRANCH_PAGE_SIZE
  · rw [if_pos hc]
    show (if _ ∧ _ then _ else _) = _
    rw [if_pos hc]
    -- the page lies inside its slot, whose length is a whole number of pages
    obtain ⟨q, hq⟩ := ram.aligned s (List.mem_of_getElem? hs)
    have hin : page * BRANCH_PAGE_SIZE + BRANCH_PAGE_SIZE ≤ s.len := by
      have hlt : page < q := by
        rw [hq, Nat.mul_comm] at hpage
        exact Nat.lt_of_mul_lt_mul_left hpage
      calc page * BRANCH_PAGE_SIZE + BRANCH_PAGE_SIZE = BRANCH_PAGE_SIZE * (page + 1) := by ring
        _ ≤ BRANCH_PAGE_SIZE * q := Nat.mul_le_mul_left _ hlt
        _ = s.len := hq.symm
    simp only [pageEntry] at hc ⊢
    obtain ⟨o, rfl⟩ := Nat.exists_eq_add_of_le (Nat.le_trans (Nat.le_add_right _ _) hc.1)
    rw [hostAt_fileBase hs (by omega)]
    congr 1
    omega
  · rw [if_neg hc]
    show (if _ ∧ _ then _ else _) = _
    rw [if_neg hc]

theorem Collecting.recopy {ram : GuestRam} {st st' : BranchState} {j : Nat}
    (hc : Collecting ram st j) (h : st.recopy = some st') : Collecting ram st' j := by
  unfold BranchState.recopy at h
  split at h
  next => cases h
  next d ds hpages =>
    cases h
    have hmem : ∀ d', d' ∈ d :: ds → d' ∈ st.pages := by
      intro d' hd'
      rw [hpages]
      exact hd'
    obtain ⟨i', s', page', hs', hpage', rfl⟩ := hc.entries d (hmem d List.mem_cons_self)
    refine ⟨fun i s o hs ho => ?_, fun d' hd' => hc.entries d' (hmem d' (List.mem_cons_of_mem _ hd'))⟩
    have hbyte := writeAt_pageEntry hs' hpage' st.file st.mem (fileBase ram.slots i + o)
    rw [hostAt_fileBase hs ho] at hbyte
    by_cases hin : (pageEntry ram i' s' page').fileOffset ≤ fileBase ram.slots i + o ∧
        fileBase ram.slots i + o < (pageEntry ram i' s' page').fileOffset + BRANCH_PAGE_SIZE
    · rw [if_pos hin] at hbyte
      exact Or.inl hbyte
    · rw [if_neg hin] at hbyte
      rcases hc.bytes i s o hs ho with heq | hbit | hlist
      · exact Or.inl (hbyte.trans heq)
      · exact Or.inr (Or.inl hbit)
      · rw [hpages] at hlist
        rcases List.mem_cons.mp hlist with heq | hlist
        · -- its own page was the one copied, so it would have been inside
          refine absurd ?_ hin
          rw [← heq]
          have h1 := page_mul_le o
          have h2 := Nat.lt_div_mul_add (a := o) (b := BRANCH_PAGE_SIZE) (by decide)
          simp only [pageEntry]
          omega
        · exact Or.inr (Or.inr hlist)

/-- Collecting the next slot turns its marks into list entries. -/
theorem Collecting.collect {ram : GuestRam} {st : BranchState} {j : Nat} {s : Slot}
    (hs : ram.slots[j]? = some s) (hc : Collecting ram st j) :
    Collecting ram (st.collect ram j s) (j + 1) := by
  have hdirty : ∀ d, d ∈ dirtyPages ram st j s ↔
      ∃ page, ((st.kvmLog j).testBit page || (st.bitmap j).testBit page) = true ∧
        page * BRANCH_PAGE_SIZE < s.len ∧ d = pageEntry ram j s page := by
    intro d
    simp only [dirtyPages, List.mem_filterMap, Bitmap.mem_setBits]
    constructor
    · rintro ⟨page, hbit, hsome⟩
      split_ifs at hsome with hlen
      exact ⟨page, hbit, Nat.lt_of_not_le hlen, (Option.some.inj hsome).symm⟩
    · rintro ⟨page, hbit, hlen, rfl⟩
      exact ⟨page, hbit, by rw [if_neg (Nat.not_le.mpr hlen)]; rfl⟩
  refine ⟨fun i t o ht ho => ?_, fun d hd => ?_⟩
  · rcases hc.bytes i t o ht ho with heq | ⟨hji, hbit⟩ | hlist
    · exact Or.inl heq
    · rcases Nat.eq_or_lt_of_le hji with rfl | hlt
      · obtain rfl : s = t := Option.some.inj (hs.symm.trans ht)
        refine Or.inr (Or.inr (List.mem_append_right _ ((hdirty _).mpr ?_)))
        refine ⟨o / BRANCH_PAGE_SIZE, ?_, Nat.lt_of_le_of_lt (page_mul_le o) ho, rfl⟩
        rw [Bool.or_eq_true]
        exact hbit
      · refine Or.inr (Or.inl ⟨hlt, ?_⟩)
        simp only [BranchState.collect, Function.update_of_ne (Nat.ne_of_gt hlt)]
        exact hbit
    · exact Or.inr (Or.inr (List.mem_append_left _ hlist))
  · rcases List.mem_append.mp hd with hd | hd
    · exact hc.entries d hd
    · obtain ⟨page, -, hlen, rfl⟩ := (hdirty d).mp hd
      exact ⟨j, s, page, hs, hlen, rfl⟩

/-! ### The operations keep the invariant -/

theorem BranchState.Wf.setLogging {ram : GuestRam} {st : BranchState} (hwf : st.Wf ram)
    (enable : Bool) (slot : Nat) : (st.setLogging enable slot).Wf ram := by
  refine ⟨fun i s hs => ?_, hwf.bitmap, hwf.pending⟩
  have := hwf.kvmLog i s hs
  simp only [BranchState.setLogging]
  split_ifs
  · by_cases hi : i = slot
    · subst hi
      rwa [Function.update_self, length_clear]
    · rwa [Function.update_of_ne hi]
  · exact this

theorem BranchState.Wf.collect {ram : GuestRam} {st : BranchState} (hwf : st.Wf ram)
    (slot : Nat) (s : Slot) : (st.collect ram slot s).Wf ram := by
  refine ⟨fun i t ht => ?_, fun i t ht => ?_, hwf.pending⟩
  · have := hwf.kvmLog i t ht
    by_cases hi : i = slot
    · subst hi
      simpa [BranchState.collect, length_clear] using this
    · simpa [BranchState.collect, Function.update_of_ne hi] using this
  · have := hwf.bitmap i t ht
    by_cases hi : i = slot
    · subst hi
      simpa [BranchState.collect, length_clear] using this
    · simpa [BranchState.collect, Function.update_of_ne hi] using this

theorem branchInv_progress {ram : GuestRam} {v : BranchPhase} {o : Op} {n : Nat} {st st' : BranchState}
    (hinv : BranchInv ram v st) (hpre : branchPre o v)
    (h : branchOp ram o (.progress n) st = some st') : BranchInv ram v st' := by
  obtain ⟨hwf, hph⟩ := hinv
  cases o <;> simp only [branchOp, reduceCtorEq] at h
  case writeBranchImage =>
    split_ifs at h with hle
    cases h
    refine ⟨⟨hwf.kvmLog, hwf.bitmap, hwf.pending⟩, ?_⟩
    rcases hpre with rfl | rfl
    · exact ⟨hph.1, hph.2.1, hph.2.2.copy⟩
    · trivial
  case recopyBranchPages =>
    have hst : st'.Wf ram ∧ (AtBarrier st → AtBarrier st') ∧ st'.file.len = st.file.len := by
      unfold BranchState.recopy at h
      split at h
      · cases h
      · cases h
        exact ⟨⟨hwf.kvmLog, hwf.bitmap, hwf.pending⟩, fun ha => ⟨ha.held, ha.pending, ha.ram⟩, rfl⟩
    refine ⟨hst.1, ?_⟩
    rcases hpre with ⟨j, rfl⟩ | rfl
    · exact ⟨hst.2.1 hph.1, hst.2.2.trans hph.2.1, hph.2.2.recopy h⟩
    · trivial

/-- Reaching the barrier after the live copy: every mark has arrived. -/
theorem branchInv_parked {ram : GuestRam} {v : BranchPhase} {st : BranchState} {devices : Bool}
    (hinv : BranchInv ram v st) (hpend : st.pending = []) (n : Nat) :
    BranchInv ram (branchNext n (.waitUntilParked devices) true v)
      { st with held := true, barrierRam := st.mem } := by
  obtain ⟨hwf, hph⟩ := hinv
  refine ⟨⟨hwf.kvmLog, hwf.bitmap, hwf.pending⟩, ?_⟩
  cases v with
  | idle => exact ⟨rfl, fun i hi => absurd hi (Nat.not_lt_zero i)⟩
  | copied => exact ⟨⟨rfl, hpend, rfl⟩, hph.2.1, hph.2.2⟩
  | arming j | tracking | copying | final | collecting j | coherent => trivial

theorem branchInv_setLogging {ram : GuestRam} {v : BranchPhase} {st : BranchState} (enable : Bool)
    (slot : Nat) (hinv : BranchInv ram v st) (n : Nat) :
    BranchInv ram (branchNext n (.setDirtyLogging enable slot) true v)
      (st.setLogging enable slot) := by
  obtain ⟨hwf, hph⟩ := hinv
  refine ⟨hwf.setLogging enable slot, ?_⟩
  cases v with
  | arming j =>
    cases enable with
    | false => trivial
    | true =>
      have hon : ∀ i, (st.setLogging true slot).logging i = true ↔
          i = slot ∨ st.logging i = true := by
        intro i
        by_cases hi : i = slot <;> simp [BranchState.setLogging, hi]
      show BranchPhaseInv ram _ (if slot = j then .arming (j + 1) else .arming j)
      split_ifs with hj
      · refine ⟨hph.1, fun i hi => (hon i).mpr ?_⟩
        rcases Nat.lt_or_eq_of_le (Nat.le_of_lt_succ hi) with hlt | rfl
        · exact Or.inr (hph.2 i hlt)
        · exact Or.inl hj.symm
      · exact ⟨hph.1, fun i hi => (hon i).mpr (Or.inr (hph.2 i hi))⟩
  | coherent => cases enable <;> exact hph
  | idle | tracking | copying | copied | final | collecting j => cases enable <;> trivial

theorem branchInv_clearRequested {ram : GuestRam} {v : BranchPhase} {st : BranchState}
    (hinv : BranchInv ram v st) : BranchInv ram (branchNext ram.slots.length .clearRequested true v)
      { st with held := false } := by
  obtain ⟨hwf, hph⟩ := hinv
  refine ⟨⟨hwf.kvmLog, hwf.bitmap, hwf.pending⟩, ?_⟩
  cases v with
  | arming j =>
    show BranchPhaseInv ram _ (if ram.slots.length ≤ j then .tracking else .idle)
    split_ifs with hj
    · intro i s hs
      exact hph.2 i (Nat.lt_of_lt_of_le (List.getElem?_eq_some_iff.mp hs).1 hj)
    · trivial
  | final | collecting j | idle => trivial
  | tracking | copying | copied | coherent => exact hph

theorem branchInv_newPages {ram : GuestRam} {v : BranchPhase} {st : BranchState}
    (hinv : BranchInv ram v st) (n : Nat) :
    BranchInv ram (branchNext n .newPages true v) { st with pages := [] } := by
  obtain ⟨hwf, hph⟩ := hinv
  refine ⟨⟨hwf.kvmLog, hwf.bitmap, hwf.pending⟩, ?_⟩
  cases v with
  | final =>
    refine ⟨⟨hph.1.held, hph.1.pending, hph.1.ram⟩, hph.2.1, ?_, ?_⟩
    · intro i s o hs ho
      rcases hph.2.2 i s o hs ho (fileBase_add_lt_total hs ho) with h | h | h | ⟨m, hm, -⟩
      · exact Or.inl h
      · exact Or.inr (Or.inl ⟨Nat.zero_le i, Or.inl h⟩)
      · exact Or.inr (Or.inl ⟨Nat.zero_le i, Or.inr h⟩)
      · rw [hph.1.pending] at hm
        exact absurd hm List.not_mem_nil
    · exact fun d hd => absurd hd List.not_mem_nil
  | collecting j | idle => trivial
  | arming j | tracking | copying | copied | coherent => exact hph

theorem branchInv_collect {ram : GuestRam} {v : BranchPhase} {st : BranchState} {slot : Nat} {s : Slot}
    (hs : ram.slots[slot]? = some s) (hinv : BranchInv ram v st) (n : Nat) :
    BranchInv ram (branchNext n (.getDirtyLog slot) true v) (st.collect ram slot s) := by
  obtain ⟨hwf, hph⟩ := hinv
  refine ⟨hwf.collect slot s, ?_⟩
  cases v with
  | collecting j =>
    show BranchPhaseInv ram _ (if slot = j then .collecting (j + 1) else .idle)
    split_ifs with hj
    · subst hj
      exact ⟨⟨hph.1.held, hph.1.pending, hph.1.ram⟩, hph.2.1, hph.2.2.collect hs⟩
    · trivial
  | arming j | coherent => exact hph
  | idle | tracking | copying | copied | final => trivial

theorem branchInv_op {ram : GuestRam} {v : BranchPhase} {o : Op} {b : Bool} {st st' : BranchState}
    (hinv : BranchInv ram v st) (h : branchOp ram o (if b then .ok else .err) st = some st') :
    BranchInv ram (branchNext ram.slots.length o b v) st' := by
  cases b with
  | false =>
    -- only a fallible operation fails, and then nothing has happened
    simp only [Bool.false_eq_true, if_false, branchOp] at h
    split_ifs at h with hf
    cases h
    have hnext : branchNext ram.slots.length o false v = v := by
      simp [branchNext, hf]
    rwa [hnext]
  | true =>
    simp only [if_true] at h
    cases o <;> simp only [branchOp] at h
    case waitUntilParked devices =>
      split_ifs at h with hpend
      cases h
      exact branchInv_parked hinv hpend _
    case clearRequested =>
      cases h
      exact branchInv_clearRequested hinv
    case setDirtyLogging enable slot =>
      cases h
      exact branchInv_setLogging enable slot hinv _
    case newPages =>
      cases h
      exact branchInv_newPages hinv _
    case getDirtyLog slot =>
      split at h
      next => cases h
      next s hs =>
        split_ifs at h
        cases h
        exact branchInv_collect hs hinv _
    case openImage =>
      cases h
      obtain ⟨hwf, hph⟩ := hinv
      refine ⟨⟨hwf.kvmLog, hwf.bitmap, hwf.pending⟩, ?_⟩
      cases v with
      | tracking => exact ⟨hph, rfl, fun i s o _ _ hlt => absurd hlt (Nat.not_lt_zero _)⟩
      | _ => trivial
    case writeBranchImage =>
      split_ifs at h with htotal
      cases h
      obtain ⟨hwf, hph⟩ := hinv
      refine ⟨hwf, ?_⟩
      cases v with
      | copying =>
        exact ⟨hph.1, hph.2.1, htotal ▸ hph.2.2⟩
      | _ => exact hph
    case recopyBranchPages =>
      split_ifs at h with hpages
      cases h
      obtain ⟨hwf, hph⟩ := hinv
      refine ⟨hwf, ?_⟩
      cases v with
      | collecting j =>
        show BranchPhaseInv ram _ (if ram.slots.length ≤ j then .coherent else .idle)
        split_ifs with hj
        · refine ⟨hph.2.1, fun i s o hs ho => ?_⟩
          have hi : i < ram.slots.length := (List.getElem?_eq_some_iff.mp hs).1
          rw [hph.1.ram]
          -- no slot is left to collect and no page to copy
          rcases hph.2.2.bytes i s o hs ho with heq | ⟨hji, -⟩ | hlist
          · exact heq
          · omega
          · rw [hpages] at hlist
            exact absurd hlist List.not_mem_nil
        · trivial
      | _ => exact hph
    all_goals
      cases h
      exact hinv

/-! ## The script -/

open Task

section Script

variable {n : Nat} {m : Shape} {v : BranchPhase} {E : BranchPhase → Prop}

/-- The other operations of the barrier do not move the phase. -/
theorem branch_safe_quiesce {Q : BranchPhase → Unit → Prop} (hE : ∀ v, E v)
    (hQ : Q (branchNext n (.waitUntilParked true) true v) ()) :
    Task.Safe branchPre (branchNext n) Q E v (quiesceAtBarrier m true) := by
  unfold quiesceAtBarrier
  split_ifs with h0
  · exact safe_fail (hE _)
  · refine safe_bind (safe_bind (safe_act trivial (fun b => ?_)))
    refine safe_act trivial (fun b' => ?_)
    have hv : branchNext n (.setRequested true) b' (branchNext n .clearReleased b v) = v := by
      cases b <;> cases b' <;> rfl
    rw [hv]
    refine safe_bind (safe_forEach (fun _ v' => v' = v) _ rfl (fun d ds v' hv' => ?_) ?_)
    · subst hv'
      exact safe_perform trivial rfl (hE _)
    · rintro _ rfl
      refine safe_bind (safe_test trivial (fun parked => ?_))
      cases parked with
      | true => exact safe_pure hQ
      | false =>
        refine safe_bind (safe_bind (safe_act trivial (fun _ => safe_act trivial (fun _ => ?_))))
        exact safe_bind (safe_act trivial (fun _ => safe_fail (hE _)))

theorem branch_safe_release {Q : BranchPhase → Unit → Prop} (hE : ∀ v, E v)
    (hQ : Q (branchNext n .clearRequested true v) ()) :
    Task.Safe branchPre (branchNext n) Q E v releaseBarrier := by
  refine safe_bind (safe_bind (safe_act trivial (fun b => safe_act trivial (fun b' => ?_))))
  have hv : branchNext n .setReleased b' (branchNext n .clearRequested b v)
      = branchNext n .clearRequested true v := by
    cases b <;> cases b' <;> rfl
  rw [hv]
  exact safe_perform trivial hQ (hE _)

/-- Switching logging off leaves a finished image alone. -/
theorem branch_safe_disable {Q : BranchPhase → Unit → Prop} (hQ : Q .coherent ()) (hE : E .coherent) :
    Task.Safe branchPre (branchNext n) Q E .coherent (setDirtyLogging m false) :=
  safe_forEach (fun _ v => v = .coherent) _ rfl
    (fun i _ v hv => by subst hv; exact safe_perform trivial rfl hE) (fun v hv => by subst hv; exact hQ)

/-- Arming turns logging on for every slot. -/
theorem branch_safe_arm {Q : BranchPhase → Unit → Prop} (hE : ∀ v, E v)
    (hQ : Q (.arming m.nSlot) ()) :
    Task.Safe branchPre (branchNext n) Q E (.arming 0) (armDirtyLogging m) := by
  refine safe_bind (safe_forEach_range (fun i v => v = .arming i) _ rfl (fun i v _ hv => ?_) ?_)
  · subst hv
    refine safe_perform trivial ?_ (hE _)
    show (if i = i then BranchPhase.arming (i + 1) else .arming i) = .arming (i + 1)
    rw [if_pos rfl]
  · rintro _ rfl
    refine safe_bind (safe_act trivial (fun b => ?_))
    have hv : branchNext n .newPages b (.arming m.nSlot) = .arming m.nSlot := by
      cases b <;> rfl
    rw [hv]
    refine safe_forEach (fun _ v => v = .arming m.nSlot) _ rfl (fun i _ v hv => ?_) ?_
    · subst hv
      exact safe_perform trivial rfl (hE _)
    · rintro _ rfl
      exact hQ

/-- Capturing vCPUs, devices, clock and interrupt controller does not move the phase. -/
theorem branch_safe_capture {Q : BranchPhase → Unit → Prop} (hE : ∀ v, E v) (hQ : Q v ()) :
    Task.Safe branchPre (branchNext n) Q E v (captureVmState m) := by
  have hloop : ∀ (f : Nat → Op) (e : Nat → VmmError) (k : Nat) (Q : BranchPhase → Unit → Prop),
      (∀ i, branchPre (f i) v) → (∀ i, branchNext n (f i) true v = v) → Q v () →
      Task.Safe branchPre (branchNext n) Q E v
        (forEach (List.range k) (fun i => perform (f i) (e i))) := by
    intro f e k Q hpre hnext hQ
    refine safe_forEach (fun _ v' => v' = v) _ rfl (fun i _ v' hv' => ?_) (fun v' hv' => hv' ▸ hQ)
    subst hv'
    exact safe_perform (hpre i) (hnext i) (hE _)
  refine safe_bind (hloop .takeVcpu _ _ _ (fun _ => trivial) (fun _ => rfl) ?_)
  refine safe_bind (hloop .takeDevice _ _ _ (fun _ => trivial) (fun _ => rfl) ?_)
  exact safe_bind (safe_perform trivial (safe_perform trivial hQ (hE _)) (hE _))

/-- What is captured and copied again at the final barrier. -/
theorem branch_safe_recopy {Q : BranchPhase → Unit → Prop} (hn : n = m.nSlot) (hE : ∀ v, E v)
    (hQ : Q .coherent ()) : Task.Safe branchPre (branchNext n) Q E .final
      (do captureVmState m; collectDirtyPages m; recopyBranchPages) := by
  refine safe_bind (branch_safe_capture hE ?_)
  refine safe_bind (safe_bind (safe_act trivial (fun b => ?_)))
  have hv : branchNext n .newPages b .final = .collecting 0 := by
    cases b <;> rfl
  rw [hv]
  refine safe_forEach_range (fun i v => v = .collecting i) _ rfl (fun i v _ hv => ?_) ?_
  · subst hv
    refine safe_perform trivial ?_ (hE _)
    show (if i = i then BranchPhase.collecting (i + 1) else .idle) = .collecting (i + 1)
    rw [if_pos rfl]
  · rintro _ rfl
    refine safe_bind (safe_perform trivial ?_ (hE _))
    refine safe_perform (Or.inl ⟨m.nSlot, rfl⟩) ?_ (hE _)
    have hdone : branchNext n .recopyBranchPages true (.collecting m.nSlot) = .coherent :=
      if_pos hn.le
    show Q (branchNext n .recopyBranchPages true (.collecting m.nSlot)) ()
    rw [hdone]
    exact hQ

/-- Giving up is safe from anywhere. -/
theorem branch_safe_abandon {Q : BranchPhase → Unit → Prop} (hE : ∀ v, E v) (e : VmmError) :
    Task.Safe branchPre (branchNext n) Q E v (abandonBranch m e) := by
  have hrest : ∀ v : BranchPhase, Task.Safe branchPre (branchNext n) Q E v
      (do let _ ← result releaseBarrier; fail e) := fun v =>
    safe_bind (safe_result_cases (branch_safe_release (fun v e' => safe_fail (hE v))
      (safe_fail (hE _))))
  refine safe_bind (safe_result_cases ?_)
  exact safe_forEach (fun _ _ => True) _ trivial
    (fun i _ v _ => safe_perform trivial trivial (fun e' => hrest _)) (fun v _ => hrest v)

theorem branch_safe_finish (hn : n = m.nSlot) :
    Task.Safe branchPre (branchNext n) (fun v _ => v = .coherent) (fun _ => True) .copied
      (finishBranch m) := by
  have hE : ∀ v : BranchPhase, (fun _ : BranchPhase => True) v := fun _ => trivial
  refine safe_bind (branch_safe_quiesce hE ?_)
  refine safe_bind (safe_result_cases (branch_safe_recopy hn (fun v e => ?_) ?_))
  · -- the capture or the second copy failed: the error is returned after the release
    exact branch_safe_abandon hE e
  · have hrest : Task.Safe branchPre (branchNext n) (fun v _ => v = .coherent) (fun _ => True)
        .coherent (do
          let released ← result releaseBarrier
          ofResult released
          perform .cpuidHash kvmError
          writeSnapshotMetadata) := by
      refine safe_bind (safe_result_cases (branch_safe_release (fun v e' => trivial) ?_))
      refine safe_bind (safe_ofResult ?_)
      refine safe_bind (safe_perform trivial ?_ trivial)
      exact safe_bind (safe_perform trivial (safe_perform trivial rfl trivial) trivial)
    exact safe_bind (safe_result_cases (branch_safe_disable hrest (fun _ => hrest)))

/-- **Every successful path of `branch` ends with a coherent image.** -/
theorem branch_safe (hn : n = m.nSlot) :
    Task.Safe branchPre (branchNext n) (fun v _ => v = .coherent) (fun _ => True) .idle
      (branch m) := by
  have hE : ∀ v : BranchPhase, (fun _ : BranchPhase => True) v := fun _ => trivial
  refine safe_bind (safe_perform trivial ?_ trivial)
  refine safe_bind (branch_safe_quiesce hE ?_)
  refine safe_bind (safe_result_cases (branch_safe_arm (fun v e => ?_) ?_))
  · exact branch_safe_abandon hE e
  have harmed : branchNext n .clearRequested true (.arming m.nSlot) = .tracking := if_pos hn.le
  refine safe_bind (branch_safe_release hE ?_)
  rw [harmed]
  refine safe_bind (safe_result_cases ?_)
  refine safe_bind (safe_perform trivial ?_ (fun e => ?_))
  · refine safe_perform (Or.inl rfl) ?_ (fun e => ?_)
    · exact branch_safe_finish hn
    · exact safe_bind (branch_safe_quiesce hE (branch_safe_abandon hE e))
  · exact safe_bind (branch_safe_quiesce hE (branch_safe_abandon hE e))

end Script

/-! ## The image -/

/-- **The image of a branch is coherent.** For all guest RAM, from any state, under every
interleaving of stores, bit updates and the copy: when `branch` has returned `Ok`, the bytes of
`memory.bin` are guest RAM as it was at the final barrier, region after region. -/
theorem branch_image_coherent (ram : GuestRam) (nVcpu nDev : Nat) (start : BranchStart ram)
    (as : List (Action Traffic Unit)) (c : Config BranchState Op (Except VmmError Unit))
    (hrun : run (branchMachine ram nVcpu nDev).step
      ⟨start.state, branch (ram.shape nVcpu nDev)⟩ as = some c) (hok : c.script = .done (.ok ())) :
    c.state.file.contents = image ram.slots c.state.barrierRam := by
  have hsafe := @branch_safe ram.slots.length (ram.shape nVcpu nDev) rfl
  obtain ⟨v, hinv, hpost⟩ := Machine.run_safe (branchMachine ram nVcpu nDev) (fun _ _ => True)
    branchPre (branchNext ram.slots.length) _ (BranchInv ram)
    (fun v c t s hI _ ht => branchInv_traffic hI ht)
    (fun v c o k n s hI _ hpre _ hs => branchInv_progress hI hpre hs)
    (fun v c o k b s hI _ _ _ hs => branchInv_op hI hs)
    (fun v s r _ hI _ => ⟨.idle, ⟨hI.1, trivial⟩, hsafe⟩)
    as ⟨start.state, branch (ram.shape nVcpu nDev)⟩ c ⟨.idle, ⟨start.wf, trivial⟩, hsafe⟩
    (Meets.of_forall (fun _ _ => trivial) as _) hrun
  rw [hok] at hpost
  obtain rfl : v = .coherent := hpost
  obtain ⟨-, hlen, hbytes⟩ := hinv
  unfold File.contents
  rw [hlen]
  exact map_range_eq_image hbytes

/-- Two regions of one page, the second mapped below the first. -/
def twoPages : GuestRam where
  slots := [⟨8192, 4096⟩, ⟨0, 4096⟩]
  aligned := by decide
  disjoint := by decide

def twoPagesStart : BranchStart twoPages where
  state :=
    { mem := fun _ => 1, logging := fun _ => false, kvmLog := fun _ => [0]
      bitmap := fun _ => [0], pending := [], held := false, barrierRam := fun _ => 0
      file := ⟨0, fun _ => 0⟩, copied := 0, pages := [] }
  wf := by
    have hlen : ∀ s ∈ twoPages.slots, s.len ≤ 64 * BRANCH_PAGE_SIZE * 1 := by decide
    exact ⟨fun _ s hs => hlen s (List.mem_of_getElem? hs),
      fun _ s hs => hlen s (List.mem_of_getElem? hs), by simp⟩

/-- The guest writes a byte of the first page after it was copied. -/
def twoPagesRun : List (Action Traffic Unit) :=
  List.replicate 13 (Action.op .ok) ++
  ([.op (.progress 4096), .env (.store true 0 5 7), .env (.mark 0), .op (.progress 4096)] :
    List (Action Traffic Unit)) ++
  List.replicate 11 (Action.op .ok) ++ [Action.op (.progress 0)] ++
  List.replicate 9 (Action.op .ok)

theorem branch_image_twoPages : ∃ c, run (branchMachine twoPages 1 0).step
        ⟨twoPagesStart.state, branch (twoPages.shape 1 0)⟩ twoPagesRun = some c ∧
      c.script = .done (.ok ()) ∧ c.state.file.byte 5 = 7 ∧
      c.state.file.contents = image twoPages.slots c.state.barrierRam :=
  ⟨_, rfl, rfl, rfl, branch_image_coherent twoPages 1 0 twoPagesStart twoPagesRun _ rfl rfl⟩

end MicroMachines.Vmm
