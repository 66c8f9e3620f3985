import MicroMachines.Block.Completion

set_option autoImplicit false

/-! # The block device as a disk

What the device is for: a disk, that is, a row of bytes that can be read and overwritten in ranges.
The guest's buffers are scattered over its memory in any number of pieces; a request means the
bytes in them, one after the other.

* `disk_refined`: every well-formed request does to the file what it means, and reads give what was
  written last; a read-only device never changes its file and refuses to write.
-/

namespace MicroMachines.Vmm.GuestMemory

variable {m m' : GuestMemory} {addr n : Nat}

theorem slice_congr (h : ∀ i < n, m'.byte (addr + i) = m.byte (addr + i)) :
    m'.slice addr n = m.slice addr n := by
  unfold slice
  refine List.map_congr_left (fun i hi => ?_)
  exact h i (List.mem_range.mp hi)

theorem poke_byte_of_outside {data : List UInt8} {a : Nat}
    (h : a < addr ∨ addr + data.length ≤ a) : (m.poke addr data).byte a = m.byte a := by
  show (if _ then _ else _) = _
  rw [if_neg (by omega)]

theorem slice_poke (m : GuestMemory) (addr : Nat) (data : List UInt8) :
    (m.poke addr data).slice addr data.length = data := by
  refine List.ext_getElem? (fun i => ?_)
  by_cases hi : i < data.length
  · have hrange : addr ≤ addr + i ∧ addr + i < addr + data.length := by omega
    have hbyte : (m.poke addr data).byte (addr + i) = data.getD i 0 := by
      show (if _ then _ else _) = _
      rw [if_pos hrange, Nat.add_sub_cancel_left]
    rw [slice_getElem? _ hi, hbyte, List.getD_eq_getElem?_getD, List.getElem?_eq_getElem hi]
    rfl
  · rw [List.getElem?_eq_none (by rw [slice_length]; omega), List.getElem?_eq_none (by omega)]

end MicroMachines.Vmm.GuestMemory

namespace MicroMachines.Block

open MicroMachines.Lib
open MicroMachines.Vmm (VmmError GuestMemory)

/-! ## Buffers in pieces -/

/-- The number of bytes in the buffers. -/
def total (data : List Desc) : Nat := (data.map (fun d => d.len.toNat)).sum

/-- The bytes in the buffers, one after the other. -/
def gather (m : GuestMemory) (data : List Desc) : List UInt8 :=
  data.flatMap (fun d => m.slice d.addr.toNat d.len.toNat)

/-- Bytes into the buffers, one after the other. -/
def scatter (m : GuestMemory) : List Desc → List UInt8 → GuestMemory
  | [], _ => m
  | d :: ds, src =>
    scatter (m.poke d.addr.toNat (src.take d.len.toNat)) ds (src.drop d.len.toNat)

/-- Two ranges without a common address. -/
def Apart (a n b k : Nat) : Prop := n = 0 ∨ k = 0 ∨ a + n ≤ b ∨ b + k ≤ a

instance (a n b k : Nat) : Decidable (Apart a n b k) := inferInstanceAs (Decidable (_ ∨ _ ∨ _ ∨ _))

def Desc.Apart (d e : Desc) : Prop :=
  Block.Apart d.addr.toNat d.len.toNat e.addr.toNat e.len.toNat

instance (d e : Desc) : Decidable (d.Apart e) := inferInstanceAs (Decidable (Block.Apart _ _ _ _))

section Buffers

variable {m : GuestMemory} {data : List Desc} {d : Desc} {ds : List Desc}

theorem total_cons (d : Desc) (ds : List Desc) : total (d :: ds) = d.len.toNat + total ds := rfl

theorem length_gather (m : GuestMemory) (data : List Desc) :
    (gather m data).length = total data := by
  induction data with
  | nil => rfl
  | cons d ds ih =>
    rw [gather, List.flatMap_cons, List.length_append, GuestMemory.slice_length, total_cons, ← ih]
    rfl

/-- Scattering leaves a range that is apart from the buffers alone. -/
theorem scatter_slice {addr n : Nat} (src : List UInt8)
    (h : ∀ d ∈ data, Apart addr n d.addr.toNat d.len.toNat) :
    (scatter m data src).slice addr n = m.slice addr n := by
  induction data generalizing m src with
  | nil => rfl
  | cons d ds ih =>
    have hlen : (src.take d.len.toNat).length ≤ d.len.toNat := List.length_take_le _ _
    rw [scatter, ih _ (fun e he => h e (List.mem_cons_of_mem d he))]
    refine GuestMemory.slice_congr (fun i hi => GuestMemory.poke_byte_of_outside ?_)
    have hd := h d List.mem_cons_self
    unfold Apart at hd
    omega

/-- **What is scattered is gathered again**, if the buffers are apart. -/
theorem gather_scatter {src : List UInt8} (hapart : data.Pairwise Desc.Apart)
    (hlen : src.length = total data) : gather (scatter m data src) data = src := by
  induction data generalizing m src with
  | nil => exact (List.length_eq_zero_iff.mp hlen).symm
  | cons d ds ih =>
    obtain ⟨hd, hds⟩ := List.pairwise_cons.mp hapart
    rw [total_cons] at hlen
    have htake : (src.take d.len.toNat).length = d.len.toNat := List.length_take_of_le (by omega)
    -- The later buffers do not reach the first one.
    have hfirst : (scatter m (d :: ds) src).slice d.addr.toNat d.len.toNat =
        src.take d.len.toNat := by
      rw [scatter, scatter_slice _ hd]
      have hslice := GuestMemory.slice_poke m d.addr.toNat (src.take d.len.toNat)
      rwa [htake] at hslice
    have hrest : gather (scatter m (d :: ds) src) ds = src.drop d.len.toNat :=
      ih hds (by rw [List.length_drop]; omega)
    calc gather (scatter m (d :: ds) src) (d :: ds)
        = (scatter m (d :: ds) src).slice d.addr.toNat d.len.toNat ++
            gather (scatter m (d :: ds) src) ds := List.flatMap_cons
      _ = src.take d.len.toNat ++ src.drop d.len.toNat := by rw [hfirst, hrest]
      _ = src := List.take_append_drop _ _

end Buffers

/-! ## The two loops -/

theorem Host.limit_sound (i n : Nat) : Host.sound.limit i n = n := rfl

theorem toNat_add_len {offset : UInt64} {d : Desc} (h : offset.toNat + d.len.toNat < 2 ^ 64) :
    (offset + d.len.toUInt64).toNat = offset.toNat + d.len.toNat := by
  rw [UInt64.toNat_add, UInt32.toNat_toUInt64, Nat.mod_eq_of_lt h]

section Loops

variable {m : GuestMemory} {file : Image} {data : List Desc}

theorem readExactAt_inside {offset n : Nat} (h : offset + n ≤ file.length) :
    file.readExactAt offset n n = (n, some ((file.bytes.drop offset).take n)) := by
  have hgot : min (min n n) (file.length - offset) = n := by omega
  simp only [Image.readExactAt, hgot, if_true]

/-- Reading inside the file fills the buffers with its bytes. -/
theorem readRequest_inside (i : Nat) {offset : UInt64} {count : UInt32}
    (hwrite : ∀ d ∈ data, d.writeOnly = true)
    (hmem : ∀ d ∈ data, m.Accessible d.addr.toNat d.len.toNat)
    (hfile : offset.toNat + total data ≤ file.length) :
    (readRequest file Host.sound data i offset count m).result =
        .ok (count + UInt32.ofNat (total data)) ∧
      (readRequest file Host.sound data i offset count m).file = file ∧
      (readRequest file Host.sound data i offset count m).mem =
        scatter m data ((file.bytes.drop offset.toNat).take (total data)) := by
  induction data generalizing m i offset count with
  | nil => exact ⟨congrArg Except.ok (UInt32.add_zero count).symm, rfl, rfl⟩
  | cons d ds ih =>
    rw [total_cons] at hfile
    have hmax := file.le_max
    have hoffset : (offset + d.len.toUInt64).toNat = offset.toNat + d.len.toNat := by
      refine toNat_add_len ?_
      unfold Image.length at hfile
      unfold MAX_FILE at hmax
      omega
    have hcount : count + d.len + UInt32.ofNat (total ds) =
        count + UInt32.ofNat (total (d :: ds)) := by
      rw [total_cons, UInt32.ofNat_add, UInt32.ofNat_toNat, UInt32.add_assoc]
    -- The bytes of this buffer, and those of the others.
    generalize hsrc : (file.bytes.drop offset.toNat).take (total (d :: ds)) = src
    have hhere : (file.bytes.drop offset.toNat).take d.len.toNat = src.take d.len.toNat := by
      rw [← hsrc, List.take_take, total_cons, Nat.min_eq_left (Nat.le_add_right _ _)]
    have hthere : (file.bytes.drop (offset.toNat + d.len.toNat)).take (total ds) =
        src.drop d.len.toNat := by
      rw [← hsrc, List.drop_take, List.drop_drop, total_cons, Nat.add_sub_cancel_left]
    have hlen : ((file.bytes.drop offset.toNat).take d.len.toNat).length = d.len.toNat := by
      refine List.length_take_of_le ?_
      rw [List.length_drop]
      unfold Image.length at hfile
      omega
    have hstore : m.store d.addr.toNat ((file.bytes.drop offset.toNat).take d.len.toNat) =
        (m.poke d.addr.toNat ((file.bytes.drop offset.toNat).take d.len.toNat), true) := by
      refine GuestMemory.store_of_accessible ?_
      rw [hlen]
      exact hmem d List.mem_cons_self
    obtain ⟨hres, hf, hm⟩ := @ih
      (m.poke d.addr.toNat ((file.bytes.drop offset.toNat).take d.len.toNat)) (i + 1)
      (offset + d.len.toUInt64) (count + d.len)
      (fun e he => hwrite e (List.mem_cons_of_mem d he))
      (fun e he => hmem e (List.mem_cons_of_mem d he)) (by omega)
    have hunfold : ∃ touched, readRequest file Host.sound (d :: ds) i offset count m =
        { readRequest file Host.sound ds (i + 1) (offset + d.len.toUInt64) (count + d.len)
            (m.poke d.addr.toNat ((file.bytes.drop offset.toNat).take d.len.toNat)) with
          touched := touched } := by
      rw [readRequest, if_neg (by simp [hwrite d List.mem_cons_self]),
        Host.limit_sound, readExactAt_inside (by omega)]
      dsimp only
      rw [hstore]
      exact ⟨_, rfl⟩
    obtain ⟨touched, hunfold⟩ := hunfold
    rw [hunfold]
    refine ⟨hres.trans (congrArg Except.ok hcount), hf, ?_⟩
    dsimp only
    rw [hm, hoffset, hthere, hhere]
    rfl

theorem writeAllAt_inside {offset : Nat} {buf : List UInt8}
    (h : offset + buf.length ≤ file.length) :
    (file.writeAllAt offset buf buf.length).2 = buf.length ∧
      (file.writeAllAt offset buf buf.length).1.bytes = patch file.bytes offset buf := by
  have hmax := file.le_max
  unfold Image.length at h
  have hgot : min (min buf.length buf.length) (MAX_FILE - offset) = buf.length := by omega
  unfold Image.writeAllAt
  refine ⟨hgot, ?_⟩
  dsimp only
  split_ifs with hzero
  · rw [hgot] at hzero
    rw [List.length_eq_zero_iff.mp hzero, patch_nil]
  · have hgap : offset - file.bytes.length = 0 := by omega
    dsimp only
    rw [hgot, List.take_length, Vmm.writeAllAt, hgap, List.replicate_zero, List.append_nil]
    rfl

/-- Writing inside the file overwrites one range of it. -/
theorem writeRequest_inside (i : Nat) {offset : UInt64}
    (hmem : ∀ d ∈ data, m.Accessible d.addr.toNat d.len.toNat)
    (hfile : offset.toNat + total data ≤ file.length) :
    (writeRequest m Host.sound data i offset file).result = .ok () ∧
      (writeRequest m Host.sound data i offset file).file.bytes =
        patch file.bytes offset.toNat (gather m data) := by
  induction data generalizing i offset file with
  | nil => exact ⟨rfl, (patch_nil _ _).symm⟩
  | cons d ds ih =>
    have hlen := GuestMemory.slice_length m d.addr.toNat d.len.toNat
    have hgather := length_gather m (d :: ds)
    rw [total_cons] at hfile
    have hmax := file.le_max
    have hoffset : (offset + d.len.toUInt64).toNat = offset.toNat + d.len.toNat := by
      refine toNat_add_len ?_
      unfold Image.length at hfile
      unfold MAX_FILE at hmax
      omega
    obtain ⟨hgot, hbytes⟩ := @writeAllAt_inside file offset.toNat
      (m.slice d.addr.toNat d.len.toNat) (by rw [hlen]; omega)
    rw [hlen] at hgot hbytes
    have hlength : (file.writeAllAt offset.toNat (m.slice d.addr.toNat d.len.toNat)
        d.len.toNat).1.length = file.length := by
      unfold Image.length at hfile ⊢
      rw [hbytes, length_patch (by rw [hlen]; omega)]
    obtain ⟨hres, hfinal⟩ := @ih
      (file.writeAllAt offset.toNat (m.slice d.addr.toNat d.len.toNat) d.len.toNat).1 (i + 1)
      (offset + d.len.toUInt64) (fun e he => hmem e (List.mem_cons_of_mem d he)) (by omega)
    rw [writeRequest, GuestMemory.fetch_of_accessible (hmem d List.mem_cons_self)]
    dsimp only
    rw [Host.limit_sound, if_pos (by rw [hgot, hlen])]
    refine ⟨hres, ?_⟩
    have hpieces : gather m (d :: ds) = m.slice d.addr.toNat d.len.toNat ++ gather m ds :=
      List.flatMap_cons
    rw [hpieces, total_cons] at hgather
    have happend := @patch_append _ file.bytes (m.slice d.addr.toNat d.len.toNat) (gather m ds)
      offset.toNat (by unfold Image.length at hfile; omega)
    dsimp only
    rw [hfinal, hbytes, hoffset, hpieces, ← happend, hlen]

end Loops

/-! ## Requests -/

/-- A request of the guest: a chain with its parts. -/
structure Request where
  head : UInt16
  header : Desc
  data : List Desc
  status : Desc
  guest : (Nat → UInt8) → Nat → UInt8

def Request.chain (r : Request) (host : Host) : Chain where
  head := r.head
  descs := r.header :: (r.data ++ [r.status])
  guest := r.guest
  host := host

/-- What `service_request` takes a chain apart into. -/
theorem exists_cons_of_concat (data : List Desc) (status : Desc) :
    ∃ d ds, data ++ [status] = d :: ds ∧ (d :: ds).getLast (List.cons_ne_nil d ds) = status ∧
      (d :: ds).dropLast = data := by
  obtain ⟨d, ds, hds⟩ : ∃ d ds, data ++ [status] = d :: ds := by
    cases data with
    | nil => exact ⟨status, [], rfl⟩
    | cons d ds => exact ⟨d, ds ++ [status], rfl⟩
  refine ⟨d, ds, hds, ?_, ?_⟩
  · simp only [← hds, List.getLast_append_singleton]
  · rw [← hds, List.dropLast_concat]

theorem serviceRequest_eq {m : GuestMemory} {file : Image} {readOnly : Bool} {host : Host}
    {header status : Desc} {data : List Desc} (hlen : VIRTIO_BLK_HDR_LEN ≤ header.len.toNat)
    (hheader : m.Accessible header.addr.toNat VIRTIO_BLK_HDR_LEN) :
    serviceRequest m file readOnly host (header :: (data ++ [status])) =
      answer (perform m file readOnly host (m.slice header.addr.toNat VIRTIO_BLK_HDR_LEN) data)
        status := by
  obtain ⟨d, ds, hds, hlast, hdata⟩ := exists_cons_of_concat data status
  rw [hds, serviceRequest, hlast, hdata, if_neg (Nat.not_lt.mpr hlen),
    GuestMemory.fetch_of_accessible hheader]

section Perform

variable {m : GuestMemory} {file : Image} {readOnly : Bool} {host : Host} {header : List UInt8}
  {data : List Desc}

theorem perform_in (h : reqType header = VIRTIO_BLK_T_IN) :
    perform m file readOnly host header data =
      { readRequest file host data 0 (reqSector header * SECTOR_SIZE) 0 m with
        result := (readRequest file host data 0 (reqSector header * SECTOR_SIZE) 0 m).result.map
          (fun n => (VIRTIO_BLK_S_OK, n)) } := if_pos h

theorem perform_out (h : reqType header = VIRTIO_BLK_T_OUT) :
    perform m file false host header data =
      { writeRequest m host data 0 (reqSector header * SECTOR_SIZE) file with
        result := (writeRequest m host data 0 (reqSector header * SECTOR_SIZE) file).result.map
          (fun _ => (VIRTIO_BLK_S_OK, 0)) } := by
  have hin : ¬ reqType header = VIRTIO_BLK_T_IN := by
    rw [h]
    decide
  exact (if_neg hin).trans (if_pos h)

theorem perform_out_readOnly (h : reqType header = VIRTIO_BLK_T_OUT) :
    perform m file true host header data = ⟨m, file, [], .ok (VIRTIO_BLK_S_IOERR, 0)⟩ := by
  have hin : ¬ reqType header = VIRTIO_BLK_T_IN := by
    rw [h]
    decide
  exact (if_neg hin).trans (if_pos h)

theorem perform_flush (h : reqType header = VIRTIO_BLK_T_FLUSH) :
    perform m file readOnly host header data =
      ⟨m, file, [], if host.sync then .ok (VIRTIO_BLK_S_OK, 0) else .error Vmm.osError⟩ := by
  have hin : ¬ reqType header = VIRTIO_BLK_T_IN := by
    rw [h]
    decide
  have hout : ¬ reqType header = VIRTIO_BLK_T_OUT := by
    rw [h]
    decide
  exact (if_neg hin).trans ((if_neg hout).trans (if_pos h))

end Perform

theorem answer_eq {d : Done (UInt8 × UInt32)} {status : Desc}
    (h : d.mem.Accessible status.addr.toNat 1) :
    answer d status = ⟨d.mem.poke status.addr.toNat [d.outcome.1], d.file, d.touched,
      some d.outcome.1, .ok (d.outcome.2 + 1)⟩ := by
  rw [answer, GuestMemory.store_of_accessible h]

theorem poke_byte (m : GuestMemory) (addr : Nat) (b : UInt8) : (m.poke addr [b]).byte addr = b := by
  have h := GuestMemory.slice_poke m addr [b]
  simpa [GuestMemory.slice] using h

namespace Request

variable (s : State) (r : Request)

/-- Guest memory when the request is popped. -/
def mem : GuestMemory := { s.mem with byte := r.guest s.mem.byte }

def headerBytes : List UInt8 := (r.mem s).slice r.header.addr.toNat VIRTIO_BLK_HDR_LEN

def type : UInt32 := reqType (r.headerBytes s)

/-- The offset in the file that the request means. -/
def offset : Nat := SECTOR_SIZE.toNat * (reqSector (r.headerBytes s)).toNat

/-- There are a header and a place for the status. -/
def Framed : Prop :=
  VIRTIO_BLK_HDR_LEN ≤ r.header.len.toNat ∧
    (r.mem s).Accessible r.header.addr.toNat VIRTIO_BLK_HDR_LEN ∧
    (r.mem s).Accessible r.status.addr.toNat 1

/-- A request that follows the rules: all its buffers are in guest RAM, what it is for is inside the
file, and buffers that are written to are apart from each other and from the status. -/
def WellFormed : Prop :=
  r.Framed s ∧ (∀ d ∈ r.data, (r.mem s).Accessible d.addr.toNat d.len.toNat) ∧
    total r.data < 2 ^ 32 - 1 ∧
    (r.type s = VIRTIO_BLK_T_IN ∧ r.offset s + total r.data ≤ s.file.length ∧
        (∀ d ∈ r.data, d.writeOnly = true) ∧ r.data.Pairwise Desc.Apart ∧
        (∀ d ∈ r.data, Apart d.addr.toNat d.len.toNat r.status.addr.toNat 1) ∨
      r.type s = VIRTIO_BLK_T_OUT ∧ r.offset s + total r.data ≤ s.file.length ∨
      r.type s = VIRTIO_BLK_T_FLUSH)

instance : Decidable (r.Framed s) := inferInstanceAs (Decidable (_ ∧ _ ∧ _))
instance : Decidable (r.WellFormed s) :=
  inferInstanceAs (Decidable (_ ∧ _ ∧ _ ∧ (_ ∧ _ ∧ _ ∧ _ ∧ _ ∨ _ ∧ _ ∨ _)))

/-- What an `OUT` request means to write. -/
def write : Option (Write UInt8) :=
  if r.type s = VIRTIO_BLK_T_OUT then some ⟨r.offset s, gather (r.mem s) r.data⟩ else none

/-- One request on a writable device and a sound host. -/
def step : Option State :=
  match serve false s (r.chain Host.sound) with
  | (s', .ok ()) => some s'
  | (_, .error _) => none

/-- The state after a request that was answered with a status, a number of bytes and guest memory
and a file. -/
def answered (m : GuestMemory) (file : Image) (outcome : UInt8 × UInt32) : State :=
  ⟨m.poke r.status.addr.toNat [outcome.1], file,
    s.used ++ [⟨r.head, outcome.2 + 1, m.poke r.status.addr.toNat [outcome.1]⟩]⟩

variable {s r}

theorem serve_eq {readOnly : Bool} {host : Host} (h : r.Framed s) :
    serve readOnly s (r.chain host) =
      (answered s r (perform (r.mem s) s.file readOnly host (r.headerBytes s) r.data).mem
        (perform (r.mem s) s.file readOnly host (r.headerBytes s) r.data).file
        (perform (r.mem s) s.file readOnly host (r.headerBytes s) r.data).outcome, .ok ()) := by
  obtain ⟨hlen, hheader, hstatus⟩ := h
  have hacc : (perform (r.mem s) s.file readOnly host (r.headerBytes s) r.data).mem.Accessible
      r.status.addr.toNat 1 :=
    (GuestMemory.accessible_congr (perform_layout _ _)).mpr hstatus
  have heq : serviceRequest (s.popped (r.chain host)).mem s.file readOnly (r.chain host).host
      (r.chain host).descs = _ := (serviceRequest_eq hlen hheader).trans (answer_eq hacc)
  rw [serve, heq]
  simp only [answered]
  rfl

theorem offset_toNat (h : r.offset s + total r.data ≤ s.file.length) :
    (reqSector (r.headerBytes s) * SECTOR_SIZE).toNat = r.offset s := by
  have hmax := s.file.le_max
  unfold Image.length offset at h
  unfold MAX_FILE at hmax
  rw [UInt64.toNat_mul, Nat.mul_comm, Nat.mod_eq_of_lt (by omega)]
  rfl

/-- What is done for a well-formed request. -/
theorem perform_wellFormed (h : r.WellFormed s) :
    ∃ n : UInt32, (perform (r.mem s) s.file false Host.sound (r.headerBytes s) r.data).outcome =
        (VIRTIO_BLK_S_OK, n) ∧ n.toNat = (if r.type s = VIRTIO_BLK_T_IN then total r.data else 0) ∧
      (perform (r.mem s) s.file false Host.sound (r.headerBytes s) r.data).file.bytes =
        (r.write s).elim s.file.bytes (fun w => patch s.file.bytes w.offset w.data) ∧
      (r.type s = VIRTIO_BLK_T_IN →
        (perform (r.mem s) s.file false Host.sound (r.headerBytes s) r.data).mem =
          scatter (r.mem s) r.data ((s.file.bytes.drop (r.offset s)).take (total r.data))) := by
  obtain ⟨_, hmem, htotal, hkind⟩ := h
  rcases hkind with ⟨htype, hinside, hwrite, _, _⟩ | ⟨htype, hinside⟩ | htype
  · have hoffset := offset_toNat hinside
    rw [← hoffset] at hinside
    obtain ⟨hres, hfile, hscatter⟩ := @readRequest_inside (r.mem s) s.file r.data 0 _ 0
      hwrite hmem hinside
    have hnone : r.write s = none := by
      rw [write, htype]
      rfl
    rw [perform_in htype, hnone, if_pos htype, Done.outcome, hres]
    refine ⟨_, rfl, ?_, congrArg Image.bytes hfile, ?_⟩
    · rw [UInt32.zero_add, UInt32.toNat_ofNat', Nat.mod_eq_of_lt (by omega)]
    · intro _
      dsimp only
      rw [hscatter, hoffset]
  · have hoffset := offset_toNat hinside
    rw [← hoffset] at hinside
    obtain ⟨hres, hfile⟩ := @writeRequest_inside (r.mem s) s.file r.data 0 _ hmem hinside
    have hin : ¬ r.type s = VIRTIO_BLK_T_IN := by
      rw [htype]
      decide
    have hsome : r.write s = some ⟨r.offset s, gather (r.mem s) r.data⟩ := if_pos htype
    rw [perform_out htype, hsome, if_neg hin, Done.outcome, hres]
    refine ⟨0, rfl, rfl, ?_, fun h => absurd h hin⟩
    rw [Option.elim_some, hfile, hoffset]
  · have hin : ¬ r.type s = VIRTIO_BLK_T_IN := by
      rw [htype]
      decide
    have hout : ¬ r.type s = VIRTIO_BLK_T_OUT := by
      rw [htype]
      decide
    have hnone : r.write s = none := if_neg hout
    rw [perform_flush htype, hnone, if_neg hin]
    exact ⟨0, rfl, rfl, rfl, fun h => absurd h hin⟩

/-! ## The disk -/

/-- The file is the disk: it holds what was written last. -/
structure Mirrors (init : List UInt8) (x : State × List (Write UInt8)) : Prop where
  length : x.1.file.length = init.length
  holds : ∀ p, x.1.file.bytes[p]? = lastWritten init x.2 p

/-- The device, with the writes that it was asked for. -/
def diskStep : State × List (Write UInt8) → Request → Option (State × List (Write UInt8)) :=
  observe (fun s r => r.step s) (fun s r ws => ws ++ (r.write s).toList)

/-- What a request has done is what it means: it has one used entry, with the right length, and the
status `OK`; a read has left in its buffers what was written last to each position; a write has
changed its own range and nothing else, and other requests have changed nothing. -/
structure Served (init : List UInt8) (x : State × List (Write UInt8)) (r : Request)
    (s' : State) : Prop where
  used : ∃ len, s'.used = x.1.used ++ [⟨r.head, len, s'.mem⟩] ∧
    len.toNat = (if r.type x.1 = VIRTIO_BLK_T_IN then total r.data else 0) + 1
  status : s'.mem.byte r.status.addr.toNat = VIRTIO_BLK_S_OK
  reads : r.type x.1 = VIRTIO_BLK_T_IN → (gather s'.mem r.data).map some =
    (List.range (total r.data)).map (fun i => lastWritten init x.2 (r.offset x.1 + i))
  file : s'.file.bytes =
    (r.write x.1).elim x.1.file.bytes (fun w => patch x.1.file.bytes w.offset w.data)

/-- Writing the status leaves the buffers alone. -/
theorem gather_answered {m : GuestMemory} {file : Image} {outcome : UInt8 × UInt32}
    (h : ∀ d ∈ r.data, Apart d.addr.toNat d.len.toNat r.status.addr.toNat 1) :
    gather (answered s r m file outcome).mem r.data = gather m r.data := by
  unfold gather
  refine List.flatMap_congr (fun d hd => ?_)
  refine GuestMemory.slice_congr (fun i hi => GuestMemory.poke_byte_of_outside ?_)
  have hapart := h d hd
  unfold Apart at hapart
  rw [List.length_singleton]
  omega

theorem WellFormed.reads (h : r.WellFormed s) (htype : r.type s = VIRTIO_BLK_T_IN) :
    r.offset s + total r.data ≤ s.file.length ∧ (∀ d ∈ r.data, d.writeOnly = true) ∧
      r.data.Pairwise Desc.Apart ∧
      ∀ d ∈ r.data, Apart d.addr.toNat d.len.toNat r.status.addr.toNat 1 := by
  rcases h.2.2.2 with ⟨_, hreads⟩ | ⟨hout, _⟩ | hflush
  · exact hreads
  · rw [htype] at hout
    exact absurd hout (by decide)
  · rw [htype] at hflush
    exact absurd hflush (by decide)

theorem WellFormed.writes (h : r.WellFormed s) {w : Write UInt8} (hw : r.write s = some w) :
    w.offset + w.data.length ≤ s.file.bytes.length := by
  unfold write at hw
  split_ifs at hw with htype
  obtain rfl := Option.some.inj hw
  rw [length_gather]
  rcases h.2.2.2 with ⟨hin, _⟩ | ⟨_, hinside⟩ | hflush
  · rw [htype] at hin
    exact absurd hin (by decide)
  · exact hinside
  · rw [htype] at hflush
    exact absurd hflush (by decide)

theorem Mirrors.serve {init : List UInt8} {x : State × List (Write UInt8)} (h : Mirrors init x)
    (hwf : r.WellFormed x.1) : ∃ s', r.step x.1 = some s' ∧ Served init x r s' ∧
      Mirrors init (s', x.2 ++ (r.write x.1).toList) := by
  obtain ⟨n, houtcome, hn, hfile, hscatter⟩ := perform_wellFormed hwf
  have hserve := @serve_eq x.1 r false Host.sound hwf.1
  rw [houtcome] at hserve
  generalize perform (r.mem x.1) x.1.file false Host.sound (r.headerBytes x.1) r.data = done
    at hserve hfile hscatter
  have hlen : n.toNat + 1 < 2 ^ 32 := by
    have := hwf.2.2.1
    rw [hn]
    split_ifs <;> omega
  have hstep : r.step x.1 =
      some (answered x.1 r done.mem done.file (VIRTIO_BLK_S_OK, n)) := by rw [step, hserve]
  refine ⟨_, hstep, ⟨⟨n + 1, rfl, ?_⟩, ?_, ?_, hfile⟩, ?_⟩
  · rw [UInt32.toNat_add, UInt32.toNat_one, Nat.mod_eq_of_lt hlen, hn]
  · exact poke_byte _ _ _
  · intro htype
    obtain ⟨hinside, _, hpairwise, hstatus⟩ := hwf.reads htype
    have hlength : ((x.1.file.bytes.drop (r.offset x.1)).take (total r.data)).length =
        total r.data := by
      unfold Image.length at hinside
      refine List.length_take_of_le ?_
      rw [List.length_drop]
      omega
    rw [gather_answered hstatus, hscatter htype, gather_scatter hpairwise hlength,
      map_some_range hinside]
    exact List.map_congr_left (fun i _ => h.holds _)
  · cases hw : r.write x.1 with
    | none =>
      rw [hw] at hfile
      rw [Option.toList_none, List.append_nil]
      refine ⟨(congrArg List.length hfile).trans h.length, fun p => ?_⟩
      exact (congrArg (·[p]?) hfile).trans (h.holds p)
    | some w =>
      rw [hw] at hfile
      have hinside := hwf.writes hw
      refine ⟨?_, fun p => ?_⟩
      · exact (congrArg List.length hfile).trans ((length_patch hinside).trans h.length)
      · exact (congrArg (·[p]?) hfile).trans (getElem?_patch_lastWritten h.holds hinside p)

end Request

/-! ## A read-only device -/

theorem readRequest_file (file : Image) (host : Host) (data : List Desc) (i : Nat) (offset : UInt64)
    (count : UInt32) (m : GuestMemory) :
    (readRequest file host data i offset count m).file = file := by
  induction data generalizing i offset count m with
  | nil => rfl
  | cons d ds ih =>
    rw [readRequest]
    split_ifs
    · rfl
    · dsimp only
      split
      · rfl
      · split
        · rfl
        · exact ih _ _ _ _

theorem perform_readOnly (m : GuestMemory) (file : Image) (host : Host) (header : List UInt8)
    (data : List Desc) : (perform m file true host header data).file = file := by
  unfold perform
  dsimp only
  split
  · exact readRequest_file file host data 0 _ 0 m
  split
  · rw [if_pos rfl]
  split <;> rfl

theorem answer_file (d : Done (UInt8 × UInt32)) (status : Desc) :
    (answer d status).file = d.file := by
  unfold answer
  split <;> rfl

theorem serviceRequest_readOnly (m : GuestMemory) (file : Image) (host : Host)
    (descs : List Desc) : (serviceRequest m file true host descs).file = file := by
  unfold serviceRequest
  match descs with
  | [] | [_] => rfl
  | header :: d :: ds =>
    dsimp only
    split_ifs
    · rfl
    · split
      · rfl
      · rw [answer_file, perform_readOnly]

theorem drain_readOnly (chains : List Chain) (s : State) (signalled : Bool) :
    (drain true s signalled chains).state.file = s.file := by
  induction chains generalizing s signalled with
  | nil => rfl
  | cons c cs ih =>
    have hserve : (serve true s c).1.file = s.file := by
      unfold serve
      dsimp only
      split <;> exact serviceRequest_readOnly _ _ _ _
    rw [drain]
    split
    · next s' e hs =>
        rw [hs] at hserve
        exact hserve
    · next s' hs =>
        rw [hs] at hserve
        exact (ih s' true).trans hserve

/-- **The device is a disk.** On a sound host, a writable device serves every sequence of
well-formed requests, and at any point of such a sequence a well-formed request does what it means
(`Request.Served`), where what was written last is what the requests so far have asked to write, or
the initial image. A read-only device never changes its image, whatever the chains, and answers
every `OUT` request that it can answer with `IOERR`. -/
theorem disk_refined (init : Image) (m : GuestMemory) (rs : List Request)
    (hwf : Meets Request.diskStep (fun x r => r.WellFormed x.1) (⟨m, init, []⟩, []) rs) :
    (∃ x, run Request.diskStep (⟨m, init, []⟩, []) rs = some x ∧
      ∀ r : Request, r.WellFormed x.1 → ∃ s', r.step x.1 = some s' ∧
        Request.Served init.bytes x r s') ∧
    (∀ s chains, (processQueue true s chains).state.file = s.file) ∧
    ∀ s (r : Request) host, r.Framed s → r.type s = VIRTIO_BLK_T_OUT →
      ∃ s', serve true s (r.chain host) = (s', .ok ()) ∧
        s'.mem.byte r.status.addr.toNat = VIRTIO_BLK_S_IOERR := by
  refine ⟨?_, fun s chains => drain_readOnly chains s false, ?_⟩
  · have hstart : Request.Mirrors init.bytes (⟨m, init, []⟩, []) := ⟨rfl, fun _ => rfl⟩
    obtain ⟨x, hrun, hx⟩ := run_total (Request.Mirrors init.bytes) (fun x r h hwf => by
      obtain ⟨s', hstep, _, hmirrors⟩ := h.serve hwf
      refine ⟨_, ?_, hmirrors⟩
      rw [Request.diskStep, observe, hstep]
      rfl) rs _ hstart hwf
    refine ⟨x, hrun, fun r hr => ?_⟩
    obtain ⟨s', hstep, hserved, _⟩ := hx.serve hr
    exact ⟨s', hstep, hserved⟩
  · intro s r host hframed htype
    have hin : ¬ r.type s = VIRTIO_BLK_T_IN := by
      rw [htype]
      decide
    have hperform : perform (r.mem s) s.file true host (r.headerBytes s) r.data =
        ⟨r.mem s, s.file, [], .ok (VIRTIO_BLK_S_IOERR, 0)⟩ :=
      (if_neg hin).trans (if_pos htype)
    refine ⟨_, Request.serve_eq hframed, ?_⟩
    rw [hperform]
    exact poke_byte _ _ _

/-- A header. -/
def headerOf (type : UInt32) (sector : UInt64) : List UInt8 :=
  leBytes 4 type.toNat ++ leBytes 4 0 ++ leBytes 8 sector.toNat

/-- The guest puts a header at 0x1000 and data at 0x2000. -/
def prepare (header data : List UInt8) (byte : Nat → UInt8) : Nat → UInt8 :=
  (((ram byte).poke 0x1000 header).poke 0x2000 data).byte

/-- A request with its header at 0x1000 and its status at 0x3000. -/
def requestOf (type : UInt32) (sector : UInt64) (data : List Desc) (bytes : List UInt8) :
    Request where
  head := 0
  header := ⟨0x1000, 16, false⟩
  data := data
  status := ⟨0x3000, 1, true⟩
  guest := prepare (headerOf type sector) bytes

/-- Five bytes are written from three buffers, one of them empty, and read into two. -/
theorem disk_refined_pieces :
    ∃ x s', run Request.diskStep (⟨ram (fun _ => 0), blank 2 (by decide), []⟩, [])
        [requestOf VIRTIO_BLK_T_OUT 1
          [⟨0x2000, 2, false⟩, ⟨0x2002, 0, false⟩, ⟨0x2002, 3, false⟩] [1, 2, 3, 4, 5]] = some x ∧
      (requestOf VIRTIO_BLK_T_IN 1 [⟨0x5000, 4, true⟩, ⟨0x4000, 1, true⟩] []).step x.1 = some s' ∧
      gather s'.mem [⟨0x5000, 4, true⟩, ⟨0x4000, 1, true⟩] = [1, 2, 3, 4, 5] ∧
      Request.Served (blank 2 (by decide)).bytes x
        (requestOf VIRTIO_BLK_T_IN 1 [⟨0x5000, 4, true⟩, ⟨0x4000, 1, true⟩] []) s' := by
  obtain ⟨⟨x, hrun, hx⟩, _⟩ := disk_refined (blank 2 (by decide)) (ram (fun _ => 0))
    [requestOf VIRTIO_BLK_T_OUT 1
      [⟨0x2000, 2, false⟩, ⟨0x2002, 0, false⟩, ⟨0x2002, 3, false⟩] [1, 2, 3, 4, 5]]
    (by decide +kernel)
  have hex : (run Request.diskStep (⟨ram (fun _ => 0), blank 2 (by decide), []⟩, [])
      [requestOf VIRTIO_BLK_T_OUT 1
        [⟨0x2000, 2, false⟩, ⟨0x2002, 0, false⟩, ⟨0x2002, 3, false⟩] [1, 2, 3, 4, 5]]).all (fun x =>
          (requestOf VIRTIO_BLK_T_IN 1 [⟨0x5000, 4, true⟩, ⟨0x4000, 1, true⟩] []).WellFormed x.1 ∧
          ((requestOf VIRTIO_BLK_T_IN 1 [⟨0x5000, 4, true⟩, ⟨0x4000, 1, true⟩] []).step x.1).all
            (fun s' => gather s'.mem [⟨0x5000, 4, true⟩, ⟨0x4000, 1, true⟩] = [1, 2, 3, 4, 5]) =
              true) = true := by
    decide +kernel
  rw [hrun] at hex
  obtain ⟨hwf, hall⟩ := of_decide_eq_true hex
  obtain ⟨s', hstep, hserved⟩ := hx _ hwf
  rw [hstep] at hall
  exact ⟨x, s', hrun, hstep, of_decide_eq_true hall, hserved⟩

end MicroMachines.Block
