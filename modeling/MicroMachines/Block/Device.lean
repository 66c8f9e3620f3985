import MicroMachines.Lib.Bytes
import MicroMachines.Lib.Patches
import MicroMachines.Vmm.MemoryImage

set_option autoImplicit false

/-! # The block device

`crates/mm-vmm/src/devices/block.rs`: the request queue of a disk that is a file on the host. A
request is a chain of descriptors: a header, any number of data buffers, and a byte for the status.

The chains are what the guest has published when the queue is drained, in order; the guest goes on
running, so that memory may have changed whenever a chain is popped (`Chain.guest`). The host may
fail at any point of a request (`Host`). Arithmetic is that of the release build: it wraps.

Left out: the rings themselves (popping gives the chains in order, adding a used entry succeeds),
and the rate limiter, which only waits.
-/

namespace MicroMachines.Vmm.GuestMemory

/-- The address is in guest RAM. -/
def backed (m : GuestMemory) (addr : Nat) : Bool :=
  m.layout.any (fun r => decide (r.Contains addr))

/-- An access that goes through: it begins in guest RAM and stays there. -/
def Accessible (m : GuestMemory) (addr n : Nat) : Prop :=
  m.backed addr = true ∧ ∀ i < n, m.backed (addr + i) = true

instance (m : GuestMemory) (addr n : Nat) : Decidable (m.Accessible addr n) :=
  inferInstanceAs (Decidable (_ ∧ _))

/-- `read_slice`. -/
def fetch (m : GuestMemory) (addr n : Nat) : Option (List UInt8) :=
  if m.Accessible addr n then some (m.slice addr n) else none

/-- How many of `n` bytes come before the first one that is not in guest RAM. -/
def reach (m : GuestMemory) (addr n : Nat) : Nat :=
  ((List.range n).takeWhile (fun i => m.backed (addr + i))).length

/-- `write_slice`: a write that leaves guest RAM fails after the bytes before. -/
def store (m : GuestMemory) (addr : Nat) (data : List UInt8) : GuestMemory × Bool :=
  if m.Accessible addr data.length then (m.poke addr data, true)
  else (m.poke addr (data.take (m.reach addr data.length)), false)

end MicroMachines.Vmm.GuestMemory

namespace MicroMachines.Block

open MicroMachines.Lib
open MicroMachines.Vmm (VmmError GuestMemory Region osError)

def SECTOR_SIZE : UInt64 := 512
def VIRTIO_BLK_HDR_LEN : Nat := 16
def VIRTIO_BLK_T_IN : UInt32 := 0
def VIRTIO_BLK_T_OUT : UInt32 := 1
def VIRTIO_BLK_T_FLUSH : UInt32 := 4
def VIRTIO_BLK_S_OK : UInt8 := 0
def VIRTIO_BLK_S_IOERR : UInt8 := 1
def VIRTIO_BLK_S_UNSUPP : UInt8 := 2

/-! ## The file -/

/-- The longest file: offsets are signed. -/
def MAX_FILE : Nat := 2 ^ 63 - 1

/-- The backing file. -/
structure Image where
  bytes : List UInt8
  le_max : bytes.length ≤ MAX_FILE

namespace Image

def length (f : Image) : Nat := f.bytes.length

/-- `read_exact_at`, of which the host lets at most `limit` bytes through: the bytes that were read,
and the buffer if it was filled. -/
def readExactAt (f : Image) (offset n limit : Nat) : Nat × Option (List UInt8) :=
  let got := min (min n limit) (f.length - offset)
  (got, if got = n then some ((f.bytes.drop offset).take n) else none)

theorem length_writeAllAt (file src : List UInt8) (offset : Nat) :
    (Vmm.writeAllAt file src offset).length = max file.length (offset + src.length) := by
  simp only [Vmm.writeAllAt, List.length_append, List.length_take, List.length_replicate,
    List.length_drop]
  omega

/-- `write_all_at`, of which the host lets at most `limit` bytes through: the file afterwards, and
the bytes that were written. Nothing is written beyond the longest file. -/
def writeAllAt (f : Image) (offset : Nat) (buf : List UInt8) (limit : Nat) : Image × Nat :=
  let got := min (min buf.length limit) (MAX_FILE - offset)
  (if h : got = 0 then f
    else ⟨Vmm.writeAllAt f.bytes (buf.take got) offset, by
      have := f.le_max
      rw [length_writeAllAt, List.length_take]
      omega⟩, got)

end Image

/-- What the host does to the file operations of a request: the operation for one of the data
descriptors may stop after some bytes, and syncing may fail. The request ends at the first failure,
so there is no need for more than one. -/
structure Host where
  fault : Option (Nat × Nat)
  sync : Bool
  deriving DecidableEq, Repr

/-- A host on which nothing fails. -/
def Host.sound : Host := ⟨none, true⟩

/-- How many of `n` bytes the host lets through for a data descriptor. -/
def Host.limit (h : Host) (index n : Nat) : Nat :=
  match h.fault with
  | some (i, k) => if i = index then k else n
  | none => n

/-! ## Requests -/

structure Desc where
  addr : UInt64
  len : UInt32
  writeOnly : Bool
  deriving DecidableEq, Repr

/-- What a function has done: guest memory and the file afterwards, the ranges of the file that it
has read or written (offset and length), and its result. -/
structure Done (α : Type) where
  mem : GuestMemory
  file : Image
  touched : List (Nat × Nat)
  result : Except VmmError α

/-- The loop of `read_request` from one of the data descriptors on. -/
def readRequest (file : Image) (host : Host) :
    List Desc → Nat → UInt64 → UInt32 → GuestMemory → Done UInt32
  | [], _, _, total, m => ⟨m, file, [], .ok total⟩
  | d :: ds, i, offset, total, m =>
    if d.writeOnly = false then
      ⟨m, file, [], .error (.device "block: read request with read-only data descriptor")⟩
    else
      let read := file.readExactAt offset.toNat d.len.toNat (host.limit i d.len.toNat)
      match read.2 with
      | none => ⟨m, file, [(offset.toNat, read.1)], .error osError⟩
      | some buf =>
        match m.store d.addr.toNat buf with
        | (m, false) =>
          ⟨m, file, [(offset.toNat, read.1)],
            .error (.device "block: data write: invalid guest address")⟩
        | (m, true) =>
          let rest :=
            readRequest file host ds (i + 1) (offset + d.len.toUInt64) (total + d.len) m
          { rest with touched := (offset.toNat, read.1) :: rest.touched }

/-- The loop of `write_request` from one of the data descriptors on. -/
def writeRequest (m : GuestMemory) (host : Host) :
    List Desc → Nat → UInt64 → Image → Done Unit
  | [], _, _, file => ⟨m, file, [], .ok ()⟩
  | d :: ds, i, offset, file =>
    match m.fetch d.addr.toNat d.len.toNat with
    | none => ⟨m, file, [], .error (.device "block: data read: invalid guest address")⟩
    | some buf =>
      let write := file.writeAllAt offset.toNat buf (host.limit i d.len.toNat)
      if write.2 = buf.length then
        let rest := writeRequest m host ds (i + 1) (offset + d.len.toUInt64) write.1
        { rest with touched := (offset.toNat, write.2) :: rest.touched }
      else ⟨m, write.1, [(offset.toNat, write.2)], .error osError⟩

/-- A request that was serviced, as far as it got: with the status for the guest, if it came to
one. -/
structure Serviced where
  mem : GuestMemory
  file : Image
  touched : List (Nat × Nat)
  status : Option UInt8
  result : Except VmmError UInt32

/-- The type and the sector in a header. -/
def reqType (header : List UInt8) : UInt32 := UInt32.ofNat (ofLeBytes (header.take 4))
def reqSector (header : List UInt8) : UInt64 := UInt64.ofNat (ofLeBytes ((header.drop 8).take 8))

/-- What is done for a request with this header: the status, and the bytes written to the guest. -/
def perform (m : GuestMemory) (file : Image) (readOnly : Bool) (host : Host)
    (header : List UInt8) (data : List Desc) : Done (UInt8 × UInt32) :=
  let offset := reqSector header * SECTOR_SIZE
  if reqType header = VIRTIO_BLK_T_IN then
    let d := readRequest file host data 0 offset 0 m
    ⟨d.mem, d.file, d.touched, d.result.map (fun n => (VIRTIO_BLK_S_OK, n))⟩
  else if reqType header = VIRTIO_BLK_T_OUT then
    if readOnly then ⟨m, file, [], .ok (VIRTIO_BLK_S_IOERR, 0)⟩
    else
      let d := writeRequest m host data 0 offset file
      ⟨d.mem, d.file, d.touched, d.result.map (fun _ => (VIRTIO_BLK_S_OK, 0))⟩
  else if reqType header = VIRTIO_BLK_T_FLUSH then
    ⟨m, file, [], if host.sync then .ok (VIRTIO_BLK_S_OK, 0) else .error osError⟩
  else ⟨m, file, [], .ok (VIRTIO_BLK_S_UNSUPP, 0)⟩

/-- The status and the bytes written to the guest. An error of the request is a status. -/
def Done.outcome (d : Done (UInt8 × UInt32)) : UInt8 × UInt32 :=
  match d.result with
  | .ok x => x
  | .error _ => (VIRTIO_BLK_S_IOERR, 0)

/-- The end of `service_request`: the status goes into guest memory, and the used length is that of
the data and the status. -/
def answer (d : Done (UInt8 × UInt32)) (status : Desc) : Serviced :=
  match d.mem.store status.addr.toNat [d.outcome.1] with
  | (m, false) => ⟨m, d.file, d.touched, some d.outcome.1,
      .error (.device "block: status write: invalid guest address")⟩
  | (m, true) => ⟨m, d.file, d.touched, some d.outcome.1, .ok (d.outcome.2 + 1)⟩

/-- One request; the last descriptor is for the status, those between it and the header for data. -/
def serviceRequest (m : GuestMemory) (file : Image) (readOnly : Bool) (host : Host)
    (descs : List Desc) : Serviced :=
  match descs with
  | [] | [_] => ⟨m, file, [], none, .error (.device "block: request chain too short")⟩
  | headerDesc :: d :: ds =>
    let statusDesc := (d :: ds).getLast (List.cons_ne_nil d ds)
    let data := (d :: ds).dropLast
    if headerDesc.len.toNat < VIRTIO_BLK_HDR_LEN then
      ⟨m, file, [], none, .error (.device "block: short request header")⟩
    else
      match m.fetch headerDesc.addr.toNat VIRTIO_BLK_HDR_LEN with
      | none => ⟨m, file, [], none, .error (.device "block: header read: invalid guest address")⟩
      | some header =>
        answer (perform m file readOnly host header data) statusDesc

/-! ## The queue -/

/-- A chain that the guest has published, with what it does to memory before the chain is popped and
what the host does while it is serviced. -/
structure Chain where
  head : UInt16
  descs : List Desc
  guest : (Nat → UInt8) → Nat → UInt8
  host : Host

/-- A used entry, with guest memory as it is when the entry is added. -/
structure Used where
  head : UInt16
  len : UInt32
  mem : GuestMemory

structure State where
  mem : GuestMemory
  file : Image
  /-- The entries added so far. -/
  used : List Used

/-- The state when a chain is popped. -/
def State.popped (s : State) (c : Chain) : State :=
  { s with mem := { s.mem with byte := c.guest s.mem.byte } }

/-- A turn of the loop of `process_queue`. -/
def serve (readOnly : Bool) (s : State) (c : Chain) : State × Except VmmError Unit :=
  let done := serviceRequest (s.popped c).mem s.file readOnly c.host c.descs
  match done.result with
  | .error e => (⟨done.mem, done.file, s.used⟩, .error e)
  | .ok len => (⟨done.mem, done.file, s.used ++ [⟨c.head, len, done.mem⟩]⟩, .ok ())

/-- What a call of `process_queue` does: the state afterwards, the chains that it has not popped,
whether it has raised the interrupt, and its result. -/
structure Drained where
  state : State
  left : List Chain
  interrupt : Bool
  result : Except VmmError Unit

/-- The loop of `process_queue`; `signalled` is set once there is an entry. -/
def drain (readOnly : Bool) : State → Bool → List Chain → Drained
  | s, signalled, [] => ⟨s, [], signalled, .ok ()⟩
  | s, _, c :: cs =>
    match serve readOnly s c with
    | (s, .error e) => ⟨s, cs, false, .error e⟩
    | (s, .ok ()) => drain readOnly s true cs

def processQueue (readOnly : Bool) (s : State) (chains : List Chain) : Drained :=
  drain readOnly s false chains

end MicroMachines.Block
