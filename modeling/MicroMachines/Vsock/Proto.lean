import MicroMachines.Lib.Bytes

set_option autoImplicit false

/-! # The vsock packet header and credit

`crates/mm-vmm/src/vsock_proto.rs`: the 44 bytes before each packet, and the accounting of how much
the peer can still take.
-/

namespace MicroMachines.Vsock

open MicroMachines.Lib

/-- The length of `virtio_vsock_hdr`. -/
def VSOCK_HDR_LEN : Nat := 44
def TYPE_STREAM : UInt16 := 1
def HOST_CID : UInt64 := 2

def OP_REQUEST : UInt16 := 1
def OP_RESPONSE : UInt16 := 2
def OP_RST : UInt16 := 3
def OP_SHUTDOWN : UInt16 := 4
def OP_RW : UInt16 := 5
def OP_CREDIT_UPDATE : UInt16 := 6
def OP_CREDIT_REQUEST : UInt16 := 7

structure VsockHeader where
  srcCid : UInt64
  dstCid : UInt64
  srcPort : UInt32
  dstPort : UInt32
  len : UInt32
  type : UInt16
  op : UInt16
  flags : UInt32
  bufAlloc : UInt32
  fwdCnt : UInt32
  deriving DecidableEq, Repr

/-- The `n` bytes at an offset, as a number. -/
def numberAt (b : List UInt8) (offset n : Nat) : Nat := ofLeBytes ((b.drop offset).take n)

namespace VsockHeader

def parse (b : List UInt8) : Option VsockHeader :=
  if b.length < VSOCK_HDR_LEN then none
  else some {
    srcCid := UInt64.ofNat (numberAt b 0 8)
    dstCid := UInt64.ofNat (numberAt b 8 8)
    srcPort := UInt32.ofNat (numberAt b 16 4)
    dstPort := UInt32.ofNat (numberAt b 20 4)
    len := UInt32.ofNat (numberAt b 24 4)
    type := UInt16.ofNat (numberAt b 28 2)
    op := UInt16.ofNat (numberAt b 30 2)
    flags := UInt32.ofNat (numberAt b 32 4)
    bufAlloc := UInt32.ofNat (numberAt b 36 4)
    fwdCnt := UInt32.ofNat (numberAt b 40 4) }

def toBytes (h : VsockHeader) : List UInt8 :=
  leBytes 8 h.srcCid.toNat ++ leBytes 8 h.dstCid.toNat ++ leBytes 4 h.srcPort.toNat ++
    leBytes 4 h.dstPort.toNat ++ leBytes 4 h.len.toNat ++ leBytes 2 h.type.toNat ++
    leBytes 2 h.op.toNat ++ leBytes 4 h.flags.toNat ++ leBytes 4 h.bufAlloc.toNat ++
    leBytes 4 h.fwdCnt.toNat

@[simp] theorem toBytes_length (h : VsockHeader) : h.toBytes.length = VSOCK_HDR_LEN := by
  simp [toBytes, VSOCK_HDR_LEN]

theorem ofLeBytes_uint16 (v : UInt16) : UInt16.ofNat (ofLeBytes (leBytes 2 v.toNat)) = v := by
  rw [ofLeBytes_leBytes, Nat.mod_eq_of_lt (show v.toNat < 256 ^ 2 from v.toNat_lt)]
  exact UInt16.ofNat_toNat

theorem ofLeBytes_uint32 (v : UInt32) : UInt32.ofNat (ofLeBytes (leBytes 4 v.toNat)) = v := by
  rw [ofLeBytes_leBytes, Nat.mod_eq_of_lt (show v.toNat < 256 ^ 4 from v.toNat_lt)]
  exact UInt32.ofNat_toNat

theorem ofLeBytes_uint64 (v : UInt64) : UInt64.ofNat (ofLeBytes (leBytes 8 v.toNat)) = v := by
  rw [ofLeBytes_leBytes, Nat.mod_eq_of_lt (show v.toNat < 256 ^ 8 from v.toNat_lt)]
  exact UInt64.ofNat_toNat

/-- The field at the front. -/
theorem numberAt_here (n v : Nat) (rest : List UInt8) :
    numberAt (leBytes n v ++ rest) 0 n = ofLeBytes (leBytes n v) := by
  rw [numberAt, List.drop_zero, List.take_left' (leBytes_length n v)]

/-- A field further on. -/
theorem numberAt_skip {n offset : Nat} (h : n ≤ offset) (v k : Nat) (rest : List UInt8) :
    numberAt (leBytes n v ++ rest) offset k = numberAt rest (offset - n) k := by
  rw [numberAt, numberAt, List.drop_append, leBytes_length,
    List.drop_eq_nil_of_le (by rw [leBytes_length]; exact h), List.nil_append]

/-- **A packet is read as it was written**, whatever follows the header. -/
theorem parse_toBytes (h : VsockHeader) (payload : List UInt8) :
    parse (h.toBytes ++ payload) = some h := by
  have hlen : ¬ (h.toBytes ++ payload).length < VSOCK_HDR_LEN := by
    rw [List.length_append, toBytes_length]
    omega
  rw [parse, if_neg hlen]
  -- Each slice is the bytes of its field: the offsets are those of the writer.
  simp only [toBytes, List.append_assoc, numberAt_skip, numberAt_here, Nat.reduceLeDiff,
    Nat.reduceSub, ofLeBytes_uint16, ofLeBytes_uint32, ofLeBytes_uint64, Nat.sub_self, le_refl]

end VsockHeader

/-! ## Credit -/

/-- Flow control of one direction of a connection. The counters wrap. -/
structure CreditTracker where
  peerBufAlloc : UInt32
  peerFwdCnt : UInt32
  txCnt : UInt32
  deriving DecidableEq, Repr

namespace CreditTracker

def new : CreditTracker := ⟨0, 0, 0⟩

def updatePeer (c : CreditTracker) (bufAlloc fwdCnt : UInt32) : CreditTracker :=
  { c with peerBufAlloc := bufAlloc, peerFwdCnt := fwdCnt }

def recordSent (c : CreditTracker) (n : UInt32) : CreditTracker := { c with txCnt := c.txCnt + n }

/-- How many more bytes the peer can take: a saturating subtraction of a wrapping one. -/
def available (c : CreditTracker) : Nat := c.peerBufAlloc.toNat - (c.txCnt - c.peerFwdCnt).toNat

/-- The counters of two true numbers less than `2 ^ 32` apart have their distance. -/
theorem toNat_ofNat_sub {sent taken : Nat} (hle : taken ≤ sent) (hlt : sent - taken < 2 ^ 32) :
    (UInt32.ofNat sent - UInt32.ofNat taken).toNat = sent - taken := by
  have hsent : (UInt32.ofNat sent).toNat = sent % 2 ^ 32 := by simp
  have htaken : (UInt32.ofNat taken).toNat = taken % 2 ^ 32 := by simp
  rw [UInt32.toNat_sub, hsent, htaken]
  omega

/-- The tracker of a connection on which so many bytes were sent and so many reported as taken,
however often the counters have wrapped. -/
structure Tracks (c : CreditTracker) (sent taken : Nat) : Prop where
  txCnt : c.txCnt = UInt32.ofNat sent
  peerFwdCnt : c.peerFwdCnt = UInt32.ofNat taken
  le : taken ≤ sent
  lt : sent - taken < 2 ^ 32

namespace Tracks

variable {c : CreditTracker} {sent taken : Nat}

theorem new : Tracks CreditTracker.new 0 0 := ⟨rfl, rfl, Nat.le_refl 0, by decide⟩

theorem available_eq (h : Tracks c sent taken) :
    c.available = c.peerBufAlloc.toNat - (sent - taken) := by
  rw [available, h.txCnt, h.peerFwdCnt, toNat_ofNat_sub h.le h.lt]

theorem updatePeer (h : Tracks c sent taken) {n : Nat} (hlo : taken ≤ n) (hhi : n ≤ sent)
    (bufAlloc : UInt32) : Tracks (c.updatePeer bufAlloc (UInt32.ofNat n)) sent n where
  txCnt := h.txCnt
  peerFwdCnt := rfl
  le := hhi
  lt := by
    have := h.lt
    omega

/-- Within the credit, the true difference stays below the size of the buffer. -/
theorem recordSent (h : Tracks c sent taken) {n : Nat} (hpos : 0 < n) (hn : n ≤ c.available) :
    Tracks (c.recordSent (UInt32.ofNat n)) (sent + n) taken ∧
      sent + n ≤ taken + c.peerBufAlloc.toNat := by
  have hle := h.le
  rw [h.available_eq] at hn
  have hbound : sent + n ≤ taken + c.peerBufAlloc.toNat := by omega
  have hbuf : c.peerBufAlloc.toNat < 2 ^ 32 := c.peerBufAlloc.toNat_lt
  refine ⟨⟨?_, h.peerFwdCnt, ?_, ?_⟩, hbound⟩
  · show c.txCnt + UInt32.ofNat n = UInt32.ofNat (sent + n)
    rw [h.txCnt, UInt32.ofNat_add]
  · omega
  · omega

end Tracks

end CreditTracker

end MicroMachines.Vsock
