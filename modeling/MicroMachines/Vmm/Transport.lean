import MicroMachines.Lib.Bytes
import MicroMachines.Lib.Replies
import MicroMachines.Vmm.Orchestrator

set_option autoImplicit false

/-! # The virtio-mmio transport

`crates/mm-vmm/src/devices/mod.rs`: the registers a guest driver programs, the activation that
moves the programmed queues into the device, and the activation from a snapshot; with the part
of the four devices that the transport uses. A guest access gets a `Reply`: the bytes read, or
what a write does outside the transport.

Host calls may fail; which of them fail is chosen by `Host`. The virtqueues are those of the
`virtio-queue` crate: a size or an address that is not valid is not taken over.

* `Transport.reset_likeNew_iff`: when the transport is like a new one after a reset.
* `Transport.reset_then_failed`: a block device that was activated cannot be activated again.
-/

namespace MicroMachines.Vmm

open MicroMachines.Lib

/-! ## Virtqueues -/

/-- A virtqueue, with the fields of `QueueState`. -/
structure Queue where
  maxSize : UInt16
  nextAvail : UInt16 := 0
  nextUsed : UInt16 := 0
  eventIdxEnabled : Bool := false
  size : UInt16
  ready : Bool := false
  descTable : UInt64 := 0
  availRing : UInt64 := 0
  usedRing : UInt64 := 0
  deriving DecidableEq, Repr

inductive QueueError
  | invalidMaxSize
  | invalidSize
  | invalidDescTableAlign
  | invalidAvailRingAlign
  | invalidUsedRingAlign
  deriving DecidableEq, Repr

def QueueError.text : QueueError → String
  | .invalidMaxSize => "InvalidMaxSize"
  | .invalidSize => "InvalidSize"
  | .invalidDescTableAlign => "InvalidDescTableAlign"
  | .invalidAvailRingAlign => "InvalidAvailRingAlign"
  | .invalidUsedRingAlign => "InvalidUsedRingAlign"

namespace Queue

/-- A power of two. -/
def validSize (n : UInt16) : Bool := n != 0 && n &&& (n - 1) == 0

def new (maxSize : UInt16) : Except QueueError Queue :=
  if validSize maxSize && maxSize ≤ 32768 then .ok { maxSize := maxSize, size := maxSize }
  else .error .invalidMaxSize

def trySetSize (q : Queue) (size : UInt16) : Except QueueError Queue :=
  if validSize size && size ≤ q.maxSize then .ok { q with size := size }
  else .error .invalidSize

def trySetDescTable (q : Queue) (addr : UInt64) : Except QueueError Queue :=
  if addr &&& 0xf = 0 then .ok { q with descTable := addr } else .error .invalidDescTableAlign

def trySetAvailRing (q : Queue) (addr : UInt64) : Except QueueError Queue :=
  if addr &&& 0x1 = 0 then .ok { q with availRing := addr } else .error .invalidAvailRingAlign

def trySetUsedRing (q : Queue) (addr : UInt64) : Except QueueError Queue :=
  if addr &&& 0x3 = 0 then .ok { q with usedRing := addr } else .error .invalidUsedRingAlign

/-- A setter of the driver's registers: an error is only logged. -/
def orKeep (q : Queue) (r : Except QueueError Queue) : Queue :=
  match r with
  | .ok q' => q'
  | .error _ => q

/-- An address of which one half is replaced. -/
def joinAddr (old : UInt64) (low high : Option UInt32) : UInt64 :=
  ((high.getD (old >>> 32).toUInt32).toUInt64 <<< 32) ||| (low.getD old.toUInt32).toUInt64

def setSize (q : Queue) (size : UInt16) : Queue := q.orKeep (q.trySetSize size)

def setReady (q : Queue) (ready : Bool) : Queue := { q with ready := ready }

def setDescTableAddress (q : Queue) (low high : Option UInt32) : Queue :=
  q.orKeep (q.trySetDescTable (joinAddr q.descTable low high))

def setAvailRingAddress (q : Queue) (low high : Option UInt32) : Queue :=
  q.orKeep (q.trySetAvailRing (joinAddr q.availRing low high))

def setUsedRingAddress (q : Queue) (low high : Option UInt32) : Queue :=
  q.orKeep (q.trySetUsedRing (joinAddr q.usedRing low high))

/-- `Queue::try_from(QueueState)`: rebuild a queue from a saved cursor. -/
def tryFrom (c : Queue) : Except QueueError Queue := do
  let q ← new c.maxSize
  let q := { q with
    nextAvail := c.nextAvail, nextUsed := c.nextUsed, eventIdxEnabled := c.eventIdxEnabled }
  let q ← q.trySetSize c.size
  let q := q.setReady c.ready
  let q ← q.trySetDescTable c.descTable
  let q ← q.trySetAvailRing c.availRing
  q.trySetUsedRing c.usedRing

end Queue

/-! ## Devices -/

def TYPE_NET : UInt32 := 1
def TYPE_BLOCK : UInt32 := 2
def TYPE_BALLOON : UInt32 := 5
def TYPE_VSOCK : UInt32 := 19
def VIRTIO_F_VERSION_1 : UInt64 := (1 : UInt64) <<< 32
def VIRTIO_BLK_F_RO : UInt64 := (1 : UInt64) <<< 5
def VIRTIO_BLK_F_FLUSH : UInt64 := (1 : UInt64) <<< 9
def VIRTIO_NET_F_MAC : UInt64 := (1 : UInt64) <<< 5
def QUEUE_SIZE : UInt16 := 256

/-- Which host calls of an activation succeed: duplicating the notify eventfds, making a socket
nonblocking, creating an epoll instance, and starting the worker threads (the balloon has two). -/
structure Host where
  cloneEvts : Bool := true
  setNonblocking : Bool := true
  epoll : Bool := true
  spawn : Bool := true
  spawnSecond : Bool := true
  deriving DecidableEq, Repr

/-- `file` says whether the device still holds its file. -/
structure Block where
  capacitySectors : UInt64
  readOnly : Bool
  file : Bool := true
  deriving DecidableEq, Repr

structure Net where
  mac : Vector UInt8 6
  tap : Bool := true
  deriving DecidableEq, Repr

structure Vsock where
  cid : UInt64
  listener : Bool
  deriving DecidableEq, Repr

structure Balloon where
  targetPages : UInt32
  actual : UInt32 := 0
  deriving DecidableEq, Repr

/-- The implementations of `VirtioDevice`. -/
inductive Backend
  | block (b : Block)
  | net (n : Net)
  | vsock (v : Vsock)
  | balloon (b : Balloon)
  deriving DecidableEq, Repr

/-- What an activation leaves: the device without what it moved into its worker, whether a
worker was started, and the result. -/
structure Activation where
  device : Backend
  worker : Bool
  result : Except VmmError Unit

namespace Backend

def deviceType : Backend → UInt32
  | .block _ => TYPE_BLOCK
  | .net _ => TYPE_NET
  | .vsock _ => TYPE_VSOCK
  | .balloon _ => TYPE_BALLOON

def queueMaxSizes : Backend → List UInt16
  | .block _ => [QUEUE_SIZE]
  | .net _ => [QUEUE_SIZE, QUEUE_SIZE]
  | .vsock _ => [QUEUE_SIZE, QUEUE_SIZE, QUEUE_SIZE]
  | .balloon _ => [QUEUE_SIZE, QUEUE_SIZE]

def features : Backend → UInt64
  | .block b =>
    let features := VIRTIO_F_VERSION_1 ||| VIRTIO_BLK_F_FLUSH
    if b.readOnly then features ||| VIRTIO_BLK_F_RO else features
  | .net _ => VIRTIO_F_VERSION_1 ||| VIRTIO_NET_F_MAC
  | .vsock _ => VIRTIO_F_VERSION_1
  | .balloon _ => VIRTIO_F_VERSION_1

/-- The configuration space: the capacity, the MAC address, the CID, or the two page counts. -/
def config : Backend → List UInt8
  | .block b => leBytes 8 b.capacitySectors.toNat
  | .net n => n.mac.toList
  | .vsock v => leBytes 8 v.cid.toNat
  | .balloon b => leBytes 4 b.targetPages.toNat ++ leBytes 4 b.actual.toNat

/-- Fill `len` bytes from the configuration space; there are zeros behind it. -/
def readConfig (d : Backend) (offset len : Nat) : List UInt8 :=
  (List.range len).map (fun i => d.config.getD (offset + i) 0)

def activateBlock (b : Block) (queues : List Queue) (evts : Nat) (host : Host) : Activation :=
  if queues.isEmpty then ⟨.block b, false, .error (.device "block: missing request queue")⟩
  else if evts = 0 then ⟨.block b, false, .error (.device "block: missing queue eventfd")⟩
  else if b.file = false then ⟨.block b, false, .error (.device "block: already activated")⟩
  else
    -- the file is moved into the worker, and lost if there is none
    ⟨.block { b with file := false }, host.spawn,
      if host.spawn then .ok () else .error osError⟩

def activateNet (n : Net) (queues : List Queue) (evts : Nat) (host : Host) : Activation :=
  if queues.length < 2 ∨ evts < 2 then
    ⟨.net n, false, .error (.device "net: expected rx and tx queues")⟩
  else if n.tap = false then ⟨.net n, false, .error (.device "net: already activated")⟩
  else
    let n := { n with tap := false }
    if host.setNonblocking = false then ⟨.net n, false, .error osError⟩
    else if host.epoll = false then ⟨.net n, false, .error (.device "net epoll: os error")⟩
    else ⟨.net n, host.spawn, if host.spawn then .ok () else .error osError⟩

def activateVsock (v : Vsock) (queues : List Queue) (evts : Nat) (host : Host) : Activation :=
  if queues.length ≤ 2 ∨ evts ≤ 2 then
    ⟨.vsock v, false, .error (.device "vsock: expected rx, tx, event queues")⟩
  else if v.listener = true ∧ host.setNonblocking = false then
    ⟨.vsock v, false, .error osError⟩
  else
    ⟨.vsock { v with listener := false }, host.spawn,
      if host.spawn then .ok () else .error osError⟩

def activateBalloon (b : Balloon) (queues : List Queue) (evts : Nat) (host : Host) : Activation :=
  if queues.length < 2 ∨ evts < 2 then
    ⟨.balloon b, false, .error (.device "balloon: expected inflate and deflate queues")⟩
  else
    -- the inflate worker stays if the deflate worker cannot be started
    ⟨.balloon b, host.spawn,
      if host.spawn = true ∧ host.spawnSecond = true then .ok () else .error osError⟩

def activate : Backend → List Queue → Nat → Host → Activation
  | .block b => activateBlock b
  | .net n => activateNet n
  | .vsock v => activateVsock v
  | .balloon b => activateBalloon b

/-- The device as its constructor makes it. -/
def isNew : Backend → Bool
  | .block b => b.file
  | .net n => n.tap
  | .vsock _ => true
  | .balloon b => b.actual == 0

end Backend

/-! ## The registers -/

def MMIO_MAGIC_VALUE : UInt32 := 0x74726976
def MMIO_VERSION : UInt32 := 2
def MMIO_VENDOR_ID : UInt32 := 0x4d4d0000
def STATUS_DRIVER_OK : UInt32 := 0x04
def STATUS_FAILED : UInt32 := 0x80
def VIRTIO_MMIO_INT_VRING : UInt32 := 0x01
def REG_CONFIG_SPACE : Nat := 0x100

/-- The register offsets. -/
inductive Reg
  | magic
  | version
  | deviceId
  | vendorId
  | deviceFeatures
  | deviceFeaturesSel
  | driverFeatures
  | driverFeaturesSel
  | queueSel
  | queueNumMax
  | queueNum
  | queueReady
  | queueNotify
  | interruptStatus
  | interruptAck
  | status
  | queueDescLow
  | queueDescHigh
  | queueAvailLow
  | queueAvailHigh
  | queueUsedLow
  | queueUsedHigh
  | configGeneration
  deriving DecidableEq, Repr

namespace Reg

def offset : Reg → Nat
  | .magic => 0x000
  | .version => 0x004
  | .deviceId => 0x008
  | .vendorId => 0x00c
  | .deviceFeatures => 0x010
  | .deviceFeaturesSel => 0x014
  | .driverFeatures => 0x020
  | .driverFeaturesSel => 0x024
  | .queueSel => 0x030
  | .queueNumMax => 0x034
  | .queueNum => 0x038
  | .queueReady => 0x044
  | .queueNotify => 0x050
  | .interruptStatus => 0x060
  | .interruptAck => 0x064
  | .status => 0x070
  | .queueDescLow => 0x080
  | .queueDescHigh => 0x084
  | .queueAvailLow => 0x090
  | .queueAvailHigh => 0x094
  | .queueUsedLow => 0x0a0
  | .queueUsedHigh => 0x0a4
  | .configGeneration => 0x0fc

def all : List Reg :=
  [.magic, .version, .deviceId, .vendorId, .deviceFeatures, .deviceFeaturesSel, .driverFeatures,
    .driverFeaturesSel, .queueSel, .queueNumMax, .queueNum, .queueReady, .queueNotify,
    .interruptStatus, .interruptAck, .status, .queueDescLow, .queueDescHigh, .queueAvailLow,
    .queueAvailHigh, .queueUsedLow, .queueUsedHigh, .configGeneration]

/-- The register at an offset. -/
def decode (offset : Nat) : Option Reg := all.find? (fun r => r.offset == offset)

@[simp] theorem decode_offset (r : Reg) : decode r.offset = some r := by
  cases r <;> rfl

theorem offset_of_decode {n : Nat} {r : Reg} (h : decode n = some r) : r.offset = n := by
  unfold decode at h
  have hr := List.find?_some h
  exact beq_iff_eq.mp hr

theorem offset_lt (r : Reg) : r.offset < REG_CONFIG_SPACE := by
  cases r <;> decide

end Reg

/-! ## The transport -/

/-- `MmioTransport` with the status of its `Interrupt`. Of the notify eventfds only the number
matters. `workers` says whether a worker of the device has been started; the transport itself
does not record this. -/
structure Transport where
  device : Backend
  interruptStatus : UInt32 := 0
  queues : List Queue
  queueMaxSizes : List UInt16
  queueEvts : Nat
  queueSelect : UInt32 := 0
  deviceFeaturesSelect : UInt32 := 0
  driverFeaturesSelect : UInt32 := 0
  driverFeatures : UInt64 := 0
  status : UInt32 := 0
  activated : Bool := false
  workers : Bool := false
  deriving DecidableEq, Repr

/-- What a write does outside the transport: it pokes a notify eventfd, or hands the queues to
`VirtioDevice::activate`. -/
inductive WriteEffect
  | nothing
  | poke (queueIndex : Nat)
  | activate (queues : List Queue)
  deriving DecidableEq, Repr

/-- The accesses of the guest to a window. A write says which host calls succeed, should it
activate the device. -/
inductive MmioAccess
  | read (offset : Nat) (data : List UInt8)
  | write (offset : Nat) (data : List UInt8) (host : Host)
  deriving DecidableEq, Repr

inductive Reply
  | data (bytes : List UInt8)
  | wrote (effect : WriteEffect)
  deriving DecidableEq, Repr

namespace Transport

def new (device : Backend) : Except VmmError Transport := do
  let sizes := device.queueMaxSizes
  let queues ← sizes.mapM (fun size =>
    (Queue.new size).mapError (fun e => VmmError.device ("queue init: " ++ e.text)))
  pure { device := device, queues := queues, queueMaxSizes := sizes, queueEvts := sizes.length }

/-- The value of a register; those that are only written read as zero. -/
def readReg (t : Transport) : Reg → UInt32
  | .magic => MMIO_MAGIC_VALUE
  | .version => MMIO_VERSION
  | .deviceId => t.device.deviceType
  | .vendorId => MMIO_VENDOR_ID
  | .deviceFeatures =>
    if t.deviceFeaturesSelect = 1 then (t.device.features >>> 32).toUInt32
    else t.device.features.toUInt32
  | .queueNumMax => (t.queueMaxSizes[t.queueSelect.toNat]?.map UInt16.toUInt32).getD 0
  | .queueReady => (t.queues[t.queueSelect.toNat]?.map (fun q => q.ready.toUInt32)).getD 0
  | .interruptStatus => t.interruptStatus
  | .status => t.status
  | _ => 0

/-- Handle a guest read: what the buffer holds afterwards. -/
def read (t : Transport) (offset : Nat) (data : List UInt8) : List UInt8 :=
  if REG_CONFIG_SPACE ≤ offset then t.device.readConfig (offset - REG_CONFIG_SPACE) data.length
  else if data.length ≠ 4 then data
  else leBytes 4 (((Reg.decode offset).map t.readReg).getD 0).toNat

/-- `selected_queue_mut`: change the selected queue, if there is one. -/
def onSelected (t : Transport) (f : Queue → Queue) : Transport × WriteEffect :=
  ({ t with queues := t.queues.modify t.queueSelect.toNat f }, .nothing)

/-- Move the queues into the device. They are gone whatever the result is. -/
def activate (t : Transport) (host : Host) : Transport × WriteEffect × Except VmmError Unit :=
  if host.cloneEvts then
    let a := t.device.activate t.queues t.queueEvts host
    ({ t with queues := [], device := a.device, workers := t.workers || a.worker },
      .activate t.queues, a.result)
  else ({ t with queues := [] }, .nothing, .error osError)

def setStatus (t : Transport) (value : UInt32) (host : Host) : Transport × WriteEffect :=
  if value = 0 then ({ t with status := 0, activated := false }, .nothing)
  else if value &&& STATUS_DRIVER_OK ≠ 0 ∧ t.activated = false then
    match activate { t with status := value } host with
    | (t, effect, .ok ()) => ({ t with activated := true }, effect)
    | (t, effect, .error _) => ({ t with status := t.status ||| STATUS_FAILED }, effect)
  else ({ t with status := value }, .nothing)

/-- The half of the driver features that is written. -/
def driverFeaturesShift (t : Transport) : UInt64 :=
  if t.driverFeaturesSelect = 1 then 32 else 0

/-- Handle a write of a register. -/
def writeReg (t : Transport) (value : UInt32) (host : Host) : Reg → Transport × WriteEffect
  | .deviceFeaturesSel => ({ t with deviceFeaturesSelect := value }, .nothing)
  | .driverFeatures =>
    let mask : UInt64 := 0xffffffff <<< t.driverFeaturesShift
    ({ t with driverFeatures :=
        (t.driverFeatures &&& ~~~mask) ||| (value.toUInt64 <<< t.driverFeaturesShift) },
      .nothing)
  | .driverFeaturesSel => ({ t with driverFeaturesSelect := value }, .nothing)
  | .queueSel => ({ t with queueSelect := value }, .nothing)
  | .queueNum => t.onSelected (fun q => q.setSize value.toUInt16)
  | .queueReady => t.onSelected (fun q => q.setReady (value == 1))
  | .queueNotify => (t, if value.toNat < t.queueEvts then .poke value.toNat else .nothing)
  | .interruptAck => ({ t with interruptStatus := t.interruptStatus &&& ~~~value }, .nothing)
  | .status => t.setStatus value host
  | .queueDescLow => t.onSelected (fun q => q.setDescTableAddress (some value) none)
  | .queueDescHigh => t.onSelected (fun q => q.setDescTableAddress none (some value))
  | .queueAvailLow => t.onSelected (fun q => q.setAvailRingAddress (some value) none)
  | .queueAvailHigh => t.onSelected (fun q => q.setAvailRingAddress none (some value))
  | .queueUsedLow => t.onSelected (fun q => q.setUsedRingAddress (some value) none)
  | .queueUsedHigh => t.onSelected (fun q => q.setUsedRingAddress none (some value))
  | _ => (t, .nothing)

/-- Handle a guest write. No device has a writable configuration space. -/
def write (t : Transport) (offset : Nat) (data : List UInt8) (host : Host) :
    Transport × WriteEffect :=
  if REG_CONFIG_SPACE ≤ offset then (t, .nothing)
  else if data.length ≠ 4 then (t, .nothing)
  else
    match Reg.decode offset with
    | none => (t, .nothing)
    | some r => t.writeReg (UInt32.ofNat (ofLeBytes data)) host r

def access (t : Transport) : MmioAccess → Transport × Reply
  | .read offset data => (t, .data (t.read offset data))
  | .write offset data host =>
    let (t', effect) := t.write offset data host
    (t', .wrote effect)

/-- The queues of a restored device: from the saved cursors, and new ones behind them. -/
def restoreQueues (cursors : List Queue) (sizes : List UInt16) : Except VmmError (List Queue) :=
  sizes.zipIdx.mapM (fun (max, i) =>
    let text := fun (e : QueueError) =>
      VmmError.device ("restore queue " ++ toString i ++ ": " ++ e.text)
    match cursors[i]? with
    | some cursor => (Queue.tryFrom cursor).mapError text
    | none => (Queue.new max).mapError text)

def restoreActivate (t : Transport) (cursors : List Queue) (host : Host) :
    Transport × Except VmmError Unit :=
  if t.activated then (t, .ok ())
  else if t.queueMaxSizes.length < cursors.length then
    (t, .error (.device ("restore: " ++ toString cursors.length ++
      " queue cursors for a device with " ++ toString t.queueMaxSizes.length ++ " queues")))
  else
    match restoreQueues cursors t.queueMaxSizes with
    | .error e => (t, .error e)
    | .ok queues =>
      match activate { t with queues := queues } host with
      | (t, _, .ok ()) =>
        ({ t with activated := true, status := t.status ||| STATUS_DRIVER_OK }, .ok ())
      | (t, _, .error e) => (t, .error e)

/-! ## Histories -/

/-- What happens to a transport: an access of the guest, an interrupt raised by the worker, or
a change of the page count by the worker of a balloon. -/
inductive Step
  | access (a : MmioAccess)
  | signal
  | setActual (pages : UInt32)
  deriving DecidableEq, Repr

def step (t : Transport) : Step → Option Transport
  | .access a => some (t.access a).1
  | .signal =>
    if t.workers then
      some { t with interruptStatus := t.interruptStatus ||| VIRTIO_MMIO_INT_VRING }
    else none
  | .setActual pages =>
    match t.device, t.workers with
    | .balloon b, true => some { t with device := .balloon { b with actual := pages } }
    | _, _ => none

/-- A transport as `start` leaves it, or as a restore does. -/
def Built (d : Backend) (t : Transport) : Prop :=
  new d = .ok t ∨
    ∃ t₀ cursors host, new d = .ok t₀ ∧ t₀.restoreActivate cursors host = (t, .ok ())

/-- The new transport of a device; its queue sizes are all valid. -/
def fresh (d : Backend) : Transport :=
  { device := d
    queues := d.queueMaxSizes.map (fun size => { maxSize := size, size := size })
    queueMaxSizes := d.queueMaxSizes
    queueEvts := d.queueMaxSizes.length }

theorem new_eq (d : Backend) : new d = .ok (fresh d) := by
  cases d <;> rfl

/-- Nothing has been handed to the device. -/
def Untouched (d : Backend) (t : Transport) : Prop :=
  t.device = d ∧ t.workers = false ∧ t.activated = false ∧ t.interruptStatus = 0 ∧
    t.queues.length = d.queueMaxSizes.length

/-- Either nothing has been handed to the device, or all the queues are gone. -/
def Kept (d : Backend) (t : Transport) : Prop :=
  t.queueMaxSizes = d.queueMaxSizes ∧ t.queueEvts = d.queueMaxSizes.length ∧
    (t.queues = [] ∨ t.Untouched d)

theorem untouched_fresh (d : Backend) : (fresh d).Untouched d :=
  ⟨rfl, rfl, rfl, rfl, List.length_map _⟩

/-- The write starts the device. -/
def starts (value : UInt32) : Reg → Bool
  | .status => value &&& STATUS_DRIVER_OK != 0
  | _ => false

variable {d : Backend} {t : Transport} {value : UInt32} {t' s : Transport}

theorem untouched_onSelected (h : t.Untouched d)
    (f : Queue → Queue) : (t.onSelected f).1.Untouched d := by
  obtain ⟨hdev, hw, hact, hint, hlen⟩ := h
  exact ⟨hdev, hw, hact, hint, (List.length_modify _ _ _).trans hlen⟩

theorem untouched_writeReg {r : Reg}
    (h : t.Untouched d) (hr : starts value r = false) (host : Host) :
    (t.writeReg value host r).1.Untouched d := by
  cases r with
  | status =>
    have hok : value &&& STATUS_DRIVER_OK = 0 := by simpa [starts] using hr
    obtain ⟨hdev, hw, hact, hint, hlen⟩ := h
    by_cases h0 : value = 0
    · simp only [writeReg, setStatus, if_pos h0]
      exact ⟨hdev, hw, rfl, hint, hlen⟩
    · simp only [writeReg, setStatus, if_neg h0, hok, ne_eq, not_true_eq_false, false_and, if_false]
      exact ⟨hdev, hw, hact, hint, hlen⟩
  | interruptAck =>
    obtain ⟨hdev, hw, hact, hint, hlen⟩ := h
    refine ⟨hdev, hw, hact, ?_, hlen⟩
    show t.interruptStatus &&& ~~~value = 0
    rw [hint, UInt32.zero_and]
  | queueNum | queueReady | queueDescLow | queueDescHigh | queueAvailLow | queueAvailHigh |
    queueUsedLow | queueUsedHigh => exact untouched_onSelected h _
  | _ => exact h

/-- What a write of the status register can do. -/
theorem setStatus_cases (t : Transport) (value : UInt32) (host : Host) :
    (value = 0 ∧ t.setStatus value host = ({ t with status := 0, activated := false }, .nothing)) ∨
    ((value &&& STATUS_DRIVER_OK = 0 ∨ t.activated = true) ∧
      t.setStatus value host = ({ t with status := value }, .nothing)) ∨
    (host.cloneEvts = false ∧ t.activated = false ∧ t.setStatus value host =
      ({ t with queues := [], status := value ||| STATUS_FAILED }, .nothing)) ∨
    (t.activated = false ∧ ∃ a, t.device.activate t.queues t.queueEvts host = a ∧
      t.setStatus value host =
        ({ t with
            queues := [], device := a.device, workers := t.workers || a.worker
            status := if a.result.isOk then value else value ||| STATUS_FAILED
            activated := a.result.isOk }, .activate t.queues)) := by
  unfold setStatus
  by_cases h0 : value = 0
  · exact Or.inl ⟨h0, if_pos h0⟩
  rw [if_neg h0]
  split_ifs with hgo
  · cases hclone : host.cloneEvts with
    | false =>
      refine Or.inr (Or.inr (Or.inl ⟨rfl, hgo.2, ?_⟩))
      simp [activate, hclone]
    | true =>
      refine Or.inr (Or.inr (Or.inr ⟨hgo.2, _, rfl, ?_⟩))
      simp only [activate, hclone, if_true]
      cases hres : (t.device.activate t.queues t.queueEvts host).result with
      | ok _ => rfl
      | error _ => simp [hgo.2, Except.isOk, Except.toBool]
  · refine Or.inr (Or.inl ⟨?_, rfl⟩)
    simpa [or_iff_not_imp_left] using hgo

theorem kept_setStatus (h : t.Kept d) (value : UInt32)
    (host : Host) : (t.setStatus value host).1.Kept d := by
  obtain ⟨hsizes, hevts, hq⟩ := h
  rcases setStatus_cases t value host with ⟨_, heq⟩ | ⟨_, heq⟩ | ⟨_, _, heq⟩ | ⟨_, a, _, heq⟩
  · rw [heq]
    refine ⟨hsizes, hevts, hq.imp_right ?_⟩
    rintro ⟨hdev, hw, _, hint, hlen⟩
    exact ⟨hdev, hw, rfl, hint, hlen⟩
  · rw [heq]
    exact ⟨hsizes, hevts, hq⟩
  · rw [heq]
    exact ⟨hsizes, hevts, Or.inl rfl⟩
  · rw [heq]
    exact ⟨hsizes, hevts, Or.inl rfl⟩

theorem kept_onSelected (h : t.Kept d) (f : Queue → Queue) : (t.onSelected f).1.Kept d := by
  obtain ⟨hsizes, hevts, hq | hu⟩ := h
  · refine ⟨hsizes, hevts, Or.inl ?_⟩
    show t.queues.modify t.queueSelect.toNat f = []
    rw [hq, List.modify_nil]
  · exact ⟨hsizes, hevts, Or.inr (untouched_onSelected hu f)⟩

theorem kept_writeReg (h : t.Kept d) (value : UInt32)
    (host : Host) (r : Reg) : (t.writeReg value host r).1.Kept d := by
  cases r with
  | status => exact kept_setStatus h value host
  | interruptAck =>
    exact ⟨h.1, h.2.1, h.2.2.imp_right
      (fun hu => @untouched_writeReg d t value .interruptAck hu rfl host)⟩
  | queueNum | queueReady | queueDescLow | queueDescHigh | queueAvailLow | queueAvailHigh |
    queueUsedLow | queueUsedHigh => exact kept_onSelected h _
  | _ => exact h

/-- A write is a write of a register, or does nothing. -/
theorem write_cases (t : Transport) (offset : Nat) (data : List UInt8) (host : Host) :
    t.write offset data host = (t, .nothing) ∨ ∃ r, offset = r.offset ∧
        t.write offset data host = t.writeReg (UInt32.ofNat (ofLeBytes data)) host r := by
  unfold write
  split_ifs
  · exact Or.inl rfl
  · exact Or.inl rfl
  · cases hdec : Reg.decode offset with
    | none => exact Or.inl rfl
    | some r =>
      exact Or.inr ⟨r, (Reg.offset_of_decode hdec).symm, rfl⟩

/-- What a step can do. -/
theorem step_cases {a : Step} (h : t.step a = some t') :
    (∃ x, a = .access x ∧ t' = (t.access x).1) ∨ (t.workers = true ∧
      t' = { t with interruptStatus := t.interruptStatus ||| VIRTIO_MMIO_INT_VRING }) ∨
    (t.workers = true ∧ ∃ b pages, t.device = .balloon b ∧
      t' = { t with device := .balloon { b with actual := pages } }) := by
  cases a with
  | access x =>
    cases h
    exact Or.inl ⟨x, rfl, rfl⟩
  | signal =>
    cases hw : t.workers with
    | false => simp [step, hw] at h
    | true =>
      obtain rfl : _ = t' := by simpa only [step, hw, if_true, Option.some.injEq] using h
      exact Or.inr (Or.inl ⟨rfl, rfl⟩)
  | setActual pages =>
    simp only [step] at h
    split at h
    · rename_i b hdev hw
      cases h
      exact Or.inr (Or.inr ⟨hw, b, pages, hdev, rfl⟩)
    · cases h

theorem kept_access (h : t.Kept d) (a : MmioAccess) : (t.access a).1.Kept d := by
  cases a with
  | read offset data => exact h
  | write offset data host =>
    show (t.write offset data host).1.Kept d
    rcases write_cases t offset data host with heq | ⟨r, _, heq⟩
    · rw [heq]
      exact h
    · rw [heq]
      exact kept_writeReg h _ host r

theorem kept_step {a : Step} (h : t.Kept d) (hstep : t.step a = some t') : t'.Kept d := by
  -- an untouched transport has no worker
  have hq : t.workers = true → t.queues = [] := fun hw =>
    h.2.2.resolve_right (fun hu => by cases hw.symm.trans hu.2.1)
  rcases step_cases hstep with ⟨x, _, rfl⟩ | ⟨hw, rfl⟩ | ⟨hw, b, pages, _, rfl⟩
  · exact kept_access h x
  · exact ⟨h.1, h.2.1, Or.inl (hq hw)⟩
  · exact ⟨h.1, h.2.1, Or.inl (hq hw)⟩

/-- What a successful restore makes of a transport. -/
theorem restoreActivate_ok {cursors : List Queue} {host : Host}
    (hact : t.activated = false) (h : t.restoreActivate cursors host = (t', .ok ())) :
    ∃ queues, t.device.activate queues t.queueEvts host =
        ⟨t'.device, (t.device.activate queues t.queueEvts host).worker, .ok ()⟩ ∧ t' = { t with
        queues := [], device := t'.device, workers := t'.workers
        status := t.status ||| STATUS_DRIVER_OK, activated := true } := by
  unfold restoreActivate at h
  rw [hact, if_neg Bool.false_ne_true] at h
  split_ifs at h
  · cases h
  · cases hqs : restoreQueues cursors t.queueMaxSizes with
    | error e =>
      rw [hqs] at h
      cases h
    | ok queues =>
      rw [hqs] at h
      cases hclone : host.cloneEvts with
      | false =>
        simp [activate, hclone] at h
      | true =>
        refine ⟨queues, ?_⟩
        cases ha : t.device.activate queues t.queueEvts host with
        | mk device worker result =>
          simp only [activate, hclone, if_true, ha] at h
          cases result with
          | error e => cases h
          | ok u =>
            cases h
            exact ⟨rfl, rfl⟩

theorem kept_built (h : Built d t) : t.Kept d := by
  have hfresh : (fresh d).Kept d := ⟨rfl, rfl, Or.inr (untouched_fresh d)⟩
  rcases h with h | ⟨t₀, cursors, host, h, hrestore⟩
  · rw [new_eq] at h
    cases h
    exact hfresh
  · rw [new_eq] at h
    cases h
    obtain ⟨queues, _, heq⟩ := restoreActivate_ok rfl hrestore
    rw [heq]
    exact ⟨rfl, rfl, Or.inl rfl⟩

/-- Every transport that was ever used is untouched or has lost its queues. -/
theorem kept_run {t₀ : Transport} (h₀ : Built d t₀) (as : List Step)
    (hrun : run step t₀ as = some t) : t.Kept d :=
  run_invariant_all (Kept d) (fun _ _ _ h hstep => kept_step h hstep) as t₀ t (kept_built h₀) hrun

/-! ## What the guest can tell -/

/-- What the replies depend on. The driver features are only ever written, and of the selector of
the device features it matters whether it is 1. -/
def view (t : Transport) : Transport :=
  { t with
    deviceFeaturesSelect := if t.deviceFeaturesSelect = 1 then 1 else 0
    driverFeaturesSelect := 0
    driverFeatures := 0
    workers := false }

theorem view_view (t : Transport) : t.view.view = t.view := by
  by_cases h : t.deviceFeaturesSelect = 1 <;> simp [view, h]

theorem readReg_view (t : Transport) (r : Reg) : t.view.readReg r = t.readReg r := by
  cases r with
  | deviceFeatures => by_cases h : t.deviceFeaturesSelect = 1 <;> simp [view, readReg, h]
  | _ => rfl

theorem read_view (t : Transport) (offset : Nat) (data : List UInt8) :
    t.view.read offset data = t.read offset data := by
  have h : t.view.readReg = t.readReg := funext (readReg_view t)
  unfold read
  rw [h]
  rfl

theorem setStatus_view (t : Transport) (value : UInt32) (host : Host) :
    (t.view.setStatus value host).2 = (t.setStatus value host).2 ∧
      (t.view.setStatus value host).1.view = (t.setStatus value host).1.view := by
  have hactivated : t.view.activated = t.activated := rfl
  unfold setStatus
  rw [hactivated]
  by_cases h0 : value = 0
  · rw [if_pos h0, if_pos h0]
    exact ⟨rfl, view_view { t with status := 0, activated := false }⟩
  rw [if_neg h0, if_neg h0]
  by_cases hgo : value &&& STATUS_DRIVER_OK ≠ 0 ∧ t.activated = false
  · rw [if_pos hgo, if_pos hgo]
    cases hclone : host.cloneEvts with
    | false =>
      simp only [activate, hclone, Bool.false_eq_true, if_false, true_and]
      exact view_view { t with status := value ||| STATUS_FAILED, queues := [] }
    | true =>
      have hdevice : t.view.device.activate t.view.queues t.view.queueEvts host =
          t.device.activate t.queues t.queueEvts host := rfl
      simp only [activate, hclone, if_true, hdevice]
      cases ha : t.device.activate t.queues t.queueEvts host with
      | mk device worker result =>
        cases result with
        | ok _ =>
          exact ⟨rfl, view_view { t with
            status := value, queues := [], device := device, activated := true }⟩
        | error _ =>
          exact ⟨rfl, view_view { t with
            status := value ||| STATUS_FAILED, queues := [], device := device }⟩
  · rw [if_neg hgo, if_neg hgo]
    exact ⟨rfl, view_view { t with status := value }⟩

theorem writeReg_view (t : Transport) (value : UInt32) (host : Host) (r : Reg) :
    (t.view.writeReg value host r).2 = (t.writeReg value host r).2 ∧
      (t.view.writeReg value host r).1.view = (t.writeReg value host r).1.view := by
  cases r with
  | status => exact setStatus_view t value host
  | deviceFeaturesSel => exact ⟨rfl, rfl⟩
  | driverFeatures | driverFeaturesSel => exact ⟨rfl, view_view t⟩
  | queueSel => exact ⟨rfl, view_view { t with queueSelect := value }⟩
  | interruptAck =>
    exact ⟨rfl, view_view { t with interruptStatus := t.interruptStatus &&& ~~~value }⟩
  | queueNum | queueReady | queueDescLow | queueDescHigh | queueAvailLow | queueAvailHigh |
    queueUsedLow | queueUsedHigh => exact ⟨rfl, view_view (t.onSelected _).1⟩
  | _ => exact ⟨rfl, view_view t⟩

theorem access_view (t : Transport) (a : MmioAccess) :
    (t.view.access a).2 = (t.access a).2 ∧ (t.view.access a).1.view = (t.access a).1.view := by
  cases a with
  | read offset data => exact ⟨congrArg Reply.data (read_view t offset data), view_view t⟩
  | write offset data host =>
    have h : (t.view.write offset data host).2 = (t.write offset data host).2 ∧
        (t.view.write offset data host).1.view = (t.write offset data host).1.view := by
      unfold write
      split_ifs
      · exact ⟨rfl, view_view t⟩
      · exact ⟨rfl, view_view t⟩
      · cases Reg.decode offset with
        | none => exact ⟨rfl, view_view t⟩
        | some r => exact writeReg_view t _ host r
    exact ⟨congrArg Reply.wrote h.1, h.2⟩

/-- Transports with the same view are alike. -/
theorem alike_of_view_eq (h : s.view = t.view) : Alike access s t := by
  refine alike_of_view view (fun s t a h => ?_) (fun s t a h => ?_) h
  · rw [← (access_view s a).1, ← (access_view t a).1, h]
  · rw [← (access_view s a).2, ← (access_view t a).2, h]

/-- The guest reads a register. -/
def guestRead (r : Reg) : MmioAccess := .read r.offset [0, 0, 0, 0]

/-- The guest writes a register, and all host calls succeed. -/
def guestWrite (r : Reg) (value : UInt32) : MmioAccess :=
  .write r.offset (leBytes 4 value.toNat) {}

theorem access_guestRead (t : Transport) (r : Reg) :
    t.access (guestRead r) = (t, .data (leBytes 4 (t.readReg r).toNat)) := by
  have h : ¬ REG_CONFIG_SPACE ≤ r.offset := Nat.not_le.mpr r.offset_lt
  simp [access, guestRead, read, h]

theorem access_guestWrite (t : Transport) (r : Reg) (value : UInt32) :
    t.access (guestWrite r value) =
      ((t.writeReg value {} r).1, .wrote (t.writeReg value {} r).2) := by
  have h : ¬ REG_CONFIG_SPACE ≤ r.offset := Nat.not_le.mpr r.offset_lt
  have hvalue : UInt32.ofNat (ofLeBytes (leBytes 4 value.toNat)) = value := by
    have hlt : value.toNat < 256 ^ 4 := value.toNat_lt
    rw [ofLeBytes_leBytes, Nat.mod_eq_of_lt hlt, UInt32.ofNat_toNat]
  simp [access, guestWrite, write, h, hvalue]

/-- Alike transports have the same registers. -/
theorem readReg_eq_of_alike (h : Alike access s t) (r : Reg) : s.readReg r = t.readReg r := by
  have hr := h.reply (guestRead r)
  rw [access_guestRead, access_guestRead] at hr
  exact leBytes_uint32_inj (Reply.data.inj hr)

theorem alike_writeReg (h : Alike access s t) (r : Reg) (value : UInt32) :
    Alike access (s.writeReg value {} r).1 (t.writeReg value {} r).1 := by
  have hr := h.next (guestWrite r value)
  rwa [access_guestWrite, access_guestWrite] at hr

/-! ## Reset -/

/-- The guest writes 0 to the status register. -/
def reset (t : Transport) : Transport := (t.access (guestWrite .status 0)).1

theorem reset_eq (t : Transport) : t.reset = { t with status := 0, activated := false } := by
  rw [reset, access_guestWrite]
  rfl

/-- The access lets the driver start the device. -/
def startsDevice : MmioAccess → Bool
  | .read _ _ => false
  | .write offset data _ =>
    offset == Reg.status.offset && UInt32.ofNat (ofLeBytes data) &&& STATUS_DRIVER_OK != 0

/-- The transport is as good as a new one. -/
structure LikeNew (d : Backend) (t : Transport) : Prop where
  alike : ∀ t₀, new d = .ok t₀ → Alike access t t₀
  /-- A driver that programs the queues and then sets `DRIVER_OK` gets the device activated with
  all of them, and `FAILED` is not set. -/
  handshake : ∀ programming value, (∀ a ∈ programming, startsDevice a = false) →
    value &&& STATUS_DRIVER_OK ≠ 0 →
    ∃ queues, (stateAfter access t programming).queues = queues ∧
      queues.length = d.queueMaxSizes.length ∧
      replies access (stateAfter access t programming)
          [guestWrite .status value, guestRead .status] =
        [.wrote (.activate queues), .data (leBytes 4 value.toNat)]
  interruptStatus : t.readReg .interruptStatus = 0

theorem untouched_access {a : MmioAccess} (h : t.Untouched d)
    (ha : startsDevice a = false) : (t.access a).1.Untouched d := by
  cases a with
  | read offset data => exact h
  | write offset data host =>
    show (t.write offset data host).1.Untouched d
    rcases write_cases t offset data host with heq | ⟨r, hr, heq⟩
    · rw [heq]
      exact h
    · rw [heq]
      refine untouched_writeReg h ?_ host
      cases r with
      | status => simpa [startsDevice, starts, hr] using ha
      | _ => rfl

theorem untouched_stateAfter (as : List MmioAccess)
    (h : t.Untouched d) (has : ∀ a ∈ as, startsDevice a = false) :
    (stateAfter access t as).Untouched d := by
  induction as generalizing t with
  | nil => exact h
  | cons a as ih =>
    have ha : startsDevice a = false := has a List.mem_cons_self
    exact ih (untouched_access h ha) (fun b hb => has b (List.mem_cons_of_mem a hb))

theorem kept_stateAfter (as : List MmioAccess) (h : t.Kept d) :
    (stateAfter access t as).Kept d := by
  induction as generalizing t with
  | nil => exact h
  | cons a as ih => exact ih (kept_access h a)

/-- A new device accepts its queues. -/
theorem activate_new (hd : d.isNew = true) {queues : List Queue}
    (hq : queues.length = d.queueMaxSizes.length) :
    (d.activate queues d.queueMaxSizes.length {}).result = .ok () := by
  cases d with
  | block b =>
    have hne : queues ≠ [] := by
      rintro rfl
      cases hq
    have hfile : b.file = true := hd
    simp [Backend.activate, Backend.activateBlock, Backend.queueMaxSizes, hne, hfile]
  | net n =>
    have htap : n.tap = true := hd
    have hlen : queues.length = 2 := hq
    simp [Backend.activate, Backend.activateNet, Backend.queueMaxSizes, hlen, htap]
  | vsock v =>
    have hlen : queues.length = 3 := hq
    simp [Backend.activate, Backend.activateVsock, Backend.queueMaxSizes, hlen]
  | balloon b =>
    have hlen : queues.length = 2 := hq
    simp [Backend.activate, Backend.activateBalloon, Backend.queueMaxSizes, hlen]

/-- `DRIVER_OK` hands over the queues, whatever they are. -/
theorem writeReg_driverOk (hact : t.activated = false) (hv : value &&& STATUS_DRIVER_OK ≠ 0) :
    (t.writeReg value {} .status).2 = .activate t.queues := by
  have h0 : value ≠ 0 := by
    rintro rfl
    exact hv UInt32.zero_and
  simp only [writeReg, setStatus, activate, if_neg h0, if_pos (And.intro hv hact), if_true]
  cases (t.device.activate t.queues t.queueEvts {}).result with
  | ok _ | error _ => rfl

theorem handshake_of_untouched (hd : d.isNew = true)
    (hu : t.Untouched d) (hevts : t.queueEvts = d.queueMaxSizes.length)
    (hv : value &&& STATUS_DRIVER_OK ≠ 0) :
    replies access t [guestWrite .status value, guestRead .status] =
      [.wrote (.activate t.queues), .data (leBytes 4 value.toNat)] := by
  obtain ⟨hdev, _, hact, _, hlen⟩ := hu
  have hres : (t.device.activate t.queues t.queueEvts {}).result = .ok () := by
    rw [hdev, hevts]
    exact activate_new hd hlen
  have hstatus : (t.writeReg value {} .status).1.status = value := by
    rcases setStatus_cases t value {} with ⟨h0, _⟩ | ⟨hno, _⟩ | ⟨hclone, _⟩ | ⟨_, a, ha, heq⟩
    · rw [h0] at hv
      exact absurd UInt32.zero_and hv
    · rcases hno with hno | hno
      · exact absurd hno hv
      · cases hact.symm.trans hno
    · cases hclone
    · subst ha
      show (t.setStatus value {}).1.status = value
      rw [heq, hres]
      rfl
  have hread : (t.writeReg value {} .status).1.readReg .status = value := hstatus
  rw [replies, replies, replies, access_guestWrite, access_guestRead, writeReg_driverOk hact hv,
    hread]

/-- The two halves of the features differ: only one of them has `VERSION_1`. -/
theorem features_halves (d : Backend) : (d.features >>> 32).toUInt32 ≠ d.features.toUInt32 := by
  cases d with
  | block b => cases hro : b.readOnly <;> simp only [Backend.features, hro] <;> decide
  | net n | vsock v | balloon b => simp only [Backend.features]; decide

theorem queueMaxSizes_getElem (d : Backend) {k : Nat} (hk : k < d.queueMaxSizes.length) :
    d.queueMaxSizes[k]? = some QUEUE_SIZE := by
  have hall : ∀ size ∈ d.queueMaxSizes, size = QUEUE_SIZE := by
    cases d <;> simp [Backend.queueMaxSizes]
  rw [List.getElem?_eq_getElem hk, hall _ (List.getElem_mem hk)]

theorem fresh_getElem (d : Backend) {k : Nat} (hk : k < d.queueMaxSizes.length) :
    (fresh d).queues[k]? = some { maxSize := QUEUE_SIZE, size := QUEUE_SIZE } := by
  rw [fresh, List.getElem?_map, queueMaxSizes_getElem d hk]
  rfl

/-- A selector of a queue that is not the first can be told from a new one. -/
theorem queueSelect_of_alike (h : Alike access t (fresh d))
    (hsizes : t.queueMaxSizes = d.queueMaxSizes) (hqueues : t.queues = (fresh d).queues) :
    t.queueSelect = 0 := by
  by_contra hne
  have hpos : t.queueSelect.toNat ≠ 0 := fun h0 => hne (UInt32.toNat_inj.mp h0)
  -- the selector is in range, or the maximal size would read as zero
  have hmax := readReg_eq_of_alike h .queueNumMax
  have hfirst : (fresh d).readReg .queueNumMax = QUEUE_SIZE.toUInt32 := by
    cases d <;> rfl
  have hlt : t.queueSelect.toNat < d.queueMaxSizes.length := by
    by_contra hge
    rw [hfirst, readReg, hsizes, List.getElem?_eq_none (Nat.not_lt.mp hge)] at hmax
    exact absurd hmax (by decide)
  -- without a selection before it, `QueueReady` goes to another queue
  have hready := readReg_eq_of_alike
    (alike_writeReg (alike_writeReg h .queueReady 1) .queueSel t.queueSelect) .queueReady
  have hset : readReg ((t.writeReg 1 {} .queueReady).1.writeReg t.queueSelect {} .queueSel).1
      .queueReady = 1 := by
    have hq := fresh_getElem d hlt
    rw [← hqueues] at hq
    simp only [writeReg, onSelected, readReg, List.getElem?_modify, hq, if_true]
    rfl
  have hunset : readReg (((fresh d).writeReg 1 {} .queueReady).1.writeReg t.queueSelect {}
      .queueSel).1 .queueReady = 0 := by
    have hne' : (fresh d).queueSelect.toNat ≠ t.queueSelect.toNat := fun h0 => hpos h0.symm
    simp only [writeReg, onSelected, readReg, List.getElem?_modify, fresh_getElem d hlt,
      if_neg hne']
    rfl
  rw [hset, hunset] at hready
  exact absurd hready (by decide)

/-- **When a reset makes the transport as good as new.** After any history, a write of 0 to the
status register gives a transport that is like a new one if and only if the driver had not yet
tried to start the device, had changed no queue, and had left the selectors of the queues and of
the device features at their first values. -/
theorem reset_likeNew_iff (d : Backend) (hd : d.isNew = true) (t₀ t : Transport)
    (h₀ : Built d t₀) (as : List Step) (hrun : run step t₀ as = some t) : LikeNew d t.reset ↔
      t.queues = (fresh d).queues ∧ t.queueSelect = 0 ∧ t.deviceFeaturesSelect ≠ 1 := by
  have hkept : t.Kept d := kept_run h₀ as hrun
  have huntouched : t.queues = (fresh d).queues → t.Untouched d := by
    intro hq
    refine hkept.2.2.resolve_left (fun hnil => ?_)
    have hlen := (untouched_fresh d).2.2.2.2
    rw [← hq, hnil] at hlen
    cases d <;> cases hlen
  rw [reset_eq]
  constructor
  · intro h
    have halike := h.alike _ (new_eq d)
    have hqueues : t.queues = (fresh d).queues := by
      have hreply := halike.reply (guestWrite .status STATUS_DRIVER_OK)
      rw [access_guestWrite, access_guestWrite, writeReg_driverOk rfl (by decide),
        writeReg_driverOk rfl (by decide)] at hreply
      exact WriteEffect.activate.inj (Reply.wrote.inj hreply)
    refine ⟨hqueues, ?_, fun hsel => ?_⟩
    · exact @queueSelect_of_alike d { t with status := 0, activated := false } halike hkept.1
        hqueues
    · have hfeatures := readReg_eq_of_alike halike .deviceFeatures
      simp only [readReg, hsel, if_true, (huntouched hqueues).1] at hfeatures
      exact features_halves d hfeatures
  · rintro ⟨hqueues, hsel, hfeatures⟩
    obtain ⟨hdev, hw, hact, hint, hlen⟩ := huntouched hqueues
    have hu : Untouched d { t with status := 0, activated := false } :=
      ⟨hdev, hw, rfl, hint, hlen⟩
    have hkept' : Kept d { t with status := 0, activated := false } :=
      ⟨hkept.1, hkept.2.1, Or.inr hu⟩
    have hview : view { t with status := 0, activated := false } = (fresh d).view := by
      simp only [view, if_neg hfeatures, hdev, hint, hqueues, hsel, hkept.1, hkept.2.1]
      rfl
    refine ⟨fun t' ht' => ?_, fun programming value hp hv => ⟨_, rfl, ?_, ?_⟩, hint⟩
    · rw [new_eq] at ht'
      cases ht'
      exact alike_of_view_eq hview
    · exact (untouched_stateAfter programming hu hp).2.2.2.2
    · refine handshake_of_untouched hd (untouched_stateAfter programming hu hp) ?_ hv
      exact (kept_stateAfter programming hkept').2.1

/-- The rootfs of a machine: 1 MiB, writable. -/
def rootfs : Backend := .block { capacitySectors := 2048, readOnly := false }

/-- What a driver writes before `DRIVER_OK`: it acknowledges the device, accepts `VERSION_1` and
programs the only queue. -/
def programQueue : List MmioAccess :=
  [guestWrite .status 1, guestWrite .status 3, guestWrite .driverFeaturesSel 1,
    guestWrite .driverFeatures 1, guestWrite .status 11, guestWrite .queueSel 0,
    guestWrite .queueNum 128, guestWrite .queueDescLow 0x1000, guestWrite .queueAvailLow 0x2000,
    guestWrite .queueUsedLow 0x3000, guestWrite .queueReady 1]

/-- The driver has accepted the features, and gives up before it programs a queue. -/
theorem reset_likeNew_iff_features :
    ∃ t, run step (fresh rootfs) ((programQueue.take 5).map .access) = some t ∧
      t.status = 11 ∧ LikeNew rootfs t.reset := by
  have hrun : (run step (fresh rootfs) ((programQueue.take 5).map .access)).any (fun t =>
      decide (t.status = 11 ∧ t.queues = (fresh rootfs).queues ∧ t.queueSelect = 0 ∧
        t.deviceFeaturesSelect ≠ 1)) = true := by
    decide +kernel
  obtain ⟨t, hrun, h⟩ := (Option.any_eq_true _ _).mp hrun
  have ht := of_decide_eq_true h
  exact ⟨t, hrun, ht.1,
    (reset_likeNew_iff rootfs rfl _ t (Or.inl (new_eq rootfs)) _ hrun).mpr ht.2⟩

/-- **A block device cannot be started twice.** The driver starts the device, which serves a
request, and resets it: `InterruptStatus` still reads 1, and when the driver repeats the handshake
its queue is not taken over and the device answers with `FAILED`. -/
theorem reset_then_failed : ∃ t, run step (fresh rootfs)
        ((programQueue ++ [guestWrite .status 15]).map .access ++ [.signal]) = some t ∧
      t.status = 15 ∧ t.reset.readReg .interruptStatus = 1 ∧
      replies access (stateAfter access t.reset programQueue)
          [guestRead .queueReady, guestWrite .status 15, guestRead .status] =
        [.data [0, 0, 0, 0], .wrote (.activate []), .data [0x8f, 0, 0, 0]] ∧
      ¬ LikeNew rootfs t.reset := by
  have hrun : (run step (fresh rootfs)
      ((programQueue ++ [guestWrite .status 15]).map .access ++ [.signal])).any (fun t =>
        decide (t.status = 15 ∧ t.reset.readReg .interruptStatus = 1 ∧
          replies access (stateAfter access t.reset programQueue)
            [guestRead .queueReady, guestWrite .status 15, guestRead .status] =
          [.data [0, 0, 0, 0], .wrote (.activate []), .data [0x8f, 0, 0, 0]])) = true := by
    decide +kernel
  obtain ⟨t, hrun, h⟩ := (Option.any_eq_true _ _).mp hrun
  obtain ⟨hstatus, hint, hreplies⟩ := of_decide_eq_true h
  refine ⟨t, hrun, hstatus, hint, hreplies, fun hnew => ?_⟩
  exact absurd (hint.symm.trans hnew.interruptStatus) (by decide)

end Transport

end MicroMachines.Vmm
