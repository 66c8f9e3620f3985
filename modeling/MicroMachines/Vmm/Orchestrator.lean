import MicroMachines.Lib.Script
import MicroMachines.Vmm.Layout

set_option autoImplicit false

/-! # What the orchestrating thread does

The checkpoint, snapshot and branch calls of `crates/mm-vmm/src/machine.rs` and
`snapshot/engine.rs` as scripts of the operations they perform on the rest of the machine.
The scripts keep every early return, every `let _ =` and the order of the operations; what an
operation does is left to the models that run them.

The texts of operating-system and KVM errors are chosen by the host (`osError`, `kvmError`).
-/

namespace MicroMachines.Vmm

open MicroMachines.Lib

/-- How many vCPUs, snapshottable devices and memory slots the machine has. -/
structure Shape where
  nVcpu : Nat
  nDev : Nat
  nSlot : Nat
  deriving DecidableEq, Repr

/-- The operations of the orchestrating thread. -/
inductive Op
  | createDirAll
  /-- The two stores of `Checkpoint::request`, the second for a cycle with or without devices. -/
  | clearReleased
  | setRequested (devices : Bool)
  | wakeDevice (d : Nat)
  /-- Wait (kicking the vCPUs) until all are parked; fails at the deadline. -/
  | waitUntilParked (devices : Bool)
  /-- The two stores of `Checkpoint::release`. -/
  | clearRequested
  | setReleased
  | waitUntilResumed
  | takeVcpu (i : Nat)
  | takeDevice (d : Nat)
  | captureClock
  | captureIrqchip
  | createMemoryFile
  | dumpGuestMemory
  | setDirtyLogging (enable : Bool) (slot : Nat)
  /-- An empty list of dirty pages, to which `getDirtyLog` appends those of one slot. -/
  | newPages
  | getDirtyLog (slot : Nat)
  | openImage
  | writeBranchImage
  | openForRecopy
  | recopyBranchPages
  | setVcpuPause
  | joinVcpu (i : Nat)
  | waitForCapture (d : Nat)
  | cpuidHash
  | writeState
  | writeManifest
  deriving DecidableEq, Repr

abbrev Orch (α : Type) : Type := Task Op VmmError α

def osError : VmmError := .io "os error"
def kvmError : VmmError := .kvm "ioctl failed"

open Task

/-! ## The barrier -/

/-- `Checkpoint::request`. -/
def request (devices : Bool) : Orch Unit := do
  act .clearReleased
  act (.setRequested devices)

/-- `Checkpoint::release`. -/
def release : Orch Unit := do
  act .clearRequested
  act .setReleased

/-- Write the pause eventfd of every snapshottable device, if they take part. -/
def wakeDevices (m : Shape) (includeDevices : Bool) : Orch Unit :=
  if includeDevices then forEach (List.range m.nDev) (fun d => perform (.wakeDevice d) osError)
  else pure ()

/-- Request a checkpoint and wait until every participant is parked. An eventfd that cannot
be written ends the call with the request still standing. -/
def quiesceAtBarrier (m : Shape) (includeDevices : Bool) : Orch Unit := do
  if m.nVcpu = 0 then
    fail (.vcpu "checkpoint: no running vcpus")
  else
    request includeDevices
    wakeDevices m includeDevices
    let parked ← test (.waitUntilParked includeDevices)
    if parked then
      pure ()
    else
      release
      act .waitUntilResumed
      fail (.vcpu "participants did not reach the checkpoint barrier within the timeout")

def releaseBarrier : Orch Unit := do
  release
  perform .waitUntilResumed
    (.vcpu "participants did not resume from the checkpoint barrier within the timeout")

/-! ## Collecting the captured state -/

def collectVcpuStates (m : Shape) : Orch Unit :=
  forEach (List.range m.nVcpu) (fun i =>
    perform (.takeVcpu i)
      (.vcpu ("vcpu " ++ toString i ++ " state was not captured at the checkpoint")))

def collectDeviceStates (m : Shape) : Orch Unit :=
  forEach (List.range m.nDev) (fun d =>
    perform (.takeDevice d)
      (.device "a device did not capture its queue cursors at the checkpoint"))

/-- The vCPU, device, clock and interrupt controller parts of a `VmState`. -/
def captureVmState (m : Shape) : Orch Unit := do
  collectVcpuStates m
  collectDeviceStates m
  perform .captureClock kvmError
  perform .captureIrqchip kvmError

def dumpGuestMemory : Orch Unit := do
  perform .createMemoryFile osError
  perform .dumpGuestMemory osError

def writeSnapshotMetadata : Orch Unit := do
  perform .writeState osError
  perform .writeManifest osError

/-! ## Checkpoints and snapshots in place -/

def checkpointInPlace (m : Shape) : Orch Unit := do
  quiesceAtBarrier m false
  let states ← result (collectVcpuStates m)
  releaseBarrier
  ofResult states

def checkpointFullInPlace (m : Shape) : Orch Unit := do
  quiesceAtBarrier m true
  let captured ← result (captureVmState m)
  releaseBarrier
  ofResult captured

def snapshotInPlace (m : Shape) : Orch Unit := do
  perform .createDirAll osError
  quiesceAtBarrier m true
  let captured ← result (do captureVmState m; dumpGuestMemory)
  let released ← result releaseBarrier
  ofResult captured
  ofResult released
  perform .cpuidHash kvmError
  writeSnapshotMetadata

/-! ## Branch -/

def setDirtyLogging (m : Shape) (enable : Bool) : Orch Unit :=
  forEach (List.range m.nSlot) (fun slot => perform (.setDirtyLogging enable slot) kvmError)

def collectDirtyPages (m : Shape) : Orch Unit := do
  act .newPages
  forEach (List.range m.nSlot) (fun slot => perform (.getDirtyLog slot) kvmError)

def writeBranchImage : Orch Unit := do
  perform .openImage osError
  perform .writeBranchImage osError

def recopyBranchPages : Orch Unit := do
  perform .openForRecopy osError
  perform .recopyBranchPages osError

/-- Enable dirty logging from a clean baseline. -/
def armDirtyLogging (m : Shape) : Orch Unit := do
  setDirtyLogging m true
  collectDirtyPages m

/-- Turn logging off and release, whatever comes of either, and return the error. -/
def abandonBranch (m : Shape) (e : VmmError) : Orch Unit := do
  let _ ← result (setDirtyLogging m false)
  let _ ← result releaseBarrier
  fail e

/-- The final barrier of `branch`, and what follows it. -/
def finishBranch (m : Shape) : Orch Unit := do
  quiesceAtBarrier m true
  let finished ← result (do captureVmState m; collectDirtyPages m; recopyBranchPages)
  let _ ← result (setDirtyLogging m false)
  let released ← result releaseBarrier
  match finished with
  | .error e => fail e
  | .ok _ =>
    ofResult released
    perform .cpuidHash kvmError
    writeSnapshotMetadata

def branch (m : Shape) : Orch Unit := do
  perform .createDirAll osError
  quiesceAtBarrier m true
  let armed ← result (armDirtyLogging m)
  match armed with
  | .error e => abandonBranch m e
  | .ok _ =>
    releaseBarrier
    let copied ← result writeBranchImage
    match copied with
    | .error e =>
      quiesceAtBarrier m true
      abandonBranch m e
    | .ok _ => finishBranch m

/-! ## The freezing snapshot -/

/-- Join the vCPU threads; whether all of them ended without an error. -/
def joinVcpus : List Nat → Orch Bool
  | [] => pure true
  | i :: is => do
      let ok ← test (.joinVcpu i)
      let rest ← joinVcpus is
      pure (ok && rest)

def pauseAndCaptureVcpus (m : Shape) : Orch Unit := do
  act .setVcpuPause
  let joined ← joinVcpus (List.range m.nVcpu)
  if joined then
    forEach (List.range m.nVcpu) (fun i =>
      perform (.takeVcpu i)
        (.vcpu ("vcpu " ++ toString i ++ " state was not captured during pause")))
  else
    fail (.vcpu "vcpu thread failed")

def pauseDevices (m : Shape) : Orch Unit :=
  forEach (List.range m.nDev) (fun d => do
    perform (.wakeDevice d) osError
    perform (.waitForCapture d)
      (.device "a device did not capture its queue cursors within the pause timeout"))

def snapshot (m : Shape) : Orch Unit := do
  perform .createDirAll osError
  pauseAndCaptureVcpus m
  pauseDevices m
  perform .captureClock kvmError
  perform .captureIrqchip kvmError
  dumpGuestMemory
  perform .cpuidHash kvmError
  writeSnapshotMetadata

/-- The calls a holder of the machine can make. -/
inductive Call
  | checkpointInPlace
  | checkpointFullInPlace
  | snapshotInPlace
  | branch
  | snapshot
  deriving DecidableEq, Repr

def Call.script (m : Shape) : Call → Orch Unit
  | .checkpointInPlace => Vmm.checkpointInPlace m
  | .checkpointFullInPlace => Vmm.checkpointFullInPlace m
  | .snapshotInPlace => Vmm.snapshotInPlace m
  | .branch => Vmm.branch m
  | .snapshot => Vmm.snapshot m

end MicroMachines.Vmm
