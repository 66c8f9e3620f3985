import MicroMachines.Lib.Table
import MicroMachines.Controller.Reconcile

set_option autoImplicit false

/-! # The agent of a host

`services/mm-agent`: the agent takes assignments from the controller one after the other, boots or
stops a machine for each, keeps a record of every machine it has booted, and reports what has
become of it.

Booting is the business of `mm_host::launch`. What matters here is whether it succeeds; it does not
if the configuration is not valid.
-/

namespace MicroMachines.HostAgent

open MicroMachines.Lib MicroMachines.Controller

/-! ## The local store -/

/-- A record of a machine. The state is the name of a lifecycle state. -/
structure LocalMachine where
  uid : Nat
  ns : String
  name : String
  image : String
  vcpus : Nat
  memoryMib : Nat
  ip : Option String
  pid : Option Nat
  state : MachineState
  deriving DecidableEq, Repr

/-- The records of an agent. -/
abbrev LocalStore : Type := List LocalMachine

/-- `LocalStore::get`. -/
def LocalStore.get (store : LocalStore) (uid : Nat) : Option LocalMachine :=
  Table.lookup LocalMachine.uid store uid

/-- `LocalStore::put`: insert a record, or replace the one with the same `uid`. -/
def LocalStore.put (store : LocalStore) (machine : LocalMachine) : LocalStore :=
  store.filter (fun m => m.uid ≠ machine.uid) ++ [machine]

theorem get_put (store : LocalStore) (machine : LocalMachine) (uid : Nat) :
    (store.put machine).get uid = if uid = machine.uid then some machine else store.get uid :=
  Table.lookup_replace store machine uid

/-- `LocalStore::delete`. -/
def LocalStore.delete (store : LocalStore) (uid : Nat) : LocalStore :=
  store.filter (fun m => m.uid ≠ uid)

/-- A record of a running machine. -/
def LocalStore.runs (store : LocalStore) (uid : Nat) : Bool :=
  (store.get uid).any (fun m => m.state = .running)

theorem runs_put (store : LocalStore) (machine : LocalMachine) (uid : Nat) :
    (store.put machine).runs uid =
      if uid = machine.uid then decide (machine.state = .running) else store.runs uid := by
  unfold LocalStore.runs
  rw [get_put]
  by_cases huid : uid = machine.uid
  · rw [if_pos huid, if_pos huid, Option.any_some]
  · rw [if_neg huid, if_neg huid]

theorem get_of_runs {store : LocalStore} {uid : Nat} (h : store.runs uid = true) :
    store.get uid ≠ none := by
  intro hget
  simp [LocalStore.runs, hget] at h

/-! ## Capacity -/

structure HostResources where
  vcpusTotal : Nat
  memMibTotal : Nat
  deriving DecidableEq, Repr

/-- `current_capacity`: the totals, and what the running machines leave of them. -/
def currentCapacity (store : LocalStore) (res : HostResources) (hostId : String) : Proto.Capacity :=
  let running := store.filter (fun m => m.state = .running)
  { hostId := hostId
    vcpusTotal := res.vcpusTotal
    vcpusFree := res.vcpusTotal - (running.map LocalMachine.vcpus).sum
    memMibTotal := res.memMibTotal
    memMibFree := res.memMibTotal - (running.map LocalMachine.memoryMib).sum }

/-! ## Booting -/

structure BootRequest where
  uid : Nat
  ns : String
  name : String
  image : String
  cpus : Nat
  memoryMib : Nat
  ssh : Bool
  deriving DecidableEq, Repr

/-- What a launch gives: the address of the guest and the process of its worker. -/
structure LaunchOutcome where
  ip : String
  pid : Nat
  hasIp : ip ≠ ""
  deriving DecidableEq, Repr

/-- `mm_host::launch`, with what becomes of everything but the validation of the configuration. -/
def launch (req : BootRequest) (outcome : Except String LaunchOutcome) :
    Except String LaunchOutcome :=
  match outcome with
  | .error e => .error e
  | .ok out =>
    if 1 ≤ req.cpus ∧ req.cpus ≤ 32 ∧ 16 ≤ req.memoryMib then .ok out
    else .error "validating VM config"

/-- `actuator::boot`. -/
def boot (req : BootRequest) (outcome : Except String LaunchOutcome) : Except String LocalMachine :=
  (launch req outcome).map (fun out =>
    { uid := req.uid
      ns := req.ns
      name := req.name
      image := req.image
      vcpus := req.cpus
      memoryMib := req.memoryMib
      ip := some out.ip
      pid := some out.pid
      state := .running })

/-- `host_name`: a short name on the host; `text` is how the uid is written. -/
def hostName (text : String) : String :=
  "a" ++ String.ofList ((text.toList.filter Char.isAlphanum).take 10)

/-- The request for a boot; the number of processors fits into a byte. -/
def BootRequest.of (ref : Proto.MachineRef) (spec : Proto.MachineSpec) : BootRequest where
  uid := ref.uid
  ns := ref.ns
  name := hostName (toString ref.uid)
  image := spec.image
  cpus := max 1 (min spec.vcpus 255)
  memoryMib := spec.memoryMib
  ssh := spec.ssh

/-! ## Assignments -/

/-- What `report` sends. -/
def event (uid : Nat) (state : MachineState) (message ip : String) : Proto.MachineEvent :=
  ⟨uid, apiStateToProto state, message, ip⟩

/-- `handle_assignment`, for a machine with a reference and a specification: the records, and the
events that are sent. -/
def reconcileMachine (store : LocalStore) (ref : Proto.MachineRef) (spec : Proto.MachineSpec)
    (outcome : Except String LaunchOutcome) : LocalStore × List Proto.MachineEvent :=
  if spec.running then
    if store.runs ref.uid then (store, [])
    else
      match boot (.of ref spec) outcome with
      | .ok machine =>
        (store.put machine, [event ref.uid .running "booted" (machine.ip.getD "")])
      | .error e => (store, [event ref.uid .failed e ""])
  else
    match store.get ref.uid with
    | some machine =>
      (store.put { machine with state := .stopped, pid := none },
        [event ref.uid .stopped "stopped" ""])
    | none => (store, [])

/-- `handle_assignment`. One without a machine, a reference or a specification is an error. -/
def handleAssignment (store : LocalStore) (a : Proto.Assignment)
    (outcome : Except String LaunchOutcome) : LocalStore × List Proto.MachineEvent :=
  match a.machine with
  | some { ref := some ref, spec := some spec, .. } => reconcileMachine store ref spec outcome
  | _ => (store, [])

/-- What can become of an assignment. -/
inductive Handled (store : LocalStore) (a : Proto.Assignment) :
    LocalStore → List Proto.MachineEvent → Prop where
  /-- There is no machine, no reference or no specification. -/
  | refused (h : a.uid = none ∨ a.machine.bind Proto.Machine.spec = none) : Handled store a store []
  /-- The machine is running, as it should. -/
  | converged (uid : Nat) (huid : a.uid = some uid) (hstarts : a.starts = true)
      (hruns : store.runs uid = true) : Handled store a store []
  | booted (uid : Nat) (machine : LocalMachine) (ip : String) (huid : a.uid = some uid)
      (hstarts : a.starts = true) (hruns : store.runs uid = false) (hmachine : machine.uid = uid)
      (hstate : machine.state = .running) :
      Handled store a (store.put machine) [event uid .running "booted" ip]
  | failed (uid : Nat) (e : String) (huid : a.uid = some uid) (hstarts : a.starts = true)
      (hruns : store.runs uid = false) : Handled store a store [event uid .failed e ""]
  | stopped (uid : Nat) (machine : LocalMachine) (huid : a.uid = some uid)
      (hstarts : a.starts = false) (hknown : store.get uid ≠ none) (hmachine : machine.uid = uid)
      (hstate : machine.state = .stopped) :
      Handled store a (store.put machine) [event uid .stopped "stopped" ""]
  /-- There is nothing to stop. -/
  | unknown (uid : Nat) (huid : a.uid = some uid) (hstarts : a.starts = false)
      (hknown : store.get uid = none) : Handled store a store []

theorem boot_ok {req : BootRequest} {outcome : Except String LaunchOutcome} {m : LocalMachine}
    (h : boot req outcome = .ok m) : m.uid = req.uid ∧ m.state = .running := by
  unfold boot at h
  cases hlaunch : launch req outcome with
  | error e => rw [hlaunch] at h; cases h
  | ok out =>
    rw [hlaunch] at h
    cases h
    exact ⟨rfl, rfl⟩

/-- **What handling an assignment does**, in every case. -/
theorem handled (store : LocalStore) (a : Proto.Assignment)
    (outcome : Except String LaunchOutcome) :
    Handled store a (handleAssignment store a outcome).1 (handleAssignment store a outcome).2 := by
  unfold handleAssignment
  split
  case h_2 hmalformed =>
    apply Handled.refused
    cases hm : a.machine with
    | none => exact Or.inl (by simp [Proto.Assignment.uid, hm])
    | some m =>
      obtain ⟨ref, spec, status⟩ := m
      cases ref with
      | none => exact Or.inl (by simp [Proto.Assignment.uid, hm])
      | some ref =>
        cases spec with
        | none => exact Or.inr (by simp)
        | some spec => exact absurd hm (hmalformed ref spec status)
  case h_1 ref spec status hm =>
    have huid : a.uid = some ref.uid := by simp [Proto.Assignment.uid, hm]
    have hstarts : a.starts = spec.running := by simp [Proto.Assignment.starts, hm]
    unfold reconcileMachine
    cases hrunning : spec.running with
    | true =>
      rw [hrunning] at hstarts
      cases hruns : store.runs ref.uid with
      | true => exact .converged ref.uid huid hstarts hruns
      | false =>
        cases hboot : boot (.of ref spec) outcome with
        | error e => exact .failed ref.uid e huid hstarts hruns
        | ok machine =>
          have hm := boot_ok hboot
          exact .booted ref.uid machine _ huid hstarts hruns hm.1 hm.2
    | false =>
      rw [hrunning] at hstarts
      cases hget : store.get ref.uid with
      | none => exact .unknown ref.uid huid hstarts hget
      | some machine =>
        have hm : machine.uid = ref.uid := (Table.mem_of_lookup hget).2
        exact .stopped ref.uid _ huid hstarts (by simp [hget]) hm rfl

end MicroMachines.HostAgent
