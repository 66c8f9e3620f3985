import MicroMachines.Controller.Store

set_option autoImplicit false

/-! # The reconcile loop

`reconcile.rs`, `scheduler.rs`, `loop.rs` and `convert.rs` of `services/mm-controller/src`, and the
handlers of `grpc.rs` that take the reports of the agents.

A tick of the loop loads all machines and the capacities of the live hosts, and then goes through
the machines one by one. What it does for a machine depends on what was loaded and on nothing else,
so a tick is a list of operations (`reconcileOnce`): statements, and assignments for the agents. In
between, other programs are at work on the same tables.
-/

namespace MicroMachines.Controller

open MicroMachines.Lib

/-! ## Messages -/

namespace Proto

structure MachineRef where
  uid : Nat
  ns : String
  deriving DecidableEq, Repr

structure MachineSpec where
  image : String
  kernel : String
  vcpus : Nat
  memoryMib : Nat
  ssh : Bool
  workload : Option Workload
  netMode : String
  running : Bool
  deriving DecidableEq, Repr

structure MachineStatus where
  state : Int
  ip : String
  health : String
  hostId : String
  retryCount : Nat
  deriving DecidableEq, Repr

structure Machine where
  ref : Option MachineRef
  spec : Option MachineSpec
  status : Option MachineStatus
  deriving DecidableEq, Repr

structure Assignment where
  machine : Option Machine
  deriving DecidableEq, Repr

structure Capacity where
  hostId : String
  vcpusTotal : Nat
  vcpusFree : Nat
  memMibTotal : Nat
  memMibFree : Nat
  deriving DecidableEq, Repr

structure MachineEvent where
  uid : Nat
  state : Int
  message : String
  ip : String
  deriving DecidableEq, Repr

end Proto

/-- `State::ALL`. -/
def MachineState.all : List MachineState :=
  [.created, .preparing, .starting, .running, .paused, .stopping, .stopped, .failed, .destroying,
    .destroyed]

/-- `api_state_to_proto`. -/
def apiStateToProto (state : MachineState) : Int := MachineState.all.findIdx (fun s => s = state)

/-- `proto_state_name`; the name of a state stands for the state. -/
def protoStateName (value : Int) : Option MachineState :=
  if 0 ≤ value then MachineState.all[value.toNat]? else none

theorem protoStateName_apiStateToProto (state : MachineState) :
    protoStateName (apiStateToProto state) = some state := by
  cases state <;> decide

/-- `machine_to_proto`. -/
def machineToProto (m : MachineRow) : Proto.Machine where
  ref := some ⟨m.uid, m.ns⟩
  spec := some {
    image := m.spec.image
    kernel := m.spec.kernel.getD ""
    vcpus := m.spec.vcpus
    memoryMib := m.spec.memoryMib
    ssh := m.spec.ssh
    workload := m.spec.workload
    netMode := "auto"
    running := m.spec.running }
  status := some {
    state := apiStateToProto m.status.state
    ip := m.status.ip.getD ""
    health := m.status.health
    hostId := m.hostId.getD ""
    retryCount := m.status.retryCount }

/-! ## The decision -/

namespace Reconcile

inductive Action where
  | none
  | assignAndStart
  | stop
  | destroy
  | retry
  deriving DecidableEq, Repr

structure Observed where
  state : MachineState
  hostAssigned : Bool
  retryCount : Nat
  deriving DecidableEq, Repr

/-- `reconcile::decide`. -/
def decide (desiredRunning specDeleted : Bool) (obs : Observed) (maxRetries : Nat) : Action :=
  if specDeleted then
    if obs.state = .destroyed then .none else .destroy
  else
    match desiredRunning, obs.state with
    | true, .running => .none
    | true, .failed => if obs.retryCount < maxRetries then .retry else .none
    | true, state =>
      if !obs.hostAssigned || state = .stopped || state = .created then .assignAndStart
      else .none
    | false, .running => .stop
    | false, _ => .none

end Reconcile

/-! ## The scheduler -/

structure HostCapacity where
  hostId : String
  vcpusFree : Nat
  memMibFree : Nat
  healthy : Bool
  deriving DecidableEq, Repr

structure Demand where
  vcpus : Nat
  memMib : Nat
  deriving DecidableEq, Repr

/-- The host is healthy and has room. -/
def HostCapacity.fits (d : Demand) (h : HostCapacity) : Bool :=
  h.healthy && d.vcpus ≤ h.vcpusFree && d.memMib ≤ h.memMibFree

/-- `max_by_key`: of several that are largest, the last one. -/
def maxByKey {α : Type} (key : α → Nat) : List α → Option α
  | [] => none
  | x :: xs => some (xs.foldl (fun best y => if key best ≤ key y then y else best) x)

/-- `scheduler::place`. -/
def place (hosts : List HostCapacity) (d : Demand) : Option HostCapacity :=
  maxByKey HostCapacity.memMibFree (hosts.filter (HostCapacity.fits d))

variable {α : Type} {hosts : List HostCapacity} {d : Demand}

/-- The loop of `max_by_key` ends with one of the elements, and none is larger. -/
theorem foldl_max_spec (key : α → Nat) (xs : List α) (best : α) :
    xs.foldl (fun best y => if key best ≤ key y then y else best) best ∈ best :: xs ∧
      ∀ y ∈ best :: xs, key y ≤ key (xs.foldl (fun best y => if key best ≤ key y then y else best) best) := by
  induction xs generalizing best with
  | nil => simp
  | cons y ys ih =>
    rw [List.foldl_cons]
    split_ifs with hle
    · obtain ⟨hmem, hmax⟩ := ih y
      refine ⟨List.mem_cons_of_mem best hmem, fun z hz => ?_⟩
      rcases List.mem_cons.mp hz with rfl | hz
      · exact hle.trans (hmax y List.mem_cons_self)
      · exact hmax z hz
    · obtain ⟨hmem, hmax⟩ := ih best
      have hbest := hmax best List.mem_cons_self
      constructor
      · rcases List.mem_cons.mp hmem with heq | hmem
        · rw [heq]
          exact List.mem_cons_self
        · exact List.mem_cons_of_mem best (List.mem_cons_of_mem y hmem)
      · intro z hz
        rcases List.mem_cons.mp hz with rfl | hz
        · exact hbest
        · rcases List.mem_cons.mp hz with rfl | hz
          · omega
          · exact hmax z (List.mem_cons_of_mem best hz)

theorem maxByKey_spec {key : α → Nat} {xs : List α} {x : α}
    (h : maxByKey key xs = some x) : x ∈ xs ∧ ∀ y ∈ xs, key y ≤ key x := by
  cases xs with
  | nil => cases h
  | cons a xs =>
    cases h
    exact foldl_max_spec key xs a

theorem maxByKey_eq_none {key : α → Nat} {xs : List α} : maxByKey key xs = none ↔ xs = [] := by
  cases xs <;> simp [maxByKey]

/-- A machine is placed on a host of the list that has room for it. -/
theorem place_fits {h : HostCapacity} (hplace : place hosts d = some h) :
    h ∈ hosts ∧ d.vcpus ≤ h.vcpusFree ∧ d.memMib ≤ h.memMibFree := by
  have hmem := List.mem_filter.mp (maxByKey_spec hplace).1
  have hfits := hmem.2
  simp [HostCapacity.fits] at hfits
  exact ⟨hmem.1, hfits.1.2, hfits.2⟩

/-- No two of the hosts that have room share the largest free memory. -/
def NoTie (hosts : List HostCapacity) (d : Demand) : Prop :=
  ∀ h₁ ∈ hosts, ∀ h₂ ∈ hosts, h₁.fits d = true → h₂.fits d = true → h₁.memMibFree = h₂.memMibFree →
    (∀ h ∈ hosts, h.fits d = true → h.memMibFree ≤ h₁.memMibFree) → h₁.hostId = h₂.hostId

instance (hosts : List HostCapacity) (d : Demand) : Decidable (NoTie hosts d) :=
  inferInstanceAs (Decidable (∀ _ ∈ _, ∀ _ ∈ _, _))

theorem place_spec {h : HostCapacity} (hplace : place hosts d = some h) :
    h ∈ hosts ∧ h.fits d = true ∧ ∀ h' ∈ hosts, h'.fits d = true → h'.memMibFree ≤ h.memMibFree := by
  obtain ⟨hmem, hmax⟩ := maxByKey_spec hplace
  obtain ⟨hhost, hfits⟩ := List.mem_filter.mp hmem
  exact ⟨hhost, hfits, fun h' hh' hfits' => hmax h' (List.mem_filter.mpr ⟨hh', hfits'⟩)⟩

theorem place_eq_none : place hosts d = none ↔ ∀ h ∈ hosts, h.fits d = false := by
  simp [place, maxByKey_eq_none, List.filter_eq_nil_iff]

/-- The capacity in a row of `hosts`. -/
structure CapacityRow where
  vcpusTotal : Nat
  vcpusFree : Nat
  memMibTotal : Nat
  memMibFree : Nat
  deriving DecidableEq, Repr

structure HostRow where
  hostId : String
  capacity : CapacityRow
  deriving DecidableEq, Repr

/-- `INSERT INTO hosts ... ON CONFLICT (host_id) DO UPDATE SET capacity = $2, ...`. -/
def upsertHost (hostId : String) (capacity : CapacityRow) (hosts : List HostRow) : List HostRow :=
  if hosts.any (fun h => h.hostId = hostId) then
    hosts.map (fun h => if h.hostId = hostId then { h with capacity := capacity } else h)
  else hosts ++ [⟨hostId, capacity⟩]

/-- `report_capacity`. -/
def reportCapacity (cap : Proto.Capacity) (hosts : List HostRow) : List HostRow :=
  upsertHost cap.hostId ⟨cap.vcpusTotal, cap.vcpusFree, cap.memMibTotal, cap.memMibFree⟩ hosts

/-- `load_host_capacities`, of the rows that are live. -/
def loadHostCapacities (live : List HostRow) : List HostCapacity :=
  live.map (fun h => ⟨h.hostId, h.capacity.vcpusFree, h.capacity.memMibFree, true⟩)

/-- `report_event`. An unknown state is refused. -/
def reportEvent (ev : Proto.MachineEvent) (db : Db) : Db :=
  match protoStateName ev.state with
  | none => db
  | some state =>
    if ev.ip = "" then ((setObservedState ev.uid state).eval db).2
    else ((setObserved ev.uid state ev.ip).eval db).2

/-! ## A tick -/

def MAX_RETRIES : Nat := 3

/-- What a tick does, one thing at a time. -/
inductive Op where
  | incrementRetry (uid : Nat)
  | assignHost (uid : Nat) (hostId : String)
  | send (hostId : String) (assignment : Proto.Assignment)
  deriving DecidableEq, Repr

/-- What `reconcile_once` decides for a machine. -/
def MachineRow.action (m : MachineRow) : Reconcile.Action :=
  Reconcile.decide m.spec.running false ⟨m.status.state, m.hostId.isSome, m.status.retryCount⟩
    MAX_RETRIES

def MachineRow.demand (m : MachineRow) : Demand := ⟨m.spec.vcpus, m.spec.memoryMib⟩

/-- The host of a machine that is to be started: where it is, or where there is room. -/
def MachineRow.target (hosts : List HostCapacity) (m : MachineRow) : Option String :=
  match m.hostId with
  | some host => some host
  | none => (place hosts m.demand).map HostCapacity.hostId

/-- The assignment that starts a machine on a host. -/
def MachineRow.startAssignment (m : MachineRow) (host : String) : Proto.Assignment :=
  ⟨some (machineToProto { m with spec := { m.spec with running := true }, hostId := some host })⟩

/-- The assignment that stops it. -/
def MachineRow.stopAssignment (m : MachineRow) : Proto.Assignment :=
  ⟨some (machineToProto { m with spec := { m.spec with running := false } })⟩

/-- Place a machine if it is not placed yet, and tell the agent to start it. -/
def startOps (hosts : List HostCapacity) (m : MachineRow) : List Op :=
  match m.target hosts with
  | none => []
  | some host =>
    (if m.hostId ≠ some host then [.assignHost m.uid host] else []) ++
      [.send host (m.startAssignment host)]

/-- What a tick does for a machine. -/
def machineOps (hosts : List HostCapacity) (m : MachineRow) : List Op :=
  match m.action with
  | .assignAndStart => startOps hosts m
  | .retry => .incrementRetry m.uid :: startOps hosts m
  | .stop =>
    match m.hostId with
    | some host => [.send host m.stopAssignment]
    | none => []
  | .destroy => []
  | .none => []

/-- `reconcile_once`, for the machines and hosts that it has loaded. -/
def reconcileOnce (machines : List MachineRow) (hosts : List HostCapacity) : List Op :=
  machines.flatMap (machineOps hosts)

/-! ## What an operation can be -/

/-- The machine that an assignment is about. -/
def Proto.Assignment.uid (a : Proto.Assignment) : Option Nat :=
  a.machine.bind (fun m => m.ref.map Proto.MachineRef.uid)

/-- An assignment that starts its machine. -/
def Proto.Assignment.starts (a : Proto.Assignment) : Bool :=
  (a.machine.bind Proto.Machine.spec).any Proto.MachineSpec.running

@[simp] theorem starts_startAssignment (m : MachineRow) (host : String) :
    (m.startAssignment host).starts = true := rfl

@[simp] theorem starts_stopAssignment (m : MachineRow) : m.stopAssignment.starts = false := rfl

/-- There is a machine with a reference and a specification. -/
def Proto.Assignment.complete (a : Proto.Assignment) : Bool :=
  a.uid.isSome && (a.machine.bind Proto.Machine.spec).isSome

/-- A tick tries to start the machine. -/
def MachineRow.starts (m : MachineRow) : Bool := m.action = .assignAndStart || m.action = .retry

/-- A machine that a tick tries to start has not been seen running. -/
theorem state_of_starts {m : MachineRow} (h : m.starts = true) : m.status.state ≠ .running := by
  intro hstate
  unfold MachineRow.starts MachineRow.action Reconcile.decide at h
  cases hrunning : m.spec.running <;> simp [hstate, hrunning] at h

/-- A machine that a tick stops has been seen running. -/
theorem state_of_stop {m : MachineRow} (h : m.action = .stop) : m.status.state = .running := by
  unfold MachineRow.action Reconcile.decide at h
  cases hrunning : m.spec.running <;> cases hstate : m.status.state <;>
    simp [hrunning, hstate] at h ⊢
  all_goals split at h <;> cases h

/-- What a tick can do for a machine. -/
inductive Plan (hosts : List HostCapacity) (m : MachineRow) : List Op → Prop where
  | nothing : Plan hosts m []
  /-- A retry is counted before the start. -/
  | retry {ops : List Op} (h : Plan hosts m ops) : Plan hosts m (.incrementRetry m.uid :: ops)
  | start (host : String) (hhost : m.hostId = some host) (hstarts : m.starts = true) :
      Plan hosts m [.send host (m.startAssignment host)]
  | place (h : HostCapacity) (hhost : m.hostId = none) (hplace : place hosts m.demand = some h)
      (hstarts : m.starts = true) :
      Plan hosts m [.assignHost m.uid h.hostId, .send h.hostId (m.startAssignment h.hostId)]
  | stop (host : String) (hhost : m.hostId = some host) (hstop : m.action = .stop) :
      Plan hosts m [.send host m.stopAssignment]

theorem plan_startOps (hosts : List HostCapacity) (m : MachineRow) (hstarts : m.starts = true) :
    Plan hosts m (startOps hosts m) := by
  unfold startOps MachineRow.target
  cases hhost : m.hostId with
  | some host => simpa using Plan.start host hhost hstarts
  | none =>
    cases hplace : place hosts m.demand with
    | none => exact .nothing
    | some h => simpa using Plan.place h hhost hplace hstarts

/-- **What a tick does for a machine**, in every case. -/
theorem plan_machineOps (hosts : List HostCapacity) (m : MachineRow) :
    Plan hosts m (machineOps hosts m) := by
  unfold machineOps
  cases haction : m.action with
  | none | destroy => exact .nothing
  | stop =>
    cases hhost : m.hostId with
    | some host => exact .stop host hhost haction
    | none => exact .nothing
  | assignAndStart => exact plan_startOps hosts m (by simp [MachineRow.starts, haction])
  | retry => exact .retry (plan_startOps hosts m (by simp [MachineRow.starts, haction]))

end MicroMachines.Controller
