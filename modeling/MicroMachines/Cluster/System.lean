import MicroMachines.Lib.Runs
import MicroMachines.HostAgent.Assignments

set_option autoImplicit false

/-! # The cluster: controller and agents

The tables, the reconcile loop and the agents of all hosts, with what is on its way between them.

* Requests are the statements of the REST handlers; they come at any time.
* A tick of the loop reads the machines, then the hosts, and then carries out its operations one by
  one. Anything can happen in between.
* Assignments for a host wait in a queue (`links`). The agent takes them one after the other.
* What an agent reports waits in its `outbox` until the controller has taken it. A report is on its
  way as soon as the record has been written.

Whatever can go wrong is an action of its own: a tick that is given up, an assignment or a report
that is lost, a record that disappears.
-/

namespace MicroMachines.Cluster

open MicroMachines.Lib MicroMachines.Controller MicroMachines.HostAgent

/-! ## The machines table -/

/-- The row with a `uid`. -/
def row (db : Db) (uid : Nat) : Option MachineRow := Table.lookup MachineRow.uid db.machines uid

/-- Where a machine is placed. -/
def hostOf (db : Db) (uid : Nat) : Option String := (row db uid).bind MachineRow.hostId

/-- `PRIMARY KEY (uid)`. -/
def Keyed (db : Db) : Prop := (db.machines.map MachineRow.uid).Nodup

/-- Change every row. -/
def edit (g : MachineRow → MachineRow) (db : Db) : Db := { db with machines := db.machines.map g }

theorem hostOf_of_mem {db : Db} (hkeyed : Keyed db) {m : MachineRow} (h : m ∈ db.machines) :
    hostOf db m.uid = m.hostId := by
  have hrow : row db m.uid = some m := Table.lookup_of_mem hkeyed h
  rw [hostOf, hrow, Option.bind_some]

theorem row_edit {g : MachineRow → MachineRow} (hg : ∀ m, (g m).uid = m.uid) (db : Db)
    (uid : Nat) : row (edit g db) uid = (row db uid).map g :=
  Table.lookup_map hg db.machines uid

theorem keyed_edit {g : MachineRow → MachineRow} (hg : ∀ m, (g m).uid = m.uid) {db : Db}
    (h : Keyed db) : Keyed (edit g db) := by
  unfold Keyed edit
  rw [Table.keys_map hg]
  exact h

theorem hostOf_edit {g : MachineRow → MachineRow} (hg : ∀ m, (g m).uid = m.uid)
    (hhost : ∀ m, (g m).hostId = m.hostId) (db : Db) : hostOf (edit g db) = hostOf db := by
  funext uid
  unfold hostOf
  rw [row_edit hg]
  cases row db uid with
  | none => rfl
  | some m => simp [hhost]

/-! The statements, as changes of rows. -/

/-- What `set_running` does to a row. -/
def desire (ns name : String) (running : Bool) (m : MachineRow) : MachineRow :=
  if MachineRow.isAt ns name m then { m with spec := { m.spec with running := running } } else m

theorem setRunning_eval (ns name : String) (running : Bool) (db : Db) :
    ((setRunning ns name running).eval db).2 = edit (desire ns name running) db := rfl

/-- What `assign_host` does to a row. -/
def settle (uid : Nat) (host : String) (m : MachineRow) : MachineRow :=
  if m.uid = uid then { m with hostId := some host } else m

theorem assignHost_eval (uid : Nat) (host : String) (db : Db) :
    ((assignHost uid host).eval db).2 = edit (settle uid host) db := rfl

/-- What `increment_retry_count` does to a row. -/
def countRetry (uid : Nat) (m : MachineRow) : MachineRow :=
  if m.uid = uid then
    { m with status := { m.status with retryCount := m.status.retryCount + 1 } }
  else m

theorem incrementRetryCount_eval (uid : Nat) (db : Db) :
    ((incrementRetryCount uid).eval db).2 = edit (countRetry uid) db := rfl

/-- What `report_event` does to a row. -/
def observe (ev : Proto.MachineEvent) (m : MachineRow) : MachineRow :=
  match protoStateName ev.state with
  | none => m
  | some state =>
    if m.uid = ev.uid then
      { m with status := { m.status with
          state := state
          ip := if ev.ip = "" then m.status.ip else some ev.ip } }
    else m

theorem reportEvent_eq (ev : Proto.MachineEvent) (db : Db) :
    reportEvent ev db = edit (observe ev) db := by
  unfold reportEvent edit observe
  cases hstate : protoStateName ev.state with
  | none => simp
  | some state =>
    by_cases hip : ev.ip = ""
    · simp only [hip, if_true]
      rfl
    · simp only [hip, if_false]
      rfl

@[simp] theorem desire_uid (ns name : String) (running : Bool) (m : MachineRow) :
    (desire ns name running m).uid = m.uid := by
  unfold desire
  split <;> rfl

@[simp] theorem desire_hostId (ns name : String) (running : Bool) (m : MachineRow) :
    (desire ns name running m).hostId = m.hostId := by
  unfold desire
  split <;> rfl

@[simp] theorem desire_status (ns name : String) (running : Bool) (m : MachineRow) :
    (desire ns name running m).status = m.status := by
  unfold desire
  split <;> rfl

@[simp] theorem settle_uid (uid : Nat) (host : String) (m : MachineRow) :
    (settle uid host m).uid = m.uid := by
  unfold settle
  split <;> rfl

@[simp] theorem settle_status (uid : Nat) (host : String) (m : MachineRow) :
    (settle uid host m).status = m.status := by
  unfold settle
  split <;> rfl

@[simp] theorem settle_spec (uid : Nat) (host : String) (m : MachineRow) :
    (settle uid host m).spec = m.spec := by
  unfold settle
  split <;> rfl

@[simp] theorem countRetry_uid (uid : Nat) (m : MachineRow) : (countRetry uid m).uid = m.uid := by
  unfold countRetry
  split <;> rfl

@[simp] theorem countRetry_hostId (uid : Nat) (m : MachineRow) :
    (countRetry uid m).hostId = m.hostId := by
  unfold countRetry
  split <;> rfl

@[simp] theorem countRetry_spec (uid : Nat) (m : MachineRow) :
    (countRetry uid m).spec = m.spec := by
  unfold countRetry
  split <;> rfl

@[simp] theorem countRetry_state (uid : Nat) (m : MachineRow) :
    (countRetry uid m).status.state = m.status.state := by
  unfold countRetry
  split <;> rfl

@[simp] theorem observe_uid (ev : Proto.MachineEvent) (m : MachineRow) :
    (observe ev m).uid = m.uid := by
  unfold observe
  split
  · rfl
  · split <;> rfl

@[simp] theorem observe_hostId (ev : Proto.MachineEvent) (m : MachineRow) :
    (observe ev m).hostId = m.hostId := by
  unfold observe
  split
  · rfl
  · split <;> rfl

@[simp] theorem observe_spec (ev : Proto.MachineEvent) (m : MachineRow) :
    (observe ev m).spec = m.spec := by
  unfold observe
  split
  · rfl
  · split <;> rfl

/-- A machine that is placed has the host it was given. -/
theorem hostOf_settle {db : Db} {uid : Nat} (hknown : (row db uid).isSome = true) (host : String) :
    hostOf (edit (settle uid host) db) = Function.update (hostOf db) uid (some host) := by
  funext v
  unfold hostOf
  rw [row_edit (settle_uid uid host)]
  obtain ⟨m, hm⟩ := Option.isSome_iff_exists.mp hknown
  by_cases hv : v = uid
  · subst hv
    rw [Function.update_self, hm]
    simp [settle, (Table.mem_of_lookup hm).2]
  · rw [Function.update_of_ne hv]
    cases hrow : row db v with
    | none => rfl
    | some n =>
      have hn : n.uid ≠ uid := by rw [(Table.mem_of_lookup hrow).2]; exact hv
      simp [settle, hn]

/-- The row of a new machine. -/
def fresh (ns fleet name : String) (spec : MachineSpec) (uid : Nat) : MachineRow :=
  ⟨uid, ns, fleet, name, spec, {}, none⟩

/-- The table with a row more. -/
def append (m : MachineRow) (db : Db) : Db := { db with machines := db.machines ++ [m] }

/-- A row is added, under a `uid` that no row has, or nothing happens. -/
theorem createMachine_cases (ns fleet name : String) (spec : MachineSpec) (uid : Nat) (db : Db) :
    ((createMachine ns fleet name spec uid).eval db).2 = db ∨
      row db uid = none ∧ ((createMachine ns fleet name spec uid).eval db).2 =
        append (fresh ns fleet name spec uid) db := by
  have heval : ((createMachine ns fleet name spec uid).eval db).2 =
      if db.machineClash uid ns fleet name then db
      else if ns ∈ db.namespaces then append (fresh ns fleet name spec uid) db
      else db := rfl
  rw [heval]
  by_cases hclash : db.machineClash uid ns fleet name = true
  · exact Or.inl (if_pos hclash)
  · rw [if_neg hclash]
    by_cases hns : ns ∈ db.namespaces
    · refine Or.inr ⟨?_, if_pos hns⟩
      refine Table.lookup_eq_none.mpr ?_
      intro m hm huid
      apply hclash
      unfold Db.machineClash
      rw [List.any_eq_true]
      exact ⟨m, hm, by simp [huid]⟩
    · exact Or.inl (if_neg hns)

theorem row_append {db : Db} {m : MachineRow} (hfresh : row db m.uid = none) (uid : Nat) :
    row (append m db) uid = if uid = m.uid then some m else row db uid :=
  Table.lookup_concat hfresh uid

theorem keyed_append {db : Db} {m : MachineRow} (hfresh : row db m.uid = none) (h : Keyed db) :
    Keyed (append m db) :=
  Table.keys_concat hfresh h

theorem hostOf_append {db : Db} {m : MachineRow} (hfresh : row db m.uid = none)
    (hhost : m.hostId = none) : hostOf (append m db) = hostOf db := by
  funext uid
  unfold hostOf
  rw [row_append hfresh]
  by_cases huid : uid = m.uid
  · subst huid
    rw [if_pos rfl, hfresh, Option.bind_some, hhost, Option.bind_none]
  · rw [if_neg huid]

/-- What `delete_machine` leaves. -/
def remove (ns name : String) (db : Db) : Db :=
  { db with machines := db.machines.filter (fun m => !MachineRow.isAt ns name m) }

theorem deleteMachine_eval (ns name : String) (db : Db) :
    ((deleteMachine ns name).eval db).2 = remove ns name db := rfl

theorem keyed_remove {db : Db} (ns name : String) (h : Keyed db) : Keyed (remove ns name db) :=
  h.sublist (List.filter_sublist.map _)

theorem row_remove {db : Db} (hkeyed : Keyed db) (ns name : String) (uid : Nat) :
    row (remove ns name db) uid = (row db uid).filter (fun m => !MachineRow.isAt ns name m) :=
  Table.lookup_filter hkeyed _ uid

/-! ## The state -/

/-- A call of an agent to the controller. -/
inductive Report where
  | event (ev : Proto.MachineEvent)
  | capacity (cap : Proto.Capacity)
  deriving DecidableEq, Repr

/-- An agent, with the calls that the controller has not taken yet. -/
structure Agent where
  resources : HostResources
  store : LocalStore
  outbox : List Report
  deriving DecidableEq, Repr

/-- How far the loop is. -/
inductive Tick where
  | idle
  | loaded (machines : List MachineRow)
  | acting (hosts : List HostCapacity) (ops : List Op)
  deriving DecidableEq, Repr

structure State where
  db : Db
  hosts : List HostRow
  tick : Tick
  links : String → List Proto.Assignment
  agents : String → Agent

/-- No machines, and nothing on its way. -/
def State.init (namespaces : List String) (resources : String → HostResources) : State where
  db := { Db.empty with namespaces := namespaces }
  hosts := []
  tick := .idle
  links := fun _ => []
  agents := fun host => ⟨resources host, [], []⟩

inductive Action where
  | create (ns fleet name : String) (spec : MachineSpec) (uid : Nat)
  | setRunning (ns name : String) (running : Bool)
  | delete (ns name : String)
  /-- The loop reads the machines, in some order. -/
  | loadMachines (machines : List MachineRow)
  /-- It reads the hosts that are alive. -/
  | loadHosts (live : List HostRow)
  /-- It carries out the next operation. An assignment may not get into the queue. -/
  | act (delivered : Bool)
  /-- A statement of the loop fails. -/
  | abandon
  /-- An assignment in the queue is lost. -/
  | lose (host : String) (i : Nat)
  /-- The agent takes an assignment; `outcome` is that of a launch. -/
  | handle (host : String) (outcome : Except String LaunchOutcome)
  /-- The agent reports its capacity. -/
  | report (host : String)
  /-- The controller takes a report. -/
  | deliver (host : String)
  /-- A report is lost. -/
  | drop (host : String)
  /-- A record disappears. -/
  | forget (host : String) (uid : Nat)
  deriving DecidableEq, Repr

namespace State

/-- An operation of the loop. -/
def perform (c : State) (delivered : Bool) : Op → State
  | .incrementRetry uid => { c with db := ((incrementRetryCount uid).eval c.db).2 }
  | .assignHost uid host => { c with db := ((assignHost uid host).eval c.db).2 }
  | .send host a =>
    if delivered then { c with links := Function.update c.links host (c.links host ++ [a]) }
    else c

/-- The controller takes a report. -/
def receive (c : State) : Report → State
  | .event ev => { c with db := reportEvent ev c.db }
  | .capacity cap => { c with hosts := reportCapacity cap c.hosts }

def setAgent (c : State) (host : String) (agent : Agent) : State :=
  { c with agents := Function.update c.agents host agent }

def step (c : State) : Action → Option State
  | .create ns fleet name spec uid =>
    some { c with db := ((createMachine ns fleet name spec uid).eval c.db).2 }
  | .setRunning ns name running => some { c with db := ((setRunning ns name running).eval c.db).2 }
  | .delete ns name => some { c with db := ((deleteMachine ns name).eval c.db).2 }
  | .loadMachines machines =>
    match c.tick with
    | .idle => if machines.Perm c.db.machines then some { c with tick := .loaded machines } else none
    | _ => none
  | .loadHosts live =>
    match c.tick with
    | .loaded machines =>
      if live.Subperm c.hosts then
        let hosts := loadHostCapacities live
        some { c with tick := .acting hosts (reconcileOnce machines hosts) }
      else none
    | _ => none
  | .act delivered =>
    match c.tick with
    | .acting hosts (op :: ops) =>
      some { c.perform delivered op with tick := .acting hosts ops }
    | .acting _ [] => some { c with tick := .idle }
    | _ => none
  | .abandon => some { c with tick := .idle }
  | .lose host i =>
    some { c with links := Function.update c.links host ((c.links host).eraseIdx i) }
  | .handle host outcome =>
    match c.links host with
    | [] => none
    | a :: rest =>
      let agent := c.agents host
      let handled := handleAssignment agent.store a outcome
      some { c.setAgent host { agent with
          store := handled.1
          outbox := agent.outbox ++ handled.2.map Report.event } with
        links := Function.update c.links host rest }
  | .report host =>
    let agent := c.agents host
    let cap := currentCapacity agent.store agent.resources host
    some (c.setAgent host { agent with outbox := agent.outbox ++ [.capacity cap] })
  | .deliver host =>
    match (c.agents host).outbox with
    | [] => none
    | report :: rest =>
      some ((c.receive report).setAgent host { c.agents host with outbox := rest })
  | .drop host =>
    match (c.agents host).outbox with
    | [] => none
    | _ :: rest => some (c.setAgent host { c.agents host with outbox := rest })
  | .forget host uid =>
    let agent := c.agents host
    some (c.setAgent host { agent with store := agent.store.delete uid })

end State

/-! ## What a step can do -/

/-- The steps, one rule for each thing that can happen. -/
inductive Step (c : State) : Action → State → Prop where
  | created (ns fleet name : String) (spec : MachineSpec) (uid : Nat)
      (hfresh : row c.db uid = none) : Step c (.create ns fleet name spec uid)
      { c with db := append (fresh ns fleet name spec uid) c.db }
  | refused (ns fleet name : String) (spec : MachineSpec) (uid : Nat) :
      Step c (.create ns fleet name spec uid) c
  | desired (ns name : String) (running : Bool) :
      Step c (.setRunning ns name running) { c with db := edit (desire ns name running) c.db }
  | deleted (ns name : String) : Step c (.delete ns name) { c with db := remove ns name c.db }
  | read (machines : List MachineRow) (htick : c.tick = .idle)
      (hperm : machines.Perm c.db.machines) :
      Step c (.loadMachines machines) { c with tick := .loaded machines }
  | planned (live : List HostRow) (machines : List MachineRow) (htick : c.tick = .loaded machines)
      (hlive : live.Subperm c.hosts) : Step c (.loadHosts live) { c with
        tick := .acting (loadHostCapacities live)
          (reconcileOnce machines (loadHostCapacities live)) }
  | counted (delivered : Bool) (hosts : List HostCapacity) (uid : Nat) (ops : List Op)
      (htick : c.tick = .acting hosts (.incrementRetry uid :: ops)) :
      Step c (.act delivered) { c with db := edit (countRetry uid) c.db, tick := .acting hosts ops }
  | placed (delivered : Bool) (hosts : List HostCapacity) (uid : Nat) (host : String)
      (ops : List Op) (htick : c.tick = .acting hosts (.assignHost uid host :: ops)) :
      Step c (.act delivered)
        { c with db := edit (settle uid host) c.db, tick := .acting hosts ops }
  | sent (hosts : List HostCapacity) (host : String) (a : Proto.Assignment) (ops : List Op)
      (htick : c.tick = .acting hosts (.send host a :: ops)) : Step c (.act true) { c with
        links := Function.update c.links host (c.links host ++ [a])
        tick := .acting hosts ops }
  | unsent (hosts : List HostCapacity) (host : String) (a : Proto.Assignment) (ops : List Op)
      (htick : c.tick = .acting hosts (.send host a :: ops)) :
      Step c (.act false) { c with tick := .acting hosts ops }
  | finished (delivered : Bool) (hosts : List HostCapacity) (htick : c.tick = .acting hosts []) :
      Step c (.act delivered) { c with tick := .idle }
  | abandoned : Step c .abandon { c with tick := .idle }
  | lost (host : String) (i : Nat) : Step c (.lose host i)
      { c with links := Function.update c.links host ((c.links host).eraseIdx i) }
  | handled (host : String) (outcome : Except String LaunchOutcome) (a : Proto.Assignment)
      (rest : List Proto.Assignment) (store : LocalStore) (events : List Proto.MachineEvent)
      (hlink : c.links host = a :: rest) (h : Handled (c.agents host).store a store events) :
      Step c (.handle host outcome) { c with
        links := Function.update c.links host rest
        agents := Function.update c.agents host { c.agents host with
          store := store
          outbox := (c.agents host).outbox ++ events.map Report.event } }
  | reported (host : String) (cap : Proto.Capacity) : Step c (.report host) { c with
      agents := Function.update c.agents host { c.agents host with
        outbox := (c.agents host).outbox ++ [.capacity cap] } }
  | observed (host : String) (ev : Proto.MachineEvent) (rest : List Report)
      (houtbox : (c.agents host).outbox = .event ev :: rest) : Step c (.deliver host) { c with
        db := edit (observe ev) c.db
        agents := Function.update c.agents host { c.agents host with outbox := rest } }
  | measured (host : String) (cap : Proto.Capacity) (rest : List Report)
      (houtbox : (c.agents host).outbox = .capacity cap :: rest) :
      Step c (.deliver host) { c with
        hosts := reportCapacity cap c.hosts
        agents := Function.update c.agents host { c.agents host with outbox := rest } }
  | dropped (host : String) (report : Report) (rest : List Report)
      (houtbox : (c.agents host).outbox = report :: rest) : Step c (.drop host) { c with
        agents := Function.update c.agents host { c.agents host with outbox := rest } }
  | forgotten (host : String) (uid : Nat) : Step c (.forget host uid) { c with
      agents := Function.update c.agents host { c.agents host with
        store := (c.agents host).store.delete uid } }

/-- **Every step follows one of the rules.** -/
theorem step_cases {c c' : State} {a : Action} (h : c.step a = some c') : Step c a c' := by
  cases a with
  | create ns fleet name spec uid =>
    cases h
    rcases createMachine_cases ns fleet name spec uid c.db with hsame | ⟨hfresh, happend⟩
    · rw [hsame]
      exact .refused ns fleet name spec uid
    · rw [happend]
      exact .created ns fleet name spec uid hfresh
  | setRunning ns name running =>
    cases h
    rw [setRunning_eval]
    exact .desired ns name running
  | delete ns name =>
    cases h
    rw [deleteMachine_eval]
    exact .deleted ns name
  | loadMachines machines =>
    cases htick : c.tick with
    | idle =>
      by_cases hperm : machines.Perm c.db.machines
      · simp only [State.step, htick, if_pos hperm] at h
        cases h
        exact .read machines htick hperm
      · simp [State.step, htick, hperm] at h
    | loaded _ | acting _ _ => simp [State.step, htick] at h
  | loadHosts live =>
    cases htick : c.tick with
    | idle | acting _ _ => simp [State.step, htick] at h
    | loaded machines =>
      by_cases hlive : live.Subperm c.hosts
      · simp only [State.step, htick, if_pos hlive] at h
        cases h
        exact .planned live machines htick hlive
      · simp [State.step, htick, hlive] at h
  | act delivered =>
    cases htick : c.tick with
    | idle | loaded _ => simp [State.step, htick] at h
    | acting hosts ops =>
      cases ops with
      | nil =>
        simp only [State.step, htick] at h
        cases h
        exact .finished delivered hosts htick
      | cons op ops =>
        simp only [State.step, htick] at h
        cases h
        cases op with
        | incrementRetry uid =>
          rw [State.perform, incrementRetryCount_eval]
          exact .counted delivered hosts uid ops htick
        | assignHost uid host =>
          rw [State.perform, assignHost_eval]
          exact .placed delivered hosts uid host ops htick
        | send host a =>
          cases delivered with
          | true => exact .sent hosts host a ops htick
          | false => exact .unsent hosts host a ops htick
  | abandon =>
    cases h
    exact .abandoned
  | lose host i =>
    cases h
    exact .lost host i
  | handle host outcome =>
    cases hlink : c.links host with
    | nil => simp [State.step, hlink] at h
    | cons a rest =>
      simp only [State.step, hlink] at h
      cases h
      exact .handled host outcome a rest _ _ hlink (HostAgent.handled _ a outcome)
  | report host =>
    cases h
    exact .reported host _
  | deliver host =>
    cases houtbox : (c.agents host).outbox with
    | nil => simp [State.step, houtbox] at h
    | cons report rest =>
      simp only [State.step, houtbox] at h
      cases h
      cases report with
      | event ev =>
        have hstep := Step.observed host ev rest houtbox
        rw [← reportEvent_eq] at hstep
        exact hstep
      | capacity cap => exact .measured host cap rest houtbox
  | drop host =>
    cases houtbox : (c.agents host).outbox with
    | nil => simp [State.step, houtbox] at h
    | cons report rest =>
      simp only [State.step, houtbox] at h
      cases h
      exact .dropped host report rest houtbox
  | forget host uid =>
    cases h
    exact .forgotten host uid

/-! ## What a tick may still do

Between the moment a tick reads the tables and the moment it acts on what it has read, the tables
change. What stays true is that a machine is started where it is placed: nothing but the loop places
machines, and it places a machine once.
-/

/-- The operation is part of a start of the machine. -/
def Prepares (uid : Nat) : Op → Prop
  | .incrementRetry _ => False
  | .assignHost v _ => v = uid
  | .send _ a => a.starts = true ∧ a.uid = some uid

instance (uid : Nat) : DecidablePred (Prepares uid) := fun op => by
  cases op <;> unfold Prepares <;> infer_instance

/-- The operations place machines that are not placed, and start machines where they are placed.
`known` are the machines of the table and `hostOf` is where they are. -/
def Planned (known : Nat → Prop) : (Nat → Option String) → List Op → Prop
  | _, [] => True
  | hostOf, .incrementRetry _ :: ops => Planned known hostOf ops
  | hostOf, .assignHost uid host :: ops =>
    known uid ∧ hostOf uid = none ∧
      Planned known (Function.update hostOf uid (some host)) ops
  | hostOf, .send host a :: ops =>
    a.complete = true ∧ (a.starts = true → ∃ uid, a.uid = some uid ∧ hostOf uid = some host) ∧
      Planned known hostOf ops

/-- Only what is known of the machines to be started matters. -/
theorem Planned.congr {known known' : Nat → Prop} {ops : List Op} :
    ∀ {hostOf hostOf' : Nat → Option String}, (∀ uid, (∃ op ∈ ops, Prepares uid op) →
        (known uid → known' uid) ∧ hostOf' uid = hostOf uid) →
      Planned known hostOf ops → Planned known' hostOf' ops := by
  -- over the operations, since a placement changes where the rest finds the machine
  induction ops with
  | nil => intros; trivial
  | cons op ops ih =>
    intro hostOf hostOf' hagree hplanned
    have htail : ∀ uid, (∃ op ∈ ops, Prepares uid op) →
        (known uid → known' uid) ∧ hostOf' uid = hostOf uid := by
      rintro uid ⟨o, ho, hprep⟩
      exact hagree uid ⟨o, List.mem_cons_of_mem op ho, hprep⟩
    cases op with
    | incrementRetry _ => exact ih htail hplanned
    | send host a =>
      refine ⟨hplanned.1, ?_, ih htail hplanned.2.2⟩
      intro hstarts
      obtain ⟨uid, huid, hhost⟩ := hplanned.2.1 hstarts
      refine ⟨uid, huid, ?_⟩
      rw [(hagree uid ⟨_, List.mem_cons_self, hstarts, huid⟩).2, hhost]
    | assignHost uid host =>
      have hhere := hagree uid ⟨_, List.mem_cons_self, rfl⟩
      refine ⟨hhere.1 hplanned.1, hhere.2.trans hplanned.2.1, ih ?_ hplanned.2.2⟩
      intro v hv
      refine ⟨(htail v hv).1, ?_⟩
      by_cases hvu : v = uid
      · subst hvu
        rw [Function.update_self, Function.update_self]
      · rw [Function.update_of_ne hvu, Function.update_of_ne hvu, (htail v hv).2]

/-- What a tick plans for a machine does not touch any other. -/
theorem uid_of_prepares {hosts : List HostCapacity} {m : MachineRow} {ops : List Op}
    (hplan : Plan hosts m ops) {uid : Nat} {op : Op} (hop : op ∈ ops) (h : Prepares uid op) :
    uid = m.uid ∧ m.starts = true := by
  induction hplan with
  | nothing => cases hop
  | retry _ ih =>
    rcases List.mem_cons.mp hop with rfl | hop
    · exact h.elim
    · exact ih hop
  | start host _ hstarts =>
    obtain rfl := List.mem_singleton.mp hop
    exact ⟨(Option.some.inj h.2).symm, hstarts⟩
  | place cap _ _ hstarts =>
    rcases List.mem_cons.mp hop with rfl | hop
    · exact ⟨h.symm, hstarts⟩
    · obtain rfl := List.mem_singleton.mp hop
      exact ⟨(Option.some.inj h.2).symm, hstarts⟩
  | stop host _ _ =>
    obtain rfl := List.mem_singleton.mp hop
    exact absurd h.1 (by simp)

/-- A plan followed by one that is about other machines. -/
theorem planned_append {known : Nat → Prop} {hosts : List HostCapacity} {m : MachineRow}
    {ops rest : List Op} (hplan : Plan hosts m ops) {hostOf : Nat → Option String}
    (hm : m.starts = true → known m.uid ∧ hostOf m.uid = m.hostId)
    (hother : ∀ op ∈ rest, ¬ Prepares m.uid op) (hrest : Planned known hostOf rest) :
    Planned known hostOf (ops ++ rest) := by
  induction hplan with
  | nothing => exact hrest
  | retry _ ih => exact ih
  | start host hhost hstarts =>
    refine ⟨rfl, ?_, hrest⟩
    intro _
    exact ⟨m.uid, rfl, (hm hstarts).2.trans hhost⟩
  | stop host hhost hstop => exact ⟨rfl, by simp, hrest⟩
  | place cap hhost _ hstarts =>
    refine ⟨(hm hstarts).1, (hm hstarts).2.trans hhost, rfl, ?_, ?_⟩
    · intro _
      exact ⟨m.uid, rfl, Function.update_self ..⟩
    · -- the rest is about other machines, so this placement makes no difference to it
      apply Planned.congr _ hrest
      rintro v ⟨op, hop, hprep⟩
      refine ⟨id, Function.update_of_ne ?_ ..⟩
      rintro rfl
      exact hother op hop hprep

/-- The plan of a tick for all the machines that it has read. -/
theorem planned_reconcileOnce {known : Nat → Prop} {hosts : List HostCapacity}
    {machines : List MachineRow} {hostOf : Nat → Option String}
    (huids : (machines.map MachineRow.uid).Nodup)
    (hread : ∀ m ∈ machines, m.starts = true → known m.uid ∧ hostOf m.uid = m.hostId) :
    Planned known hostOf (reconcileOnce machines hosts) := by
  induction machines with
  | nil => trivial
  | cons m machines ih =>
    obtain ⟨hm, huids⟩ := List.nodup_cons.mp huids
    have hrest := ih huids (fun n hn => hread n (List.mem_cons_of_mem m hn))
    refine planned_append (plan_machineOps hosts m) (hread m List.mem_cons_self) ?_ hrest
    -- no machine is planned for twice
    intro op hop hprep
    obtain ⟨n, hn, hop⟩ := List.mem_flatMap.mp hop
    apply hm
    rw [(uid_of_prepares (plan_machineOps hosts n) hop hprep).1]
    exact List.mem_map_of_mem hn

/-- A start of the machine has been read or planned by the tick. -/
def Starting (tick : Tick) (uid : Nat) : Prop :=
  match tick with
  | .idle => False
  | .loaded machines => ∃ m ∈ machines, m.uid = uid ∧ m.starts = true
  | .acting _ ops => ∃ op ∈ ops, Prepares uid op

instance (tick : Tick) (uid : Nat) : Decidable (Starting tick uid) := by
  cases tick <;> unfold Starting <;> infer_instance

/-- The tick is up to date with the table, as far as the machines are concerned that it starts. -/
def UpToDate (db : Db) : Tick → Prop
  | .idle => True
  | .loaded machines => (machines.map MachineRow.uid).Nodup ∧
      ∀ m ∈ machines, m.starts = true → (row db m.uid).isSome = true ∧ hostOf db m.uid = m.hostId
  | .acting _ ops => Planned (fun uid => (row db uid).isSome = true) (hostOf db) ops

theorem UpToDate.congr {db db' : Db} {tick : Tick} (hagree : ∀ uid, Starting tick uid →
      ((row db uid).isSome = true → (row db' uid).isSome = true) ∧ hostOf db' uid = hostOf db uid)
    (h : UpToDate db tick) : UpToDate db' tick := by
  cases tick with
  | idle => trivial
  | loaded machines =>
    refine ⟨h.1, ?_⟩
    intro m hm hstarts
    obtain ⟨hknown, hhost⟩ := hagree m.uid ⟨m, hm, rfl, hstarts⟩
    exact ⟨hknown (h.2 m hm hstarts).1, hhost.trans (h.2 m hm hstarts).2⟩
  | acting _ ops => exact Planned.congr hagree h

/-- The keys are unique and the tick is up to date. -/
structure Orderly (c : State) : Prop where
  keyed : Keyed c.db
  upToDate : UpToDate c.db c.tick

theorem orderly_init (namespaces : List String) (resources : String → HostResources) :
    Orderly (.init namespaces resources) :=
  ⟨List.nodup_nil, trivial⟩

/-- A row may be changed, but not its key or its host. -/
theorem Orderly.edited {c c' : State} (h : Orderly c) {g : MachineRow → MachineRow}
    (hg : ∀ m, (g m).uid = m.uid) (hhost : ∀ m, (g m).hostId = m.hostId)
    (hdb : c'.db = edit g c.db) (htick : c'.tick = c.tick) : Orderly c' := by
  refine ⟨hdb ▸ keyed_edit hg h.keyed, ?_⟩
  rw [htick]
  apply h.upToDate.congr
  intro uid _
  rw [hdb, row_edit hg, hostOf_edit hg hhost]
  exact ⟨by simp, rfl⟩

/-- A machine may be removed unless it is about to be started. -/
def Deletable (c : State) : Action → Prop
  | .delete ns name => ∀ m ∈ c.db.machines, MachineRow.isAt ns name m = true → ¬ Starting c.tick m.uid
  | _ => True

instance (c : State) (a : Action) : Decidable (Deletable c a) := by
  cases a <;> unfold Deletable <;> infer_instance

/-- The invariant does not look at the hosts, the queues or the agents. -/
theorem Orderly.frame {c c' : State} (h : Orderly c) (hdb : c'.db = c.db)
    (htick : c'.tick = c.tick) : Orderly c' :=
  ⟨hdb ▸ h.keyed, hdb ▸ htick ▸ h.upToDate⟩

theorem Orderly.step {c c' : State} {a : Action} (h : Orderly c) (hP : Deletable c a)
    (hstep : Step c a c') : Orderly c' := by
  -- a tick that goes on without a change of the tables
  have hops : ∀ {hosts op ops}, c.tick = .acting hosts (op :: ops) →
      Planned (fun uid => (row c.db uid).isSome = true) (hostOf c.db) (op :: ops) := by
    intro hosts op ops htick
    have := h.upToDate
    rwa [htick] at this
  cases hstep with
  | refused _ _ _ _ _ => exact h
  | lost _ _ | handled _ _ _ _ _ _ _ _ | reported _ _ | measured _ _ _ _ | dropped _ _ _ _
  | forgotten _ _ => exact h.frame rfl rfl
  | abandoned | finished _ _ _ => exact ⟨h.keyed, trivial⟩
  | desired ns name running =>
    exact h.edited (desire_uid ns name running) (desire_hostId ns name running) rfl rfl
  | observed host ev _ _ => exact h.edited (observe_uid ev) (observe_hostId ev) rfl rfl
  | created ns fleet name spec uid hfresh =>
    refine ⟨keyed_append hfresh h.keyed, h.upToDate.congr ?_⟩
    intro v _
    refine ⟨?_, congrFun (hostOf_append hfresh rfl) v⟩
    intro hv
    show (row (append _ c.db) v).isSome = true
    rw [row_append hfresh]
    split <;> simp [hv]
  | deleted ns name =>
    refine ⟨keyed_remove ns name h.keyed, h.upToDate.congr ?_⟩
    intro v hv
    have hkept : row (remove ns name c.db) v = row c.db v := by
      rw [row_remove h.keyed]
      cases hrow : row c.db v with
      | none => rfl
      | some m =>
        obtain ⟨hm, rfl⟩ := Table.mem_of_lookup hrow
        have hat : MachineRow.isAt ns name m = false := by
          by_contra hat
          exact hP m hm (by simpa using hat) hv
        simp [hat]
    refine ⟨?_, ?_⟩
    · rw [hkept]
      exact id
    · unfold hostOf
      rw [hkept]
  | read machines htick hperm =>
    refine ⟨h.keyed, (hperm.map _).nodup_iff.mpr h.keyed, ?_⟩
    intro m hm _
    have hmem := hperm.subset hm
    have hrow : row c.db m.uid = some m := Table.lookup_of_mem h.keyed hmem
    exact ⟨by simp [hrow], hostOf_of_mem h.keyed hmem⟩
  | planned live machines htick _ =>
    have hloaded := h.upToDate
    rw [htick] at hloaded
    exact ⟨h.keyed, planned_reconcileOnce hloaded.1 hloaded.2⟩
  | counted _ hosts uid ops htick =>
    have hplanned : Orderly { c with tick := .acting hosts ops } := ⟨h.keyed, hops htick⟩
    exact hplanned.edited (countRetry_uid uid) (countRetry_hostId uid) rfl rfl
  | sent hosts host a ops htick | unsent hosts host a ops htick => exact ⟨h.keyed, (hops htick).2.2⟩
  | placed _ hosts uid host ops htick =>
    obtain ⟨hknown, hnone, hrest⟩ := hops htick
    refine ⟨keyed_edit (settle_uid uid host) h.keyed, ?_⟩
    show Planned _ (hostOf (edit (settle uid host) c.db)) ops
    rw [hostOf_settle hknown]
    apply Planned.congr _ hrest
    intro v _
    rw [row_edit (settle_uid uid host)]
    exact ⟨by simp, rfl⟩

/-! ## A small cluster -/

/-- A machine that takes six processors and is to run. -/
def webSpec : MachineSpec := { image := "alpine", vcpus := 6, running := true }

/-- Its row after it was created. -/
def web : MachineRow := fresh "default" "default" "web" webSpec 1

/-- The row of the machine when the controller has not heard of the launch. -/
def webPlaced : MachineRow := { web with hostId := some "node-1" }

/-- Hosts with eight processors and sixteen gigabytes. -/
def plainHosts : String → HostResources := fun _ => ⟨8, 16384⟩

/-- What a host reports when nothing runs on it. -/
def idleHost : HostRow := ⟨"node-1", ⟨8, 8, 16384, 16384⟩⟩

/-- A host reports, the machine is created, and a tick places it there. -/
def placing : List Action :=
  [.report "node-1", .deliver "node-1", .create "default" "default" "web" webSpec 1,
    .loadMachines [web], .loadHosts [idleHost], .act true, .act true, .act true]

/-- The agent boots it. -/
def launching : List Action :=
  placing ++ [.handle "node-1" (.ok ⟨"10.0.0.2", 7, by decide⟩)]

/-- The row when the controller has heard that it is running. -/
def webRunning : MachineRow :=
  { web with
    hostId := some "node-1"
    status := { web.status with state := .running, ip := some "10.0.0.2" } }

end MicroMachines.Cluster
