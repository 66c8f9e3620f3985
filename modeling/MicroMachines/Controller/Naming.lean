import MicroMachines.Lib.Table
import MicroMachines.Controller.Effects
import MicroMachines.Controller.Reconcile
import MicroMachines.Vmm.SnapshotStore

set_option autoImplicit false

/-! # What a name stands for

The table of machines has `UNIQUE (namespace, fleet, name)` and that of snapshots
`UNIQUE (namespace, machine, name)`. The queries leave the middle column out: a machine is
addressed by namespace and name, a snapshot by namespace and id.

* `twin_machines`, `twin_snapshots`: so one request can be about two rows. A second fleet takes the name
  of a machine; two workers read the same time for the id of a snapshot.
* `one_machine`, `one_snapshot`: as long as the rows that go in differ in the columns that are asked
  for, every request in every state is about one row.

Besides the REST requests, the reconcile loop, the reports of the agents and gRPC deletes write the rows
(`Act`).
-/

namespace MicroMachines.Controller

open MicroMachines.Lib

/-! ## The gRPC delete -/

structure Ack where
  ok : Bool
  message : String
  deriving DecidableEq, Repr

/-- `MachineSvc::delete`: look up the name, and delete by it. -/
def MachineSvc.delete (uid : Nat) : StoreM Ack :=
  Prog.bind (getMachineByUid uid) (fun machine =>
    match machine with
    | .error e => .done (.error e)
    | .ok none => .done (.ok ⟨true, "already gone"⟩)
    | .ok (some m) => Prog.bind (deleteMachine m.ns m.name) (fun affected =>
      match affected with
      | .error e => .done (.error e)
      | .ok _ => .done (.ok ⟨true, ""⟩)))

/-! ## All that writes the tables -/

inductive Act
  /-- A REST request arrives or executes a statement. -/
  | rest (e : Event)
  /-- An operation of a tick of the reconcile loop. -/
  | tick (op : Op)
  /-- An agent reports. -/
  | report (ev : Proto.MachineEvent)
  /-- The second statement of a gRPC delete, which has read a machine of this name. -/
  | remove (ns name : String)

/-- What an operation of the loop does to the tables. -/
def writeOp : Op → Db → Db
  | .incrementRetry uid, db => ((incrementRetryCount uid).eval db).2
  | .assignHost uid host, db => ((assignHost uid host).eval db).2
  | .send _ _, db => db

def act (w : World) : Act → Option World
  | .rest e => step w e
  | .tick op => some { w with db := writeOp op w.db }
  | .report ev => some { w with db := reportEvent ev w.db }
  | .remove ns name => some { w with db := ((deleteMachine ns name).eval w.db).2 }

/-! ## What a statement does to the rows -/

/-- The machine that a request is about. -/
def Request.machine : Request → Option (String × String)
  | .getMachine ns name => some (ns, name)
  | .deleteMachine ns name => some (ns, name)
  | .startMachine ns name => some (ns, name)
  | .stopMachine ns name => some (ns, name)
  | .execMachine ns name _ _ => some (ns, name)
  | .createSnapshot ns name _ _ _ _ => some (ns, name)
  | _ => none

/-- What a statement of a request can do to the machines. -/
inductive MachineEffect (req : Request) (d d' : Db) : Prop
  | same (h : d'.machines = d.machines)
  | created (ns fleet name : String) (spec : MachineSpec) (uid : Nat)
      (hreq : req = .createMachine ns fleet name spec uid)
      (hclash : d.machineClash uid ns fleet name = false)
      (h : d'.machines = d.machines ++ [⟨uid, ns, fleet, name, spec, {}, none⟩])
  | desired (ns name : String) (running : Bool) (hreq : req.machine = some (ns, name))
      (h : d'.machines = d.machines.map (fun m => if MachineRow.isAt ns name m then
        { m with spec := { m.spec with running := running } } else m))
  | removed (ns name : String) (hreq : req.machine = some (ns, name))
      (h : d'.machines = d.machines.filter (fun m => !MachineRow.isAt ns name m))

theorem handle_machineEffect (claims : Claims) (req : Request) :
    Handler.Keeps (MachineEffect req) (handle claims req) := by
  refine handle_keeps (fun d log => .same rfl) ?_
  cases req with
  | createNamespace name =>
    constructor
    · refine keeps_statement (fun d => .same ?_)
      split_ifs <;> rfl
    · refine keeps_statement (fun d => .same ?_)
      split_ifs <;> rfl
  | createMachine ns fleet name spec uid =>
    refine keeps_statement (fun d => ?_)
    by_cases hclash : d.machineClash uid ns fleet name = true
    · rw [if_pos hclash]
      exact .same rfl
    · rw [if_neg hclash]
      split_ifs
      · exact .created ns fleet name spec uid rfl (Bool.eq_false_of_not_eq_true hclash) rfl
      · exact .same rfl
  | deleteMachine ns name => exact keeps_statement (fun d => .removed ns name rfl rfl)
  | startMachine ns name => exact keeps_statement (fun d => .desired ns name true rfl rfl)
  | stopMachine ns name => exact keeps_statement (fun d => .desired ns name false rfl rfl)
  | createSnapshot ns name branch connected reply uid =>
    match reply with
    | .disconnected => trivial
    | .timedOut => trivial
    | .result false _ _ => trivial
    | .result true _ _ =>
      intro kind hostId memoryMib
      refine keeps_statement (fun d => .same ?_)
      split_ifs <;> rfl
  | deleteSnapshot ns id => exact keeps_statement (fun d => .same rfl)
  | _ => trivial

/-- The rows a request on a namespace and an id names. -/
def SnapshotRow.isAt (ns id : String) (r : SnapshotRow) : Bool := r.ns == ns && r.name == id

/-- What a statement of a request can do to the snapshots. -/
inductive SnapshotEffect (req : Request) (d d' : Db) : Prop
  | same (h : d'.snapshots = d.snapshots)
  | created (r : SnapshotRow) (branch : Bool) (connected : String → Bool) (error : String) (uid : Nat)
      (hreq : req = .createSnapshot r.ns r.machine branch connected (.result true r.name error) uid)
      (hclash : d.snapshotClash uid r.ns r.machine r.name = false)
      (h : d'.snapshots = d.snapshots ++ [r])
  | removed (ns id : String)
      (h : d'.snapshots = d.snapshots.filter (fun r => !SnapshotRow.isAt ns id r))

theorem handle_snapshotEffect (claims : Claims) (req : Request) :
    Handler.Keeps (SnapshotEffect req) (handle claims req) := by
  refine handle_keeps (fun d log => .same rfl) ?_
  cases req with
  | createNamespace name =>
    constructor
    · refine keeps_statement (fun d => .same ?_)
      split_ifs <;> rfl
    · refine keeps_statement (fun d => .same ?_)
      split_ifs <;> rfl
  | createMachine ns fleet name spec uid =>
    refine keeps_statement (fun d => .same ?_)
    split_ifs <;> rfl
  | deleteMachine ns name | startMachine ns name | stopMachine ns name => exact keeps_statement (fun d => .same rfl)
  | createSnapshot ns name branch connected reply uid =>
    match reply with
    | .disconnected => trivial
    | .timedOut => trivial
    | .result false _ _ => trivial
    | .result true id error =>
      intro kind hostId memoryMib
      refine keeps_statement (fun d => ?_)
      by_cases hclash : d.snapshotClash uid ns name id = true
      · rw [if_pos hclash]
        exact .same rfl
      · rw [if_neg hclash]
        split_ifs
        · exact .created ⟨uid, ns, name, id, kind, hostId, asI64 memoryMib, "ready"⟩ branch connected
            error uid rfl (Bool.eq_false_of_not_eq_true hclash) rfl
        · exact .same rfl
  | deleteSnapshot ns id => exact keeps_statement (fun d => .removed ns id rfl)
  | _ => trivial

/-! ## The other writers -/

/-- The columns that identify a machine. -/
def MachineRow.key (m : MachineRow) : Nat × String × String × String := (m.uid, m.ns, m.fleet, m.name)

/-- Only other columns of the machines were changed. -/
def Relabelled (d d' : Db) : Prop :=
  d'.snapshots = d.snapshots ∧
    ∃ g : MachineRow → MachineRow, (∀ m, (g m).key = m.key) ∧ d'.machines = d.machines.map g

theorem relabelled_refl (d : Db) : Relabelled d d := by
  refine ⟨rfl, id, fun m => rfl, ?_⟩
  rw [List.map_id]

theorem updateMachine_relabelled {uid : Nat} {f : MachineRow → MachineRow}
    (hf : ∀ m, (f m).key = m.key) (d : Db) : Relabelled d ((updateMachine uid f).eval d).2 := by
  refine ⟨rfl, fun m => if m.uid = uid then f m else m, fun m => ?_, rfl⟩
  dsimp only
  split_ifs
  · exact hf m
  · rfl

theorem writeOp_relabelled (op : Op) (d : Db) : Relabelled d (writeOp op d) := by
  cases op with
  | incrementRetry uid | assignHost uid host =>
    refine updateMachine_relabelled ?_ d
    exact fun m => rfl
  | send host a => exact relabelled_refl d

theorem reportEvent_relabelled (ev : Proto.MachineEvent) (d : Db) :
    Relabelled d (reportEvent ev d) := by
  unfold reportEvent
  cases protoStateName ev.state with
  | none => exact relabelled_refl d
  | some state =>
    dsimp only
    split_ifs
    · refine updateMachine_relabelled ?_ d
      exact fun m => rfl
    · refine updateMachine_relabelled ?_ d
      exact fun m => rfl

theorem isAt_of_key {m m' : MachineRow} (h : m'.key = m.key) (ns name : String) :
    MachineRow.isAt ns name m' = MachineRow.isAt ns name m := by
  simp only [MachineRow.key, Prod.mk.injEq] at h
  simp only [MachineRow.isAt, h]

/-- **One step**, as a change of the tables. -/
theorem act_cases {E : Claims → Request → Db → Db → Prop}
    (hE : ∀ claims req, Handler.Keeps (E claims req) (handle claims req)) {w w' : World} {a : Act}
    (h : w.Served E) (hs : act w a = some w') : w'.Served E ∧ (Relabelled w.db w'.db ∨
      (∃ i t, a = .rest (.exec i) ∧ w.tasks[i]? = some t ∧ E t.claims t.req w.db w'.db) ∨
      ∃ ns name, w'.db = { w.db with
        machines := w.db.machines.filter (fun m => !MachineRow.isAt ns name m) }) := by
  cases a with
  | rest e =>
    obtain ⟨htasks, ⟨hdb, -⟩ | ⟨i, t, rfl, hi, hE', -⟩⟩ := h.step hE hs
    · exact ⟨htasks, Or.inl (hdb ▸ relabelled_refl w.db)⟩
    · exact ⟨htasks, Or.inr (Or.inl ⟨i, t, rfl, hi, hE'⟩)⟩
  | tick op =>
    cases hs
    exact ⟨h, Or.inl (writeOp_relabelled op w.db)⟩
  | report ev =>
    cases hs
    exact ⟨h, Or.inl (reportEvent_relabelled ev w.db)⟩
  | remove ns name =>
    cases hs
    exact ⟨h, Or.inr (Or.inr ⟨ns, name, rfl⟩)⟩

/-! ## Machines -/

/-- A namespace and a name belong to at most one machine, and so does a uid. -/
structure MachinesNamed (db : Db) : Prop where
  names : ∀ ns name, Table.Single (MachineRow.isAt ns name) db.machines
  uids : ∀ uid, Table.Single (fun m => m.uid == uid) db.machines

/-- A request does not create a machine whose name another fleet of the namespace uses. -/
def Request.OneFleet (db : Db) : Request → Prop
  | .createMachine ns fleet name _ _ =>
    ∀ m ∈ db.machines, MachineRow.isAt ns name m = true → m.fleet = fleet
  | _ => True

instance (db : Db) : ∀ req : Request, Decidable (req.OneFleet db)
  | .createMachine ns fleet name _ _ => inferInstanceAs (Decidable (∀ m ∈ db.machines,
      MachineRow.isAt ns name m = true → m.fleet = fleet))
  | .createNamespace _ | .listNamespaces _ | .getMachine _ _ | .listMachines _ _
  | .deleteMachine _ _ | .startMachine _ _ | .stopMachine _ _ | .execMachine _ _ _ _
  | .createSnapshot _ _ _ _ _ _ | .listSnapshots _ _ _ | .deleteSnapshot _ _ => .isTrue trivial

/-- No statement creates such a machine. -/
def OneFleet (w : World) : Act → Prop
  | .rest (.exec i) => ∀ t ∈ w.tasks[i]?, t.req.OneFleet w.db
  | _ => True

instance (w : World) : ∀ a : Act, Decidable (OneFleet w a)
  | .rest (.exec i) => inferInstanceAs (Decidable (∀ t ∈ w.tasks[i]?, t.req.OneFleet w.db))
  | .rest (.submit _ _) | .rest (.fail _ _) | .tick _ | .report _ | .remove _ _ => .isTrue trivial

variable {d d' : Db} {req : Request}

theorem MachinesNamed.map (h : MachinesNamed d) {g : MachineRow → MachineRow}
    (hg : ∀ m, (g m).key = m.key) (hd : d'.machines = d.machines.map g) : MachinesNamed d' := by
  constructor
  · intro ns name
    rw [hd]
    exact (h.names ns name).map (fun m => isAt_of_key (hg m) ns name)
  · intro uid
    rw [hd]
    refine (h.uids uid).map (fun m => ?_)
    have huid : (g m).uid = m.uid := congrArg Prod.fst (hg m)
    rw [huid]

theorem MachinesNamed.filter (h : MachinesNamed d) {q : MachineRow → Bool}
    (hd : d'.machines = d.machines.filter q) : MachinesNamed d' := by
  constructor
  · intro ns name
    rw [hd]
    exact (h.names ns name).filter q
  · intro uid
    rw [hd]
    exact (h.uids uid).filter q

/-- A machine that clashes with none and whose name no other fleet uses has a new name. -/
theorem MachinesNamed.concat (h : MachinesNamed d) {m : MachineRow}
    (hclash : d.machineClash m.uid m.ns m.fleet m.name = false)
    (hfleet : ∀ m' ∈ d.machines, MachineRow.isAt m.ns m.name m' = true → m'.fleet = m.fleet)
    (hd : d'.machines = d.machines ++ [m]) : MachinesNamed d' := by
  have hno : ∀ m' ∈ d.machines, m'.uid ≠ m.uid ∧ (m'.ns = m.ns → m'.name = m.name → m'.fleet ≠ m.fleet) := by
    intro m' hm'
    have hrow := List.any_eq_false.mp hclash m' hm'
    simp only [Bool.or_eq_true, Bool.and_eq_true, beq_iff_eq, not_or, not_and] at hrow
    exact ⟨hrow.1, fun hns hname hfl => hrow.2 ⟨hns, hfl⟩ hname⟩
  constructor
  · intro ns name
    rw [hd]
    refine (h.names ns name).concat (fun hm m' hm' => ?_)
    obtain ⟨rfl, rfl⟩ : m.ns = ns ∧ m.name = name := by
      simpa [MachineRow.isAt] using hm
    by_contra hat
    have hat' : MachineRow.isAt m.ns m.name m' = true := by simpa using hat
    obtain ⟨hns, hname⟩ : m'.ns = m.ns ∧ m'.name = m.name := by
      simpa [MachineRow.isAt] using hat'
    exact (hno m' hm').2 hns hname (hfleet m' hm' hat')
  · intro uid
    rw [hd]
    refine (h.uids uid).concat (fun hm m' hm' => ?_)
    obtain rfl : m.uid = uid := by simpa using hm
    simpa using (hno m' hm').1

theorem desired_key (ns name : String) (running : Bool) (m : MachineRow) :
    (if MachineRow.isAt ns name m then
      { m with spec := { m.spec with running := running } } else m).key = m.key := by
  split_ifs <;> rfl

theorem MachineEffect.named (he : MachineEffect req d d')
    (hfleet : req.OneFleet d) (h : MachinesNamed d) : MachinesNamed d' := by
  cases he with
  | same hd => exact h.map (fun m => rfl) (hd.trans (List.map_id _).symm)
  | created ns fleet name spec uid hreq hclash hd =>
    subst hreq
    exact h.concat (m := ⟨uid, ns, fleet, name, spec, {}, none⟩) hclash hfleet hd
  | desired ns name running hreq hd => exact h.map (desired_key ns name running) hd
  | removed ns name hreq hd => exact h.filter hd

/-- A request about a machine changes at most the row of that name. -/
theorem MachineEffect.oneRow (he : MachineEffect req d d')
    (h : MachinesNamed d) {ns name : String} (hreq : req.machine = some (ns, name)) :
    Table.OneRow (MachineRow.isAt ns name) d.machines d'.machines := by
  cases he with
  | same hd => exact Or.inl hd
  | created ns' fleet name' spec uid hcreate => simp [hcreate, Request.machine] at hreq
  | desired ns' name' running hreq' hd =>
    obtain ⟨rfl, rfl⟩ : ns' = ns ∧ name' = name := by simpa [hreq'] using hreq
    rw [hd]
    exact (h.names ns' name').oneRow_update _
  | removed ns' name' hreq' hd =>
    obtain ⟨rfl, rfl⟩ : ns' = ns ∧ name' = name := by simpa [hreq'] using hreq
    rw [hd]
    exact (h.names ns' name').oneRow_delete

/-- The state of a run in which no two fleets share a name. -/
structure MachinesInv (w : World) : Prop where
  tasks : w.Served (fun _ req => MachineEffect req)
  named : MachinesNamed w.db

theorem machinesInv_init : MachinesInv World.init :=
  ⟨World.served_init _, fun _ _ => Table.single_nil, fun _ => Table.single_nil⟩

theorem MachinesInv.step (w : World) (a : Act) (w' : World) (h : MachinesInv w) (hP : OneFleet w a)
    (hs : act w a = some w') : MachinesInv w' := by
  obtain ⟨htasks, ⟨-, g, hg, hd⟩ | ⟨i, t, rfl, hi, he⟩ | ⟨ns, name, hd⟩⟩ :=
    act_cases (fun _ => handle_machineEffect _) h.tasks hs
  · exact ⟨htasks, h.named.map hg hd⟩
  · exact ⟨htasks, he.named (hP t hi) h.named⟩
  · exact ⟨htasks, h.named.filter (congrArg Db.machines hd)⟩

/-- Deleting by uid removes the machine with that uid: its name is no other's. -/
theorem MachinesNamed.delete {db : Db} (h : MachinesNamed db) (uid : Nat) :
    Table.OneRow (fun m => m.uid == uid) db.machines
      ((MachineSvc.delete uid).eval db).2.machines := by
  cases hfind : db.machines.find? (fun m => m.uid == uid) with
  | none =>
    left
    simp [MachineSvc.delete, getMachineByUid, statement, Prog.bind, Prog.eval, hfind]
  | some m =>
    obtain ⟨hmem, huid⟩ := ((h.uids uid).find m).mp hfind
    have hself : MachineRow.isAt m.ns m.name m = true := by simp [MachineRow.isAt]
    obtain ⟨before, after, hrows, hdel⟩ := (h.names m.ns m.name).delete hmem hself
    refine Or.inr ⟨before, m, after, hrows, huid, Or.inl ?_⟩
    rw [← hdel]
    simp [MachineSvc.delete, getMachineByUid, deleteMachine, statement, Prog.bind, Prog.eval, hfind]

def teamRun : List Act :=
  [.rest (.submit ⟨"alice"⟩ (.createNamespace "team")), .rest (.exec 0), .rest (.exec 0), .rest (.exec 0),
   .rest (.submit ⟨"alice"⟩ (.createMachine "team" "blue" "web" { image := "nginx" } 1)),
   .rest (.exec 1), .rest (.exec 1), .rest (.exec 1), .rest (.exec 1),
   .rest (.submit ⟨"alice"⟩ (.startMachine "team" "web")), .rest (.exec 2)]

/-- The name is taken a second time, in another fleet. -/
def twinRun : List Act :=
  teamRun ++ [.rest (.submit ⟨"alice"⟩ (.createMachine "team" "green" "web" { image := "nginx" } 2)),
    .rest (.exec 3), .rest (.exec 3), .rest (.exec 3), .rest (.exec 3)]

/-- A namespace and an id belong to at most one snapshot. -/
def SnapshotsNamed (db : Db) : Prop :=
  ∀ ns id, Table.Single (SnapshotRow.isAt ns id) db.snapshots

/-- A request does not record a snapshot under an id that another machine of the namespace has one
under. -/
def Request.OneOwner (db : Db) : Request → Prop
  | .createSnapshot ns name _ _ (.result true id _) _ =>
    ∀ r ∈ db.snapshots, SnapshotRow.isAt ns id r = true → r.machine = name
  | _ => True

instance (db : Db) : ∀ req : Request, Decidable (req.OneOwner db)
  | .createSnapshot ns name _ _ (.result true id _) _ => inferInstanceAs (Decidable (∀ r ∈ db.snapshots,
      SnapshotRow.isAt ns id r = true → r.machine = name))
  | .createSnapshot _ _ _ _ (.result false _ _) _ | .createSnapshot _ _ _ _ .disconnected _
  | .createSnapshot _ _ _ _ .timedOut _
  | .createNamespace _ | .listNamespaces _ | .createMachine _ _ _ _ _ | .getMachine _ _
  | .listMachines _ _ | .deleteMachine _ _ | .startMachine _ _ | .stopMachine _ _
  | .execMachine _ _ _ _ | .listSnapshots _ _ _ | .deleteSnapshot _ _ => .isTrue trivial

/-- No statement records such a snapshot. -/
def OneOwner (w : World) : Act → Prop
  | .rest (.exec i) => ∀ t ∈ w.tasks[i]?, t.req.OneOwner w.db
  | _ => True

instance (w : World) : ∀ a : Act, Decidable (OneOwner w a)
  | .rest (.exec i) => inferInstanceAs (Decidable (∀ t ∈ w.tasks[i]?, t.req.OneOwner w.db))
  | .rest (.submit _ _) | .rest (.fail _ _) | .tick _ | .report _ | .remove _ _ => .isTrue trivial

/-- A snapshot that clashes with none and whose id no other machine has one under has a new id. -/
theorem SnapshotsNamed.concat (h : SnapshotsNamed d) {r : SnapshotRow} {uid : Nat}
    (hclash : d.snapshotClash uid r.ns r.machine r.name = false)
    (howner : ∀ r' ∈ d.snapshots, SnapshotRow.isAt r.ns r.name r' = true → r'.machine = r.machine)
    (hd : d'.snapshots = d.snapshots ++ [r]) : SnapshotsNamed d' := by
  intro ns id
  rw [hd]
  refine (h ns id).concat (fun hr r' hr' => ?_)
  obtain ⟨rfl, rfl⟩ : r.ns = ns ∧ r.name = id := by
    simpa [SnapshotRow.isAt] using hr
  by_contra hat
  have hat' : SnapshotRow.isAt r.ns r.name r' = true := by simpa using hat
  obtain ⟨hns, hname⟩ : r'.ns = r.ns ∧ r'.name = r.name := by
    simpa [SnapshotRow.isAt] using hat'
  have hrow := List.any_eq_false.mp hclash r' hr'
  simp [hns, hname, howner r' hr' hat'] at hrow

theorem SnapshotEffect.named (he : SnapshotEffect req d d')
    (howner : req.OneOwner d) (h : SnapshotsNamed d) : SnapshotsNamed d' := by
  cases he with
  | same hd =>
    intro ns id
    rw [hd]
    exact h ns id
  | created r branch connected error uid hreq hclash hd =>
    subst hreq
    exact h.concat hclash howner hd
  | removed ns' id' hd =>
    intro ns id
    rw [hd]
    exact (h ns id).filter _

/-- The state of a run in which no two machines of a namespace share an id. -/
structure SnapshotsInv (w : World) : Prop where
  tasks : w.Served (fun _ req => SnapshotEffect req)
  named : SnapshotsNamed w.db

theorem SnapshotsInv.step (w : World) (a : Act) (w' : World) (h : SnapshotsInv w) (hP : OneOwner w a)
    (hs : act w a = some w') : SnapshotsInv w' := by
  obtain ⟨htasks, ⟨hd, -⟩ | ⟨i, t, rfl, hi, he⟩ | ⟨ns, name, hd⟩⟩ :=
    act_cases (fun _ => handle_snapshotEffect _) h.tasks hs
  · refine ⟨htasks, ?_⟩
    rw [SnapshotsNamed, hd]
    exact h.named
  · exact ⟨htasks, he.named (hP t hi) h.named⟩
  · refine ⟨htasks, ?_⟩
    rw [hd]
    exact h.named

/-- What a listing shows is a row of the namespace. -/
theorem mem_listSnapshots {le : String → String → Bool} {ns machine : String} {db : Db} {s : Snapshot}
    {listed : List Snapshot} (h : ((listSnapshots le ns machine).eval db).1 = .ok listed)
    (hs : s ∈ listed) : ∃ r ∈ db.snapshots, r.ns = ns ∧ r.intoSnapshot = s := by
  simp only [listSnapshots, statement, Prog.eval, Except.ok.injEq] at h
  subst h
  obtain ⟨r, hr, rfl⟩ := List.mem_map.mp hs
  obtain ⟨hmem, hat⟩ := List.mem_filter.mp (List.mem_mergeSort.mp hr)
  rw [Bool.and_eq_true, beq_iff_eq] at hat
  exact ⟨r, hmem, hat.1, rfl⟩

/-- The id under which a worker stores a snapshot: a directory of its own jail, named by the time. -/
def workerId (fs : Fs) (now : Nat) : Except IoError String :=
  (((Vmm.SnapshotStore.new []).newSnapshotDir Vmm.SNAPSHOT_BUCKET now).eval fs).1

/-- Two machines on two hosts, and a snapshot of each under the id that its worker gave. -/
def snapshotRun (id₁ id₂ : String) : List Act :=
  [.rest (.submit ⟨"alice"⟩ (.createNamespace "team")), .rest (.exec 0), .rest (.exec 0), .rest (.exec 0),
   .rest (.submit ⟨"alice"⟩ (.createMachine "team" "blue" "db" { image := "redis" } 1)),
   .rest (.exec 1), .rest (.exec 1), .rest (.exec 1), .rest (.exec 1),
   .rest (.submit ⟨"alice"⟩ (.createMachine "team" "blue" "web" { image := "nginx" } 2)),
   .rest (.exec 2), .rest (.exec 2), .rest (.exec 2), .rest (.exec 2),
   .tick (.assignHost 1 "h1"), .tick (.assignHost 2 "h2"),
   .report ⟨1, apiStateToProto .running, "", "10.0.0.2"⟩,
   .report ⟨2, apiStateToProto .running, "", "10.0.0.2"⟩,
   .rest (.submit ⟨"alice"⟩ (.createSnapshot "team" "db" false (fun _ => true) (.result true id₁ "") 3)),
   .rest (.exec 3), .rest (.exec 3), .rest (.exec 3), .rest (.exec 3),
   .rest (.submit ⟨"alice"⟩ (.createSnapshot "team" "web" false (fun _ => true) (.result true id₂ "") 4)),
   .rest (.exec 4), .rest (.exec 4), .rest (.exec 4), .rest (.exec 4)]

end MicroMachines.Controller
