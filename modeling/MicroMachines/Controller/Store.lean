import MicroMachines.Lib.Resumption
import MicroMachines.Controller.Authz

set_option autoImplicit false

/-! # The control-plane store

The tables of `services/mm-controller/migrations` and the SQL statements of
`services/mm-controller/src/store.rs` that the REST handlers execute. Postgres executes one
statement atomically, so a store method is one `Prog.stmt`: its effect on the tables, and
the result computed from the tables it saw. A statement the database refuses for a reason
outside the tables (a lost connection, an invalid byte in a text) leaves the tables alone
and gives `SqlError.other`.

JSONB columns are kept as the typed values they round-trip to, and a time-stamp column that
no handler reads is left out.
-/

namespace MicroMachines.Controller

open MicroMachines.Lib

/-- Lifecycle state of a machine (`mm-api-types`). -/
inductive MachineState
  | created | preparing | starting | running | paused
  | stopping | stopped | failed | destroying | destroyed
  deriving DecidableEq, Repr

/-- The command to run inside the guest. -/
structure Workload where
  entrypoint : String
  args : List String
  env : List (String × String)
  deriving DecidableEq, Repr

/-- Desired state of a machine. -/
structure MachineSpec where
  image : String
  kernel : Option String := none
  vcpus : Nat := 1
  memoryMib : Nat := 512
  ssh : Bool := false
  workload : Option Workload := none
  running : Bool := false
  deriving DecidableEq, Repr

/-- Observed state of a machine. -/
structure MachineStatus where
  state : MachineState := .created
  ip : Option String := none
  health : String := ""
  hostId : Option String := none
  retryCount : Nat := 0
  deriving DecidableEq, Repr

/-- A row of `machines`; `uid` stands for the UUID. -/
structure MachineRow where
  uid : Nat
  ns : String
  fleet : String
  name : String
  spec : MachineSpec
  status : MachineStatus
  hostId : Option String
  deriving DecidableEq, Repr

/-- A row of `snapshots`; `memoryMib` is a `BIGINT`. -/
structure SnapshotRow where
  uid : Nat
  ns : String
  machine : String
  name : String
  kind : String
  hostId : String
  memoryMib : Int
  status : String
  deriving DecidableEq, Repr

/-- A snapshot as the API shows it. -/
structure Snapshot where
  uid : Nat
  ns : String
  machine : String
  name : String
  kind : String
  hostId : String
  memoryMib : Nat
  status : String
  deriving DecidableEq, Repr

/-- Decode a row; a negative size becomes zero. -/
def SnapshotRow.intoSnapshot (r : SnapshotRow) : Snapshot :=
  ⟨r.uid, r.ns, r.machine, r.name, r.kind, r.hostId, r.memoryMib.toNat, r.status⟩

/-- A row of `rbac_bindings`. -/
structure BindingRow where
  subject : String
  ns : String
  role : String
  deriving DecidableEq, Repr

/-- A row of `audit_log`. -/
structure AuditRow where
  actor : String
  ns : Option String
  action : String
  resource : Option String
  outcome : String
  deriving DecidableEq, Repr

/-- The tables. -/
structure Db where
  namespaces : List String
  machines : List MachineRow
  snapshots : List SnapshotRow
  rbacBindings : List BindingRow
  auditLog : List AuditRow
  deriving DecidableEq, Repr

/-- The tables right after the migrations. -/
def Db.empty : Db := ⟨[], [], [], [], []⟩

/-- What sqlx reports for a failed statement, as far as the API looks at it. -/
inductive SqlError
  | uniqueViolation
  | other (text : String)
  deriving DecidableEq, Repr

/-- A store method: a program of atomic statements on the tables. -/
abbrev StoreM (α : Type) : Type := Prog Db String (Except SqlError α)

/-- One statement: its effect on the tables and its result. -/
def statement {α : Type} (update : Db → Db) (result : Db → Except SqlError α) : StoreM α :=
  .stmt update (fun db => .done (result db)) (fun text => .done (.error (.other text)))

/-- The text Postgres gives for a row that references a missing namespace. -/
def foreignKeyText : String := "foreign key violation"

/-! ## Namespaces -/

/-- `INSERT INTO namespaces (name) VALUES ($1) ON CONFLICT DO NOTHING`. -/
def createNamespace (name : String) : StoreM Unit :=
  statement
    (fun db => if name ∈ db.namespaces then db else { db with namespaces := db.namespaces ++ [name] })
    (fun _ => .ok ())

/-- `SELECT name FROM namespaces WHERE name = $1`. -/
def namespaceExists (name : String) : StoreM Bool :=
  statement id (fun db => .ok (decide (name ∈ db.namespaces)))

/-- Sort rows by a text column, in the order `le` of the database's collation. -/
def orderBy {α : Type} (le : String → String → Bool) (key : α → String) (rows : List α) : List α :=
  rows.mergeSort (fun a b => le (key a) (key b))

/-- `SELECT name FROM namespaces ORDER BY name`. -/
def listNamespaces (le : String → String → Bool) : StoreM (List String) :=
  statement id (fun db => .ok (orderBy le id db.namespaces))

/-! ## Machines -/

/-- The rows a request on `ns` and `name` names. -/
def MachineRow.isAt (ns name : String) (m : MachineRow) : Bool := m.ns == ns && m.name == name

/-- Whether a new row would break `PRIMARY KEY (uid)` or `UNIQUE (namespace, fleet, name)`. -/
def Db.machineClash (db : Db) (uid : Nat) (ns fleet name : String) : Bool :=
  db.machines.any (fun m => m.uid == uid || (m.ns == ns && m.fleet == fleet && m.name == name))

/-- `INSERT INTO machines ... RETURNING ...`, with a default status and no host. -/
def createMachine (ns fleet name : String) (spec : MachineSpec) (uid : Nat) : StoreM MachineRow :=
  let row : MachineRow := ⟨uid, ns, fleet, name, spec, {}, none⟩
  statement
    (fun db =>
      if db.machineClash uid ns fleet name then db
      else if ns ∈ db.namespaces then { db with machines := db.machines ++ [row] }
      else db)
    (fun db =>
      if db.machineClash uid ns fleet name then .error .uniqueViolation
      else if ns ∈ db.namespaces then .ok row
      else .error (.other foreignKeyText))

/-- `SELECT ... FROM machines WHERE namespace = $1 AND name = $2`, the first row returned. -/
def getMachine (ns name : String) : StoreM (Option MachineRow) :=
  statement id (fun db => .ok (db.machines.find? (MachineRow.isAt ns name)))

/-- `SELECT ... FROM machines WHERE uid = $1`. -/
def getMachineByUid (uid : Nat) : StoreM (Option MachineRow) :=
  statement id (fun db => .ok (db.machines.find? (fun m => m.uid == uid)))

/-- `SELECT ... FROM machines WHERE namespace = $1 ORDER BY name`. -/
def listMachines (le : String → String → Bool) (ns : String) : StoreM (List MachineRow) :=
  statement id (fun db =>
    .ok (orderBy le MachineRow.name (db.machines.filter (fun m => m.ns == ns))))

/-- `UPDATE machines SET spec = jsonb_set(spec, '{running}', ...)`; the rows changed. -/
def setRunning (ns name : String) (running : Bool) : StoreM Nat :=
  statement
    (fun db => { db with machines := db.machines.map (fun m =>
      if MachineRow.isAt ns name m then { m with spec := { m.spec with running := running } } else m) })
    (fun db => .ok (db.machines.countP (MachineRow.isAt ns name)))

/-- `DELETE FROM machines WHERE namespace = $1 AND name = $2`; the rows removed. -/
def deleteMachine (ns name : String) : StoreM Nat :=
  statement
    (fun db => { db with machines := db.machines.filter (fun m => !MachineRow.isAt ns name m) })
    (fun db => .ok (db.machines.countP (MachineRow.isAt ns name)))

/-- `SELECT ... FROM machines`. The order of the rows is that of the table. -/
def listAllMachines : StoreM (List MachineRow) := statement id (fun db => .ok db.machines)

/-- The rows with a `uid` changed by `f`, and how many they are. -/
def updateMachine (uid : Nat) (f : MachineRow → MachineRow) : StoreM Nat :=
  statement
    (fun db => { db with machines := db.machines.map (fun m => if m.uid = uid then f m else m) })
    (fun db => .ok (db.machines.countP (fun m => m.uid = uid)))

/-- `UPDATE machines SET status = jsonb_set(status, '{state}', ...) WHERE uid = $1`. -/
def setObservedState (uid : Nat) (state : MachineState) : StoreM Nat :=
  updateMachine uid (fun m => { m with status := { m.status with state := state } })

/-- The same, with `jsonb_set(..., '{ip}', ...)`. -/
def setObserved (uid : Nat) (state : MachineState) (ip : String) : StoreM Nat :=
  updateMachine uid (fun m => { m with status := { m.status with state := state, ip := some ip } })

/-- `UPDATE machines SET status = jsonb_set(status, '{retry_count}', ...) WHERE uid = $1`. -/
def incrementRetryCount (uid : Nat) : StoreM Nat :=
  updateMachine uid (fun m =>
    { m with status := { m.status with retryCount := m.status.retryCount + 1 } })

/-- `UPDATE machines SET host_id = $2 WHERE uid = $1`. -/
def assignHost (uid : Nat) (hostId : String) : StoreM Nat :=
  updateMachine uid (fun m => { m with hostId := some hostId })

/-! ## Snapshots -/

/-- `memory_mib as i64`. -/
def asI64 (n : Nat) : Int :=
  if n % 2 ^ 64 < 2 ^ 63 then (n % 2 ^ 64 : Nat) else ((n % 2 ^ 64 : Nat) : Int) - 2 ^ 64

/-- Whether a new row would break `PRIMARY KEY (uid)` or `UNIQUE (namespace, machine, name)`. -/
def Db.snapshotClash (db : Db) (uid : Nat) (ns machine name : String) : Bool :=
  db.snapshots.any (fun r => r.uid == uid || (r.ns == ns && r.machine == machine && r.name == name))

/-- `INSERT INTO snapshots ... RETURNING ...`. -/
def createSnapshot (ns machine name kind hostId : String) (memoryMib : Nat) (status : String)
    (uid : Nat) : StoreM Snapshot :=
  let row : SnapshotRow := ⟨uid, ns, machine, name, kind, hostId, asI64 memoryMib, status⟩
  statement
    (fun db =>
      if db.snapshotClash uid ns machine name then db
      else if ns ∈ db.namespaces then { db with snapshots := db.snapshots ++ [row] }
      else db)
    (fun db =>
      if db.snapshotClash uid ns machine name then .error .uniqueViolation
      else if ns ∈ db.namespaces then .ok row.intoSnapshot
      else .error (.other foreignKeyText))

/-- `SELECT ... FROM snapshots WHERE namespace = $1 AND machine = $2 ORDER BY name DESC`. -/
def listSnapshots (le : String → String → Bool) (ns machine : String) : StoreM (List Snapshot) :=
  statement id (fun db =>
    .ok ((orderBy (fun a b => le b a) SnapshotRow.name
      (db.snapshots.filter (fun r => r.ns == ns && r.machine == machine))).map
        SnapshotRow.intoSnapshot))

/-- `SELECT ... FROM snapshots WHERE namespace = $1 AND name = $2`, the first row returned. -/
def getSnapshot (ns id : String) : StoreM (Option Snapshot) :=
  statement (fun db => db) (fun db =>
    .ok ((db.snapshots.find? (fun r => r.ns == ns && r.name == id)).map SnapshotRow.intoSnapshot))

/-- `DELETE FROM snapshots WHERE namespace = $1 AND name = $2`; the rows removed. -/
def deleteSnapshot (ns id : String) : StoreM Nat :=
  statement
    (fun db => { db with snapshots := db.snapshots.filter (fun r => !(r.ns == ns && r.name == id)) })
    (fun db => .ok (db.snapshots.countP (fun r => r.ns == ns && r.name == id)))

/-! ## Role bindings and the audit log -/

/-- The row of the primary key `(subject, namespace)`. -/
def BindingRow.isFor (subject ns : String) (b : BindingRow) : Bool :=
  b.subject == subject && b.ns == ns

/-- The role column of a subject in a namespace. -/
def Db.roleText (db : Db) (subject ns : String) : Option String :=
  (db.rbacBindings.find? (BindingRow.isFor subject ns)).map BindingRow.role

/-- A subject holds a role in a namespace. -/
def Db.HoldsRole (db : Db) (subject ns : String) : Prop :=
  (db.roleText subject ns).isSome = true

instance (db : Db) (subject ns : String) : Decidable (db.HoldsRole subject ns) :=
  inferInstanceAs (Decidable (_ = true))

/-- `SELECT role FROM rbac_bindings WHERE subject = $1 AND namespace = $2`, parsed. -/
def roleBinding (subject ns : String) : StoreM (Option Role) :=
  statement id (fun db =>
    match db.roleText subject ns with
    | none => .ok none
    | some text =>
      match Role.parse text with
      | .ok role => .ok (some role)
      | .error e => .error (.other e))

/-- The upsert of `put_binding`: replace the row of the key, or append one. -/
def upsertBinding (subject ns role : String) (rows : List BindingRow) : List BindingRow :=
  if rows.any (BindingRow.isFor subject ns) then
    rows.map (fun b => if BindingRow.isFor subject ns b then { b with role := role } else b)
  else rows ++ [⟨subject, ns, role⟩]

/-- `INSERT INTO rbac_bindings ... ON CONFLICT (subject, namespace) DO UPDATE SET role = $3`. -/
def putBinding (subject ns : String) (role : Role) : StoreM Unit :=
  statement
    (fun db =>
      if ns ∈ db.namespaces then
        { db with rbacBindings := upsertBinding subject ns role.asStr db.rbacBindings }
      else db)
    (fun db => if ns ∈ db.namespaces then .ok () else .error (.other foreignKeyText))

/-- `INSERT INTO audit_log ...`. -/
def audit (actor : String) (ns : Option String) (action : String) (resource : Option String)
    (outcome : String) : StoreM Unit :=
  statement
    (fun db => { db with auditLog := db.auditLog ++ [⟨actor, ns, action, resource, outcome⟩] })
    (fun _ => .ok ())

end MicroMachines.Controller
