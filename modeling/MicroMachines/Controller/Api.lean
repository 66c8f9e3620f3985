import MicroMachines.Controller.Store

set_option autoImplicit false

/-! # The REST handlers

Every handler of `services/mm-controller/src/api` as a program over the store. A handler is
authenticated before it runs, so it starts with the claims of a verified token; of these only
the subject is used. What a handler learns from outside the tables (a fresh UUID, whether the
host's agent is connected, what the agent answers) is an argument of the request, chosen by
the environment.
-/

namespace MicroMachines.Controller

open MicroMachines.Lib

/-- The verified token claims the handlers use. -/
structure Claims where
  sub : String
  deriving DecidableEq, Repr

/-- API error, one constructor per HTTP status. -/
inductive ApiError
  | unauthorized (msg : String)
  | forbidden
  | notFound
  | conflict (msg : String)
  | badRequest (msg : String)
  | serviceUnavailable (msg : String)
  | internal (msg : String)
  deriving DecidableEq, Repr

/-- The status and message of the response. -/
def ApiError.intoResponse : ApiError → Nat × String
  | .unauthorized m => (401, m)
  | .forbidden => (403, "forbidden")
  | .notFound => (404, "not found")
  | .conflict m => (409, m)
  | .badRequest m => (400, m)
  | .serviceUnavailable m => (503, m)
  | .internal m => (500, m)

/-- `From<sqlx::Error>`. -/
def ApiError.ofSql : SqlError → ApiError
  | .uniqueViolation => .conflict "resource already exists"
  | .other text => .internal text

/-- A handler: a program over the store that ends in a response or an API error. -/
def Handler (α : Type) : Type := Prog Db String (Except ApiError α)

/-- Sequencing with the `?` operator: an error ends the handler. -/
def Handler.bind {α β : Type} (h : Handler α) (f : α → Handler β) : Handler β :=
  Prog.bind h (fun r =>
    match r with
    | .ok a => f a
    | .error e => .done (.error e))

instance : Monad Handler where
  pure a := .done (.ok a)
  bind := Handler.bind

/-- Return an error. -/
def throw {α : Type} (e : ApiError) : Handler α := .done (.error e)

/-- `store.method(..).await?`. -/
def ask {α : Type} (m : StoreM α) : Handler α :=
  Prog.bind m (fun r => .done (r.mapError ApiError.ofSql))

/-- `let _ = store.method(..).await`: the result is ignored. -/
def attempt {α : Type} (m : StoreM α) : Handler Unit :=
  Prog.bind m (fun _ => .done (.ok ()))

/-- `option.ok_or(error)?`. -/
def okOr {α : Type} (o : Option α) (e : ApiError) : Handler α :=
  match o with
  | some a => .done (.ok a)
  | none => throw e

/-- Authorize `verb` in `ns` for the caller, auditing a denial. -/
def ensureAllowed (claims : Claims) (ns : String) (verb : Verb) (action : String) :
    Handler Unit := do
  let binding ← ask (roleBinding claims.sub ns)
  if authorize (binding.map (fun role => (ns, role))) ns verb then
    pure ()
  else
    attempt (audit claims.sub (some ns) action none "denied")
    throw .forbidden

/-- What a handler answers. -/
inductive Response
  | namespace (name : String)
  | namespaces (names : List String)
  | machine (m : MachineRow)
  | machines (ms : List MachineRow)
  | running (name : String) (running : Bool)
  | stream
  | snapshot (s : Snapshot)
  | snapshots (ss : List Snapshot)
  | noContent
  deriving DecidableEq, Repr

/-- What the agent's answer to a snapshot task was. -/
inductive AgentReply
  | result (ok : Bool) (id error : String)
  | disconnected
  | timedOut
  deriving DecidableEq, Repr

namespace Namespaces

/-- `POST /v1alpha1/namespaces`. -/
def create (claims : Claims) (name : String) : Handler Response := do
  if name = "" then
    throw (.badRequest "namespace name is required")
  else
    ask (createNamespace name)
    ask (putBinding claims.sub name .admin)
    attempt (audit claims.sub (some name) "create_namespace" (some name) "allowed")
    pure (.namespace name)

/-- `GET /v1alpha1/namespaces`, cluster-wide. -/
def list (le : String → String → Bool) (_claims : Claims) : Handler Response := do
  let names ← ask (listNamespaces le)
  pure (.namespaces names)

end Namespaces

namespace Machines

/-- `POST /v1alpha1/namespaces/:ns/machines`. -/
def create (claims : Claims) (ns fleet name : String) (spec : MachineSpec) (uid : Nat) :
    Handler Response := do
  ensureAllowed claims ns .create "create_machine"
  let found ← ask (namespaceExists ns)
  if !found then
    throw .notFound
  else if name = "" then
    throw (.badRequest "machine name is required")
  else
    let machine ← ask (createMachine ns fleet name spec uid)
    attempt (audit claims.sub (some ns) "create_machine" (some name) "allowed")
    pure (.machine machine)

/-- `GET /v1alpha1/namespaces/:ns/machines/:name`. -/
def get (claims : Claims) (ns name : String) : Handler Response := do
  ensureAllowed claims ns .get "get_machine"
  let row ← ask (getMachine ns name)
  let machine ← okOr row .notFound
  pure (.machine machine)

/-- `GET /v1alpha1/namespaces/:ns/machines`. -/
def list (le : String → String → Bool) (claims : Claims) (ns : String) : Handler Response := do
  ensureAllowed claims ns .list "list_machines"
  let machines ← ask (listMachines le ns)
  pure (.machines machines)

/-- `DELETE /v1alpha1/namespaces/:ns/machines/:name`. -/
def delete (claims : Claims) (ns name : String) : Handler Response := do
  ensureAllowed claims ns .delete "delete_machine"
  let affected ← ask (deleteMachine ns name)
  if affected = 0 then
    throw .notFound
  else
    attempt (audit claims.sub (some ns) "delete_machine" (some name) "allowed")
    pure .noContent

/-- The common part of `start` and `stop`. -/
def setRunning (claims : Claims) (ns name : String) (running : Bool) (action : String) :
    Handler Response := do
  ensureAllowed claims ns .update action
  let affected ← ask (Controller.setRunning ns name running)
  if affected = 0 then
    throw .notFound
  else
    attempt (audit claims.sub (some ns) action (some name) "allowed")
    pure (.running name running)

/-- `POST /v1alpha1/namespaces/:ns/machines/:name/start`. -/
def start (claims : Claims) (ns name : String) : Handler Response :=
  setRunning claims ns name true "start_machine"

/-- `POST /v1alpha1/namespaces/:ns/machines/:name/stop`. -/
def stop (claims : Claims) (ns name : String) : Handler Response :=
  setRunning claims ns name false "stop_machine"

/-- The running machine a task goes to, and the host it is placed on. -/
def placed (ns name : String) : Handler (MachineRow × String) := do
  let row ← ask (getMachine ns name)
  let machine ← okOr row .notFound
  if machine.status.state ≠ .running then
    throw (.badRequest ("machine " ++ name ++ " is not running"))
  else
    let hostId ← okOr machine.hostId (.serviceUnavailable "machine is not placed on a host")
    pure (machine, hostId)

/-- `POST /v1alpha1/namespaces/:ns/machines/:name/exec`, up to the start of the output
stream. `connected` says whether the agent of a host takes the task. -/
def exec (claims : Claims) (ns name : String) (command : List String)
    (connected : String → Bool) : Handler Response := do
  ensureAllowed claims ns .exec "exec_machine"
  if command = [] then
    throw (.badRequest "command is required")
  else
    let (_, hostId) ← placed ns name
    if !connected hostId then
      throw (.serviceUnavailable ("no agent connected for host " ++ hostId))
    else
      attempt (audit claims.sub (some ns) "exec_machine" (some name) "allowed")
      pure .stream

end Machines

namespace Snapshots

/-- `POST /v1alpha1/namespaces/:ns/machines/:name/snapshots`. -/
def create (claims : Claims) (ns name : String) (branch : Bool) (connected : String → Bool)
    (reply : AgentReply) (uid : Nat) : Handler Response := do
  ensureAllowed claims ns .create "create_snapshot"
  let (machine, hostId) ← Machines.placed ns name
  if !connected hostId then
    throw (.serviceUnavailable ("no agent connected for host " ++ hostId))
  else
    match reply with
    | .disconnected =>
      throw (.serviceUnavailable "agent disconnected before the snapshot completed")
    | .timedOut => throw (.serviceUnavailable "snapshot timed out")
    | .result false _ error => throw (.internal ("snapshot failed on the agent: " ++ error))
    | .result true id _ =>
      let kind := if branch then "branch" else "full"
      let snap ← ask (createSnapshot ns name id kind hostId machine.spec.memoryMib "ready" uid)
      attempt (audit claims.sub (some ns) "create_snapshot" (some name) "allowed")
      pure (.snapshot snap)

/-- `GET /v1alpha1/namespaces/:ns/machines/:name/snapshots`. -/
def list (le : String → String → Bool) (claims : Claims) (ns name : String) : Handler Response := do
  ensureAllowed claims ns .list "list_snapshots"
  let snapshots ← ask (listSnapshots le ns name)
  pure (.snapshots snapshots)

/-- `DELETE /v1alpha1/namespaces/:ns/snapshots/:id`. -/
def delete (claims : Claims) (ns id : String) : Handler Response := do
  ensureAllowed claims ns .delete "delete_snapshot"
  let affected ← ask (deleteSnapshot ns id)
  if affected = 0 then
    throw .notFound
  else
    attempt (audit claims.sub (some ns) "delete_snapshot" (some id) "allowed")
    pure .noContent

end Snapshots

/-! ## The router -/

/-- A request to one of the protected routes. -/
inductive Request
  | createNamespace (name : String)
  | listNamespaces (le : String → String → Bool)
  | createMachine (ns fleet name : String) (spec : MachineSpec) (uid : Nat)
  | getMachine (ns name : String)
  | listMachines (le : String → String → Bool) (ns : String)
  | deleteMachine (ns name : String)
  | startMachine (ns name : String)
  | stopMachine (ns name : String)
  | execMachine (ns name : String) (command : List String) (connected : String → Bool)
  | createSnapshot (ns name : String) (branch : Bool) (connected : String → Bool)
      (reply : AgentReply) (uid : Nat)
  | listSnapshots (le : String → String → Bool) (ns name : String)
  | deleteSnapshot (ns id : String)

/-- The handler the router calls. -/
def handle (claims : Claims) : Request → Handler Response
  | .createNamespace name => Namespaces.create claims name
  | .listNamespaces le => Namespaces.list le claims
  | .createMachine ns fleet name spec uid => Machines.create claims ns fleet name spec uid
  | .getMachine ns name => Machines.get claims ns name
  | .listMachines le ns => Machines.list le claims ns
  | .deleteMachine ns name => Machines.delete claims ns name
  | .startMachine ns name => Machines.start claims ns name
  | .stopMachine ns name => Machines.stop claims ns name
  | .execMachine ns name command connected => Machines.exec claims ns name command connected
  | .createSnapshot ns name branch connected reply uid =>
    Snapshots.create claims ns name branch connected reply uid
  | .listSnapshots le ns name => Snapshots.list le claims ns name
  | .deleteSnapshot ns id => Snapshots.delete claims ns id

/-- The namespace in the path of a machine or snapshot request. -/
def Request.pathNamespace : Request → Option String
  | .createNamespace _ => none
  | .listNamespaces _ => none
  | .createMachine ns _ _ _ _ => some ns
  | .getMachine ns _ => some ns
  | .listMachines _ ns => some ns
  | .deleteMachine ns _ => some ns
  | .startMachine ns _ => some ns
  | .stopMachine ns _ => some ns
  | .execMachine ns _ _ _ => some ns
  | .createSnapshot ns _ _ _ _ _ => some ns
  | .listSnapshots _ ns _ => some ns
  | .deleteSnapshot ns _ => some ns

end MicroMachines.Controller
