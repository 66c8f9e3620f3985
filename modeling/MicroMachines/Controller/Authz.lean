import Mathlib.Tactic

set_option autoImplicit false

/-! # Roles, verbs and the authorization decision

The pure policy of the control plane (`services/mm-controller/src/authz.rs`): a subject
holds at most one role in a namespace, roles are ordered by privilege, and a verb is
allowed exactly when the binding is for the same namespace and its role is at least the one
the verb requires.
-/

namespace MicroMachines.Controller

/-- A role a subject can hold in a namespace. -/
inductive Role
  | viewer
  | operator
  | admin
  deriving DecidableEq, Repr

/-- The derived order of the source: the position in the declaration. -/
def Role.rank : Role → Nat
  | .viewer => 0
  | .operator => 1
  | .admin => 2

/-- The name stored in `rbac_bindings.role`. -/
def Role.asStr : Role → String
  | .viewer => "viewer"
  | .operator => "operator"
  | .admin => "admin"

/-- Parse a role name; anything unknown is rejected with its text. -/
def Role.parse (s : String) : Except String Role :=
  if s = "viewer" then .ok .viewer
  else if s = "operator" then .ok .operator
  else if s = "admin" then .ok .admin
  else .error ("role:" ++ s)

theorem Role.parse_asStr (r : Role) : Role.parse r.asStr = .ok r := by
  cases r <;> decide

/-- An action a request wants to perform. -/
inductive Verb
  | get
  | list
  | create
  | update
  | delete
  | exec
  deriving DecidableEq, Repr

/-- The minimum role required for a verb. -/
def required : Verb → Role
  | .get | .list => .viewer
  | .create | .update | .exec => .operator
  | .delete => .admin

/-- Authorize `verb` in `ns` given the binding `(namespace, role)` the subject holds. -/
def authorize (binding : Option (String × Role)) (ns : String) (verb : Verb) : Bool :=
  match binding with
  | some (bns, role) => if bns = ns then decide ((required verb).rank ≤ role.rank) else false
  | none => false

/-- An admin may do everything in the namespace of the binding. -/
theorem authorize_admin (ns : String) (verb : Verb) :
    authorize (some (ns, .admin)) ns verb = true := by
  cases verb <;> simp [authorize, required, Role.rank]

end MicroMachines.Controller
