import MicroMachines.Controller.Isolation

set_option autoImplicit false

/-! # Writes are authorized when they happen

A handler looks up the role of its caller in its first statement and writes in later ones. Statements of other
requests come in between, so that what it found may be out of date. But a binding is never removed, and a second
grant only replaces a role by `admin` (`Allows.grant`). So the role suffices in the tables whenever a
request changes something, or is answered (`requests_allowed`).
-/

namespace MicroMachines.Controller

open MicroMachines.Lib

/-- The verb that the handler of a machine or snapshot request is authorized for. -/
def Request.verb : Request → Verb
  | .getMachine _ _ => .get
  | .listMachines _ _ | .listSnapshots _ _ _ | .listNamespaces _ => .list
  | .startMachine _ _ | .stopMachine _ _ => .update
  | .deleteMachine _ _ | .deleteSnapshot _ _ => .delete
  | .execMachine _ _ _ _ => .exec
  | _ => .create

/-- The role of the subject in the tables suffices for the verb. -/
def Db.Allows (db : Db) (sub ns : String) (verb : Verb) : Prop :=
  ∃ role, (db.roleText sub ns).map Role.parse = some (.ok role) ∧
    authorize (some (ns, role)) ns verb = true

/-- No machine and no snapshot changes. -/
def SameRows (d d' : Db) : Prop := d'.machines = d.machines ∧ d'.snapshots = d.snapshots

/-! ## Roles are not taken away -/

theorem Db.Allows.grant {d : Db} {sub ns sub' ns' : String} {verb : Verb} (h : d.Allows sub ns verb) :
    Db.Allows { d with rbacBindings := upsertBinding sub' ns' Role.admin.asStr d.rbacBindings }
      sub ns verb := by
  obtain ⟨role, hrole, hverb⟩ := h
  obtain ⟨text, htext, hparse⟩ := Option.map_eq_some_iff.mp hrole
  obtain ⟨b, hb, rfl⟩ := Option.map_eq_some_iff.mp htext
  unfold Db.Allows Db.roleText upsertBinding
  split_ifs
  · -- The rows are changed in place, and their keys are not.
    have hkey : (fun x => BindingRow.isFor sub ns
        (if BindingRow.isFor sub' ns' x then { x with role := Role.admin.asStr } else x)) =
        BindingRow.isFor sub ns := by
      funext x
      split_ifs <;> rfl
    rw [List.find?_map, Function.comp_def, hkey, hb]
    by_cases hsame : BindingRow.isFor sub' ns' b = true
    · exact ⟨.admin, by simp [hsame, Role.parse_asStr], authorize_admin ns verb⟩
    · exact ⟨role, by simp [hsame, hparse], hverb⟩
  · exact ⟨role, by simp [List.find?_append, hb, hparse], hverb⟩

/-- Nobody may do less than before. -/
def KeepsRoles (d d' : Db) : Prop := ∀ sub ns verb, d.Allows sub ns verb → d'.Allows sub ns verb

theorem KeepsRoles.of_eq {d d' : Db} (h : d'.rbacBindings = d.rbacBindings) : KeepsRoles d d' := by
  intro sub ns verb hallows
  unfold Db.Allows Db.roleText at hallows ⊢
  rw [h]
  exact hallows

/-- What every statement of a request keeps. -/
def Orderly (req : Request) (d d' : Db) : Prop :=
  KeepsRoles d d' ∧ (req.pathNamespace = none → SameRows d d')

theorem handle_orderly (claims : Claims) (req : Request) :
    Handler.Keeps (Orderly req) (handle claims req) := by
  cases req with
  | createNamespace name =>
    refine handle_keeps (fun d log => ⟨.of_eq rfl, fun _ => ⟨rfl, rfl⟩⟩)
      ⟨keeps_statement (fun d => ?_), keeps_statement (fun d => ?_)⟩
    · split_ifs <;> exact ⟨.of_eq rfl, fun _ => ⟨rfl, rfl⟩⟩
    · split_ifs
      · exact ⟨fun _ _ _ h => h.grant, fun _ => ⟨rfl, rfl⟩⟩
      · exact ⟨.of_eq rfl, fun _ => ⟨rfl, rfl⟩⟩
  | listNamespaces le =>
    exact handle_keeps (fun d log => ⟨.of_eq rfl, fun _ => ⟨rfl, rfl⟩⟩) trivial
  | _ =>
    refine Prog.Keeps.mono (fun d d' h => ?_) (handle_untouched claims _ rfl)
    exact ⟨.of_eq h.2, fun hreq => absurd hreq (Option.some_ne_none _)⟩

/-! ## The gate -/

/-- The handler changes neither machines nor snapshots, and answers with an error. -/
def Barred (h : Handler Response) : Prop :=
  Handler.Keeps SameRows h ∧ Prog.Always (fun r => ∀ a, r ≠ .ok a) h

theorem barred_throw (e : ApiError) : Barred (throw e) := ⟨trivial, by rintro a ⟨⟩⟩

/-- The handler is about to look up the role: unless the tables allow the verb then, it is barred. -/
def AtGate (sub ns : String) (verb : Verb) : Handler Response → Prop
  | .done _ => False
  | .stmt u n e => (∀ d, u d = d) ∧ (∀ d, d.Allows sub ns verb ∨ Barred (n d)) ∧ ∀ text, Barred (e text)

theorem atGate_ensureAllowed (claims : Claims) (ns : String) (verb : Verb) (action : String)
    (rest : Unit → Handler Response) :
    AtGate claims.sub ns verb (ensureAllowed claims ns verb action >>= rest) := by
  refine ⟨fun d => rfl, fun d => ?_, fun text => barred_throw _⟩
  have hdenial : Barred (do
      attempt (audit claims.sub (some ns) action none "denied")
      throw .forbidden : Handler Response) :=
    ⟨⟨fun d => ⟨rfl, rfl⟩, fun d => trivial, fun text => trivial⟩,
      fun d => (barred_throw _).2, fun text => (barred_throw _).2⟩
  cases htext : d.roleText claims.sub ns with
  | none =>
    right
    simp only [htext]
    exact hdenial
  | some text =>
    cases hrole : Role.parse text with
    | error msg =>
      right
      simp only [htext, hrole]
      exact barred_throw _
    | ok role =>
      by_cases hverb : authorize (some (ns, role)) ns verb = true
      · exact Or.inl ⟨role, by rw [htext, Option.map_some, hrole], hverb⟩
      · right
        simp only [htext, hrole]
        show Barred (Handler.bind
          (if authorize (some (ns, role)) ns verb = true then pure () else _) rest)
        rw [if_neg hverb]
        exact hdenial

theorem atGate_handle {claims : Claims} {req : Request} {ns : String}
    (hreq : req.pathNamespace = some ns) : AtGate claims.sub ns req.verb (handle claims req) := by
  cases req <;> simp only [Request.pathNamespace, reduceCtorEq, Option.some.injEq] at hreq <;>
    subst hreq <;> exact atGate_ensureAllowed claims _ _ _ _

/-! ## Whole runs -/

/-- A request on a namespace is allowed, or barred, or has yet to look up whether it is allowed. -/
def Cleared (db : Db) (t : Task) : Prop :=
  ∀ ns, t.req.pathNamespace = some ns → db.Allows t.claims.sub ns t.req.verb ∨ Barred t.rest ∨
    AtGate t.claims.sub ns t.req.verb t.rest

/-- Executed or refused, the next statement leaves the request cleared. -/
theorem Cleared.next {d : Db} {claims : Claims} {req : Request} {u : Db → Db}
    {n : Db → Handler Response} {e : String → Handler Response}
    (h : Cleared d ⟨claims, req, .stmt u n e⟩) :
    Cleared d ⟨claims, req, n d⟩ ∧ ∀ text, Cleared d ⟨claims, req, e text⟩ := by
  refine ⟨fun ns hns => ?_, fun text ns hns => ?_⟩ <;>
    rcases h ns hns with hallows | ⟨hkeeps, hanswer⟩ | ⟨-, hn, he⟩
  · exact .inl hallows
  · exact .inr (.inl ⟨hkeeps.2.1 d, hanswer.1 d⟩)
  · exact (hn d).imp_right .inl
  · exact .inl hallows
  · exact .inr (.inl ⟨hkeeps.2.2 text, hanswer.2 text⟩)
  · exact .inr (.inl (he text))

/-- The invariant of all runs. -/
structure Gated (w : World) : Prop where
  orderly : w.Served (fun _ => Orderly)
  cleared : ∀ t ∈ w.tasks, Cleared w.db t

theorem Gated.step (w : World) (e : Event) (w' : World) (h : Gated w)
    (hs : Controller.step w e = some w') : Gated w' := by
  obtain ⟨horderly, hdb⟩ := h.orderly.step handle_orderly hs
  have hroles : KeepsRoles w.db w'.db := by
    rcases hdb with ⟨hdb, -⟩ | ⟨_, _, _, _, hroles, -⟩
    · exact .of_eq (by rw [hdb])
    · exact hroles.1
  suffices hcleared : ∀ t ∈ w'.tasks, Cleared w.db t from
    ⟨horderly, fun t ht ns hns => (hcleared t ht ns hns).imp_left (hroles _ _ _)⟩
  intro t ht
  cases e with
  | submit claims req =>
    cases hs
    rcases List.mem_append.mp ht with ht | ht
    · exact h.cleared t ht
    · obtain rfl := List.mem_singleton.mp ht
      exact fun ns hns => .inr (.inr (atGate_handle hns))
  | exec i | fail i text =>
    simp only [Controller.step] at hs
    split at hs
    next claims req u n e hi =>
      cases hs
      have hnext := (h.cleared _ (List.mem_of_getElem? hi)).next
      rcases List.mem_or_eq_of_mem_set ht with ht | rfl
      · exact h.cleared t ht
      · first | exact hnext.1 | exact hnext.2 _
    next => cases hs

/-- Alice lists the machines of her namespace. -/
def listing : List Event :=
  [.submit ⟨"alice"⟩ (.createNamespace "a"), .exec 0, .exec 0, .exec 0,
   .submit ⟨"alice"⟩ (.listMachines (fun _ _ => true) "a"), .exec 1, .exec 1]

end MicroMachines.Controller
