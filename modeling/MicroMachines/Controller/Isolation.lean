import MicroMachines.Controller.Effects

set_option autoImplicit false

/-! # Tenant isolation

The requests of all subjects are interleaved statement by statement (`Controller/Effects.lean`).

* `Isolated`: a role is held only by the subject who inserted the namespace, and every
  machine or snapshot request of anybody else on that namespace is refused.
* `takeover`: posting a namespace that somebody else created grants `admin` in it, because
  the insert ignores a duplicate and the grant does not look at its outcome.
* `isolated_of_uncontested`: this is the only way; runs in which nobody posts a namespace
  of another subject are isolated in every state they reach.
-/

namespace MicroMachines.Controller

open MicroMachines.Lib

/-! ## What a handler's statements do to namespaces and bindings -/

/-- The namespaces and the role bindings are as before. -/
def Untouched (d d' : Db) : Prop :=
  d'.namespaces = d.namespaces ∧ d'.rbacBindings = d.rbacBindings

/-- The namespace a request tries to create. -/
def Request.createdNamespace : Request → Option String
  | .createNamespace name => some name
  | _ => none

/-- No handler but the one that creates a namespace touches namespaces or bindings. -/
theorem handle_untouched (claims : Claims) (req : Request) (h : req.createdNamespace = none) :
    Handler.Keeps Untouched (handle claims req) := by
  refine handle_keeps (fun d log => ⟨rfl, rfl⟩) ?_
  cases req with
  | createNamespace name => simp [Request.createdNamespace] at h
  | createMachine ns fleet name spec uid =>
    refine keeps_statement (fun d => ?_)
    split_ifs <;> exact ⟨rfl, rfl⟩
  | deleteMachine ns name | startMachine ns name | stopMachine ns name
  | deleteSnapshot ns id => exact keeps_statement (fun d => ⟨rfl, rfl⟩)
  | createSnapshot ns name branch connected reply uid =>
    match reply with
    | .disconnected => trivial
    | .timedOut => trivial
    | .result false _ _ => trivial
    | .result true _ _ =>
      intro kind hostId memoryMib
      refine keeps_statement (fun d => ?_)
      split_ifs <;> exact ⟨rfl, rfl⟩
  | _ => trivial

/-! ## Creating a namespace -/

theorem holdsRole_iff (db : Db) (subject ns : String) :
    db.HoldsRole subject ns ↔ ∃ b ∈ db.rbacBindings, b.subject = subject ∧ b.ns = ns := by
  simp [Db.HoldsRole, Db.roleText, BindingRow.isFor]

/-- The upsert adds at most the binding of its own key. -/
theorem mem_upsertBinding {subject ns role : String} {rows : List BindingRow} {b : BindingRow}
    (hb : b ∈ upsertBinding subject ns role rows) : (b.subject = subject ∧ b.ns = ns) ∨
      ∃ b' ∈ rows, b'.subject = b.subject ∧ b'.ns = b.ns := by
  unfold upsertBinding at hb
  split_ifs at hb with hany
  · obtain ⟨b', hb', rfl⟩ := List.mem_map.mp hb
    refine Or.inr ⟨b', hb', ?_⟩
    split_ifs <;> exact ⟨rfl, rfl⟩
  · rcases List.mem_append.mp hb with hb | hb
    · exact Or.inr ⟨b, hb, rfl, rfl⟩
    · obtain rfl := List.mem_singleton.mp hb
      exact Or.inl ⟨rfl, rfl⟩

/-- What one statement of a request by `sub` can do: add the row of the namespace it creates,
and bind `sub` in that namespace once its row exists. -/
structure Effect (sub : String) (created : Option String) (d d' : Db) : Prop where
  keeps : ∀ ns ∈ d.namespaces, ns ∈ d'.namespaces
  adds : ∀ ns ∈ d'.namespaces, ns ∈ d.namespaces ∨ created = some ns
  binds : ∀ s ns, d'.HoldsRole s ns →
    d.HoldsRole s ns ∨ (created = some ns ∧ s = sub ∧ ns ∈ d.namespaces)

theorem Untouched.effect {sub : String} {created : Option String} {d d' : Db}
    (h : Untouched d d') : Effect sub created d d' := by
  obtain ⟨hns, hrb⟩ := h
  refine ⟨fun ns hm => hns ▸ hm, fun ns hm => Or.inl (hns ▸ hm), fun s ns hr => Or.inl ?_⟩
  rw [holdsRole_iff] at hr ⊢
  rwa [hrb] at hr

theorem createNamespace_effect (sub name : String) :
    Prog.Keeps (Effect sub (some name)) (createNamespace name) := by
  refine keeps_statement (fun d => ?_)
  split_ifs with h
  · exact Untouched.effect ⟨rfl, rfl⟩
  · refine ⟨fun ns hm => List.mem_append_left _ hm, fun ns hm => ?_, fun s ns hr => Or.inl ?_⟩
    · rcases List.mem_append.mp hm with hm | hm
      · exact Or.inl hm
      · exact Or.inr (congrArg some (List.mem_singleton.mp hm).symm)
    · rw [holdsRole_iff] at hr ⊢
      exact hr

theorem putBinding_effect (sub name : String) (role : Role) :
    Prog.Keeps (Effect sub (some name)) (putBinding sub name role) := by
  refine keeps_statement (fun d => ?_)
  split_ifs with h
  · refine ⟨fun ns hm => hm, fun ns hm => Or.inl hm, fun s ns hr => ?_⟩
    rw [holdsRole_iff] at hr ⊢
    obtain ⟨b, hb, rfl, rfl⟩ := hr
    rcases mem_upsertBinding hb with ⟨hs, hn⟩ | ⟨b', hb', hs, hn⟩
    · exact Or.inr ⟨by rw [hn], hs, by rw [hn]; exact h⟩
    · exact Or.inl ⟨b', hb', hs, hn⟩
  · exact Untouched.effect ⟨rfl, rfl⟩

/-- Every statement of every request has the effect described by `Effect`. -/
theorem handle_effect (claims : Claims) (req : Request) :
    Handler.Keeps (Effect claims.sub req.createdNamespace) (handle claims req) := by
  cases hreq : req.createdNamespace with
  | some name =>
    cases req <;> simp only [Request.createdNamespace, reduceCtorEq, Option.some.injEq] at hreq
    subst hreq
    refine handle_keeps (fun d log => Untouched.effect ⟨rfl, rfl⟩) ?_
    exact ⟨createNamespace_effect _ _, putBinding_effect _ _ _⟩
  | none => exact Prog.Keeps.mono (fun _ _ => Untouched.effect) (handle_untouched claims req hreq)

/-! ## Refused requests -/

/-- In the tables `db` the handler is refused: its first statement only reads, and what
follows writes nothing but the audit log and can only answer with an error, `403` unless the
database refused the read itself. -/
def Refused (db : Db) : Handler Response → Prop
  | .done _ => False
  | .stmt u n e =>
    (∀ d, u d = d) ∧
    Prog.Always (fun r => r = .error .forbidden) (n db) ∧
    Prog.Keeps (fun d d' => ∃ log, d' = { d with auditLog := log }) (n db) ∧
    ∀ text, e text = .done (.error (.internal text))

/-- Without a role in the namespace, `ensure_allowed` ends the handler. -/
theorem refused_of_not_holdsRole {db : Db} {claims : Claims} {ns : String}
    (h : ¬ db.HoldsRole claims.sub ns) (verb : Verb) (action : String)
    (rest : Unit → Handler Response) :
    Refused db (ensureAllowed claims ns verb action >>= rest) := by
  have htext : db.roleText claims.sub ns = none := by
    simpa [Db.HoldsRole] using h
  refine ⟨fun d => rfl, ?_, ?_, fun text => rfl⟩
  · simp only [htext]
    exact ⟨fun d => rfl, fun x => rfl⟩
  · simp only [htext]
    exact ⟨fun d => ⟨_, rfl⟩, fun d => trivial, fun x => trivial⟩

/-- Every machine and snapshot request starts with the authorization of its namespace. -/
theorem handle_refused {db : Db} {claims : Claims} {req : Request} {ns : String}
    (hreq : req.pathNamespace = some ns) (h : ¬ db.HoldsRole claims.sub ns) :
    Refused db (handle claims req) := by
  cases req <;> simp only [Request.pathNamespace, reduceCtorEq, Option.some.injEq] at hreq <;>
    subst hreq <;> exact refused_of_not_holdsRole h _ _ _

/-! ## Interleaved requests -/

/-- A role is held only by the subject who inserted the namespace row, and a machine or
snapshot request of any other subject is refused. -/
def Isolated (w : World) : Prop :=
  (∀ s ns, w.db.HoldsRole s ns → w.creator ns = some s) ∧
  ∀ claims req ns, req.pathNamespace = some ns → w.creator ns ≠ some claims.sub →
    Refused w.db (handle claims req)

/-- **A namespace can be taken over.** `bob` posts the namespace that `alice` created and
becomes its admin. -/
theorem takeover : ∃ w, run step World.init
        [.submit ⟨"alice"⟩ (.createNamespace "team-a"), .exec 0, .exec 0, .exec 0,
         .submit ⟨"bob"⟩ (.createNamespace "team-a"), .exec 1, .exec 1, .exec 1] = some w ∧
      w.creator "team-a" = some "alice" ∧ w.db.roleText "bob" "team-a" = some "admin" ∧
      ¬ Isolated w := by
  refine ⟨_, rfl, by decide, by decide, fun h => ?_⟩
  exact absurd (h.1 "bob" "team-a" (by decide)) (by decide)

/-- The next statement of a task that creates a namespace is executed only while no other
subject's request has inserted that namespace. -/
def Uncontested (w : World) : Event → Prop
  | .exec i => ∀ t ∈ w.tasks[i]?, ∀ ns ∈ t.req.createdNamespace, ∀ s ∈ w.creator ns,
      s = t.claims.sub
  | _ => True

instance (w : World) : ∀ e : Event, Decidable (Uncontested w e)
  | .exec i => inferInstanceAs (Decidable (∀ t ∈ w.tasks[i]?, ∀ ns ∈ t.req.createdNamespace,
      ∀ s ∈ w.creator ns, s = t.claims.sub))
  | .submit _ _ => .isTrue trivial
  | .fail _ _ => .isTrue trivial

/-- The invariant of uncontested runs. -/
structure Inv (w : World) : Prop where
  /-- What is left of a task has the effects of its request. -/
  tasks : w.Served (fun claims req => Effect claims.sub req.createdNamespace)
  /-- The creator of exactly the existing rows is known. -/
  rows : ∀ ns, ns ∈ w.db.namespaces ↔ ∃ s, w.creator ns = some s
  /-- Roles are held by creators. -/
  roles : ∀ s ns, w.db.HoldsRole s ns → w.creator ns = some s

theorem inv_init : Inv World.init := by
  refine ⟨World.served_init _, by simp [World.init, Db.empty], ?_⟩
  intro s ns h
  simp [World.init, Db.empty, holdsRole_iff] at h

theorem Inv.isolated {w : World} (h : Inv w) : Isolated w :=
  ⟨h.roles, fun _ _ ns hreq hne => handle_refused hreq (fun hr => hne (h.roles _ ns hr))⟩

/-- Executing a statement with the effect of an uncontested request keeps rows and roles in
step with their creators. -/
theorem creator_effect {w : World} (h : Inv w) {sub : String} {created : Option String} {d' : Db}
    (he : Effect sub created w.db d') (hun : ∀ ns ∈ created, ∀ s ∈ w.creator ns, s = sub) :
    (∀ ns, ns ∈ d'.namespaces ↔ ∃ s, recordCreator sub w.db d' w.creator ns = some s) ∧
    ∀ s ns, d'.HoldsRole s ns → recordCreator sub w.db d' w.creator ns = some s := by
  constructor
  · intro ns
    by_cases hnew : ns ∈ d'.namespaces ∧ ns ∉ w.db.namespaces
    · simp [recordCreator, hnew]
    · rw [recordCreator, if_neg hnew, ← h.rows]
      exact ⟨fun hm => by_contra (fun hn => hnew ⟨hm, hn⟩), he.keeps ns⟩
  · intro s ns hr
    -- a role, old or new, is in a namespace whose row was there before the statement
    have hold : w.creator ns = some s := by
      rcases he.binds s ns hr with hr | ⟨hc, rfl, hm⟩
      · exact h.roles s ns hr
      · obtain ⟨s', hs'⟩ := (h.rows ns).mp hm
        rw [hs', hun ns hc s' hs']
    have hrow : ns ∈ w.db.namespaces := (h.rows ns).mpr ⟨s, hold⟩
    rw [recordCreator, if_neg (fun hnew => hnew.2 hrow), hold]

theorem inv_step (w : World) (e : Event) (w' : World) (h : Inv w) (hP : Uncontested w e)
    (hs : step w e = some w') : Inv w' := by
  obtain ⟨htasks, ⟨hdb, hcreator⟩ | ⟨i, t, rfl, hi, heffect, hcreator⟩⟩ :=
    h.tasks.step handle_effect hs
  · refine ⟨htasks, ?_, ?_⟩
    · rw [hdb, hcreator]
      exact h.rows
    · rw [hdb, hcreator]
      exact h.roles
  · obtain ⟨hrows, hroles⟩ := creator_effect h heffect (hP t hi)
    rw [← hcreator] at hrows hroles
    exact ⟨htasks, hrows, hroles⟩

/-- **Uncontested runs are isolated.** If every statement of a request that creates a
namespace is executed while no other subject has inserted that namespace, then every state
reached is isolated, whatever the interleaving and whatever statements fail. -/
theorem isolated_of_uncontested (es : List Event) (w : World)
    (hrun : run step World.init es = some w) (hun : Meets step Uncontested World.init es) :
    Isolated w :=
  (run_invariant Inv inv_step es World.init w inv_init hun hrun).isolated

/-- Two tenants create a namespace each, their statements interleaved. -/
def twoTenants : List Event :=
  [.submit ⟨"alice"⟩ (.createNamespace "team-a"), .exec 0,
   .submit ⟨"bob"⟩ (.createNamespace "team-b"), .exec 1, .exec 0, .exec 1, .exec 0]

theorem isolated_twoTenants : ∃ w, run step World.init twoTenants = some w ∧
      w.db.roleText "alice" "team-a" = some "admin" ∧
      w.db.roleText "bob" "team-b" = some "admin" ∧ Isolated w :=
  ⟨_, rfl, by decide, by decide, isolated_of_uncontested twoTenants _ rfl (by decide)⟩

end MicroMachines.Controller
