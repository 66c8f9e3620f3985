import MicroMachines.Lib.Runs
import MicroMachines.Controller.Api

set_option autoImplicit false

/-! # What the statements of a request can do

A handler asks, writes its one or two statements, and writes the audit log. So whatever holds of these
statements, and of a change of the audit log, holds of every statement of the handler (`handle_keeps`).

Any number of requests are in flight at once; each executes its statements one at a time, in
any order relative to the others, and any statement may be refused by the database. The
world also remembers, for each namespace row, the subject whose request inserted it. What a step of
the world does to the tables is what a statement of one request does (`World.Served.step`).
-/

namespace MicroMachines.Controller

open MicroMachines.Lib

section Keeps

variable {α β : Type} {R : Db → Db → Prop}

/-- Every statement of the handler relates the tables before and after it by `R`. -/
def Handler.Keeps (R : Db → Db → Prop) (h : Handler α) : Prop := Prog.Keeps R h

theorem keeps_ask {m : StoreM α} (hm : m.Keeps R) : Handler.Keeps R (ask m) :=
  hm.bind (fun _ => trivial)

theorem keeps_attempt {m : StoreM α} (hm : m.Keeps R) : Handler.Keeps R (attempt m) :=
  hm.bind (fun _ => trivial)

theorem keeps_statement {u : Db → Db} {r : Db → Except SqlError α} (h : ∀ d, R d (u d)) :
    Prog.Keeps R (statement u r) :=
  ⟨h, fun _ => trivial, fun _ => trivial⟩

theorem keeps_handler_bind {h : Handler α} {f : α → Handler β} (hh : Handler.Keeps R h)
    (hf : ∀ a, Handler.Keeps R (f a)) : Handler.Keeps R (h >>= f) := by
  refine Prog.Keeps.bind hh (fun r => ?_)
  cases r with
  | ok a => exact hf a
  | error e => trivial

theorem keeps_okOr (o : Option α) (e : ApiError) : Handler.Keeps R (okOr o e) := by
  cases o <;> trivial

end Keeps

/-! ## Handlers -/

/-- A change of the audit log, or none at all, is in `R`. -/
def Logs (R : Db → Db → Prop) : Prop := ∀ d log, R d { d with auditLog := log }

/-- The statements of a request that write anything but the audit log keep to `R`. -/
def Writes (R : Db → Db → Prop) (claims : Claims) : Request → Prop
  | .createNamespace name =>
    (createNamespace name).Keeps R ∧ (putBinding claims.sub name .admin).Keeps R
  | .createMachine ns fleet name spec uid => (createMachine ns fleet name spec uid).Keeps R
  | .deleteMachine ns name => (deleteMachine ns name).Keeps R
  | .startMachine ns name => (setRunning ns name true).Keeps R
  | .stopMachine ns name => (setRunning ns name false).Keeps R
  | .createSnapshot ns name _ _ (.result true id _) uid =>
    ∀ kind hostId memoryMib,
      (createSnapshot ns name id kind hostId memoryMib "ready" uid).Keeps R
  | .deleteSnapshot ns id => (deleteSnapshot ns id).Keeps R
  | _ => True

section Handlers

variable {α : Type} {R : Db → Db → Prop} (hlog : Logs R)
include hlog

theorem keeps_read (r : Db → Except SqlError α) : Handler.Keeps R (ask (statement id r)) :=
  keeps_ask (keeps_statement (fun d => hlog d d.auditLog))

theorem keeps_audit (actor : String) (ns : Option String) (action : String)
    (resource : Option String) (outcome : String) :
    Handler.Keeps R (attempt (audit actor ns action resource outcome)) :=
  keeps_attempt (keeps_statement (fun d => hlog d _))

theorem keeps_ensureAllowed (claims : Claims) (ns : String) (verb : Verb) (action : String) :
    Handler.Keeps R (ensureAllowed claims ns verb action) := by
  refine keeps_handler_bind (keeps_read hlog _) (fun binding => ?_)
  by_cases h : authorize (binding.map (fun role => (ns, role))) ns verb = true
  · rw [if_pos h]
    trivial
  · rw [if_neg h]
    exact keeps_handler_bind (keeps_audit hlog _ _ _ _ _) (fun _ => trivial)

theorem keeps_placed (ns name : String) : Handler.Keeps R (Machines.placed ns name) := by
  refine keeps_handler_bind (keeps_read hlog _) (fun row => ?_)
  refine keeps_handler_bind (keeps_okOr _ _) (fun machine => ?_)
  by_cases h : machine.status.state ≠ .running
  · rw [if_pos h]
    trivial
  · rw [if_neg h]
    exact keeps_handler_bind (keeps_okOr _ _) (fun _ => trivial)

/-- A handler that ends by recording success in the audit log. -/
theorem keeps_audited {actor : String} {ns : Option String} {action : String}
    {resource : Option String} {outcome : String} (r : Response) : Handler.Keeps R
      ((do attempt (audit actor ns action resource outcome); pure r : Handler Response)) :=
  keeps_handler_bind (keeps_audit hlog _ _ _ _ _) (fun _ => trivial)

/-- A handler whose statement reports how many rows it changed. -/
theorem keeps_affected {m : StoreM Nat} (hm : m.Keeps R) {actor : String} {ns : Option String}
    {action : String} {resource : Option String} (r : Response) : Handler.Keeps R ((do
        let affected ← ask m
        if affected = 0 then throw .notFound
        else do attempt (audit actor ns action resource "allowed"); pure r : Handler Response)) := by
  refine keeps_handler_bind (keeps_ask hm) (fun affected => ?_)
  by_cases h : affected = 0
  · rw [if_pos h]
    trivial
  · rw [if_neg h]
    exact keeps_audited hlog r

theorem keeps_createMachine {claims : Claims} {ns fleet name : String} {spec : MachineSpec}
    {uid : Nat} (hm : (createMachine ns fleet name spec uid).Keeps R) :
    Handler.Keeps R (Machines.create claims ns fleet name spec uid) := by
  refine keeps_handler_bind (keeps_ensureAllowed hlog _ _ _ _) (fun _ => ?_)
  refine keeps_handler_bind (keeps_read hlog _) (fun found => ?_)
  by_cases hf : (!found) = true
  · rw [if_pos hf]
    trivial
  · rw [if_neg hf]
    by_cases hn : name = ""
    · rw [if_pos hn]
      trivial
    · rw [if_neg hn]
      exact keeps_handler_bind (keeps_ask hm) (fun _ => keeps_audited hlog _)

theorem keeps_execMachine (claims : Claims) (ns name : String) (command : List String)
    (connected : String → Bool) :
    Handler.Keeps R (Machines.exec claims ns name command connected) := by
  refine keeps_handler_bind (keeps_ensureAllowed hlog _ _ _ _) (fun _ => ?_)
  by_cases hc : command = []
  · rw [if_pos hc]
    trivial
  · rw [if_neg hc]
    refine keeps_handler_bind (keeps_placed hlog _ _) (fun p => ?_)
    by_cases hh : (!connected p.2) = true
    · simp only [hh, if_true]
      trivial
    · simp only [hh]
      exact keeps_audited hlog _

theorem keeps_createSnapshot {claims : Claims} {ns name : String} {branch : Bool}
    {connected : String → Bool} {reply : AgentReply} {uid : Nat}
    (hm : Writes R claims (.createSnapshot ns name branch connected reply uid)) :
    Handler.Keeps R (Snapshots.create claims ns name branch connected reply uid) := by
  refine keeps_handler_bind (keeps_ensureAllowed hlog _ _ _ _) (fun _ => ?_)
  refine keeps_handler_bind (keeps_placed hlog _ _) (fun p => ?_)
  by_cases hh : (!connected p.2) = true
  · simp only [hh, if_true]
    trivial
  · simp only [hh]
    match reply with
    | .disconnected => trivial
    | .timedOut => trivial
    | .result false _ _ => trivial
    | .result true _ _ =>
      exact keeps_handler_bind (keeps_ask (hm _ _ _)) (fun _ => keeps_audited hlog _)

/-- **Every statement of a request** is one of those it writes with, or leaves all but the audit log
alone. -/
theorem handle_keeps {claims : Claims} {req : Request} (hreq : Writes R claims req) :
    Handler.Keeps R (handle claims req) := by
  cases req with
  | createNamespace name =>
    show Handler.Keeps R (Namespaces.create claims name)
    unfold Namespaces.create
    split_ifs
    · trivial
    · refine keeps_handler_bind (keeps_ask hreq.1) (fun _ => ?_)
      exact keeps_handler_bind (keeps_ask hreq.2) (fun _ => keeps_audited hlog _)
  | listNamespaces le => exact keeps_handler_bind (keeps_read hlog _) (fun _ => trivial)
  | createMachine ns fleet name spec uid => exact keeps_createMachine hlog hreq
  | getMachine ns name =>
    refine keeps_handler_bind (keeps_ensureAllowed hlog _ _ _ _) (fun _ => ?_)
    refine keeps_handler_bind (keeps_read hlog _) (fun row => ?_)
    exact keeps_handler_bind (keeps_okOr _ _) (fun _ => trivial)
  | listMachines le ns | listSnapshots le ns name =>
    refine keeps_handler_bind (keeps_ensureAllowed hlog _ _ _ _) (fun _ => ?_)
    exact keeps_handler_bind (keeps_read hlog _) (fun _ => trivial)
  | deleteMachine ns name | startMachine ns name | stopMachine ns name | deleteSnapshot ns id =>
    exact keeps_handler_bind (keeps_ensureAllowed hlog _ _ _ _) (fun _ => keeps_affected hlog hreq _)
  | execMachine ns name command connected => exact keeps_execMachine hlog _ _ _ _ _
  | createSnapshot ns name branch connected reply uid => exact keeps_createSnapshot hlog hreq

end Handlers

/-! ## Interleaved requests -/

/-- A request in flight: who sent it and what is left of its handler. -/
structure Task where
  claims : Claims
  req : Request
  rest : Handler Response

/-- The tables, the requests received so far, and who inserted each namespace row. -/
structure World where
  db : Db
  tasks : List Task
  creator : String → Option String

/-- Empty tables and no request yet. -/
def World.init : World := ⟨Db.empty, [], fun _ => none⟩

/-- What happens next: a request arrives, or the next statement of a task is executed, or
the database refuses it. -/
inductive Event
  | submit (claims : Claims) (req : Request)
  | exec (i : Nat)
  | fail (i : Nat) (text : String)

/-- Who inserted each row after a statement of `sub` turned `d` into `d'`. -/
def recordCreator (sub : String) (d d' : Db) (creator : String → Option String) :
    String → Option String :=
  fun ns => if ns ∈ d'.namespaces ∧ ns ∉ d.namespaces then some sub else creator ns

def step (w : World) : Event → Option World
  | .submit claims req =>
    some { w with tasks := w.tasks ++ [⟨claims, req, handle claims req⟩] }
  | .exec i =>
    match w.tasks[i]? with
    | some ⟨claims, req, .stmt u n _⟩ =>
      some ⟨u w.db, w.tasks.set i ⟨claims, req, n w.db⟩,
        recordCreator claims.sub w.db (u w.db) w.creator⟩
    | _ => none
  | .fail i text =>
    match w.tasks[i]? with
    | some ⟨claims, req, .stmt _ _ e⟩ =>
      some { w with tasks := w.tasks.set i ⟨claims, req, e text⟩ }
    | _ => none

/-- What is left of every request in flight keeps to the relation of that request. -/
def World.Served (E : Claims → Request → Db → Db → Prop) (w : World) : Prop :=
  ∀ t ∈ w.tasks, Handler.Keeps (E t.claims t.req) t.rest

theorem World.served_init (E : Claims → Request → Db → Db → Prop) : World.init.Served E := by
  simp [World.Served, World.init]

section Served

variable {E : Claims → Request → Db → Db → Prop} {w w' : World}

/-- Replacing a task by what is left of it. -/
theorem World.Served.set (h : w.Served E) {i : Nat} {t : Task}
    (ht : Handler.Keeps (E t.claims t.req) t.rest) :
    ∀ t' ∈ w.tasks.set i t, Handler.Keeps (E t'.claims t'.req) t'.rest := by
  intro t' ht'
  rcases List.mem_or_eq_of_mem_set ht' with ht' | rfl
  · exact h t' ht'
  · exact ht

/-- **One step.** It leaves the tables alone or executes a statement of one of the requests. -/
theorem World.Served.step (hE : ∀ claims req, Handler.Keeps (E claims req) (handle claims req))
    (h : w.Served E) {e : Event} (hs : Controller.step w e = some w') : w'.Served E ∧
    ((w'.db = w.db ∧ w'.creator = w.creator) ∨
      ∃ i t, e = .exec i ∧ w.tasks[i]? = some t ∧ E t.claims t.req w.db w'.db ∧
        w'.creator = recordCreator t.claims.sub w.db w'.db w.creator) := by
  cases e with
  | submit claims req =>
    cases hs
    refine ⟨fun t ht => ?_, Or.inl ⟨rfl, rfl⟩⟩
    rcases List.mem_append.mp ht with ht | ht
    · exact h t ht
    · obtain rfl := List.mem_singleton.mp ht
      exact hE claims req
  | exec i =>
    simp only [Controller.step] at hs
    split at hs
    next claims req u n e hi =>
      cases hs
      obtain ⟨hu, hn, -⟩ := h _ (List.mem_of_getElem? hi)
      exact ⟨h.set (hn w.db), Or.inr ⟨i, _, rfl, hi, hu w.db, rfl⟩⟩
    next => cases hs
  | fail i text =>
    simp only [Controller.step] at hs
    split at hs
    next claims req u n e hi =>
      cases hs
      obtain ⟨-, -, he⟩ := h _ (List.mem_of_getElem? hi)
      exact ⟨h.set (he text), Or.inl ⟨rfl, rfl⟩⟩
    next => cases hs

end Served

end MicroMachines.Controller
