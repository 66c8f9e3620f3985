import Mathlib.Logic.Function.Basic
import MicroMachines.Lib.Runs
import MicroMachines.Controller.Reconcile

set_option autoImplicit false

/-! # The dispatchers

`ExecDispatcher` and `SnapshotDispatcher` of `services/mm-controller/src/grpc.rs`. Both pass tasks to
the agents and results back to the callers. An agent connects and reads its tasks from a channel; a
new connection takes the place of the old one. For every request there is a channel to its caller, in
a table `pending` under the id of the request.

The table is locked only while it is read or changed. `route` takes a copy of the channel's sender out
of it and then waits until there is room, and `complete` takes the entry itself. By the time of the
send the entry may be gone, or another one may be there, the caller may have hung up, and other reports
may have come first.

Each lookup, send and receive is a step of its own here, and so steps of any number of calls are mixed
in any way. There is a clock that counts them, so that a result can say when it was looked up and when it
was sent.

* `delivered`: what the callers receive, and what is left in the table.
-/

namespace MicroMachines.Controller

open MicroMachines.Lib

namespace Proto

structure ExecRequest where
  ref : Option MachineRef
  cmd : List String
  timeoutMs : UInt64
  deriving DecidableEq, Repr

structure ExecTask where
  requestId : String
  request : Option ExecRequest
  deriving DecidableEq, Repr

structure ExecChunk where
  stream : String
  data : List UInt8
  exitCode : Int32
  done : Bool
  requestId : String
  error : String
  deriving DecidableEq, Repr

structure SnapshotTask where
  requestId : String
  ref : Option MachineRef
  branch : Bool
  deriving DecidableEq, Repr

structure SnapshotResult where
  requestId : String
  id : String
  ok : Bool
  error : String
  deriving DecidableEq, Repr

end Proto

namespace Dispatch

/-- What the two dispatchers differ in. -/
structure Kind (ρ : Type) where
  requestId : ρ → String
  /-- The room in the channel to a caller. -/
  capacity : Nat
  /-- A result takes its request out of the table, and a report is a single result. -/
  oneshot : Bool

def execDispatcher : Kind Proto.ExecChunk := ⟨Proto.ExecChunk.requestId, 64, false⟩

def snapshotDispatcher : Kind Proto.SnapshotResult := ⟨Proto.SnapshotResult.requestId, 1, true⟩

/-! ## Tasks for the agents -/

/-- The channel of a connection. -/
structure TaskChannel (τ : Type) where
  queue : List τ
  /-- The agent has not gone. -/
  connected : Bool

structure Outbound (τ : Type) where
  /-- The channel of the last connection from each host. -/
  agents : String → Option Nat
  channels : Nat → TaskChannel τ
  opened : Nat
  /-- The calls of `dispatch` that have a sender and wait for room. -/
  calls : Nat → Option (Nat × τ)

def TASK_CAPACITY : Nat := 16

namespace Outbound

variable {τ : Type}

def init : Outbound τ := ⟨fun _ => none, fun _ => ⟨[], false⟩, 0, fun _ => none⟩

inductive Action (τ : Type) where
  | connect (host : String)
  | disconnect (c : Nat)
  /-- A call of `dispatch` looks for the host. -/
  | dispatch (j : Nat) (host : String) (task : τ)
  /-- Its send succeeds, and it returns true. -/
  | push (j : Nat)
  /-- Its send fails, and it returns false. -/
  | refused (j : Nat)
  /-- The agent reads a task. -/
  | take (c : Nat)

def setChannel (o : Outbound τ) (c : Nat) (ch : TaskChannel τ) : Outbound τ :=
  { o with channels := Function.update o.channels c ch }

def setCall (o : Outbound τ) (j : Nat) (call : Option (Nat × τ)) : Outbound τ :=
  { o with calls := Function.update o.calls j call }

def step (o : Outbound τ) : Action τ → Option (Outbound τ)
  | .connect host =>
    some { o.setChannel o.opened ⟨[], true⟩ with
      agents := Function.update o.agents host (some o.opened)
      opened := o.opened + 1 }
  | .disconnect c => some (o.setChannel c { o.channels c with connected := false })
  | .dispatch j host task =>
    match o.calls j, o.agents host with
    | some _, _ => none
    | none, some c => some (o.setCall j (some (c, task)))
    -- no agent is connected for the host: `dispatch` returns false
    | none, none => some o
  | .push j =>
    match o.calls j with
    | none => none
    | some (c, task) =>
      if (o.channels c).connected ∧ (o.channels c).queue.length < TASK_CAPACITY then
        some ((o.setCall j none).setChannel c
          { o.channels c with queue := (o.channels c).queue ++ [task] })
      else none
  | .refused j =>
    match o.calls j with
    | none => none
    | some (c, _) => if (o.channels c).connected then none else some (o.setCall j none)
  | .take c =>
    match o.channels c with
    | ⟨_ :: queue, true⟩ => some (o.setChannel c ⟨queue, true⟩)
    | _ => none

end Outbound

/-! ## Results for the callers -/

/-- A result on its way: from which report it is and which place it has there, when its request was
looked up and when it was sent. -/
structure Routed (ρ : Type) where
  result : ρ
  report : Nat
  place : Nat
  lookedUp : Nat
  sent : Nat
  deriving DecidableEq, Repr

/-- A request, with everything its caller has received. -/
structure Caller (ρ : Type) where
  id : String
  queue : List (Routed ρ)
  received : List (Routed ρ)
  /-- The receiver has not been dropped. -/
  listening : Bool
  finishedAt : Option Nat
  completed : Bool

/-- Everything that was sent to the caller, in this order. -/
def Caller.history {ρ : Type} (c : Caller ρ) : List (Routed ρ) := c.received ++ c.queue

/-- How far a report is: `report_exec_result` reads a result and calls `route`. -/
inductive Stage (ρ : Type) where
  | reading
  /-- `route` has the sender of a request. -/
  | sending (result : ρ) (q : Nat) (lookedUp : Nat)
  | stopped
  deriving DecidableEq, Repr

structure Report (ρ : Type) where
  stage : Stage ρ
  forwarded : Nat

structure Routing (ρ : Type) where
  /-- The sender that is in the table for a request id. -/
  pending : String → Option Nat
  callers : Nat → Caller ρ
  begun : Nat
  reports : Nat → Report ρ
  now : Nat

namespace Routing

variable {ρ : Type}

def init : Routing ρ where
  pending := fun _ => none
  callers := fun _ => ⟨"", [], [], false, none, false⟩
  begun := 0
  reports := fun _ => ⟨.reading, 0⟩
  now := 0

inductive Action (ρ : Type) where
  | begin (id : String)
  /-- A report reads a result, and `route` or `complete` looks for its request. -/
  | route (k : Nat) (r : ρ)
  | send (k : Nat)
  /-- The caller has hung up. -/
  | sendFails (k : Nat)
  /-- The report is over, or its connection is. -/
  | close (k : Nat)
  | receive (q : Nat)
  | hangUp (q : Nat)
  | finish (q : Nat)

def setCaller (s : Routing ρ) (q : Nat) (c : Caller ρ) : Routing ρ :=
  { s with callers := Function.update s.callers q c }

def setReport (s : Routing ρ) (k : Nat) (r : Report ρ) : Routing ρ :=
  { s with reports := Function.update s.reports k r }

def stop (s : Routing ρ) (k : Nat) : Routing ρ :=
  s.setReport k { s.reports k with stage := .stopped }

def remove (s : Routing ρ) (id : String) : Routing ρ :=
  { s with pending := Function.update s.pending id none }

/-- The sender of the request `q`: a copy in `route`; in `complete` the one from the table. -/
def claim (K : Kind ρ) (s : Routing ρ) (id : String) (q : Nat) : Routing ρ :=
  if K.oneshot then (s.remove id).setCaller q { s.callers q with completed := true } else s

def tick (s : Routing ρ) : Routing ρ := { s with now := s.now + 1 }

def move (K : Kind ρ) (s : Routing ρ) : Action ρ → Option (Routing ρ)
  | .begin id =>
    -- `insert` drops a sender that is there under the same id
    some { s.setCaller s.begun ⟨id, [], [], true, none, false⟩ with
      pending := Function.update s.pending id (some s.begun)
      begun := s.begun + 1 }
  | .route k r =>
    match (s.reports k).stage, s.pending (K.requestId r) with
    | .reading, some q =>
      some ((s.claim K (K.requestId r) q).setReport k
        { s.reports k with stage := .sending r q s.now })
    -- nobody waits for the result, and no more is read
    | .reading, none => some (s.stop k)
    | _, _ => none
  | .send k =>
    match (s.reports k).stage with
    | .sending r q lookedUp =>
      if (s.callers q).listening ∧ (s.callers q).queue.length < K.capacity then
        some ((s.setCaller q { s.callers q with
            queue := (s.callers q).queue ++ [⟨r, k, (s.reports k).forwarded, lookedUp, s.now⟩] }).setReport k
          ⟨if K.oneshot then .stopped else .reading, (s.reports k).forwarded + 1⟩)
      else none
    | _ => none
  | .sendFails k =>
    match (s.reports k).stage with
    | .sending _ q _ => if (s.callers q).listening then none else some (s.stop k)
    | _ => none
  | .close k => some (s.stop k)
  | .receive q =>
    match (s.callers q).queue with
    | [] => none
    | r :: queue =>
      if (s.callers q).listening then
        some (s.setCaller q
          { s.callers q with queue := queue, received := (s.callers q).received ++ [r] })
      else none
  | .hangUp q => some (s.setCaller q { s.callers q with listening := false })
  | .finish q =>
    -- `remove` takes whatever is there under the id
    if q < s.begun then
      some ((s.remove (s.callers q).id).setCaller q
        { s.callers q with finishedAt := (s.callers q).finishedAt.or (some s.now) })
    else none

def step (K : Kind ρ) (s : Routing ρ) (a : Action ρ) : Option (Routing ρ) := (s.move K a).map tick

end Routing

/-! ## What a step does -/

section Rules

variable {ρ : Type} {K : Kind ρ} {s m : Routing ρ} {a : Routing.Action ρ}

/-- The moves of `Routing.move`. -/
inductive Moves (K : Kind ρ) (s : Routing ρ) : Routing.Action ρ → Routing ρ → Prop where
  | begin (id : String) :
      Moves K s (.begin id) { s.setCaller s.begun ⟨id, [], [], true, none, false⟩ with
        pending := Function.update s.pending id (some s.begun)
        begun := s.begun + 1 }
  | route {k : Nat} {r : ρ} {q : Nat} (hpending : s.pending (K.requestId r) = some q)
      (hkind : K.oneshot = false) :
      Moves K s (.route k r)
        (s.setReport k { s.reports k with stage := .sending r q s.now })
  | complete {k : Nat} {r : ρ} {q : Nat} (hpending : s.pending (K.requestId r) = some q) :
      Moves K s (.route k r) (((s.remove (K.requestId r)).setCaller q
        { s.callers q with completed := true }).setReport k
        { s.reports k with stage := .sending r q s.now })
  | stop {a : Routing.Action ρ} {k : Nat}
      (ha : a = .close k ∨ a = .sendFails k ∨ ∃ r, a = .route k r) : Moves K s a (s.stop k)
  | send {k : Nat} {r : ρ} {q lookedUp : Nat}
      (hstage : (s.reports k).stage = .sending r q lookedUp) (stage : Stage ρ)
      (hnext : ∀ r q t, stage ≠ .sending r q t) :
      Moves K s (.send k) ((s.setCaller q { s.callers q with
          queue := (s.callers q).queue ++
            [⟨r, k, (s.reports k).forwarded, lookedUp, s.now⟩] }).setReport k
        ⟨stage, (s.reports k).forwarded + 1⟩)
  | receive {q : Nat} {r : Routed ρ} {queue : List (Routed ρ)}
      (hqueue : (s.callers q).queue = r :: queue) :
      Moves K s (.receive q) (s.setCaller q
        { s.callers q with queue := queue, received := (s.callers q).received ++ [r] })
  | hangUp (q : Nat) :
      Moves K s (.hangUp q) (s.setCaller q { s.callers q with listening := false })
  | finish (q : Nat) :
      Moves K s (.finish q) ((s.remove (s.callers q).id).setCaller q
        { s.callers q with finishedAt := (s.callers q).finishedAt.or (some s.now) })

theorem moves (h : s.move K a = some m) : Moves K s a m := by
  cases a with
  | begin id =>
    cases h
    exact .begin id
  | route k r =>
    simp only [Routing.move] at h
    split at h
    · next q _ hpending =>
        cases h
        unfold Routing.claim
        split
        · exact .complete hpending
        · next hkind => exact .route hpending (Bool.not_eq_true _ ▸ hkind)
    · cases h
      exact .stop (.inr (.inr ⟨r, rfl⟩))
    · cases h
  | send k =>
    simp only [Routing.move] at h
    split at h
    · next r q lookedUp hstage =>
        rw [Option.ite_none_right_eq_some] at h
        obtain ⟨_, h⟩ := h
        cases h
        refine .send hstage _ ?_
        intro r q t
        split <;> simp
    · cases h
  | sendFails k =>
    simp only [Routing.move] at h
    split at h
    · rw [Option.ite_none_left_eq_some] at h
      obtain ⟨_, h⟩ := h
      cases h
      exact .stop (.inr (.inl rfl))
    · cases h
  | close k =>
    cases h
    exact .stop (.inl rfl)
  | receive q =>
    simp only [Routing.move] at h
    split at h
    · cases h
    · next r queue hqueue =>
        rw [Option.ite_none_right_eq_some] at h
        obtain ⟨_, h⟩ := h
        cases h
        exact .receive hqueue
  | hangUp q =>
    cases h
    exact .hangUp q
  | finish q =>
    simp only [Routing.move] at h
    rw [Option.ite_none_right_eq_some] at h
    obtain ⟨_, h⟩ := h
    cases h
    exact .finish q

/-- What is the same for one caller is the same for all. -/
theorem proj_update {β : Type} (f : Caller ρ → β) {callers : Nat → Caller ρ} {q : Nat} {c : Caller ρ}
    (h : f c = f (callers q)) (q' : Nat) : f (Function.update callers q c q') = f (callers q') := by
  rw [Function.update_apply]
  split
  · next hq => rw [h, hq]
  · rfl

/-- What a move does to a request: it begins, something is sent to it, it is finished, or nothing of
this. -/
inductive CallerMoves (s m : Routing ρ) (q : Nat) (c : Caller ρ) : Prop where
  | begun (hq : q = s.begun) (hhistory : c.history = [])
  | sent {k : Nat} {r : ρ} {lookedUp : Nat}
      (hstage : (s.reports k).stage = .sending r q lookedUp)
      (hnext : (s.reports k).forwarded < (m.reports k).forwarded)
      (hhistory : c.history = (s.callers q).history ++
        [⟨r, k, (s.reports k).forwarded, lookedUp, s.now⟩])
      (hid : c.id = (s.callers q).id) (hfinished : c.finishedAt = (s.callers q).finishedAt)
  | finished (hhistory : c.history = (s.callers q).history) (hid : c.id = (s.callers q).id)
      (hfinished : c.finishedAt = (s.callers q).finishedAt.or (some s.now))
  | kept (hhistory : c.history = (s.callers q).history) (hid : c.id = (s.callers q).id)
      (hfinished : c.finishedAt = (s.callers q).finishedAt)

theorem CallerMoves.refl (q : Nat) : CallerMoves s m q (s.callers q) := .kept rfl rfl rfl

/-- Only one request changes. -/
theorem CallerMoves.setCaller {q : Nat} {c : Caller ρ} (h : CallerMoves s m q c) (q' : Nat) :
    CallerMoves s m q' (Function.update s.callers q c q') := by
  by_cases hq : q' = q
  · subst hq
    rw [Function.update_self]
    exact h
  · rw [Function.update_of_ne hq]
    exact .refl q'

theorem Moves.caller (h : Moves K s a m) (q : Nat) : CallerMoves s m q (m.callers q) := by
  cases h with
  | begin id =>
    refine CallerMoves.setCaller ?_ q
    exact .begun rfl rfl
  | route _ _ | stop _ => exact .refl q
  | complete _ | hangUp _ =>
    refine CallerMoves.setCaller ?_ q
    exact .kept rfl rfl rfl
  | send hstage _ _ =>
    refine CallerMoves.setCaller ?_ q
    refine .sent hstage ?_ (List.append_assoc ..).symm rfl rfl
    simp [Routing.setReport, Routing.setCaller]
  | receive hqueue =>
    refine CallerMoves.setCaller ?_ q
    refine .kept ?_ rfl rfl
    simp [Caller.history, hqueue]
  | finish _ =>
    refine CallerMoves.setCaller ?_ q
    exact .finished rfl rfl rfl

theorem Moves.now_eq (h : Moves K s a m) : m.now = s.now := by
  cases h <;> rfl

theorem Moves.begun_le (h : Moves K s a m) : s.begun ≤ m.begun := by
  cases h with
  | begin _ => exact Nat.le_succ _
  | _ => exact Nat.le_refl _

/-- The number of results that a report has forwarded never goes down. -/
theorem Moves.forwarded_le (h : Moves K s a m) (k : Nat) :
    (s.reports k).forwarded ≤ (m.reports k).forwarded := by
  have key : ∀ (k' : Nat) (r : Report ρ), (s.reports k').forwarded ≤ r.forwarded →
      (s.reports k).forwarded ≤ (Function.update s.reports k' r k).forwarded := by
    intro k' r hr
    by_cases hk : k = k'
    · subst hk
      rw [Function.update_self]
      exact hr
    · rw [Function.update_of_ne hk]
  cases h with
  | route _ _ | complete _ | stop _ => exact key _ _ (Nat.le_refl _)
  | send _ _ _ => exact key _ _ (Nat.le_succ _)
  | _ => exact Nat.le_refl _

/-- Only one report changes. -/
theorem stage_update {reports : Nat → Report ρ} {k k' : Nat} {rep : Report ρ} {st : Stage ρ}
    (h : (Function.update reports k' rep k).stage = st) :
    (k = k' ∧ rep.stage = st) ∨ (k ≠ k' ∧ (reports k).stage = st) := by
  rw [Function.update_apply] at h
  split at h
  · next hk => exact .inl ⟨hk, h⟩
  · next hk => exact .inr ⟨hk, h⟩

/-- The stage of a report after a move: one that sends has looked up its request just now, or was sending
before. -/
theorem Moves.sending (h : Moves K s a m) {k : Nat} {r : ρ} {q t : Nat}
    (hstage : (m.reports k).stage = .sending r q t) : (s.reports k).stage = .sending r q t ∨
      (t = s.now ∧ s.pending (K.requestId r) = some q ∧ m.begun = s.begun ∧
        (m.callers q).id = (s.callers q).id ∧
        (m.callers q).finishedAt = (s.callers q).finishedAt) := by
  cases h with
  | begin _ | receive _ | hangUp _ | finish _ => exact .inl hstage
  | route hpending _ =>
    rcases stage_update hstage with ⟨_, hrep⟩ | ⟨_, hrep⟩
    · cases hrep
      exact .inr ⟨rfl, hpending, rfl, rfl, rfl⟩
    · exact .inl hrep
  | complete hpending =>
    rcases stage_update hstage with ⟨_, hrep⟩ | ⟨_, hrep⟩
    · cases hrep
      refine .inr ⟨rfl, hpending, rfl, ?_, ?_⟩ <;>
        simp [Routing.setReport, Routing.setCaller]
    · exact .inl hrep
  | stop _ =>
    rcases stage_update hstage with ⟨_, hrep⟩ | ⟨_, hrep⟩
    · cases hrep
    · exact .inl hrep
  | send _ _ hnext =>
    rcases stage_update hstage with ⟨_, hrep⟩ | ⟨_, hrep⟩
    · exact absurd hrep (hnext r q t)
    · exact .inl hrep

end Rules

/-! ## The invariant -/

section Invariant

variable {ρ : Type} {K : Kind ρ} {s m : Routing ρ} {a : Routing.Action ρ}

/-- A request that may be in the table. -/
def Caller.Open (c : Caller ρ) (id : String) : Prop :=
  c.id = id ∧ c.finishedAt = none ∧ c.completed = false

theorem Caller.Open.update {callers : Nat → Caller ρ} {q q' : Nat} {c : Caller ρ} {id : String}
    (h : (callers q).Open id) (hc : q = q' → c.Open id) :
    (Function.update callers q' c q).Open id := by
  by_cases hq : q = q'
  · subst hq
    rw [Function.update_self]
    exact hc rfl
  · rw [Function.update_of_ne hq]
    exact h

/-- A result that is sent to its own request, and was looked up before that was finished. -/
def Routed.Fits (K : Kind ρ) (s : Routing ρ) (c : Caller ρ) (x : Routed ρ) : Prop :=
  K.requestId x.result = c.id ∧ x.lookedUp < x.sent ∧ x.sent < s.now ∧
    x.place < (s.reports x.report).forwarded ∧ ∀ f, c.finishedAt = some f → x.lookedUp < f

def Routed.Before (x y : Routed ρ) : Prop :=
  x.sent < y.sent ∧ (x.report = y.report → x.place < y.place)

structure Sound (K : Kind ρ) (s : Routing ρ) : Prop where
  pending : ∀ {id : String} {q : Nat}, s.pending id = some q → q < s.begun ∧ (s.callers q).Open id
  sending : ∀ {k : Nat} {r : ρ} {q t : Nat}, (s.reports k).stage = .sending r q t →
    q < s.begun ∧ K.requestId r = (s.callers q).id ∧ t < s.now ∧
      ∀ f, (s.callers q).finishedAt = some f → t < f
  fits : ∀ q, ∀ x ∈ (s.callers q).history, x.Fits K s (s.callers q)
  ordered : ∀ q, (s.callers q).history.Pairwise Routed.Before

theorem Sound.init : Sound K (Routing.init : Routing ρ) where
  pending := fun h => by cases h
  sending := fun h => by cases h
  fits := fun _ => List.forall_mem_nil _
  ordered := fun _ => List.Pairwise.nil

theorem update_eq_some {p : String → Option Nat} {id id' : String} {v : Option Nat} {q : Nat}
    (h : Function.update p id' v id = some q) :
    (id = id' ∧ v = some q) ∨ (id ≠ id' ∧ p id = some q) := by
  rw [Function.update_apply] at h
  split at h
  · next hid => exact .inl ⟨hid, h⟩
  · next hid => exact .inr ⟨hid, h⟩

theorem Sound.pending_step (hs : Sound K s) (h : Moves K s a m) {id : String} {q : Nat}
    (hpending : m.pending id = some q) : q < m.begun ∧ (m.callers q).Open id := by
  cases h with
  | begin id' =>
    change Function.update s.pending id' (some s.begun) id = some q at hpending
    rcases update_eq_some hpending with ⟨rfl, hq⟩ | ⟨_, hold⟩
    · cases hq
      refine ⟨Nat.lt_succ_self _, ?_⟩
      show (Function.update s.callers s.begun _ s.begun).Open id
      rw [Function.update_self]
      exact ⟨rfl, rfl, rfl⟩
    · obtain ⟨hlt, hopen⟩ := hs.pending hold
      exact ⟨Nat.lt_succ_of_lt hlt, hopen.update (fun hq => absurd hq (Nat.ne_of_lt hlt))⟩
  | route _ _ | stop _ => exact hs.pending hpending
  | @complete k r q' hq' =>
    change Function.update s.pending (K.requestId r) none id = some q at hpending
    rcases update_eq_some hpending with ⟨_, hnone⟩ | ⟨hid, hold⟩
    · cases hnone
    · obtain ⟨hlt, hopen⟩ := hs.pending hold
      -- another id, so it is another request that is completed
      refine ⟨hlt, hopen.update ?_⟩
      rintro rfl
      exact absurd (hopen.1.symm.trans (hs.pending hq').2.1) hid
  | send _ _ _ | receive _ | hangUp _ =>
    obtain ⟨hlt, hopen⟩ := hs.pending hpending
    exact ⟨hlt, hopen.update (fun hq => hq ▸ hopen)⟩
  | finish q' =>
    change Function.update s.pending (s.callers q').id none id = some q at hpending
    rcases update_eq_some hpending with ⟨_, hnone⟩ | ⟨hid, hold⟩
    · cases hnone
    · obtain ⟨hlt, hopen⟩ := hs.pending hold
      refine ⟨hlt, hopen.update ?_⟩
      rintro rfl
      exact absurd hopen.1.symm hid

/-- A time before now is before the time at which a request is finished, if it was so far. -/
theorem lt_of_finishes {t now f : Nat} {finished : Option Nat} (ht : t < now)
    (hold : ∀ f, finished = some f → t < f) (hf : finished.or (some now) = some f) : t < f := by
  cases finished with
  | none =>
    cases hf
    exact ht
  | some f' =>
    cases hf
    exact hold f rfl

theorem Sound.sending_step (hs : Sound K s) (h : Moves K s a m) {k : Nat} {r : ρ} {q t : Nat}
    (hstage : (m.reports k).stage = .sending r q t) :
    q < m.begun ∧ K.requestId r = (m.callers q).id ∧ t < s.now + 1 ∧
      ∀ f, (m.callers q).finishedAt = some f → t < f := by
  -- the report was sending before, or it has looked the request up just now
  rcases h.sending hstage with hold | ⟨rfl, hpending, hbegun, hid, hfinished⟩
  · obtain ⟨hlt, hr, ht, hf⟩ := hs.sending hold
    have hlt' : q < m.begun := Nat.lt_of_lt_of_le hlt h.begun_le
    cases h.caller q with
    | begun hq _ => exact absurd hq (Nat.ne_of_lt hlt)
    | sent _ _ _ hid hfinished | kept _ hid hfinished =>
      exact ⟨hlt', hr.trans hid.symm, Nat.lt_succ_of_lt ht, fun f hf' => hf f (hfinished ▸ hf')⟩
    | finished _ hid hfinished =>
      refine ⟨hlt', hr.trans hid.symm, Nat.lt_succ_of_lt ht, fun f hf' => ?_⟩
      exact lt_of_finishes ht hf (hfinished ▸ hf')
  · obtain ⟨hlt, hopen⟩ := hs.pending hpending
    refine ⟨hbegun ▸ hlt, hopen.1.symm.trans hid.symm, Nat.lt_succ_self _, fun f hf => ?_⟩
    rw [hfinished, hopen.2.1] at hf
    cases hf

theorem Routed.Fits.mono {c c' : Caller ρ} {x : Routed ρ} (hx : x.Fits K s c) (h : Moves K s a m)
    (hid : c'.id = c.id) (hfinished : ∀ f, c'.finishedAt = some f → x.lookedUp < f) :
    x.Fits K m.tick c' := by
  obtain ⟨hown, hlooked, hsent, hplace, _⟩ := hx
  refine ⟨hown.trans hid.symm, hlooked, ?_, ?_, hfinished⟩
  · have hnow := h.now_eq
    show x.sent < m.now + 1
    omega
  · exact Nat.lt_of_lt_of_le hplace (h.forwarded_le x.report)

/-- What a report sends has been looked up before, and is the next of this report. -/
theorem Sound.fits_sent (hs : Sound K s) (h : Moves K s a m) {k : Nat} {r : ρ} {q t : Nat}
    (hstage : (s.reports k).stage = .sending r q t) {c : Caller ρ} (hid : c.id = (s.callers q).id)
    (hfinished : c.finishedAt = (s.callers q).finishedAt)
    (hnext : (s.reports k).forwarded < (m.reports k).forwarded) :
    Routed.Fits K m.tick c ⟨r, k, (s.reports k).forwarded, t, s.now⟩ := by
  obtain ⟨_, hown, ht, hf⟩ := hs.sending hstage
  refine ⟨hown.trans hid.symm, ht, ?_, hnext, fun f h => hf f (hfinished ▸ h)⟩
  show s.now < m.now + 1
  rw [h.now_eq]
  exact Nat.lt_succ_self _

theorem Sound.fits_step (hs : Sound K s) (h : Moves K s a m) (q : Nat) :
    ∀ x ∈ (m.callers q).history, x.Fits K m.tick (m.callers q) := by
  cases h.caller q with
  | begun _ hhistory =>
    rw [hhistory]
    exact List.forall_mem_nil _
  | sent hstage hnext hhistory hid hfinished =>
    rw [hhistory]
    intro x hx
    rcases List.mem_append.mp hx with hx | hx
    · have hold := hs.fits q x hx
      exact hold.mono h hid (fun f hf => hold.2.2.2.2 f (hfinished ▸ hf))
    · obtain rfl := List.mem_singleton.mp hx
      exact hs.fits_sent h hstage hid hfinished hnext
  | finished hhistory hid hfinished =>
    rw [hhistory]
    intro x hx
    have hold := hs.fits q x hx
    have hpast : x.lookedUp < s.now := Nat.lt_trans hold.2.1 hold.2.2.1
    exact hold.mono h hid (fun f hf => lt_of_finishes hpast hold.2.2.2.2 (hfinished ▸ hf))
  | kept hhistory hid hfinished =>
    rw [hhistory]
    intro x hx
    have hold := hs.fits q x hx
    exact hold.mono h hid (fun f hf => hold.2.2.2.2 f (hfinished ▸ hf))

theorem Sound.ordered_step (hs : Sound K s) (h : Moves K s a m) (q : Nat) :
    (m.callers q).history.Pairwise Routed.Before := by
  cases h.caller q with
  | begun _ hhistory =>
    rw [hhistory]
    exact List.Pairwise.nil
  | sent _ _ hhistory _ _ =>
    -- everything that was sent before has an earlier time, and an earlier place in its report
    rw [hhistory, List.pairwise_append]
    refine ⟨hs.ordered q, List.pairwise_singleton _ _, ?_⟩
    intro x hx y hy
    obtain rfl := List.mem_singleton.mp hy
    obtain ⟨_, _, hsent, hplace, _⟩ := hs.fits q x hx
    refine ⟨hsent, ?_⟩
    intro hreport
    rw [hreport] at hplace
    exact hplace
  | finished hhistory _ _ | kept hhistory _ _ =>
    rw [hhistory]
    exact hs.ordered q

theorem Sound.step (hs : Sound K s) (h : Moves K s a m) : Sound K m.tick where
  pending := hs.pending_step h
  sending := fun hstage => by
    have hnow : m.tick.now = s.now + 1 := congrArg (· + 1) h.now_eq
    rw [hnow]
    exact hs.sending_step h hstage
  fits := hs.fits_step h
  ordered := fun q => hs.ordered_step h q

/-! ## One result -/

/-- A request of the other kind is in the table, or one report has it, or the result has been sent. -/
structure Single (s : Routing ρ) : Prop where
  pending : ∀ {id : String} {q : Nat}, s.pending id = some q →
    (s.callers q).history = [] ∧ ∀ k r t, (s.reports k).stage ≠ .sending r q t
  sending : ∀ {k : Nat} {r : ρ} {q t : Nat}, (s.reports k).stage = .sending r q t →
    (s.callers q).history = [] ∧ ∀ k' r' t', (s.reports k').stage = .sending r' q t' → k' = k
  single : ∀ q, (s.callers q).history.length ≤ 1

theorem Single.init : Single (Routing.init : Routing ρ) where
  pending := fun h => by cases h
  sending := fun h => by cases h
  single := fun _ => Nat.zero_le _

/-- Less in the table and fewer that send. -/
theorem Single.mono (h : Single s)
    (hpending : ∀ {id : String} {q : Nat}, m.pending id = some q → s.pending id = some q)
    (hsending : ∀ {k : Nat} {r : ρ} {q t : Nat}, (m.reports k).stage = .sending r q t →
      (s.reports k).stage = .sending r q t)
    (hhistory : ∀ q, (m.callers q).history = (s.callers q).history) : Single m where
  pending := fun hq => by
    obtain ⟨hempty, hnone⟩ := h.pending (hpending hq)
    exact ⟨(hhistory _).trans hempty, fun k r t hk => hnone k r t (hsending hk)⟩
  sending := fun hk => by
    obtain ⟨hempty, honly⟩ := h.sending (hsending hk)
    exact ⟨(hhistory _).trans hempty, fun k' r' t' hk' => honly k' r' t' (hsending hk')⟩
  single := fun q => (hhistory q).symm ▸ h.single q

theorem Single.begin (h : Single s) (hs : Sound K s) (id : String) :
    Single { s.setCaller s.begun ⟨id, [], [], true, none, false⟩ with
      pending := Function.update s.pending id (some s.begun)
      begun := s.begun + 1 } := by
  have hother : ∀ {q : Nat}, q < s.begun →
      Function.update s.callers s.begun ⟨id, [], [], true, none, false⟩ q = s.callers q :=
    fun hq => Function.update_of_ne (Nat.ne_of_lt hq) _ _
  have hnew : (Function.update s.callers s.begun
      ⟨id, [], [], true, none, false⟩ s.begun).history = [] := by
    rw [Function.update_self]
    rfl
  refine ⟨fun hpending => ?_, fun hstage => ?_, fun q => ?_⟩
  · rcases update_eq_some hpending with ⟨_, hq⟩ | ⟨_, hold⟩
    · cases hq
      exact ⟨hnew, fun k r t hk => absurd (hs.sending hk).1 (Nat.lt_irrefl _)⟩
    · obtain ⟨hempty, hnone⟩ := h.pending hold
      exact ⟨(congrArg Caller.history (hother (hs.pending hold).1)).trans hempty, hnone⟩
  · obtain ⟨hempty, honly⟩ := h.sending hstage
    exact ⟨(congrArg Caller.history (hother (hs.sending hstage).1)).trans hempty, honly⟩
  · show (Function.update s.callers s.begun _ q).history.length ≤ 1
    rw [Function.update_apply]
    split
    · exact Nat.zero_le _
    · exact h.single q

/-- `complete` takes the request out of the table, so no other report can. -/
theorem Single.complete (h : Single s) (hs : Sound K s) {k : Nat} {r : ρ} {q : Nat}
    (hq : s.pending (K.requestId r) = some q) : Single (((s.remove (K.requestId r)).setCaller q
      { s.callers q with completed := true }).setReport k
      { s.reports k with stage := .sending r q s.now }) := by
  obtain ⟨hempty, hnone⟩ := h.pending hq
  have hhistory : ∀ q', (Function.update s.callers q { s.callers q with completed := true } q').history =
      (s.callers q').history := proj_update Caller.history rfl
  refine ⟨fun {id q'} hpending => ?_, fun {k' r' q' t'} hstage => ?_, fun q' => ?_⟩
  · change Function.update s.pending (K.requestId r) none id = some q' at hpending
    rcases update_eq_some hpending with ⟨_, hcontra⟩ | ⟨hid, hold⟩
    · cases hcontra
    · obtain ⟨hempty', hnone'⟩ := h.pending hold
      refine ⟨(hhistory q').trans hempty', ?_⟩
      intro k' r' t' hk'
      rcases stage_update hk' with ⟨_, hrep⟩ | ⟨_, hrep⟩
      · cases hrep
        exact hid ((hs.pending hold).2.1.symm.trans (hs.pending hq).2.1)
      · exact hnone' k' r' t' hrep
  · rcases stage_update hstage with ⟨rfl, hrep⟩ | ⟨hk', hrep⟩
    · -- the report that has taken the request: nobody else was sending to it
      cases hrep
      refine ⟨(hhistory q).trans hempty, ?_⟩
      intro k'' r'' t'' hk''
      rcases stage_update hk'' with ⟨heq, _⟩ | ⟨_, hold⟩
      · exact heq
      · exact absurd hold (hnone k'' r'' t'')
    · obtain ⟨hempty', honly⟩ := h.sending hrep
      refine ⟨(hhistory q').trans hempty', ?_⟩
      intro k'' r'' t'' hk''
      rcases stage_update hk'' with ⟨_, hrep''⟩ | ⟨_, hold⟩
      · cases hrep''
        exact absurd hrep (hnone k' r' t')
      · exact honly k'' r'' t'' hold
  · exact (hhistory q').symm ▸ h.single q'

/-- Nobody else sends to this request, and nothing has been sent. -/
theorem Single.send (h : Single s) {k : Nat} {r : ρ} {q t : Nat}
    (hsending : (s.reports k).stage = .sending r q t) {stage : Stage ρ}
    (hnext : ∀ r q t, stage ≠ .sending r q t) (x : Routed ρ) (n : Nat) :
    Single ((s.setCaller q { s.callers q with queue := (s.callers q).queue ++ [x] }).setReport k
      ⟨stage, n⟩) := by
  obtain ⟨hempty, honly⟩ := h.sending hsending
  have hother : ∀ {q' : Nat}, q' ≠ q →
      (Function.update s.callers q { s.callers q with queue := (s.callers q).queue ++ [x] } q').history =
        (s.callers q').history :=
    fun hq' => congrArg Caller.history (Function.update_of_ne hq' _ _)
  have hstages : ∀ {k' : Nat} {r' : ρ} {q' t' : Nat},
      (Function.update s.reports k ⟨stage, n⟩ k').stage = .sending r' q' t' →
      k' ≠ k ∧ (s.reports k').stage = .sending r' q' t' := by
    intro k' r' q' t' hk'
    rcases stage_update hk' with ⟨_, hrep⟩ | hrep
    · exact absurd hrep (hnext r' q' t')
    · exact hrep
  refine ⟨fun {id q'} hpending => ?_, fun {k' r' q' t'} hstage => ?_, fun q' => ?_⟩
  · obtain ⟨hempty', hnone⟩ := h.pending hpending
    have hq' : q' ≠ q := by
      rintro rfl
      exact hnone k r t hsending
    exact ⟨(hother hq').trans hempty', fun k' r' t' hk' => hnone k' r' t' (hstages hk').2⟩
  · obtain ⟨hk', hold⟩ := hstages hstage
    obtain ⟨hempty', honly'⟩ := h.sending hold
    -- the only report that sent to this request does not any more
    have hq' : q' ≠ q := by
      rintro rfl
      exact hk' (honly k' r' t' hold)
    exact ⟨(hother hq').trans hempty', fun k'' r'' t'' hk'' => honly' k'' r'' t'' (hstages hk'').2⟩
  · by_cases hq' : q' = q
    · subst hq'
      have hsent : (Function.update s.callers q'
          { s.callers q' with queue := (s.callers q').queue ++ [x] } q').history = [x] := by
        rw [Function.update_self]
        show (s.callers q').received ++ ((s.callers q').queue ++ [x]) = [x]
        rw [← List.append_assoc]
        exact congrArg (· ++ [x]) hempty
      exact Nat.le_of_eq (congrArg List.length hsent)
    · exact (hother hq').symm ▸ h.single q'

theorem Single.step (h : Single s) (hs : Sound K s) (hkind : K.oneshot = true)
    (hm : Moves K s a m) : Single m := by
  have hdropped : ∀ {id id' : String} {q : Nat},
      Function.update s.pending id' none id = some q → s.pending id = some q := by
    intro id id' q hq
    rcases update_eq_some hq with ⟨_, hnone⟩ | ⟨_, hold⟩
    · cases hnone
    · exact hold
  cases hm with
  | begin id => exact h.begin hs id
  | route _ hkind' =>
    rw [hkind] at hkind'
    cases hkind'
  | complete hpending => exact h.complete hs hpending
  | stop _ =>
    refine h.mono (fun hq => hq) (fun hstage => ?_) (fun _ => rfl)
    rcases stage_update hstage with ⟨_, hrep⟩ | ⟨_, hold⟩
    · cases hrep
    · exact hold
  | send hstage _ hnext => exact h.send hstage hnext _ _
  | receive hqueue =>
    refine h.mono (fun hq => hq) (fun hstage => hstage) (proj_update Caller.history ?_)
    simp [Caller.history, hqueue]
  | hangUp q => exact h.mono (fun hq => hq) (fun hstage => hstage) (proj_update Caller.history rfl)
  | finish q => exact h.mono hdropped (fun hstage => hstage) (proj_update Caller.history rfl)

/-! ## Callers that stop receiving -/

/-- Both REST handlers receive nothing after they have finished their request. -/
def Heeds (s : Routing ρ) : Routing.Action ρ → Prop
  | .receive q => (s.callers q).finishedAt = none
  | _ => True

instance (s : Routing ρ) : DecidablePred (Heeds s) := fun a => by
  unfold Heeds
  split <;> infer_instance

/-- What has been received was sent before the request was finished. -/
def Heeded (s : Routing ρ) : Prop :=
  ∀ q, ∀ x ∈ (s.callers q).received, ∀ f, (s.callers q).finishedAt = some f → x.sent < f

theorem received_mem_history {c : Caller ρ} {x : Routed ρ} (h : x ∈ c.received) : x ∈ c.history :=
  List.mem_append_left _ h

/-- What a caller has received does not change, unless it begins or receives. -/
theorem Moves.received (h : Moves K s a m) (q : Nat) :
    (m.callers q).received = (s.callers q).received ∨ (m.callers q).received = [] ∨
      a = .receive q := by
  have hsame : ∀ {q' : Nat} {c : Caller ρ}, c.received = (s.callers q').received →
      (Function.update s.callers q' c q).received = (s.callers q).received :=
    fun hc => proj_update Caller.received hc q
  cases h with
  | begin id =>
    by_cases hq : q = s.begun
    · subst hq
      exact .inr (.inl (by simp [Routing.setCaller]))
    · exact .inl (congrArg Caller.received (Function.update_of_ne hq _ _))
  | route _ _ | stop _ => exact .inl rfl
  | complete _ | send _ _ _ | hangUp _ | finish _ => exact .inl (hsame rfl)
  | @receive q' r queue _ =>
    by_cases hq : q = q'
    · exact .inr (.inr (congrArg Routing.Action.receive hq.symm))
    · exact .inl (congrArg Caller.received (Function.update_of_ne hq _ _))

theorem Heeded.step (h : Heeded s) (hs : Sound K s) (hm : Moves K s a m) (ha : Heeds s a) :
    Heeded m := by
  intro q x hx f hf
  have hold : ∀ f, (s.callers q).finishedAt = some f → x.sent < f := by
    intro f hf
    rcases hm.received q with hsame | hempty | rfl
    · exact h q x (hsame ▸ hx) f hf
    · rw [hempty] at hx
      exact absurd hx List.not_mem_nil
    · -- a caller that receives has not finished its request
      rw [show (s.callers q).finishedAt = none from ha] at hf
      cases hf
  have hmem := received_mem_history hx
  cases hm.caller q with
  | begun _ hhistory =>
    rw [hhistory] at hmem
    exact absurd hmem List.not_mem_nil
  | sent _ _ _ _ hfinished | kept _ _ hfinished => exact hold f (hfinished ▸ hf)
  | finished hhistory _ hfinished =>
    rw [hhistory] at hmem
    exact lt_of_finishes (hs.fits q x hmem).2.2.1 hold (hfinished ▸ hf)

end Invariant


/-! ## Whole runs -/

/-- A dispatcher. -/
structure State (τ ρ : Type) where
  outbound : Outbound τ
  routing : Routing ρ

inductive Action (τ ρ : Type) where
  | outbound (a : Outbound.Action τ)
  | routing (a : Routing.Action ρ)

section Runs

variable {τ ρ : Type}

def State.init : State τ ρ := ⟨.init, .init⟩

def State.step (K : Kind ρ) (d : State τ ρ) : Action τ ρ → Option (State τ ρ)
  | .outbound a => (d.outbound.step a).map (fun o => { d with outbound := o })
  | .routing a => (d.routing.step K a).map (fun s => { d with routing := s })

/-- The callers receive nothing after they have finished. -/
def State.Heeds (d : State τ ρ) : Action τ ρ → Prop
  | .outbound _ => True
  | .routing a => Dispatch.Heeds d.routing a

instance (d : State τ ρ) : DecidablePred d.Heeds := fun a => by
  unfold State.Heeds
  split <;> infer_instance

variable {K : Kind ρ} {d d' : State τ ρ} {a : Action τ ρ}

/-- Connections and tasks do not touch the table of the requests. -/
theorem step_cases (h : d.step K a = some d') :
    d'.routing = d.routing ∨ ∃ b m, a = .routing b ∧ Moves K d.routing b m ∧ d'.routing = m.tick := by
  cases a with
  | outbound b =>
    obtain ⟨o, _, rfl⟩ := Option.map_eq_some_iff.mp h
    exact .inl rfl
  | routing b =>
    obtain ⟨s, hs, rfl⟩ := Option.map_eq_some_iff.mp h
    obtain ⟨m, hm, rfl⟩ := Option.map_eq_some_iff.mp hs
    exact .inr ⟨b, m, rfl, moves hm, rfl⟩

theorem run_sound {as : List (Action τ ρ)} (h : run (State.step K) State.init as = some d) :
    Sound K d.routing := by
  refine run_invariant_all (fun d : State τ ρ => Sound K d.routing) ?_ as _ d Sound.init h
  intro d a d' hd hstep
  rcases step_cases hstep with heq | ⟨b, m, _, hm, heq⟩
  · rw [heq]
    exact hd
  · rw [heq]
    exact hd.step hm

theorem run_single {as : List (Action τ ρ)} (hkind : K.oneshot = true)
    (h : run (State.step K) State.init as = some d) : Single d.routing := by
  refine (run_invariant_all (fun d : State τ ρ => Sound K d.routing ∧ Single d.routing) ?_ as _ d
    ⟨Sound.init, Single.init⟩ h).2
  rintro d a d' ⟨hd, hsingle⟩ hstep
  rcases step_cases hstep with heq | ⟨b, m, _, hm, heq⟩
  · rw [heq]
    exact ⟨hd, hsingle⟩
  · rw [heq]
    have hsingle' := hsingle.step hd hkind hm
    exact ⟨hd.step hm, hsingle'.mono (fun hq => hq) (fun hstage => hstage) (fun _ => rfl)⟩

theorem run_heeded {as : List (Action τ ρ)}
    (hmeets : Meets (State.step K) State.Heeds State.init as)
    (h : run (State.step K) State.init as = some d) : Heeded d.routing := by
  have hinit : Heeded (State.init : State τ ρ).routing := fun _ => List.forall_mem_nil _
  refine (run_invariant (fun d : State τ ρ => Sound K d.routing ∧ Heeded d.routing) ?_ as _ d
    ⟨Sound.init, hinit⟩ hmeets h).2
  rintro d a d' ⟨hd, hheeded⟩ ha hstep
  rcases step_cases hstep with heq | ⟨b, m, rfl, hm, heq⟩
  · rw [heq]
    exact ⟨hd, hheeded⟩
  · rw [heq]
    have hheeded' : Heeded m := hheeded.step hd hm ha
    exact ⟨hd.step hm, hheeded'⟩

/-- **What the callers receive.** In every run of a dispatcher, whatever its agents report and however
often they connect,
* a caller receives only results with the id of its request, which were looked up before the request was
  finished; the results come in the order in which they were sent, and none comes twice,
* the caller of a snapshot receives at most one result,
* callers that stop receiving when they finish receive nothing that is sent later,
* and the table is empty when all requests are finished or completed.
Two requests may even have the same id. -/
theorem delivered (K : Kind ρ) (as : List (Action τ ρ)) (d : State τ ρ)
    (h : run (State.step K) State.init as = some d) : (∀ q, (∀ x ∈ (d.routing.callers q).received,
        K.requestId x.result = (d.routing.callers q).id ∧ x.lookedUp < x.sent ∧
          ∀ f, (d.routing.callers q).finishedAt = some f → x.lookedUp < f) ∧
      (d.routing.callers q).received.Pairwise Routed.Before ∧
      ((d.routing.callers q).received.map (fun x => (x.report, x.place))).Nodup ∧
      (K.oneshot = true → (d.routing.callers q).received.length ≤ 1)) ∧
    (Meets (State.step K) State.Heeds State.init as → Heeded d.routing) ∧
    ((∀ q < d.routing.begun, (d.routing.callers q).finishedAt.isSome = true ∨
        (d.routing.callers q).completed = true) → ∀ id, d.routing.pending id = none) := by
  have hs := run_sound h
  refine ⟨fun q => ?_, fun hmeets => run_heeded hmeets h, fun hall id => ?_⟩
  · have hfirst : (d.routing.callers q).received <+: (d.routing.callers q).history :=
      List.prefix_append _ _
    have hordered := (hs.ordered q).sublist hfirst.sublist
    refine ⟨fun x hx => ?_, hordered, ?_, fun hkind => ?_⟩
    · obtain ⟨hown, hlooked, _, _, hfinished⟩ := hs.fits q x (received_mem_history hx)
      exact ⟨hown, hlooked, hfinished⟩
    · rw [List.nodup_iff_pairwise_ne, List.pairwise_map]
      refine hordered.imp ?_
      rintro x y ⟨_, hplace⟩ heq
      obtain ⟨hreport, hsame⟩ := Prod.mk.inj heq
      exact Nat.ne_of_lt (hplace hreport) hsame
    · exact Nat.le_trans hfirst.length_le ((run_single hkind h).single q)
  · cases hpending : d.routing.pending id with
    | none => rfl
    | some q =>
      obtain ⟨hq, _, hfinished, hcompleted⟩ := hs.pending hpending
      have := hall q hq
      rw [hfinished, hcompleted] at this
      rcases this with hcontra | hcontra <;> cases hcontra

/-- Output and exit of the request with an id. -/
def someOutput (id : String) (data : List UInt8) : Proto.ExecChunk := ⟨"stdout", data, 0, false, id, ""⟩

def someExit (id : String) : Proto.ExecChunk := ⟨"", [], 0, true, id, ""⟩

/-- Two requests on a host that connects twice. The last result for the first request has been looked up
when it is finished, and is sent to nobody. -/
def reconnecting : List (Action Proto.ExecTask Proto.ExecChunk) :=
  [.outbound (.connect "host-a"), .routing (.begin "one"), .outbound (.dispatch 0 "host-a" ⟨"one", none⟩),
    .outbound (.push 0), .outbound (.take 0), .routing (.begin "two"), .outbound (.connect "host-a"),
    .outbound (.dispatch 1 "host-a" ⟨"two", none⟩), .outbound (.push 1), .outbound (.take 1),
    .routing (.route 0 (someOutput "one" [1])), .routing (.route 1 (someOutput "two" [2])),
    .routing (.send 1), .routing (.send 0), .routing (.receive 0), .routing (.route 0 (someExit "one")),
    .routing (.route 1 (someExit "two")), .routing (.send 1), .routing (.receive 1),
    .routing (.receive 1), .routing (.finish 0), .routing (.hangUp 0), .routing (.sendFails 0),
    .routing (.finish 1)]

theorem delivered_reconnecting :
    ∃ d, run (State.step execDispatcher) State.init reconnecting = some d ∧
      (d.routing.callers 0).received.map (·.result) = [someOutput "one" [1]] ∧
      (d.routing.callers 1).received.map (·.result) = [someOutput "two" [2], someExit "two"] ∧
      Heeded d.routing ∧ ∀ id, d.routing.pending id = none := by
  have hrun : (run (State.step execDispatcher) State.init reconnecting).map (fun d =>
      ((d.routing.callers 0).received.map (·.result), (d.routing.callers 1).received.map (·.result),
        d.routing.begun, (d.routing.callers 0).finishedAt.isSome,
        (d.routing.callers 1).finishedAt.isSome)) =
      some ([someOutput "one" [1]], [someOutput "two" [2], someExit "two"], 2, true, true) := by
    decide
  obtain ⟨d, hd, hview⟩ := Option.map_eq_some_iff.mp hrun
  simp only [Prod.mk.injEq] at hview
  obtain ⟨hone, htwo, hbegun, hfinished, hfinished'⟩ := hview
  obtain ⟨_, hheeded, hempty⟩ := delivered execDispatcher reconnecting d hd
  refine ⟨d, hd, hone, htwo, hheeded (by decide), hempty ?_⟩
  intro q hq
  rw [hbegun] at hq
  interval_cases q
  · exact .inl hfinished
  · exact .inl hfinished'

end Runs

end Dispatch

end MicroMachines.Controller
