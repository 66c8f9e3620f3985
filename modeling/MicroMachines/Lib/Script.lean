import MicroMachines.Lib.Runs

set_option autoImplicit false

/-! # Scripts of operations, and a logic for them

A script is what one thread does, as the tree of the operations it performs: an operation
either succeeds or fails, and what comes next depends only on that. A script says nothing
about what an operation means; several models may give the same script a meaning, each at its
own level of detail.

A `Machine` gives the operations a meaning: it has a state, steps of other threads, and for
each operation what it does when it succeeds, fails, or makes progress without ending yet. Its
thread runs one script after another; everything is interleaved at the grain of these steps.

`Script.Safe` is a weakest precondition over the part of the state that only this thread
changes, its *view*: an operation may require something of the view (`pre`) and changes it in
a way determined by its outcome (`next`). What other threads do cannot disturb such a
property, so it is proved by looking at the script alone, with one rule for each way to build
a script (`safe_pure`, `safe_bind`, `safe_perform`, `safe_forEach`, ...). `Machine.run_safe` carries it
through all runs of the machine, together with an invariant that relates views and states.
`Script.exec` runs a script by itself, with a given list of outcomes, and `Script.runWith` with an
outcome for each operation.
-/

namespace MicroMachines.Lib

/-- A script over operations `ο` that ends with an `α`. -/
inductive Script (ο α : Type) where
  | done (a : α)
  | op (o : ο) (next : Bool → Script ο α)

namespace Script

variable {ο α β : Type}

def bind : Script ο α → (α → Script ο β) → Script ο β
  | .done a, f => f a
  | .op o k, f => .op o (fun b => (k b).bind f)

end Script

/-- A script that may end with an error. -/
def Task (ο ε α : Type) : Type := Script ο (Except ε α)

namespace Task

variable {ο ε α β : Type}

/-- Sequencing with the `?` operator: an error ends the task. -/
def bind (t : Task ο ε α) (f : α → Task ο ε β) : Task ο ε β :=
  Script.bind t (fun r =>
    match r with
    | .ok a => f a
    | .error e => .done (.error e))

instance : Monad (Task ο ε) where
  pure a := .done (.ok a)
  bind := Task.bind

/-- End with an error. -/
def fail (e : ε) : Task ο ε α := .done (.error e)

/-- An operation whose failure ends the task with `e`. -/
def perform (o : ο) (e : ε) : Task ο ε Unit :=
  .op o (fun b => .done (if b then .ok () else .error e))

/-- An operation whose outcome is ignored. -/
def act (o : ο) : Task ο ε Unit := .op o (fun _ => .done (.ok ()))

/-- An operation whose outcome is the result. -/
def test (o : ο) : Task ο ε Bool := .op o (fun b => .done (.ok b))

/-- The result of a task as a value, so that what follows can clean up before it returns. -/
def result (t : Task ο ε α) : Task ο ε (Except ε α) := Script.bind t (fun r => .done (.ok r))

/-- Return a result that was kept as a value. -/
def ofResult (r : Except ε α) : Task ο ε α := .done r

/-- The same task for each element in turn, until one fails. -/
def forEach {γ : Type} : List γ → (γ → Task ο ε Unit) → Task ο ε Unit
  | [], _ => .done (.ok ())
  | x :: xs, f => Task.bind (f x) (fun _ => forEach xs f)

end Task

/-! ## The logic -/

section Safe

variable {ο ε α β ν : Type} (pre : ο → ν → Prop) (next : ο → Bool → ν → ν)

/-- From the view `v`, every operation of the script finds its precondition, and the script
ends only with a result and a view in `post`. -/
def Script.Safe (post : ν → α → Prop) : ν → Script ο α → Prop
  | v, .done a => post v a
  | v, .op o k => pre o v ∧ ∀ b, Safe post (next o b v) (k b)

/-- Safety of a task, with one postcondition for success and one for failure. -/
def Task.Safe (Q : ν → α → Prop) (E : ν → Prop) (v : ν) (t : Task ο ε α) : Prop :=
  Script.Safe pre next (fun v r => match r with | .ok a => Q v a | .error _ => E v) v t

variable {pre next}

theorem Script.Safe.bind {post : ν → β → Prop} {f : α → Script ο β} {v : ν} {p : Script ο α}
    (h : Script.Safe pre next (fun v a => Script.Safe pre next post v (f a)) v p) :
    Script.Safe pre next post v (p.bind f) := by
  induction p generalizing v with
  | done a => exact h
  | op o k ih => exact ⟨h.1, fun b => ih b (h.2 b)⟩

theorem Script.Safe.mono {post post' : ν → α → Prop} (himp : ∀ v a, post v a → post' v a)
    {v : ν} {p : Script ο α} (h : Script.Safe pre next post v p) :
    Script.Safe pre next post' v p := by
  induction p generalizing v with
  | done a => exact himp v a h
  | op o k ih => exact ⟨h.1, fun b => ih b (h.2 b)⟩

namespace Task

variable {Q : ν → α → Prop} {E : ν → Prop} {v : ν}

theorem safe_pure {a : α} (h : Q v a) : Task.Safe pre next Q E v (pure a : Task ο ε α) := h

theorem safe_fail {e : ε} (h : E v) : Task.Safe pre next Q E v (fail e : Task ο ε α) := h

variable {t : Task ο ε α} {o : ο}

theorem safe_bind {Q' : ν → β → Prop} {f : α → Task ο ε β}
    (h : Task.Safe pre next (fun v a => Task.Safe pre next Q' E v (f a)) E v t) :
    Task.Safe pre next Q' E v (t >>= f) := by
  refine Script.Safe.bind (Script.Safe.mono ?_ h)
  rintro v (e | a) hr
  · exact hr
  · exact hr

theorem Safe.mono {Q' : ν → α → Prop} {E' : ν → Prop} (hQ : ∀ v a, Q v a → Q' v a)
    (hE : ∀ v, E v → E' v) (h : Task.Safe pre next Q E v t) : Task.Safe pre next Q' E' v t := by
  refine Script.Safe.mono ?_ h
  rintro v (e | a) hr
  · exact hE v hr
  · exact hQ v a hr

theorem safe_perform {Q : ν → Unit → Prop} {e : ε} (hpre : pre o v)
    (hok : Q (next o true v) ()) (herr : E (next o false v)) :
    Task.Safe pre next Q E v (perform o e) := by
  refine ⟨hpre, fun b => ?_⟩
  cases b with
  | true => exact hok
  | false => exact herr

theorem safe_act {Q : ν → Unit → Prop} (hpre : pre o v) (h : ∀ b, Q (next o b v) ()) :
    Task.Safe pre next Q E v (act o : Task ο ε Unit) := ⟨hpre, h⟩

theorem safe_test {Q : ν → Bool → Prop} (hpre : pre o v) (h : ∀ b, Q (next o b v) b) :
    Task.Safe pre next Q E v (test o : Task ο ε Bool) := ⟨hpre, h⟩

/-- A task whose result is kept as a value never fails itself. -/
theorem safe_result {Q : ν → Except ε α → Prop}
    (h : Script.Safe pre next Q v t) : Task.Safe pre next Q E v (result t) :=
  Script.Safe.bind h

/-- The same, with what holds of either result. -/
theorem safe_result_cases {Q : ν → Except ε α → Prop}
    (h : Task.Safe pre next (fun v a => Q v (.ok a)) (fun v => ∀ e, Q v (.error e)) v t) :
    Task.Safe pre next Q E v (result t) := by
  refine safe_result (Script.Safe.mono ?_ h)
  rintro v (e | a) hr
  · exact hr e
  · exact hr

theorem safe_ofResult {r : Except ε α} (h : match r with | .ok a => Q v a | .error _ => E v) :
    Task.Safe pre next Q E v (ofResult r : Task ο ε α) := h

/-- **The loop rule.** `J rest` holds before each turn, where `rest` are the elements still to
come. -/
theorem safe_forEach {γ : Type} {f : γ → Task ο ε Unit} {Q : ν → Unit → Prop}
    (J : List γ → ν → Prop) (xs : List γ) (h0 : J xs v)
    (hturn : ∀ x xs v, J (x :: xs) v → Task.Safe pre next (fun v _ => J xs v) E v (f x))
    (hend : ∀ v, J [] v → Q v ()) : Task.Safe pre next Q E v (forEach xs f) := by
  induction xs generalizing v with
  | nil => exact hend v h0
  | cons x xs ih =>
    exact safe_bind ((hturn x xs v h0).mono (fun v _ hv => ih hv) (fun _ h => h))

/-- The loop rule for a counting loop: `J i` holds before turn `i`. -/
theorem safe_forEach_range {f : Nat → Task ο ε Unit} {Q : ν → Unit → Prop} (J : Nat → ν → Prop)
    (n : Nat) (h0 : J 0 v)
    (hturn : ∀ i v, i < n → J i v → Task.Safe pre next (fun v _ => J (i + 1) v) E v (f i))
    (hend : ∀ v, J n v → Q v ()) : Task.Safe pre next Q E v (forEach (List.range n) f) := by
  refine safe_forEach (fun xs v => ∃ i k, xs = List.range' i k ∧ i + k = n ∧ J i v) _
    ⟨0, n, List.range_eq_range', Nat.zero_add n, h0⟩ ?_ ?_
  · rintro x xs v ⟨i, k, hxs, hn, hJ⟩
    cases k with
    | zero => cases hxs
    | succ k =>
      rw [List.range'_succ, List.cons.injEq] at hxs
      obtain ⟨rfl, rfl⟩ := hxs
      exact (hturn x v (by omega) hJ).mono
        (fun v _ hv => ⟨x + 1, k, rfl, by omega, hv⟩) (fun _ h => h)
  · rintro v ⟨i, k, hxs, hn, hJ⟩
    cases k with
    | zero =>
      obtain rfl : i = n := hn
      exact hend v hJ
    | succ k => cases hxs

end Task

end Safe

/-! ## Scripts that avoid some operations -/

section Avoids

variable {ο ε α β ν : Type} {noisy : ο → Bool}

/-- The script performs no operation of this kind, whatever the outcomes are. -/
def Script.Avoids (noisy : ο → Bool) : Script ο α → Prop
  | .done _ => True
  | .op o k => noisy o = false ∧ ∀ b, (k b).Avoids noisy

variable {p : Script ο α}

/-- Such operations are safe if the others ask nothing of the view and leave it alone. -/
theorem Script.Avoids.safe {pre : ο → ν → Prop} {next : ο → Bool → ν → ν} {post : ν → α → Prop}
    (hpre : ∀ o, noisy o = false → ∀ v, pre o v)
    (hnext : ∀ o, noisy o = false → ∀ b v, next o b v = v) {v : ν}
    (h : p.Avoids noisy) (hpost : ∀ a, post v a) : Script.Safe pre next post v p := by
  induction p with
  | done a => exact hpost a
  | op o k ih =>
    refine ⟨hpre o h.1 v, fun b => ?_⟩
    rw [hnext o h.1]
    exact ih b (h.2 b)

theorem Script.Avoids.bind {f : α → Script ο β} (hp : p.Avoids noisy)
    (hf : ∀ a, (f a).Avoids noisy) : (p.bind f).Avoids noisy := by
  induction p with
  | done a => exact hf a
  | op o k ih => exact ⟨hp.1, fun b => ih b (hp.2 b)⟩

theorem Script.Avoids.mono {noisy' : ο → Bool} (himp : ∀ o, noisy o = false → noisy' o = false)
    (h : p.Avoids noisy) : p.Avoids noisy' := by
  induction p with
  | done a => trivial
  | op o k ih => exact ⟨himp o h.1, fun b => ih b (h.2 b)⟩

namespace Task

/-- The same for a task. -/
def Avoids (noisy : ο → Bool) (t : Task ο ε α) : Prop := Script.Avoids noisy t

theorem avoids_pure {a : α} : Avoids noisy (pure a : Task ο ε α) := trivial

theorem avoids_fail {e : ε} : Avoids noisy (fail e : Task ο ε α) := trivial

theorem avoids_ofResult {r : Except ε α} : Avoids noisy (ofResult r : Task ο ε α) := trivial

variable {o : ο} {t : Task ο ε α}

theorem avoids_perform {e : ε} (h : noisy o = false) : Avoids noisy (perform o e) :=
  ⟨h, fun _ => trivial⟩

theorem avoids_act (h : noisy o = false) : Avoids noisy (act o : Task ο ε Unit) :=
  ⟨h, fun _ => trivial⟩

theorem avoids_test (h : noisy o = false) : Avoids noisy (test o : Task ο ε Bool) :=
  ⟨h, fun _ => trivial⟩

theorem avoids_result (h : t.Avoids noisy) : (result t).Avoids noisy :=
  Script.Avoids.bind h (fun _ => trivial)

theorem avoids_bind {f : α → Task ο ε β} (ht : t.Avoids noisy)
    (hf : ∀ a, (f a).Avoids noisy) : (t >>= f).Avoids noisy := by
  refine Script.Avoids.bind ht ?_
  rintro (e | a)
  · trivial
  · exact hf a

theorem avoids_ite {p : Prop} [Decidable p] {u : Task ο ε α} (ht : t.Avoids noisy)
    (hu : u.Avoids noisy) : (if p then t else u).Avoids noisy := by
  split_ifs
  · exact ht
  · exact hu

theorem avoids_forEach {γ : Type} {f : γ → Task ο ε Unit} (h : ∀ x, (f x).Avoids noisy)
    (xs : List γ) : (forEach xs f).Avoids noisy := by
  induction xs with
  | nil => trivial
  | cons x xs ih => exact avoids_bind (h x) (fun _ => ih)

end Task

end Avoids

/-! ## Scripts with given outcomes -/

section Exec

variable {ο α ν : Type} (next : ο → Bool → ν → ν) (allows : ο → Bool → ν → Prop)

/-- Run a script with the given outcomes of its operations, one for each, to its end. -/
def Script.exec : Script ο α → List Bool → ν → Option (ν × α)
  | .done a, [], v => some (v, a)
  | .op o k, b :: bs, v => (k b).exec bs (next o b v)
  | _, _, _ => none

/-- Every operation has an outcome that is allowed where it is performed. -/
def Script.Follows : Script ο α → List Bool → ν → Prop
  | .op o k, b :: bs, v => allows o b v ∧ (k b).Follows bs (next o b v)
  | _, _, _ => True

/-- Keep track of whether all outcomes so far were allowed. -/
def track (o : ο) (b : Bool) (v : ν × Prop) : ν × Prop := (next o b v.1, v.2 ∧ allows o b v.1)

variable {next allows}

instance Script.decidableFollows [h : ∀ o b v, Decidable (allows o b v)] :
    (s : Script ο α) → (bs : List Bool) → (v : ν) → Decidable (s.Follows next allows bs v)
  | .done _, [], _ => instDecidableTrue
  | .done _, _ :: _, _ => instDecidableTrue
  | .op _ _, [], _ => instDecidableTrue
  | .op o k, b :: bs, v =>
    @instDecidableAnd _ _ (h o b v) (Script.decidableFollows (k b) bs (next o b v))

instance [∀ o b v, Decidable (allows o b v)] {ε : Type} (t : Task ο ε α) (bs : List Bool) (v : ν) :
    Decidable (Script.Follows next allows t bs v) :=
  Script.decidableFollows t bs v

variable {v : ν} {s : Script ο α} {bs : List Bool} {v' : ν} {a : α}

/-- An outcome that is allowed is not noticed. -/
theorem track_of_allows {o : ο} {b : Bool} {p : Prop} (h : allows o b v) :
    track next allows o b (v, p) = (next o b v, p) := by
  have hp : (p ∧ allows o b v) = p := propext (and_iff_left h)
  rw [track, hp]

/-- What is safe ends as it should. -/
theorem Script.Safe.exec {pre : ο → ν → Prop} {post : ν → α → Prop} (h : s.Safe pre next post v)
    (hexec : s.exec next bs v = some (v', a)) :
    post v' a := by
  induction s generalizing bs v with
  | done r =>
    cases bs with
    | nil =>
      cases hexec
      exact h
    | cons b bs => cases hexec
  | op o k ih =>
    cases bs with
    | nil => cases hexec
    | cons b bs => exact ih b (h.2 b) hexec

/-- The same for a task that ends well. -/
theorem Task.Safe.exec {ε : Type} {pre : ο → ν → Prop} {Q : ν → α → Prop} {E : ν → Prop} {t : Task ο ε α}
    (h : t.Safe pre next Q E v) (hexec : Script.exec next t bs v = some (v', .ok a)) : Q v' a := by
  unfold Task.Safe at h
  have hend := h.exec hexec
  exact hend

/-- What all operations keep that are performed. -/
theorem Script.Avoids.exec {noisy : ο → Bool} {I : ν → Prop}
    (hkeeps : ∀ o, noisy o = false → ∀ b v, I v → I (next o b v)) (h : s.Avoids noisy)
    (hv : I v) (hexec : s.exec next bs v = some (v', a)) : I v' := by
  induction s generalizing bs v with
  | done r =>
    cases bs with
    | nil =>
      cases hexec
      exact hv
    | cons b bs => cases hexec
  | op o k ih =>
    cases bs with
    | nil => cases hexec
    | cons b bs => exact ih b (h.2 b) (hkeeps o h.1 b v hv) hexec

/-- The result does not depend on what the operations do to the state. -/
theorem Script.exec_snd {ν' : Type} (next' : ο → Bool → ν' → ν') {u : ν}
    (h : s.exec next bs v = some (u, a)) (v' : ν') : ∃ u', s.exec next' bs v' = some (u', a) := by
  induction s generalizing bs v v' with
  | done r =>
    cases bs with
    | nil =>
      cases h
      exact ⟨v', rfl⟩
    | cons b bs => cases h
  | op o k ih =>
    cases bs with
    | nil => cases h
    | cons b bs => exact ih b h (next' o b v')

theorem Script.Safe.exec_track {post : ν × Prop → α → Prop} {p : Prop}
    (h : Script.Safe (fun _ _ => True) (track next allows) post (v, p) s)
    (hexec : s.exec next bs v = some (v', a)) : post (v', p ∧ s.Follows next allows bs v) a := by
  induction s generalizing bs v p with
  | done r =>
    cases bs with
    | nil =>
      cases hexec
      show post (v', p ∧ True) a
      rw [and_true]
      exact h
    | cons b bs => cases hexec
  | op o k ih =>
    cases bs with
    | nil => cases hexec
    | cons b bs =>
      have hrest := ih b (h.2 b) hexec
      have hp : (p ∧ allows o b v ∧ (k b).Follows next allows bs (next o b v)) =
          ((p ∧ allows o b v) ∧ (k b).Follows next allows bs (next o b v)) :=
        propext and_assoc.symm
      rw [Script.Follows, hp]
      exact hrest

end Exec

/-! ## What a script ensures

The outcomes that are allowed where an operation is performed, and no others, are looked at.
-/

section Ensures

variable {ο ε α β ν : Type} (allows : ο → Bool → ν → Prop) (next : ο → Bool → ν → ν)

/-- However its operations end, among what is allowed, the script ends in `post`. -/
def Script.Ensures (post : ν → α → Prop) : ν → Script ο α → Prop
  | v, .done a => post v a
  | v, .op o k => ∀ b, allows o b v → Ensures post (next o b v) (k b)

variable {allows next}

variable {v : ν}

/-- What is ensured holds at the end of every execution. -/
theorem Script.Ensures.exec {post : ν → α → Prop} {s : Script ο α} {bs : List Bool} {v' : ν}
    {a : α} (h : s.Ensures allows next post v) (hexec : s.exec next bs v = some (v', a))
    (hfollows : s.Follows next allows bs v) : post v' a := by
  induction s generalizing bs v with
  | done r =>
    cases bs with
    | nil =>
      cases hexec
      exact h
    | cons b bs => cases hexec
  | op o k ih =>
    cases bs with
    | nil => cases hexec
    | cons b bs => exact ih b (h b hfollows.1) hexec hfollows.2

theorem Script.Ensures.mono {post post' : ν → α → Prop} (himp : ∀ v a, post v a → post' v a)
    {p : Script ο α} (h : p.Ensures allows next post v) : p.Ensures allows next post' v := by
  induction p generalizing v with
  | done a => exact himp v a h
  | op o k ih => exact fun b hb => ih b (h b hb)

theorem Script.ensures_bind_iff {post : ν → β → Prop} {f : α → Script ο β} {p : Script ο α} :
    (p.bind f).Ensures allows next post v ↔
      p.Ensures allows next (fun v a => (f a).Ensures allows next post v) v := by
  induction p generalizing v with
  | done a => exact Iff.rfl
  | op o k ih => exact forall₂_congr (fun b _ => ih b)

namespace Task

/-- What a task ensures, of its result or its error. -/
def Ensures (allows : ο → Bool → ν → Prop) (next : ο → Bool → ν → ν)
    (post : ν → Except ε α → Prop) (v : ν) (t : Task ο ε α) : Prop :=
  Script.Ensures allows next post v t

variable {post : ν → Except ε α → Prop} {v : ν}

theorem ensures_bind {post : ν → Except ε β → Prop} {t : Task ο ε α} {f : α → Task ο ε β}
    (h : t.Ensures allows next (fun v r =>
      match r with
      | .ok a => (f a).Ensures allows next post v
      | .error e => post v (.error e)) v) : (t >>= f).Ensures allows next post v := by
  refine Script.ensures_bind_iff.mpr (Script.Ensures.mono ?_ h)
  rintro v (e | a) hr
  · exact hr
  · exact hr

theorem ensures_perform {post : ν → Except ε Unit → Prop} {o : ο} {e : ε}
    (hok : allows o true v → post (next o true v) (.ok ()))
    (herr : allows o false v → post (next o false v) (.error e)) :
    (perform o e).Ensures allows next post v := by
  intro b hb
  cases b with
  | true => exact hok hb
  | false => exact herr hb

theorem ensures_act {post : ν → Except ε Unit → Prop} {o : ο}
    (h : ∀ b, allows o b v → post (next o b v) (.ok ())) :
    (act o : Task ο ε Unit).Ensures allows next post v := h

theorem ensures_result {post : ν → Except ε (Except ε α) → Prop} {t : Task ο ε α}
    (h : t.Ensures allows next (fun v r => post v (.ok r)) v) :
    (result t).Ensures allows next post v :=
  Script.ensures_bind_iff.mpr h

/-- **The loop rule**, with what holds when a turn fails. -/
theorem ensures_forEach {γ : Type} {f : γ → Task ο ε Unit} {post : ν → Except ε Unit → Prop}
    (J : List γ → ν → Prop) (xs : List γ) (h0 : J xs v)
    (hturn : ∀ x xs v, J (x :: xs) v → (f x).Ensures allows next (fun v r =>
      match r with
      | .ok _ => J xs v
      | .error e => post v (.error e)) v)
    (hend : ∀ v, J [] v → post v (.ok ())) : (forEach xs f).Ensures allows next post v := by
  induction xs generalizing v with
  | nil => exact hend v h0
  | cons x xs ih =>
    refine ensures_bind (Script.Ensures.mono ?_ (hturn x xs v h0))
    rintro v (e | a) hr
    · exact hr
    · exact ih hr

/-- A loop over two lists is one loop after the other. -/
theorem ensures_forEach_append {γ : Type} {f : γ → Task ο ε Unit} {post : ν → Except ε Unit → Prop}
    {xs ys : List γ} (h : (forEach xs f).Ensures allows next (fun v r =>
      match r with
      | .ok _ => (forEach ys f).Ensures allows next post v
      | .error e => post v (.error e)) v) : (forEach (xs ++ ys) f).Ensures allows next post v := by
  induction xs generalizing v with
  | nil => exact h
  | cons x xs ih =>
    refine ensures_bind (Script.Ensures.mono ?_ (Script.ensures_bind_iff.mp h))
    rintro v (e | a) hr
    · exact hr
    · exact ih hr

end Task

end Ensures

/-! ## Scripts whose operations have fixed outcomes -/

section RunWith

variable {ο ε α β ν : Type} (answer : ο → Bool) (next : ο → Bool → ν → ν)

/-- Run a script in which every operation has the outcome `answer` gives it. -/
def Script.runWith : Script ο α → ν → ν × α
  | .done a, v => (v, a)
  | .op o k, v => (k (answer o)).runWith (next o (answer o) v)

/-- The same for a task. -/
def Task.runWith (t : Task ο ε α) (v : ν) : ν × Except ε α := Script.runWith answer next t v

/-- The task ends well. What it does to the state plays no part. -/
def Task.Succeeds (t : Task ο ε α) : Prop :=
  (t.runWith answer (fun _ _ v => v) ()).2.isOk = true

instance (t : Task ο ε α) : Decidable (t.Succeeds answer) :=
  inferInstanceAs (Decidable (_ = true))

variable {answer next}

theorem Script.runWith_bind (p : Script ο α) (f : α → Script ο β) (v : ν) :
    (p.bind f).runWith answer next v =
      (f (p.runWith answer next v).2).runWith answer next (p.runWith answer next v).1 := by
  induction p generalizing v with
  | done a => rfl
  | op o k ih => exact ih (answer o) (next o (answer o) v)

/-- The result does not depend on what the operations do to the state. -/
theorem Script.runWith_snd {ν' : Type} (next' : ο → Bool → ν' → ν') (p : Script ο α) (v : ν)
    (v' : ν') : (p.runWith answer next v).2 = (p.runWith answer next' v').2 := by
  induction p generalizing v v' with
  | done a => rfl
  | op o k ih => exact ih (answer o) (next o (answer o) v) (next' o (answer o) v')

theorem Task.succeeds_iff {t : Task ο ε α} (v : ν) :
    t.Succeeds answer ↔ (t.runWith answer next v).2.isOk = true := by
  rw [Task.Succeeds, Task.runWith, Task.runWith, Script.runWith_snd next t () v]

theorem Task.runWith_bind (t : Task ο ε α) (f : α → Task ο ε β) (v : ν) :
    (t >>= f).runWith answer next v =
      match t.runWith answer next v with
      | (v', .ok a) => (f a).runWith answer next v'
      | (v', .error e) => (v', .error e) := by
  refine (Script.runWith_bind t _ v).trans ?_
  unfold Task.runWith
  rcases Script.runWith answer next t v with ⟨v', e | a⟩ <;> rfl

theorem Task.runWith_perform (o : ο) (e : ε) (v : ν) : (perform o e).runWith answer next v =
      (next o (answer o) v, if answer o then .ok () else .error e) := rfl

/-- A script whose operations all leave the state alone leaves it alone. -/
theorem Script.Avoids.runWith_fst {noisy : ο → Bool}
    (hquiet : ∀ o, noisy o = false → ∀ b v, next o b v = v) {p : Script ο α} (v : ν)
    (h : p.Avoids noisy) : (p.runWith answer next v).1 = v := by
  induction p with
  | done a => rfl
  | op o k ih =>
    rw [Script.runWith, hquiet o h.1]
    exact ih (answer o) (h.2 (answer o))

/-- A loop whose turns change the state only if they succeed: it does so for the elements before
the first that fails. -/
theorem Task.runWith_forEach {γ : Type} {f : γ → Task ο ε Unit} (commit : ν → γ → ν)
    (hstate : ∀ x v, ((f x).runWith answer next v).1 =
      if (f x).Succeeds answer then commit v x else v) (xs : List γ) (v : ν) :
    ((forEach xs f).runWith answer next v).1 =
        (xs.takeWhile (fun x => decide ((f x).Succeeds answer))).foldl commit v ∧
      ((forEach xs f).Succeeds answer ↔ ∀ x ∈ xs, (f x).Succeeds answer) := by
  induction xs generalizing v with
  | nil => exact ⟨rfl, iff_of_true rfl (fun _ h => absurd h List.not_mem_nil)⟩
  | cons x xs ih =>
    have hrun : (forEach (x :: xs) f).runWith answer next v = _ :=
      Task.runWith_bind (f x) (fun _ => forEach xs f) v
    have hst := hstate x v
    have hres := @Task.succeeds_iff _ _ _ _ answer next (f x) v
    rw [Task.succeeds_iff v, hrun]
    rcases hx : (f x).runWith answer next v with ⟨v', e | a⟩
    · rw [hx] at hst hres
      have hfail : ¬ (f x).Succeeds answer := fun h => Bool.false_ne_true (hres.mp h)
      rw [if_neg hfail] at hst
      refine ⟨?_, iff_of_false Bool.false_ne_true (fun h => hfail (h x List.mem_cons_self))⟩
      rw [List.takeWhile_cons_of_neg (by simpa using hfail)]
      exact hst
    · rw [hx] at hst hres
      have hok : (f x).Succeeds answer := hres.mpr rfl
      rw [if_pos hok] at hst
      obtain ⟨hstate', hiff⟩ := ih v'
      refine ⟨?_, ?_⟩
      · rw [List.takeWhile_cons_of_pos (by simpa using hok), List.foldl_cons, ← hst]
        exact hstate'
      · rw [List.forall_mem_cons, ← hiff]
        exact (Task.succeeds_iff v').symm.trans (and_iff_right hok).symm

end RunWith

/-! ## Machines -/

/-- How an operation goes on: it makes some progress, ends well, or fails. -/
inductive Outcome
  | progress (n : Nat)
  | ok
  | err
  deriving DecidableEq, Repr

/-- A machine with states `σ` on which one thread runs scripts over `ο`, chosen by calls `κ`,
while other threads take steps `τ`. -/
structure Machine (σ τ ο κ α : Type) where
  env : σ → τ → Option σ
  op : ο → Outcome → σ → Option σ
  enter : κ → σ → σ
  script : κ → Script ο α

/-- The state, and what is left of the script. -/
structure Config (σ ο α : Type) where
  state : σ
  script : Script ο α

/-- A step of another thread, a step of the current operation, or a new call. -/
inductive Action (τ κ : Type)
  | env (t : τ)
  | op (out : Outcome)
  | call (c : κ)
  deriving DecidableEq, Repr

namespace Machine

variable {σ τ ο κ α ν : Type}

def step (M : Machine σ τ ο κ α) (c : Config σ ο α) : Action τ κ → Option (Config σ ο α)
  | .env t => (M.env c.state t).map (fun s => ⟨s, c.script⟩)
  | .op out =>
    match c.script with
    | .done _ => none
    | .op o k =>
      (M.op o out c.state).map (fun s => ⟨s,
        match out with
        | .progress _ => .op o k
        | .ok => k true
        | .err => k false⟩)
  | .call call =>
    match c.script with
    | .done _ => some ⟨M.enter call c.state, M.script call⟩
    | .op _ _ => none

/-- What one step can do. -/
theorem step_cases {M : Machine σ τ ο κ α} {c c' : Config σ ο α} {a : Action τ κ}
    (h : M.step c a = some c') :
    (∃ t s, a = .env t ∧ M.env c.state t = some s ∧ c' = ⟨s, c.script⟩) ∨
    (∃ o k n s, c.script = .op o k ∧ a = .op (.progress n) ∧
      M.op o (.progress n) c.state = some s ∧ c' = ⟨s, c.script⟩) ∨
    (∃ o k b s, c.script = .op o k ∧ a = .op (if b then .ok else .err) ∧
      M.op o (if b then .ok else .err) c.state = some s ∧ c' = ⟨s, k b⟩) ∨
    (∃ call r, c.script = .done r ∧ a = .call call ∧
      c' = ⟨M.enter call c.state, M.script call⟩) := by
  cases a with
  | env t =>
    obtain ⟨s, hs, rfl⟩ := Option.map_eq_some_iff.mp h
    exact Or.inl ⟨t, s, rfl, hs, rfl⟩
  | op out =>
    obtain ⟨s, script⟩ := c
    cases script with
    | done r => cases h
    | op o k =>
      obtain ⟨s', hs, rfl⟩ := Option.map_eq_some_iff.mp h
      cases out with
      | progress n => exact Or.inr (Or.inl ⟨o, k, n, s', rfl, rfl, hs, rfl⟩)
      | ok => exact Or.inr (Or.inr (Or.inl ⟨o, k, true, s', rfl, rfl, hs, rfl⟩))
      | err => exact Or.inr (Or.inr (Or.inl ⟨o, k, false, s', rfl, rfl, hs, rfl⟩))
  | call call =>
    obtain ⟨s, script⟩ := c
    cases script with
    | done r =>
      cases h
      exact Or.inr (Or.inr (Or.inr ⟨call, r, rfl, rfl, rfl⟩))
    | op o k => cases h

/-- **The rule for observed runs.** `Inv v s g` relates the thread's view, the state and the
observer. If the steps of the other threads keep it, if an operation whose precondition holds
moves it along `next`, and if every call is safe to begin with, then in every state reached the
rest of the script is safe from a view related to that state. -/
theorem run_safe_observed {γ : Type} (M : Machine σ τ ο κ α)
    (tick : Config σ ο α → Action τ κ → γ → γ) (P : Config σ ο α → Action τ κ → Prop)
    (pre : ο → ν → Prop) (next : ο → Bool → ν → ν) (post : ν → α → Prop) (Inv : ν → σ → γ → Prop)
    (henv : ∀ v c g t s, Inv v c.state g → P c (.env t) → M.env c.state t = some s →
      Inv v s (tick c (.env t) g))
    (hprogress : ∀ v c g o k n s, Inv v c.state g → c.script = .op o k → pre o v →
      P c (.op (.progress n)) → M.op o (.progress n) c.state = some s →
      Inv v s (tick c (.op (.progress n)) g))
    (hop : ∀ v c g o k b s, Inv v c.state g → c.script = .op o k → pre o v →
      P c (.op (if b then .ok else .err)) → M.op o (if b then .ok else .err) c.state = some s →
      Inv (next o b v) s (tick c (.op (if b then .ok else .err)) g))
    (hcall : ∀ v c g r call, Inv v c.state g → c.script = .done r → post v r →
      ∃ v', Inv v' (M.enter call c.state) (tick c (.call call) g) ∧
        Script.Safe pre next post v' (M.script call))
    (as : List (Action τ κ)) (x y : Config σ ο α × γ)
    (hx : ∃ v, Inv v x.1.state x.2 ∧ Script.Safe pre next post v x.1.script)
    (hP : Meets (observe M.step tick) (fun x => P x.1) x as)
    (hrun : run (observe M.step tick) x as = some y) :
    ∃ v, Inv v y.1.state y.2 ∧ Script.Safe pre next post v y.1.script := by
  refine run_invariant
    (fun x : Config σ ο α × γ =>
      ∃ v, Inv v x.1.state x.2 ∧ Script.Safe pre next post v x.1.script)
    ?_ as x y hx hP hrun
  rintro ⟨c, g⟩ a ⟨c', g'⟩ ⟨v, hI, hsafe⟩ hPc hstep
  obtain ⟨hstep, hg⟩ := observe_cases hstep
  subst hg
  rcases step_cases hstep with ⟨t, s, rfl, hs, hc'⟩ | ⟨o, k, n, s, hscr, rfl, hs, hc'⟩ |
    ⟨o, k, b, s, hscr, rfl, hs, hc'⟩ | ⟨call, r, hscr, rfl, hc'⟩
  · subst hc'
    exact ⟨v, henv v c g t s hI hPc hs, hsafe⟩
  · subst hc'
    have hpre : pre o v := by
      rw [hscr] at hsafe
      exact hsafe.1
    exact ⟨v, hprogress v c g o k n s hI hscr hpre hPc hs, hsafe⟩
  · subst hc'
    rw [hscr] at hsafe
    exact ⟨next o b v, hop v c g o k b s hI hscr hsafe.1 hPc hs, hsafe.2 b⟩
  · subst hc'
    rw [hscr] at hsafe
    exact hcall v c g r call hI hscr hsafe

/-- The rule for runs without an observer. -/
theorem run_safe (M : Machine σ τ ο κ α) (P : Config σ ο α → Action τ κ → Prop)
    (pre : ο → ν → Prop) (next : ο → Bool → ν → ν) (post : ν → α → Prop) (Inv : ν → σ → Prop)
    (henv : ∀ v c t s, Inv v c.state → P c (.env t) → M.env c.state t = some s → Inv v s)
    (hprogress : ∀ v c o k n s, Inv v c.state → c.script = .op o k → pre o v →
      P c (.op (.progress n)) → M.op o (.progress n) c.state = some s → Inv v s)
    (hop : ∀ v c o k b s, Inv v c.state → c.script = .op o k → pre o v →
      P c (.op (if b then .ok else .err)) →
      M.op o (if b then .ok else .err) c.state = some s → Inv (next o b v) s)
    (hcall : ∀ v s r call, Inv v s → post v r →
      ∃ v', Inv v' (M.enter call s) ∧ Script.Safe pre next post v' (M.script call))
    (as : List (Action τ κ)) (c c' : Config σ ο α)
    (hc : ∃ v, Inv v c.state ∧ Script.Safe pre next post v c.script)
    (hP : Meets M.step P c as) (hrun : run M.step c as = some c') :
    ∃ v, Inv v c'.state ∧ Script.Safe pre next post v c'.script := by
  have tick : Config σ ο α → Action τ κ → Unit → Unit := fun _ _ _ => ()
  obtain ⟨g, hobs⟩ := @run_observe _ _ _ _ tick as _ _ () hrun
  exact run_safe_observed M tick P pre next post (fun v s _ => Inv v s)
    (fun v c _ => henv v c) (fun v c _ => hprogress v c) (fun v c _ => hop v c)
    (fun v c _ r call hI _ hpost => hcall v c.state r call hI hpost)
    as (c, ()) (c', g) hc (hP.observe as ()) hobs

end Machine

end MicroMachines.Lib
