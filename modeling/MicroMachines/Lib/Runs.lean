import Mathlib.Tactic

set_option autoImplicit false

/-! # Runs of a partial step function

A system is a partial function `step : σ → α → Option σ`: in state `s` the action `a` is
either impossible (`none`) or leads to one state. Everything that is not determined by the
state (which thread moves, what a device answers, whether a call fails) is part of the
action, so a list of actions determines a run.

* `run step s as`: the state after the actions `as`, if each of them was possible.
* `Meets step P s as`: every step of that run is taken in a state that satisfies `P`.
* `observe step tick`: the same system with an observer, whose state changes at every step and
  is not seen by the system. Every run has one observation (`run_observe`).
* `good_iff_meets`: when a condition on the steps is exactly what keeps all states good.
* `run_invariant`: an invariant kept by every step that meets `P` holds at the end of every
  run that meets `P`. Since a prefix of such a run is such a run, it holds in every state
  the run passes through.
-/

namespace MicroMachines.Lib

universe u v

variable {σ : Type u} {α : Type v}

/-- The state after a list of actions; `none` if one of them was impossible. -/
def run (step : σ → α → Option σ) : σ → List α → Option σ
  | s, [] => some s
  | s, a :: as => (step s a).bind (fun s' => run step s' as)

/-- Every step of the run is taken in a state in which `P` allows its action. -/
def Meets (step : σ → α → Option σ) (P : σ → α → Prop) : σ → List α → Prop
  | _, [] => True
  | s, a :: as => P s a ∧ ∀ s', step s a = some s' → Meets step P s' as

/-- What a decision finds at the end of a run. -/
theorem exists_of_any {x : Option σ} {p : σ → Prop} [DecidablePred p] (h : x.any (fun s => decide (p s)) = true) :
    ∃ s, x = some s ∧ p s := by
  obtain ⟨s, hs, hp⟩ := (Option.any_eq_true _ _).mp h
  exact ⟨s, hs, of_decide_eq_true hp⟩

instance Meets.decidable (step : σ → α → Option σ) (P : σ → α → Prop)
    [∀ s a, Decidable (P s a)] : ∀ (as : List α) (s : σ), Decidable (Meets step P s as)
  | [], _ => .isTrue trivial
  | a :: as, s =>
    match h : step s a with
    | none => decidable_of_iff (P s a) (by simp [Meets, h])
    | some s' =>
      have := Meets.decidable step P as s'
      decidable_of_iff (P s a ∧ Meets step P s' as) (by simp [Meets, h])

variable {step : σ → α → Option σ} {s : σ} {as : List α} {P : σ → α → Prop}

theorem run_cons {s' : σ} {a : α} :
    run step s (a :: as) = some s' ↔ ∃ m, step s a = some m ∧ run step m as = some s' := by
  simp only [run, Option.bind_eq_some_iff]

theorem Meets.of_mem (h : ∀ a ∈ as, ∀ s, P s a) (s : σ) : Meets step P s as := by
  induction as generalizing s with
  | nil => trivial
  | cons a as ih =>
    refine ⟨h a List.mem_cons_self s, fun s' _ => ih ?_ s'⟩
    exact fun b hb => h b (List.mem_cons_of_mem a hb)

theorem Meets.of_forall (h : ∀ s a, P s a) (as : List α) (s : σ) : Meets step P s as :=
  Meets.of_mem (fun a _ s => h s a) s

theorem Meets.and {Q : σ → α → Prop} (hP : Meets step P s as) (hQ : Meets step Q s as) :
    Meets step (fun s a => P s a ∧ Q s a) s as := by
  induction as generalizing s with
  | nil => trivial
  | cons a as ih => exact ⟨⟨hP.1, hQ.1⟩, fun s' h => ih (hP.2 s' h) (hQ.2 s' h)⟩

/-- **The invariant rule.** -/
theorem run_invariant (I : σ → Prop) (hstep : ∀ s a s', I s → P s a → step s a = some s' → I s') :
    ∀ (as : List α) (s s' : σ), I s → Meets step P s as → run step s as = some s' → I s' := by
  intro as
  induction as with
  | nil =>
    intro s s' hI _ hrun
    cases hrun
    exact hI
  | cons a as ih =>
    intro s s' hI hP hrun
    obtain ⟨m, hm, hrest⟩ := run_cons.mp hrun
    exact ih m s' (hstep s a m hI hP.1 hm) (hP.2 m hm) hrest

/-- A run whose steps are all possible does not get stuck. -/
theorem run_total (I : σ → Prop)
    (hstep : ∀ s a, I s → P s a → ∃ s', step s a = some s' ∧ I s') (as : List α) (s : σ)
    (hI : I s) (hP : Meets step P s as) : ∃ s', run step s as = some s' ∧ I s' := by
  induction as generalizing s with
  | nil => exact ⟨s, rfl, hI⟩
  | cons a as ih =>
    obtain ⟨m, hm, hIm⟩ := hstep s a hI hP.1
    obtain ⟨s', hrun, hI'⟩ := ih m hIm (hP.2 m hm)
    exact ⟨s', run_cons.mpr ⟨m, hm, hrun⟩, hI'⟩

/-- The invariant rule without a condition on the steps. -/
theorem run_invariant_all (I : σ → Prop)
    (hstep : ∀ s a s', I s → step s a = some s' → I s') (as : List α) (s s' : σ)
    (hI : I s) (hrun : run step s as = some s') : I s' :=
  run_invariant (P := fun _ _ => True) I (fun s a s' h _ => hstep s a s' h) as s s' hI
    (Meets.of_forall (fun _ _ => trivial) as s) hrun

theorem Meets.left {bs : List α} (h : Meets step P s (as ++ bs)) : Meets step P s as := by
  induction as generalizing s with
  | nil => trivial
  | cons a as ih => exact ⟨h.1, fun s' hstep => ih (h.2 s' hstep)⟩

/-- **A condition that is exact.** If steps that meet `P` keep an invariant by which all is good, and after any
other step from such a state it is not, then all is good throughout a run if and only if the run meets `P`. -/
theorem good_iff_meets {G : σ → Prop} (I : σ → Prop)
    (hgood : ∀ s, I s → G s) (hkeep : ∀ s a s', I s → P s a → step s a = some s' → I s')
    (hexact : ∀ s a s', I s → step s a = some s' → G s' → P s a) {s' : σ} (hI : I s)
    (hrun : run step s as = some s') :
    (∀ bs, bs <+: as → ∀ m, run step s bs = some m → G m) ↔ Meets step P s as := by
  constructor
  · intro hall
    induction as generalizing s with
    | nil => trivial
    | cons a as ih =>
      obtain ⟨m, hm, hrest⟩ := run_cons.mp hrun
      have hGm : G m :=
        hall [a] ⟨as, rfl⟩ m (run_cons.mpr ⟨m, hm, rfl⟩)
      have hP : P s a := hexact s a m hI hm hGm
      refine ⟨hP, fun m' hm' => ?_⟩
      obtain rfl := Option.some.inj (hm.symm.trans hm')
      refine ih (hkeep s a m hI hP hm) hrest (fun bs hbs m' hrun' => ?_)
      exact hall (a :: bs) (List.cons_prefix_cons.mpr ⟨rfl, hbs⟩) m' (run_cons.mpr ⟨m, hm, hrun'⟩)
  · rintro hmeets bs ⟨cs, rfl⟩ m hm
    exact hgood m (run_invariant I hkeep bs s m hI hmeets.left hm)

/-! ## Observers -/

section Observe

variable {γ : Type} (step : σ → α → Option σ) (tick : σ → α → γ → γ)

/-- The system with an observer. -/
def observe (x : σ × γ) (a : α) : Option (σ × γ) :=
  (step x.1 a).map (fun s => (s, tick x.1 a x.2))

variable {step tick}

theorem observe_cases {x y : σ × γ} {a : α} (h : observe step tick x a = some y) :
    step x.1 a = some y.1 ∧ y.2 = tick x.1 a x.2 := by
  obtain ⟨s, hs, rfl⟩ := Option.map_eq_some_iff.mp h
  exact ⟨hs, rfl⟩

/-- An observer does not get in the way. -/
theorem run_observe (as : List α) {s s' : σ} (g : γ) (h : run step s as = some s') :
    ∃ g', run (observe step tick) (s, g) as = some (s', g') := by
  induction as generalizing s g with
  | nil =>
    cases h
    exact ⟨g, rfl⟩
  | cons a as ih =>
    obtain ⟨m, hm, hrest⟩ := run_cons.mp h
    obtain ⟨g', hg'⟩ := ih (tick s a g) hrest
    refine ⟨g', run_cons.mpr ⟨(m, tick s a g), ?_, hg'⟩⟩
    rw [observe, hm]
    rfl

theorem Meets.observe {P : σ → α → Prop} (as : List α) {s : σ} (g : γ) (h : Meets step P s as) :
    Meets (observe step tick) (fun x => P x.1) (s, g) as := by
  induction as generalizing s g with
  | nil => trivial
  | cons a as ih =>
    refine ⟨h.1, fun y hy => ?_⟩
    obtain ⟨s', g'⟩ := y
    exact ih g' (h.2 s' (observe_cases hy).1)

end Observe

end MicroMachines.Lib
