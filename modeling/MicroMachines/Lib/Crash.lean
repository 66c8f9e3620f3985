import MicroMachines.Lib.Resumption
import MicroMachines.Lib.Script

set_option autoImplicit false

/-! # Programs that may be killed at any statement

A program over a store (`Prog`) that runs alone can be killed between any two of its statements,
and what it has done so far stays. `Prog.Safe I Q` says that every statement leaves a store in
`I`, so that a kill finds the store in `I` wherever it comes, and that the program ends only with
a store and a result in `Q`.

* `Fallible`: programs that end with a result or an error, and the rules for them.
* `Script.interp`: a script becomes a program once each of its operations is one. A proof about
  the script alone (`Script.Safe`) carries over (`Script.Safe.interp`).
* `Session`: calls made one after the other, each run to its end or killed on the way.
  `Session.run_safe`: an invariant that every call is safe for holds in every state reached;
  `Session.finishes_safe`: a call that is run to its end.
-/

namespace MicroMachines.Lib

namespace Prog

variable {δ ε α β : Type}

/-- From the store `d`, with nothing else going on: every statement leaves a store in `I`, and the
program ends only with a store and a result in `Q`. A refused statement changes nothing. -/
def Safe (I : δ → Prop) (Q : δ → α → Prop) : δ → Prog δ ε α → Prop
  | d, .done a => Q d a
  | d, .stmt u n e => I (u d) ∧ Safe I Q (u d) (n d) ∧ ∀ x, Safe I Q d (e x)

variable {I J : δ → Prop} {d : δ}

variable {p : Prog δ ε α}

theorem Safe.bind {Q : δ → β → Prop} {f : α → Prog δ ε β}
    (h : p.Safe I (fun d a => (f a).Safe I Q d) d) : (p.bind f).Safe I Q d := by
  induction p generalizing d with
  | done a => exact h
  | stmt u n e ihn ihe => exact ⟨h.1, ihn d h.2.1, fun x => ihe x (h.2.2 x)⟩

theorem Safe.mono {Q R : δ → α → Prop} (hI : ∀ d, I d → J d) (hQ : ∀ d a, Q d a → R d a)
    (h : p.Safe I Q d) : p.Safe J R d := by
  induction p generalizing d with
  | done a => exact hQ d a h
  | stmt u n e ihn ihe => exact ⟨hI _ h.1, ihn d h.2.1, fun x => ihe x (h.2.2 x)⟩

theorem Safe.imp {Q R : δ → α → Prop} (h : p.Safe I Q d) (hQ : ∀ d a, Q d a → R d a) : p.Safe I R d :=
  h.mono (fun _ h => h) hQ

/-- The program run alone to its end. The list tells which of its statements are refused, and with
what; those behind its end are executed. -/
def exec : Prog δ ε α → List (Option ε) → δ → δ × α
  | .done a, _, d => (d, a)
  | .stmt u n _, [], d => (n d).exec [] (u d)
  | .stmt u n _, none :: refused, d => (n d).exec refused (u d)
  | .stmt _ _ e, some x :: refused, d => (e x).exec refused d

theorem Safe.exec {Q : δ → α → Prop} (h : p.Safe I Q d) (refused : List (Option ε)) :
    Q (p.exec refused d).1 (p.exec refused d).2 := by
  induction p generalizing d refused with
  | done a => exact h
  | stmt u n e ihn ihe =>
    match refused with
    | [] => exact ihn d h.2.1 []
    | none :: refused => exact ihn d h.2.1 refused
    | some x :: refused => exact ihe x (h.2.2 x) refused

end Prog

/-! ## Programs that may fail -/

/-- A program that ends with a result or an error. -/
def Fallible (δ ε α : Type) : Type := Prog δ ε (Except ε α)

namespace Fallible

variable {δ ε α β γ : Type}

/-- Sequencing with the `?` operator. -/
def bind (t : Fallible δ ε α) (f : α → Fallible δ ε β) : Fallible δ ε β :=
  Prog.bind t (fun r =>
    match r with
    | .ok a => f a
    | .error e => .done (.error e))

instance : Monad (Fallible δ ε) where
  pure a := .done (.ok a)
  bind := Fallible.bind

/-- End with an error. -/
def fail (e : ε) : Fallible δ ε α := .done (.error e)

/-- The store and the result after a statement. One that fails changes nothing. -/
def outcome (d : δ) : Except ε (δ × α) → δ × Except ε α
  | .ok r => (r.1, .ok r.2)
  | .error e => (d, .error e)

/-- A program of one statement. -/
def atomic (f : δ → Except ε (δ × α)) : Fallible δ ε α :=
  .stmt (fun d => (outcome d (f d)).1) (fun d => .done (outcome d (f d)).2)
    (fun e => .done (.error e))

/-- A result or an error as a value. -/
def attempt (t : Fallible δ ε α) : Fallible δ ε (Except ε α) := Prog.bind t (fun r => .done (.ok r))

/-- The same for each element in turn, until one fails. -/
def forEach : List γ → (γ → Fallible δ ε Unit) → Fallible δ ε Unit
  | [], _ => .done (.ok ())
  | x :: xs, f => Fallible.bind (f x) (fun _ => forEach xs f)

/-- Safety, with one postcondition for success and one for failure. -/
def Safe (I : δ → Prop) (Q : δ → α → Prop) (E : δ → Prop) (d : δ) (t : Fallible δ ε α) : Prop :=
  Prog.Safe I (fun d r => match r with | .ok a => Q d a | .error _ => E d) d t

variable {I J : δ → Prop} {Q : δ → α → Prop} {E : δ → Prop} {d : δ}

theorem safe_pure {a : α} (h : Q d a) : Safe I Q E d (pure a : Fallible δ ε α) := h

theorem safe_fail {e : ε} (h : E d) : Safe I Q E d (fail e : Fallible δ ε α) := h

variable {t : Fallible δ ε α} {R : δ → δ → Prop}

theorem safe_bind {Q' : δ → β → Prop} {f : α → Fallible δ ε β}
    (h : Safe I (fun d a => Safe I Q' E d (f a)) E d t) : Safe I Q' E d (t >>= f) := by
  refine Prog.Safe.bind (Prog.Safe.imp h ?_)
  rintro d (e | a) hr
  · exact hr
  · exact hr

theorem Safe.mono {R : δ → α → Prop} {F : δ → Prop} (hI : ∀ d, I d → J d)
    (hQ : ∀ d a, Q d a → R d a) (hE : ∀ d, E d → F d) (h : Safe I Q E d t) : Safe J R F d t := by
  refine Prog.Safe.mono hI ?_ h
  rintro d (e | a) hr
  · exact hE d hr
  · exact hQ d a hr

theorem Safe.imp {R : δ → α → Prop} (h : Safe I Q E d t) (hQ : ∀ d a, Q d a → R d a) : Safe I R E d t :=
  h.mono (fun _ h => h) hQ (fun _ h => h)

/-- One condition throughout: at every point, and at the end however the program ends. -/
abbrev Stays (I : δ → Prop) (d : δ) (t : Fallible δ ε α) : Prop := Safe I (fun d _ => I d) I d t

theorem Stays.weaken (h : Stays I d t) (hI : ∀ d, I d → J d) : Stays J d t :=
  h.mono hI (fun d _ => hI d) hI

theorem safe_atomic {f : δ → Except ε (δ × α)} (hI : I d)
    (hok : ∀ d' a, f d = .ok (d', a) → I d' ∧ Q d' a) (herr : E d) : Safe I Q E d (atomic f) := by
  have hout : I (outcome d (f d)).1 ∧
      match (outcome d (f d)).2 with
      | .ok a => Q (outcome d (f d)).1 a
      | .error _ => E (outcome d (f d)).1 := by
    cases h : f d with
    | error e => exact ⟨hI, herr⟩
    | ok r => exact hok r.1 r.2 h
  exact ⟨hout.1, hout.2, fun _ => herr⟩

theorem safe_attempt {Q : δ → Except ε α → Prop}
    (h : Safe I (fun d a => Q d (.ok a)) (fun d => ∀ e, Q d (.error e)) d t) :
    Safe I Q E d (attempt t) := by
  refine Prog.Safe.bind (Prog.Safe.imp h ?_)
  rintro d (e | a) hr
  · exact hr e
  · exact hr

/-- **The loop rule.** `K rest` holds before each turn, where `rest` are the elements still to
come. -/
theorem safe_forEach {f : γ → Fallible δ ε Unit} {Q : δ → Unit → Prop} (K : List γ → δ → Prop)
    (xs : List γ) (h0 : K xs d)
    (hturn : ∀ x xs d, K (x :: xs) d → Safe I (fun d _ => K xs d) E d (f x))
    (hend : ∀ d, K [] d → Q d ()) : Safe I Q E d (forEach xs f) := by
  induction xs generalizing d with
  | nil => exact hend d h0
  | cons x xs ih =>
    exact safe_bind ((hturn x xs d h0).imp (fun d _ hd => ih hd))

/-- A program that ends with a result. -/
theorem Safe.exec_ok (h : Safe I Q E d t) {refused : List (Option ε)} {d' : δ} {a : α}
    (hrun : Prog.exec t refused d = (d', .ok a)) : Q d' a := by
  have hend := Prog.Safe.exec h refused
  rw [hrun] at hend
  exact hend

end Fallible

/-! ## Scripts as programs -/

section Interp

variable {δ ε ο α ν : Type}

/-- The program a script is, once each operation is a program that says whether it succeeded. -/
def Script.interp (h : ο → Prog δ ε Bool) : Script ο α → Prog δ ε α
  | .done a => .done a
  | .op o k => (h o).bind (fun b => (k b).interp h)

/-- A script that is safe for views is safe as a program, if every operation whose precondition
holds moves the store as `next` moves the view. -/
theorem Script.Safe.interp {pre : ο → ν → Prop} {next : ο → Bool → ν → ν} {post : ν → α → Prop}
    {I : δ → Prop} {Inv : ν → δ → Prop} {h : ο → Prog δ ε Bool}
    (hop : ∀ o v d, pre o v → Inv v d → (h o).Safe I (fun d b => Inv (next o b v) d) d)
    {s : Script ο α} {v : ν} {d : δ} (hs : Script.Safe pre next post v s) (hd : Inv v d) :
    (s.interp h).Safe I (fun d a => ∃ v, Inv v d ∧ post v a) d := by
  induction s generalizing v d with
  | done a => exact ⟨v, hd, hs⟩
  | op o k ih =>
    refine Prog.Safe.bind ((hop o v d hs.1 hd).imp ?_)
    intro d b hb
    exact ih b (hs.2 b) hb

end Interp

/-! ## Sessions -/

/-- The store, and what is left of the call that is being served. -/
structure Session (δ ε ρ : Type) where
  store : δ
  running : Option (Prog δ ε ρ)

namespace Session

variable {δ ε ρ κ : Type}

/-- A call begins; its next statement is executed or refused; it is over, because it has returned
or because its process was killed. -/
inductive Act (κ ε : Type)
  | start (c : κ)
  | stmt
  | refuse (x : ε)
  | leave
  deriving DecidableEq, Repr

def step (prog : κ → Prog δ ε ρ) (s : Session δ ε ρ) : Act κ ε → Option (Session δ ε ρ)
  | .start c =>
    match s.running with
    | none => some ⟨s.store, some (prog c)⟩
    | some _ => none
  | .stmt =>
    match s.running with
    | some (.stmt u n _) => some ⟨u s.store, some (n s.store)⟩
    | _ => none
  | .refuse x =>
    match s.running with
    | some (.stmt _ _ e) => some ⟨s.store, some (e x)⟩
    | _ => none
  | .leave => some ⟨s.store, none⟩

variable {prog : κ → Prog δ ε ρ}

/-- What one step can do. -/
theorem step_cases {s s' : Session δ ε ρ} {a : Act κ ε} (h : step prog s a = some s') :
    (∃ c, a = .start c ∧ s' = ⟨s.store, some (prog c)⟩) ∨
    (∃ u n e, s.running = some (.stmt u n e) ∧ s' = ⟨u s.store, some (n s.store)⟩) ∨
    (∃ x u n e, s.running = some (.stmt u n e) ∧ s' = ⟨s.store, some (e x)⟩) ∨
    s' = ⟨s.store, none⟩ := by
  obtain ⟨d, running⟩ := s
  cases a with
  | start c =>
    cases running with
    | none =>
      cases h
      exact Or.inl ⟨c, rfl, rfl⟩
    | some p => cases h
  | stmt =>
    cases running with
    | none => cases h
    | some p =>
      cases p with
      | done r => cases h
      | stmt u n e =>
        cases h
        exact Or.inr (Or.inl ⟨u, n, e, rfl, rfl⟩)
  | refuse x =>
    cases running with
    | none => cases h
    | some p =>
      cases p with
      | done r => cases h
      | stmt u n e =>
        cases h
        exact Or.inr (Or.inr (Or.inl ⟨x, u, n, e, rfl, rfl⟩))
  | leave =>
    cases h
    exact Or.inr (Or.inr (Or.inr rfl))

/-- **The rule for sessions.** If every call that is made is safe for `I`, wherever in `I` it
begins, then `I` holds in every state reached, at the kills included. -/
theorem run_safe (I : δ → Prop) (as : List (Act κ ε))
    (hcall : ∀ c, .start c ∈ as → ∀ d, I d → (prog c).Safe I (fun _ _ => True) d)
    {d : δ} {s : Session δ ε ρ} (hd : I d) (hrun : run (step prog) ⟨d, none⟩ as = some s) :
    I s.store := by
  have hinv : I s.store ∧ ∀ p, s.running = some p → p.Safe I (fun _ _ => True) s.store := by
    refine @run_invariant _ _ (step prog)
      (fun _ a => ∀ c, a = .start c → ∀ d, I d → (prog c).Safe I (fun _ _ => True) d)
      (fun s => I s.store ∧ ∀ p, s.running = some p → p.Safe I (fun _ _ => True) s.store)
      ?_ as ⟨d, none⟩ s ⟨hd, fun p hp => by cases hp⟩ ?_ hrun
    · rintro s a s' ⟨hI, hsafe⟩ hP hstep
      rcases step_cases hstep with ⟨c, rfl, rfl⟩ | ⟨u, n, e, hp, rfl⟩ | ⟨x, u, n, e, hp, rfl⟩ | rfl
      · refine ⟨hI, fun p hp => ?_⟩
        cases hp
        exact hP c rfl s.store hI
      · obtain ⟨hu, hn, _⟩ := hsafe _ hp
        refine ⟨hu, fun p hp => ?_⟩
        cases hp
        exact hn
      · obtain ⟨_, _, he⟩ := hsafe _ hp
        refine ⟨hI, fun p hp => ?_⟩
        cases hp
        exact he x
      · exact ⟨hI, fun p hp => by cases hp⟩
    · refine Meets.of_mem ?_ _
      rintro a ha _ c rfl
      exact hcall c ha
  exact hinv.1

/-- A call that is run to its end. -/
theorem finishes_safe {I : δ → Prop} {Q : δ → ρ → Prop} {p : Prog δ ε ρ} {d d' : δ}
    {a : ρ} {as : List (Act κ ε)} (hp : p.Safe I Q d) (hstay : .leave ∉ as)
    (hrun : run (step prog) ⟨d, some p⟩ as = some ⟨d', some (.done a)⟩) : Q d' a := by
  have hinv := @run_invariant _ _ (step prog) (fun _ a => a ≠ .leave)
    (fun s => ∃ p, s.running = some p ∧ p.Safe I Q s.store) ?_ as ⟨d, some p⟩ _ ⟨p, rfl, hp⟩ ?_ hrun
  · obtain ⟨p', hp', hsafe⟩ := hinv
    cases hp'
    exact hsafe
  · rintro s a s' ⟨p, hrunning, hsafe⟩ hleave hstep
    obtain ⟨d, running⟩ := s
    cases hrunning
    cases a with
    | start c => cases hstep
    | leave => exact absurd rfl hleave
    | stmt =>
      cases p with
      | done r => cases hstep
      | stmt u n e =>
        cases hstep
        exact ⟨_, rfl, hsafe.2.1⟩
    | refuse x =>
      cases p with
      | done r => cases hstep
      | stmt u n e =>
        cases hstep
        exact ⟨_, rfl, hsafe.2.2 x⟩
  · refine Meets.of_mem (fun a ha _ hleave => ?_) _
    rw [hleave] at ha
    exact hstay ha

end Session

end MicroMachines.Lib
