import Mathlib.Tactic

set_option autoImplicit false

/-! # Programs that share a store, one atomic statement at a time

`Prog δ ε α` is a program working on a store of type `δ`. It is either finished, or about
to execute one atomic statement: the statement updates the store, and what the program does
next may depend on the store the statement saw. The environment may also refuse a statement
with an error of type `ε`; the store then stays as it is and the program goes on with its
error branch.

`Prog.Keeps R` says that every statement the program can ever execute relates the store
before it to the store after it by `R`. `Prog.Always Q` says that whatever other programs do
to the store between its statements, the program can only finish with a result in `Q`. `Keeps` is
closed under `bind`, so it is proved for a whole program by looking at its statements one at a
time.
-/

namespace MicroMachines.Lib

/-- A program over a shared store, as the tree of its atomic statements. -/
inductive Prog (δ ε α : Type) where
  | done (a : α)
  | stmt (update : δ → δ) (next : δ → Prog δ ε α) (fail : ε → Prog δ ε α)

namespace Prog

variable {δ ε α β : Type}

/-- Run `p`, then the program `f` chooses from its result. -/
def bind : Prog δ ε α → (α → Prog δ ε β) → Prog δ ε β
  | .done a, f => f a
  | .stmt u n e, f => .stmt u (fun d => (n d).bind f) (fun x => (e x).bind f)

/-- Run the program alone, with no statement refused: its result and the store after it. -/
def eval : Prog δ ε α → δ → α × δ
  | .done a, d => (a, d)
  | .stmt u n _, d => (n d).eval (u d)

/-- Every statement of the program relates the store before and after it by `R`. -/
def Keeps (R : δ → δ → Prop) : Prog δ ε α → Prop
  | .done _ => True
  | .stmt u n e => (∀ d, R d (u d)) ∧ (∀ d, (n d).Keeps R) ∧ ∀ x, (e x).Keeps R

/-- Every result the program can finish with satisfies `Q`. -/
def Always (Q : α → Prop) : Prog δ ε α → Prop
  | .done a => Q a
  | .stmt _ n e => (∀ d, (n d).Always Q) ∧ ∀ x, (e x).Always Q

theorem Keeps.bind {R : δ → δ → Prop} {p : Prog δ ε α} {f : α → Prog δ ε β}
    (hp : p.Keeps R) (hf : ∀ a, (f a).Keeps R) : (p.bind f).Keeps R := by
  induction p with
  | done a => exact hf a
  | stmt u n e ihn ihe =>
    obtain ⟨h1, h2, h3⟩ := hp
    exact ⟨h1, fun d => ihn d (h2 d), fun x => ihe x (h3 x)⟩

theorem Keeps.mono {R S : δ → δ → Prop} (hRS : ∀ d d', R d d' → S d d') {p : Prog δ ε α}
    (hp : p.Keeps R) : p.Keeps S := by
  induction p with
  | done a => trivial
  | stmt u n e ihn ihe =>
    obtain ⟨h1, h2, h3⟩ := hp
    exact ⟨fun d => hRS d _ (h1 d), fun d => ihn d (h2 d), fun x => ihe x (h3 x)⟩

end Prog

end MicroMachines.Lib
