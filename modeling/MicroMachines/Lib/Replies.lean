import Mathlib.Tactic

set_option autoImplicit false

/-! # Systems that reply

A system that accepts every request, changes its state and replies. What can be learnt about
the state from outside is what the replies to any sequence of requests show.

* `replies step s as`: the replies to the requests `as`, in order.
* `Alike step s t`: no sequence of requests tells the states apart.
* `alike_of_view`: states with the same view are alike, if the view determines the reply and
  the next view.
-/

namespace MicroMachines.Lib

universe u v w

variable {σ : Type u} {α : Type v} {β : Type w} (step : σ → α → σ × β)

/-- The replies to a list of requests. -/
def replies : σ → List α → List β
  | _, [] => []
  | s, a :: as => (step s a).2 :: replies (step s a).1 as

/-- The state after a list of requests. -/
def stateAfter : σ → List α → σ
  | s, [] => s
  | s, a :: as => stateAfter (step s a).1 as

/-- No requests tell the states apart. -/
def Alike (s t : σ) : Prop := ∀ as, replies step s as = replies step t as

variable {step}

theorem Alike.reply {s t : σ} (h : Alike step s t) (a : α) : (step s a).2 = (step t a).2 :=
  (List.cons.inj (h [a])).1

theorem Alike.next {s t : σ} (h : Alike step s t) (a : α) : Alike step (step s a).1 (step t a).1 :=
  fun as => (List.cons.inj (h (a :: as))).2

/-- **The view rule.** -/
theorem alike_of_view {γ : Type u} (view : σ → γ)
    (hreply : ∀ s t a, view s = view t → (step s a).2 = (step t a).2)
    (hnext : ∀ s t a, view s = view t → view (step s a).1 = view (step t a).1)
    {s t : σ} (h : view s = view t) : Alike step s t := by
  intro as
  induction as generalizing s t with
  | nil => rfl
  | cons a as ih =>
    rw [replies, replies, hreply s t a h, ih (hnext s t a h)]

end MicroMachines.Lib
