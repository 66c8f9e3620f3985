import Mathlib.Tactic
import Mathlib.Data.Fintype.Card

set_option autoImplicit false

/-! # A counting barrier

One thread asks the others, the *participants* `ι`, to capture something and wait until they
are let go. It knows how many are waiting only through a counter; the counter does not say who
they are, nor which request they answer.

A participant is `out` of the barrier, `called` to it, `ready` after its capture, `waiting`
once it has been counted, and `leaving` after it has seen the release. The numbers in the last
three phases say how many requests had been made when it captured.

* `Move`: what a participant can do, and what that does to the counter.
* `Barrier.Step`: one step of a participant or of the asking thread. A request is made only
  when every participant is out.
* `Barrier.Inv`, `Inv.step`: what all steps keep.
* `Inv.all_waiting`: if the counter has reached the number of participants of the cycle, then
  all of them are waiting, and they captured after the request.
-/

namespace MicroMachines.Lib

/-- Where a participant stands. -/
inductive Phase
  | out
  | called
  | ready (g : Nat)
  | waiting (g : Nat)
  | leaving (g : Nat)
  deriving DecidableEq, Repr

/-- The participant is part of the counter. -/
def Phase.counted : Phase → Bool
  | .waiting _ => true
  | .leaving _ => true
  | _ => false

/-- What a move does to the counter. -/
inductive Count
  | same
  | up
  | down
  deriving DecidableEq, Repr

def Count.apply : Count → Nat → Nat
  | .same, n => n
  | .up, n => n + 1
  | .down, n => n - 1

/-- The moves of a participant. Only a `free` one looks at the request by itself; the others
wait to be called. -/
inductive Move (free requested released : Bool) (gen : Nat) : Phase → Phase → Count → Prop
  | stay (p : Phase) : Move free requested released gen p p .same
  | notice (hfree : free = true) (h : requested = true) :
      Move free requested released gen .out .called .same
  | forget : Move free requested released gen .called .out .same
  | capture : Move free requested released gen .called (.ready gen) .same
  | drop (g : Nat) (p : Phase) (h : requested = false) (hp : p = .out ∨ p = .called) :
      Move free requested released gen (.ready g) p .same
  | enter (g : Nat) : Move free requested released gen (.ready g) (.waiting g) .up
  | see (g : Nat) (h : released = true) :
      Move free requested released gen (.waiting g) (.leaving g) .same
  | leave (g : Nat) (p : Phase) (hp : p = .out ∨ p = .called) :
      Move free requested released gen (.leaving g) p .down

section Move

variable {free requested released : Bool} {gen g : Nat} {p : Phase} {δ : Count}

/-- A participant that nobody calls and that does not look stays out. -/
theorem Move.of_out (h : Move false requested released gen .out p δ) : p = .out ∧ δ = .same := by
  cases h with
  | stay => exact ⟨rfl, rfl⟩
  | notice hfree => cases hfree

/-- A waiting participant stays until the release. -/
theorem Move.of_waiting (h : Move free requested false gen (.waiting g) p δ) :
    p = .waiting g ∧ δ = .same := by
  cases h with
  | stay => exact ⟨rfl, rfl⟩
  | see _ hrel => cases hrel

end Move

/-- The flags and the counter, the number of requests made so far, the participants of the
cycle in progress, and where everyone stands. -/
structure Barrier (ι : Type) where
  requested : Bool
  released : Bool
  parked : Nat
  gen : Nat
  cycle : Option (Finset ι)
  phase : ι → Phase

variable {ι : Type} [DecidableEq ι]

/-- One participant moves. -/
def Barrier.move (b : Barrier ι) (i : ι) (p : Phase) (δ : Count) : Barrier ι :=
  { b with phase := Function.update b.phase i p, parked := δ.apply b.parked }

theorem Barrier.move_phase_self (b : Barrier ι) (i : ι) (p : Phase) (δ : Count) :
    (b.move i p δ).phase i = p :=
  Function.update_self _ _ _

theorem Barrier.move_phase_ne (b : Barrier ι) {i j : ι} (h : j ≠ i) (p : Phase) (δ : Count) :
    (b.move i p δ).phase j = b.phase j :=
  Function.update_of_ne h _ _

/-- One step; `F` are the participants that look at the request by themselves. -/
inductive Barrier.Step (F : Finset ι) (b : Barrier ι) : Barrier ι → Prop
  | move (i : ι) (p : Phase) (δ : Count)
      (h : Move (decide (i ∈ F)) b.requested b.released b.gen (b.phase i) p δ) :
      Step F b (b.move i p δ)
  | wake (i : ι) (hS : ∀ S, b.cycle = some S → i ∈ S) (hp : b.phase i = .out) :
      Step F b (b.move i .called .same)
  | clearReleased : Step F b { b with released := false }
  | request (S : Finset ι) (hF : F ⊆ S) (hrel : b.released = false)
      (hout : ∀ i, b.phase i = .out) :
      Step F b { b with requested := true, gen := b.gen + 1, cycle := some S }
  | clearRequested : Step F b { b with requested := false, cycle := none }
  | setReleased (h : b.cycle = none) : Step F b { b with released := true }

/-! ## The invariant -/

/-- Where participant `i` can stand in a cycle of the participants `S` with request number
`gen`. -/
def Phase.Within (S : Finset ι) (gen : Nat) (i : ι) : Phase → Prop
  | .out => True
  | .called => i ∈ S
  | .ready g => g = gen ∧ i ∈ S
  | .waiting g => g = gen ∧ i ∈ S
  | .leaving _ => False

/-- The counter is right, and in a cycle everyone stands where the cycle puts them. -/
structure Barrier.Inv [Fintype ι] (F : Finset ι) (b : Barrier ι) : Prop where
  parked : b.parked = (Finset.univ.filter (fun i => (b.phase i).counted = true)).card
  within : ∀ S, b.cycle = some S →
    b.released = false ∧ F ⊆ S ∧ ∀ i, (b.phase i).Within S b.gen i

section Counter

variable [Fintype ι] {phase : ι → Phase} {i : ι} {p : Phase}

theorem card_counted_same (h : p.counted = (phase i).counted) :
    (Finset.univ.filter (fun j => (Function.update phase i p j).counted = true)).card =
      (Finset.univ.filter (fun j => (phase j).counted = true)).card := by
  congr 1
  ext j
  by_cases hj : j = i
  · subst hj
    simp [h]
  · simp [Function.update_of_ne hj]

theorem card_counted_up (hp : p.counted = true) (hi : (phase i).counted = false) :
    (Finset.univ.filter (fun j => (Function.update phase i p j).counted = true)).card =
      (Finset.univ.filter (fun j => (phase j).counted = true)).card + 1 := by
  rw [← Finset.card_insert_of_notMem (a := i) (by simp [hi])]
  congr 1
  ext j
  by_cases hj : j = i
  · subst hj
    simp [hp]
  · simp [hj]

theorem card_counted_down (hp : p.counted = false) (hi : (phase i).counted = true) :
    (Finset.univ.filter (fun j => (Function.update phase i p j).counted = true)).card =
      (Finset.univ.filter (fun j => (phase j).counted = true)).card - 1 := by
  rw [← Finset.card_erase_of_mem (a := i) (by simp [hi])]
  congr 1
  ext j
  by_cases hj : j = i
  · subst hj
    simp [hp]
  · simp [hj]

/-- The counter follows the moves. -/
theorem Move.card_counted {free requested released : Bool} {gen : Nat} {δ : Count}
    (h : Move free requested released gen (phase i) p δ) :
    (Finset.univ.filter (fun j => (Function.update phase i p j).counted = true)).card =
      δ.apply (Finset.univ.filter (fun j => (phase j).counted = true)).card := by
  generalize hq : phase i = q at h
  cases h with
  | stay => exact card_counted_same (by rw [hq])
  | notice | forget | capture | see => exact card_counted_same (by rw [hq]; rfl)
  | drop g _ _ hp =>
    refine card_counted_same ?_
    rw [hq]
    rcases hp with rfl | rfl <;> rfl
  | enter => exact card_counted_up rfl (by rw [hq]; rfl)
  | leave g _ hp =>
    refine card_counted_down ?_ (by rw [hq]; rfl)
    rcases hp with rfl | rfl <;> rfl

end Counter

omit [DecidableEq ι] in
/-- A move within a cycle stays within it. -/
theorem Move.within {free requested : Bool} {gen : Nat} {S : Finset ι} {i : ι} {q p : Phase}
    {δ : Count} (h : Move free requested false gen q p δ) (hfree : free = true → i ∈ S)
    (hq : q.Within S gen i) : p.Within S gen i := by
  cases h with
  | stay | enter => exact hq
  | notice hf => exact hfree hf
  | forget => trivial
  | capture => exact ⟨rfl, hq⟩
  | drop g _ _ hp =>
    rcases hp with rfl | rfl
    · trivial
    · exact hq.2
  | see _ hrel => cases hrel
  | leave => exact hq.elim

namespace Barrier

variable [Fintype ι] {F : Finset ι} {b b' : Barrier ι}

/-- A change of one phase within the cycle keeps the invariant if the counter follows it. -/
theorem Inv.update (hI : b.Inv F) {i : ι} {p : Phase} {δ : Count}
    (hcard : (Finset.univ.filter (fun j => (Function.update b.phase i p j).counted = true)).card =
      δ.apply (Finset.univ.filter (fun j => (b.phase j).counted = true)).card)
    (hin : ∀ S, b.cycle = some S → p.Within S b.gen i) : (b.move i p δ).Inv F := by
  refine ⟨?_, fun S hS => ?_⟩
  · show δ.apply b.parked = _
    rw [hI.parked]
    exact hcard.symm
  · obtain ⟨hrel, hF, hphase⟩ := hI.within S hS
    refine ⟨hrel, hF, fun j => ?_⟩
    by_cases hj : j = i
    · subst hj
      rw [Barrier.move_phase_self]
      exact hin S hS
    · rw [Barrier.move_phase_ne b hj]
      exact hphase j

/-- **Every step keeps the invariant.** -/
theorem Inv.step (hI : b.Inv F) (h : Barrier.Step F b b') : b'.Inv F := by
  cases h with
  | move i p δ hmove =>
    refine hI.update hmove.card_counted (fun S hS => ?_)
    obtain ⟨hrel, hF, hphase⟩ := hI.within S hS
    rw [hrel] at hmove
    exact hmove.within (fun hi => hF (of_decide_eq_true hi)) (hphase i)
  | wake i hS hp => exact hI.update (card_counted_same (by rw [hp]; rfl)) hS
  | clearReleased =>
    refine ⟨hI.parked, fun S hS => ?_⟩
    exact ⟨rfl, (hI.within S hS).2⟩
  | request S hF hrel hout =>
    refine ⟨hI.parked, fun S' hS' => ?_⟩
    cases hS'
    refine ⟨hrel, hF, fun i => ?_⟩
    show (b.phase i).Within S (b.gen + 1) i
    rw [hout i]
    trivial
  | clearRequested => exact ⟨hI.parked, fun S hS => by cases hS⟩
  | setReleased hnone =>
    refine ⟨hI.parked, fun S hS => ?_⟩
    have hS' : b.cycle = some S := hS
    rw [hnone] at hS'
    cases hS'

omit [DecidableEq ι] in
/-- In a cycle, who is counted is waiting with the number of this request. -/
theorem Inv.counted_waiting (hI : b.Inv F) {S : Finset ι} (hS : b.cycle = some S) {i : ι}
    (hi : (b.phase i).counted = true) : b.phase i = .waiting b.gen ∧ i ∈ S := by
  have hphase := (hI.within S hS).2.2 i
  cases hp : b.phase i with
  | waiting g =>
    rw [hp] at hphase
    exact ⟨by rw [hphase.1], hphase.2⟩
  | leaving g => rw [hp] at hphase; exact hphase.elim
  | out | called | ready g => rw [hp] at hi; cases hi

omit [DecidableEq ι] in
/-- **All counted is all waiting.** -/
theorem Inv.all_waiting (hI : b.Inv F) {S : Finset ι} (hS : b.cycle = some S)
    (hn : S.card ≤ b.parked) : ∀ i ∈ S, b.phase i = .waiting b.gen := by
  have hsub : Finset.univ.filter (fun i => (b.phase i).counted = true) ⊆ S := by
    intro i hi
    exact (hI.counted_waiting hS (Finset.mem_filter.mp hi).2).2
  have heq := Finset.eq_of_subset_of_card_le hsub (by rw [← hI.parked]; exact hn)
  intro i hi
  rw [← heq] at hi
  exact (hI.counted_waiting hS (Finset.mem_filter.mp hi).2).1

/-- Once all participants of a cycle are waiting, they stay so as long as the cycle lasts. -/
theorem Inv.waiting_step (hI : b.Inv F) {S : Finset ι} (hS : b.cycle = some S)
    (h : Barrier.Step F b b') (hS' : b'.cycle = some S) (hgen : b'.gen = b.gen)
    (hw : ∀ i ∈ S, b.phase i = .waiting b.gen) : ∀ i ∈ S, b'.phase i = .waiting b'.gen := by
  intro j hj
  rw [hgen]
  have hrel := (hI.within S hS).1
  cases h with
  | move i p δ hmove =>
    by_cases hij : j = i
    · subst hij
      rw [hw j hj, hrel] at hmove
      rw [Barrier.move_phase_self, hmove.of_waiting.1]
    · rw [Barrier.move_phase_ne b hij]
      exact hw j hj
  | wake i _ hp =>
    by_cases hij : j = i
    · subst hij
      rw [hw j hj] at hp
      cases hp
    · rw [Barrier.move_phase_ne b hij]
      exact hw j hj
  | clearReleased | setReleased => exact hw j hj
  | request => exact absurd hgen (Nat.succ_ne_self _)
  | clearRequested => cases hS'

end Barrier

end MicroMachines.Lib
