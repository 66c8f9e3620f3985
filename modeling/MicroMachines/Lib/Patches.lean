import Mathlib.Tactic

set_option autoImplicit false

/-! # Overwriting parts of a list

A store of fixed length that is only ever overwritten, a range at a time.

* `patch l offset data`: the list with the elements from `offset` on replaced by `data`. Ranges that
  follow each other make one (`patch_append`).
* `lastWritten init ws p`: what the last of the writes `ws` to position `p` has left there, or what
  was there at the beginning. A store that is patched holds it everywhere
  (`getElem?_patch_lastWritten`).
-/

namespace MicroMachines.Lib

variable {α : Type}

/-- Replace the elements from an offset on. -/
def patch (l : List α) (offset : Nat) (data : List α) : List α :=
  l.take offset ++ data ++ l.drop (offset + data.length)

variable {l a b data : List α} {offset : Nat}

theorem patch_nil (l : List α) (offset : Nat) : patch l offset [] = l := by
  rw [patch, List.append_nil, List.length_nil, Nat.add_zero, List.take_append_drop]

theorem length_patch (h : offset + data.length ≤ l.length) :
    (patch l offset data).length = l.length := by
  simp only [patch, List.length_append, List.length_take, List.length_drop]
  omega

/-- Inside the range there is the new element, outside the old one. -/
theorem getElem?_patch (h : offset + data.length ≤ l.length) (p : Nat) : (patch l offset data)[p]? =
      if offset ≤ p ∧ p < offset + data.length then data[p - offset]? else l[p]? := by
  have htake : (l.take offset).length = offset := List.length_take_of_le (by omega)
  have hfront : (l.take offset ++ data).length = offset + data.length := by
    rw [List.length_append, htake]
  rw [patch]
  by_cases hlow : p < offset
  · rw [if_neg (by omega), List.getElem?_append_left (by omega),
      List.getElem?_append_left (by omega), List.getElem?_take_of_lt hlow]
  · by_cases hin : p < offset + data.length
    · rw [if_pos ⟨by omega, hin⟩, List.getElem?_append_left (by omega),
        List.getElem?_append_right (by omega), htake]
    · rw [if_neg (by omega), List.getElem?_append_right (by omega), hfront, List.getElem?_drop]
      congr 1
      omega

/-- One range after the other. -/
theorem patch_append (h : offset + (a ++ b).length ≤ l.length) :
    patch (patch l offset a) (offset + a.length) b = patch l offset (a ++ b) := by
  rw [List.length_append] at h
  have hlen : (patch l offset a).length = l.length := length_patch (by omega)
  refine List.ext_getElem? (fun p => ?_)
  rw [getElem?_patch (by omega), getElem?_patch (by omega),
    getElem?_patch (by rw [List.length_append]; omega), List.length_append]
  by_cases hlow : offset ≤ p ∧ p < offset + a.length
  · rw [if_neg (by omega), if_pos hlow, if_pos (by omega), List.getElem?_append_left (by omega)]
  · by_cases hhigh : offset + a.length ≤ p ∧ p < offset + a.length + b.length
    · rw [if_pos hhigh, if_pos (by omega), List.getElem?_append_right (by omega)]
      congr 1
      omega
    · rw [if_neg hhigh, if_neg hlow, if_neg (by omega)]

/-- A range, position by position. -/
theorem map_some_range {n : Nat} (h : offset + n ≤ l.length) :
    ((l.drop offset).take n).map some = (List.range n).map (fun i => l[offset + i]?) := by
  refine List.ext_getElem (by simp; omega) (fun i hi _ => ?_)
  have hi' : i < n := by simp at hi; omega
  simp only [List.getElem_map, List.getElem_take, List.getElem_drop, List.getElem_range]
  rw [List.getElem?_eq_getElem]

/-! ## Histories -/

/-- New elements for a range. -/
structure Write (α : Type) where
  offset : Nat
  data : List α

/-- The write changes this position. -/
def Write.covers (w : Write α) (p : Nat) : Bool :=
  decide (w.offset ≤ p ∧ p < w.offset + w.data.length)

/-- What the last write to a position has left there. -/
def lastWritten (init : List α) (ws : List (Write α)) (p : Nat) : Option α :=
  match ws.reverse.find? (·.covers p) with
  | some w => w.data[p - w.offset]?
  | none => init[p]?

theorem lastWritten_snoc (init : List α) (ws : List (Write α)) (w : Write α) (p : Nat) :
    lastWritten init (ws ++ [w]) p =
      if w.covers p then w.data[p - w.offset]? else lastWritten init ws p := by
  unfold lastWritten
  rw [List.reverse_append, List.reverse_singleton, List.singleton_append, List.find?_cons]
  cases w.covers p <;> rfl

/-- The store holds what was written last. -/
theorem getElem?_patch_lastWritten {init : List α} {ws : List (Write α)}
    (hl : ∀ p, l[p]? = lastWritten init ws p) (h : offset + data.length ≤ l.length) (p : Nat) :
    (patch l offset data)[p]? = lastWritten init (ws ++ [⟨offset, data⟩]) p := by
  rw [getElem?_patch h, lastWritten_snoc, hl]
  simp only [Write.covers, decide_eq_true_eq]

end MicroMachines.Lib
