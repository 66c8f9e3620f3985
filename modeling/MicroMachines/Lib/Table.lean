import Mathlib.Data.List.Nodup
import Mathlib.Data.List.Perm.Basic

set_option autoImplicit false

/-! # Tables

A table is a list of rows, and a row is found by its key (`lookup`). What `lookup` gives after the
usual changes of a table: all rows changed (`lookup_map`), a row added (`lookup_concat`), rows removed
(`lookup_filter`), a row replaced (`lookup_replace`).

A condition that is not the key of the table may select several rows. Where it selects at most one
(`Single`), a query by it reads that row, and an update or a deletion by it is one of that row
(`OneRow`).
-/

namespace MicroMachines.Lib.Table

universe u v

variable {α : Type u} {κ : Type v} [DecidableEq κ] (key : α → κ)

/-- The first row with a key. -/
def lookup (xs : List α) (k : κ) : Option α := xs.find? (fun x => key x = k)

variable {key}

variable {xs : List α} {x : α}

theorem lookup_eq_none {k : κ} : lookup key xs k = none ↔ ∀ x ∈ xs, key x ≠ k := by
  simp [lookup]

theorem mem_of_lookup {k : κ} (h : lookup key xs k = some x) : x ∈ xs ∧ key x = k := by
  refine ⟨List.mem_of_find?_eq_some h, ?_⟩
  simpa using List.find?_some h

/-- With unique keys, a row is found under its key. -/
theorem lookup_of_mem (hkeys : (xs.map key).Nodup) (h : x ∈ xs) :
    lookup key xs (key x) = some x := by
  cases hlookup : lookup key xs (key x) with
  | none => exact absurd rfl (lookup_eq_none.mp hlookup x h)
  | some y =>
    obtain ⟨hy, hkey⟩ := mem_of_lookup hlookup
    rw [List.inj_on_of_nodup_map hkeys hy h hkey]

theorem lookup_map {g : α → α} (hg : ∀ x, key (g x) = key x) (xs : List α) (k : κ) :
    lookup key (xs.map g) k = (lookup key xs k).map g := by
  unfold lookup
  rw [List.find?_map]
  have hcomp : ((fun x => decide (key x = k)) ∘ g) = fun x => decide (key x = k) := by
    funext x
    simp [hg]
  rw [hcomp]

omit [DecidableEq κ] in
theorem keys_map {g : α → α} (hg : ∀ x, key (g x) = key x) (xs : List α) :
    (xs.map g).map key = xs.map key := by
  rw [List.map_map]
  exact congrArg (fun f => xs.map f) (funext hg)

theorem lookup_concat (hfresh : lookup key xs (key x) = none) (k : κ) :
    lookup key (xs ++ [x]) k = if k = key x then some x else lookup key xs k := by
  have happ : lookup key (xs ++ [x]) k = (lookup key xs k).or (lookup key [x] k) :=
    List.find?_append ..
  rw [happ]
  by_cases hk : k = key x
  · subst hk
    rw [hfresh, if_pos rfl]
    simp [lookup]
  · have hne : ¬ key x = k := fun h => hk h.symm
    rw [if_neg hk]
    simp [lookup, hne]

theorem keys_concat (hfresh : lookup key xs (key x) = none)
    (hkeys : (xs.map key).Nodup) : ((xs ++ [x]).map key).Nodup := by
  rw [List.map_append, List.map_singleton, List.nodup_append]
  refine ⟨hkeys, List.nodup_singleton _, ?_⟩
  intro k hk k' hk' heq
  obtain ⟨y, hy, rfl⟩ := List.mem_map.mp hk
  rw [List.mem_singleton.mp hk'] at heq
  exact lookup_eq_none.mp hfresh y hy heq

/-- With unique keys, a row is found if it is not one of those removed. -/
theorem lookup_filter (hkeys : (xs.map key).Nodup) (p : α → Bool) (k : κ) :
    lookup key (xs.filter p) k = (lookup key xs k).filter p := by
  have hsub : ((xs.filter p).map key).Nodup := hkeys.sublist (List.filter_sublist.map _)
  cases hlookup : lookup key xs k with
  | none =>
    rw [Option.filter_none, lookup_eq_none]
    intro x hx
    exact lookup_eq_none.mp hlookup x (List.mem_of_mem_filter hx)
  | some x =>
    obtain ⟨hx, rfl⟩ := mem_of_lookup hlookup
    cases hp : p x with
    | true =>
      rw [Option.filter_some, hp, if_pos rfl]
      exact lookup_of_mem hsub (List.mem_filter.mpr ⟨hx, hp⟩)
    | false =>
      rw [Option.filter_some, hp, if_neg Bool.false_ne_true, lookup_eq_none]
      intro y hy hyx
      obtain ⟨hymem, hpy⟩ := List.mem_filter.mp hy
      rw [List.inj_on_of_nodup_map hkeys hymem hx hyx, hp] at hpy
      exact Bool.false_ne_true hpy

/-- All rows with a key removed. -/
theorem lookup_erase (xs : List α) (k k' : κ) :
    lookup key (xs.filter (fun x => key x ≠ k)) k' = if k' = k then none else lookup key xs k' := by
  by_cases hk : k' = k
  · subst hk
    rw [if_pos rfl, lookup_eq_none]
    intro x hx
    simpa using (List.mem_filter.mp hx).2
  · rw [if_neg hk]
    unfold lookup
    rw [List.find?_filter]
    congr 1
    funext x
    by_cases hx : key x = k'
    · simp [hx, hk]
    · simp [hx]

/-- With unique keys, removing a row leaves all others. -/
theorem perm_erase (hkeys : (xs.map key).Nodup) (h : x ∈ xs) :
    xs.Perm (x :: xs.filter (fun y => key y ≠ key x)) := by
  obtain ⟨before, after, rfl⟩ := List.append_of_mem h
  have hperm : (before ++ x :: after).Perm (x :: (before ++ after)) := List.perm_middle
  have hnodup := (hperm.map key).nodup_iff.mp hkeys
  rw [List.map_cons, List.nodup_cons] at hnodup
  have hrest : (before ++ after).filter (fun y => key y ≠ key x) = before ++ after := by
    apply List.filter_eq_self.mpr
    intro y hy
    exact decide_eq_true (fun heq => hnodup.1 (heq ▸ List.mem_map_of_mem hy))
  have hfilter : (before ++ x :: after).filter (fun y => key y ≠ key x) = before ++ after := by
    rw [List.filter_append, List.filter_cons_of_neg (by simp), ← List.filter_append, hrest]
  rw [hfilter]
  exact hperm

/-- A row replaced, or added. -/
theorem lookup_replace (xs : List α) (x : α) (k : κ) :
    lookup key (xs.filter (fun y => key y ≠ key x) ++ [x]) k =
      if k = key x then some x else lookup key xs k := by
  have hfresh : lookup key (xs.filter (fun y => key y ≠ key x)) (key x) = none := by
    rw [lookup_erase, if_pos rfl]
  rw [lookup_concat hfresh, lookup_erase]
  by_cases hk : k = key x
  · rw [if_pos hk, if_pos hk]
  · rw [if_neg hk, if_neg hk, if_neg hk]

/-! ## Conditions that select one row -/

section Single

variable {p : α → Bool} {xs : List α}

/-- At most one row satisfies the condition. -/
def Single (p : α → Bool) (xs : List α) : Prop := xs.countP p ≤ 1

theorem single_nil : Single p [] := Nat.zero_le 1

theorem Single.filter (h : Single p xs) (q : α → Bool) : Single p (xs.filter q) :=
  Nat.le_trans List.filter_sublist.countP_le h

theorem Single.map (h : Single p xs) {g : α → α} (hg : ∀ x, p (g x) = p x) : Single p (xs.map g) := by
  have hcount : (xs.map g).countP p = xs.countP p := by
    rw [List.countP_map]
    exact List.countP_congr (fun x _ => by simp [hg])
  exact Nat.le_trans (Nat.le_of_eq hcount) h

variable {x : α}

theorem Single.concat (h : Single p xs) (hx : p x = true → ∀ y ∈ xs, p y = false) :
    Single p (xs ++ [x]) := by
  unfold Single
  rw [List.countP_append]
  by_cases hp : p x = true
  · have hzero : xs.countP p = 0 := List.countP_eq_zero.mpr (fun y hy => by simp [hx hp y hy])
    simp [hzero, hp]
  · simpa [hp, Single] using h

/-- The row that satisfies the condition stands alone. -/
theorem Single.split (h : Single p xs) (hmem : x ∈ xs) (hp : p x = true) :
    ∃ before after, xs = before ++ x :: after ∧
      (∀ y ∈ before, p y = false) ∧ ∀ y ∈ after, p y = false := by
  obtain ⟨before, after, rfl⟩ := List.append_of_mem hmem
  have hcount : before.countP p = 0 ∧ after.countP p = 0 := by
    unfold Single at h
    rw [List.countP_append, List.countP_cons, if_pos hp] at h
    omega
  refine ⟨before, after, rfl, fun y hy => ?_, fun y hy => ?_⟩
  · simpa using List.countP_eq_zero.mp hcount.1 y hy
  · simpa using List.countP_eq_zero.mp hcount.2 y hy

/-- A query by the condition reads the row that satisfies it. -/
theorem Single.find (h : Single p xs) (x : α) : xs.find? p = some x ↔ x ∈ xs ∧ p x = true := by
  constructor
  · intro hfind
    exact ⟨List.mem_of_find?_eq_some hfind, List.find?_some hfind⟩
  · rintro ⟨hmem, hp⟩
    obtain ⟨before, after, rfl, hbefore, -⟩ := h.split hmem hp
    have hnone : before.find? p = none := List.find?_eq_none.mpr (fun y hy => by simp [hbefore y hy])
    rw [List.find?_append, hnone, List.find?_cons, hp]
    rfl

theorem Single.countP (h : Single p xs) : xs.countP p = if (xs.find? p).isSome then 1 else 0 := by
  cases hfind : xs.find? p with
  | none =>
    rw [List.countP_eq_zero.mpr]
    · rfl
    · exact List.find?_eq_none.mp hfind
  | some x =>
    have hpos : 0 < xs.countP p :=
      List.countP_pos_iff.mpr ⟨x, List.mem_of_find?_eq_some hfind, List.find?_some hfind⟩
    exact Nat.le_antisymm h hpos

/-- At most one row was changed or removed, and it satisfied the condition. -/
def OneRow (p : α → Bool) (xs ys : List α) : Prop :=
  ys = xs ∨ ∃ before x after, xs = before ++ x :: after ∧ p x = true ∧
    (ys = before ++ after ∨ ∃ x', ys = before ++ x' :: after)

theorem filter_of_split {before after : List α} (hp : p x = true)
    (hbefore : ∀ y ∈ before, p y = false) (hafter : ∀ y ∈ after, p y = false) :
    (before ++ x :: after).filter (fun y => !p y) = before ++ after := by
  have hkeep : ∀ l : List α, (∀ y ∈ l, p y = false) → l.filter (fun y => !p y) = l :=
    fun l hl => List.filter_eq_self.mpr (fun y hy => by simp [hl y hy])
  rw [List.filter_append, List.filter_cons_of_neg (by simp [hp]), hkeep _ hbefore, hkeep _ hafter]

/-- A deletion by the condition removes the row that satisfies it. -/
theorem Single.delete (h : Single p xs) (hmem : x ∈ xs) (hp : p x = true) :
    ∃ before after, xs = before ++ x :: after ∧ xs.filter (fun y => !p y) = before ++ after := by
  obtain ⟨before, after, rfl, hbefore, hafter⟩ := h.split hmem hp
  exact ⟨before, after, rfl, filter_of_split hp hbefore hafter⟩

theorem Single.oneRow_delete (h : Single p xs) : OneRow p xs (xs.filter (fun y => !p y)) := by
  by_cases hany : ∃ x ∈ xs, p x = true
  · obtain ⟨x, hmem, hp⟩ := hany
    obtain ⟨before, after, hxs, hdel⟩ := h.delete hmem hp
    exact Or.inr ⟨before, x, after, hxs, hp, Or.inl hdel⟩
  · refine Or.inl (List.filter_eq_self.mpr (fun y hy => ?_))
    have hy' : p y ≠ true := fun hp => hany ⟨y, hy, hp⟩
    simpa using hy'

theorem Single.oneRow_update (h : Single p xs) (g : α → α) :
    OneRow p xs (xs.map (fun y => if p y then g y else y)) := by
  have hkeep : ∀ l : List α, (∀ y ∈ l, p y = false) →
      l.map (fun y => if p y then g y else y) = l := by
    intro l hl
    rw [List.map_congr_left (g := id) (fun y hy => by simp [hl y hy]), List.map_id]
  by_cases hany : ∃ x ∈ xs, p x = true
  · obtain ⟨x, hmem, hp⟩ := hany
    obtain ⟨before, after, rfl, hbefore, hafter⟩ := h.split hmem hp
    refine Or.inr ⟨before, x, after, rfl, hp, Or.inr ⟨g x, ?_⟩⟩
    rw [List.map_append, List.map_cons, hkeep _ hbefore, hkeep _ hafter, if_pos hp]
  · refine Or.inl (hkeep xs (fun y hy => ?_))
    have hy' : p y ≠ true := fun hp => hany ⟨y, hy, hp⟩
    simpa using hy'

end Single

end MicroMachines.Lib.Table
