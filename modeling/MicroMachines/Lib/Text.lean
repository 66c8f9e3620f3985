import Mathlib.Tactic

set_option autoImplicit false

/-! # Words and bytes of a text

A text is read in three ways: as words between separators, as a name and a value around the first
occurrence of a character, and as the bytes of its UTF-8 encoding.

* `words`: the maximal runs without a separator. A separator between two texts separates their
  words (`words_append_cons`), and a run without separators is one word (`words_eq_singleton`).
* `splitOnce`: what is before and behind the first occurrence of an element.
* `utf8`, `fromUtf8`: the bytes of a text and back. A byte 0 comes from a NUL character only
  (`zero_mem_utf8`), so that joining with NUL and splitting at 0 are inverse (`splitOn_utf8`).
-/

namespace MicroMachines.Lib

/-! ## Words -/

section Words

variable {α : Type}

/-- The maximal runs without a separator. -/
def words (sep : α → Bool) (l : List α) : List (List α) :=
  (l.splitOnP sep).filter (fun w => !w.isEmpty)

/-- A run that is a word: not empty, and without a separator. -/
def IsWord (sep : α → Bool) (w : List α) : Prop := w ≠ [] ∧ ∀ x ∈ w, sep x = false

variable {sep : α → Bool}

theorem words_append_cons {s : α} (hs : sep s = true) (a b : List α) :
    words sep (a ++ s :: b) = words sep a ++ words sep b := by
  rw [words, List.splitOnP_append_cons a b hs, List.filter_append]
  rfl

theorem words_eq_singleton {w : List α} (hw : IsWord sep w) : words sep w = [w] := by
  have hne : w.isEmpty = false := by simp [hw.1]
  rw [words, List.splitOnP_eq_singleton hw.2]
  simp [hne]

theorem isWord_append {a b : List α} (ha : IsWord sep a) (hb : ∀ x ∈ b, sep x = false) :
    IsWord sep (a ++ b) := by
  constructor
  · simp [ha.1]
  · intro x hx
    rcases List.mem_append.mp hx with hx | hx
    · exact ha.2 x hx
    · exact hb x hx

/-- Words that are appended one after the other, each behind a separator. -/
theorem words_append_flatMap {s : α} (hs : sep s = true) (a : List α) (ws : List (List α))
    (hws : ∀ w ∈ ws, IsWord sep w) :
    words sep (a ++ ws.flatMap (fun w => s :: w)) = words sep a ++ ws := by
  induction ws generalizing a with
  | nil => simp
  | cons w ws ih =>
    have hrest := ih w (fun w' hw' => hws w' (List.mem_cons_of_mem w hw'))
    calc words sep (a ++ (w :: ws).flatMap (fun w => s :: w))
        = words sep (a ++ s :: (w ++ ws.flatMap (fun w => s :: w))) := by
          rw [List.flatMap_cons, List.cons_append]
      _ = words sep a ++ (words sep w ++ ws) := by rw [words_append_cons hs, hrest]
      _ = words sep a ++ w :: ws := by rw [words_eq_singleton (hws w List.mem_cons_self)]; rfl

end Words

/-! ## The first occurrence -/

section SplitOnce

variable {α : Type} [DecidableEq α]

/-- What is before and behind the first `x`. -/
def splitOnce (x : α) : List α → Option (List α × List α)
  | [] => none
  | y :: ys => if y = x then some ([], ys) else (splitOnce x ys).map (fun p => (y :: p.1, p.2))

theorem splitOnce_append_cons {x : α} {a : List α} (ha : x ∉ a) (b : List α) :
    splitOnce x (a ++ x :: b) = some (a, b) := by
  induction a with
  | nil => simp [splitOnce]
  | cons y ys ih =>
    have hy : y ≠ x := fun h => ha (by simp [h])
    have hys : x ∉ ys := fun h => ha (List.mem_cons_of_mem y h)
    simp [splitOnce, hy, ih hys]

end SplitOnce

/-! ## UTF-8 -/

/-- The bytes of a text. -/
def utf8 (s : String) : List UInt8 := s.toUTF8.data.toList

/-- The text with these bytes, if they are valid. -/
def fromUtf8 (bs : List UInt8) : Option String := String.fromUTF8? bs.toByteArray

theorem fromUtf8_utf8 (s : String) : fromUtf8 (utf8 s) = some s := by
  have hbytes : (utf8 s).toByteArray = s.toByteArray := by
    apply ByteArray.ext
    rw [List.data_toByteArray, utf8, String.toUTF8_eq_toByteArray, Array.toArray_toList]
  rw [fromUtf8, hbytes, String.fromUTF8?, dif_pos s.isValidUTF8]
  rfl

/-- The bytes of a text are those of its characters. -/
theorem utf8_eq_flatMap (s : String) : utf8 s = s.toList.flatMap String.utf8EncodeChar := by
  have hlist : s = String.ofList s.toList := String.ofList_toList.symm
  have hbytes : s.toByteArray = s.toList.utf8Encode := by
    conv_lhs => rw [hlist]
    exact String.toByteArray_ofList
  rw [utf8, String.toUTF8_eq_toByteArray, hbytes, List.utf8Encode, List.data_toByteArray]

/-- An ASCII character is its own byte. -/
theorem utf8EncodeChar_ascii {c : Char} (h : c.toNat ≤ 127) :
    String.utf8EncodeChar c = [UInt8.ofNat c.toNat] := by
  rw [String.utf8EncodeChar]
  exact if_pos h

/-- Only the NUL character has a zero byte. -/
theorem zero_mem_utf8EncodeChar (c : Char) : (0 : UInt8) ∈ String.utf8EncodeChar c ↔ c = '\x00' := by
  have hnz : ∀ n : Nat, 0 < n → n < 256 → (0 : UInt8) ≠ UInt8.ofNat n := by
    intro n hpos hlt h
    have h' := congrArg UInt8.toNat h
    simp at h'
    omega
  constructor
  · intro h
    rw [String.utf8EncodeChar] at h
    -- A byte of a longer encoding is at least 128.
    by_cases hc : c.val.toNat = 0
    · exact Char.ext (UInt32.toNat_inj.mp hc)
    · exfalso
      split_ifs at h with h1 h2 h3
      · simp only [List.mem_singleton] at h
        exact hnz _ (by omega) (by omega) h
      · simp only [List.mem_cons, List.not_mem_nil, or_false] at h
        rcases h with h | h <;> exact hnz _ (by omega) (by omega) h
      · simp only [List.mem_cons, List.not_mem_nil, or_false] at h
        rcases h with h | h | h <;> exact hnz _ (by omega) (by omega) h
      · simp only [List.mem_cons, List.not_mem_nil, or_false] at h
        rcases h with h | h | h | h <;> exact hnz _ (by omega) (by omega) h
  · rintro rfl
    decide

theorem zero_mem_utf8 (s : String) : (0 : UInt8) ∈ utf8 s ↔ '\x00' ∈ s.toList := by
  simp [utf8_eq_flatMap, List.mem_flatMap, zero_mem_utf8EncodeChar]

theorem utf8_eq_nil (s : String) : utf8 s = [] ↔ s = "" := by
  constructor
  · intro h
    have hs := fromUtf8_utf8 s
    rw [h] at hs
    exact Option.some.inj (hs.symm.trans (fromUtf8_utf8 ""))
  · rintro rfl
    rfl

theorem flatMap_intercalate {α β : Type} (f : α → List β) (sep : List α) (ls : List (List α)) :
    (sep.intercalate ls).flatMap f = (sep.flatMap f).intercalate (ls.map (List.flatMap f)) := by
  induction ls with
  | nil => rfl
  | cons l ls ih =>
    cases ls with
    | nil => simp
    | cons l' ls =>
      rw [List.intercalate_cons_cons, List.flatMap_append, List.flatMap_append, ih]
      simp only [List.map_cons, List.intercalate_cons_cons]

/-- Texts that are joined with NUL characters are the pieces between the zero bytes. -/
theorem splitOn_utf8 {texts : List String} (hne : texts ≠ [])
    (hnul : ∀ s ∈ texts, '\x00' ∉ s.toList) :
    (utf8 (String.intercalate "\x00" texts)).splitOn 0 = texts.map utf8 := by
  have hmap : (texts.map String.toList).map (List.flatMap String.utf8EncodeChar) =
      texts.map utf8 := by
    rw [List.map_map]
    exact List.map_congr_left (fun s _ => (utf8_eq_flatMap s).symm)
  have hjoin : utf8 (String.intercalate "\x00" texts) = [0].intercalate (texts.map utf8) := by
    rw [utf8_eq_flatMap, String.toList_intercalate, flatMap_intercalate, hmap]
    rfl
  rw [hjoin]
  apply List.splitOn_intercalate
  · intro bs hbs
    obtain ⟨s, hs, rfl⟩ := List.mem_map.mp hbs
    rw [zero_mem_utf8]
    exact hnul s hs
  · simpa using hne

end MicroMachines.Lib
