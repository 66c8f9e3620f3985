import Mathlib.Tactic

set_option autoImplicit false

/-! # Bitmaps stored in 64-bit words

Bit `i` of a bitmap is bit `i % 64` of word `i / 64`; a word beyond the end counts as zero.
`setBits a b` lists the bits set in either of two bitmaps, which need not have the same
number of words, in the order in which a scan over the words finds them.
-/

namespace MicroMachines.Lib

/-- A bitmap as its words. -/
abbrev Bitmap : Type := List (BitVec 64)

namespace Bitmap

def testBit (ws : Bitmap) (i : Nat) : Bool := (ws.getD (i / 64) 0).getLsbD (i % 64)

def setBit (ws : Bitmap) (i : Nat) : Bitmap :=
  ws.modify (i / 64) (fun w => w ||| BitVec.twoPow 64 (i % 64))

/-- All bits cleared, with the same number of words. -/
def clear (ws : Bitmap) : Bitmap := ws.map (fun _ => 0)

/-- The bits set in either bitmap. -/
def setBits (a b : Bitmap) : List Nat :=
  (List.range (max a.length b.length)).flatMap (fun w =>
    let word := a.getD w 0 ||| b.getD w 0
    if word = 0 then []
    else (List.range 64).filterMap (fun bit =>
      if word &&& BitVec.twoPow 64 bit = 0 then none else some (w * 64 + bit)))

@[simp] theorem length_setBit (ws : Bitmap) (i : Nat) : (ws.setBit i).length = ws.length := by
  simp [setBit]

theorem getLsbD_twoPow (i j : Nat) (hi : i < 64) :
    (BitVec.twoPow 64 i).getLsbD j = decide (i = j) := by
  rw [BitVec.getLsbD_twoPow]
  simp [hi]

theorem testBit_setBit (ws : Bitmap) {i : Nat} (h : i / 64 < ws.length) (j : Nat) :
    (ws.setBit i).testBit j = (decide (i = j) || ws.testBit j) := by
  have hlt : i % 64 < 64 := Nat.mod_lt _ (by decide)
  unfold testBit setBit
  rw [List.getD_eq_getElem?_getD, List.getElem?_modify, List.getD_eq_getElem?_getD]
  by_cases hw : i / 64 = j / 64
  · have hj : j / 64 < ws.length := hw ▸ h
    have hij : i = j ↔ i % 64 = j % 64 := by omega
    simp only [hw, if_true, List.getElem?_eq_getElem hj, Option.map_eq_map, Option.map_some,
      Option.getD_some, BitVec.getLsbD_or, getLsbD_twoPow _ _ hlt, hij]
    exact Bool.or_comm _ _
  · have hij : i ≠ j := fun e => hw (by rw [e])
    simp [hw, hij]

theorem and_twoPow_eq_zero (w : BitVec 64) {i : Nat} (hi : i < 64) :
    w &&& BitVec.twoPow 64 i = 0 ↔ w.getLsbD i = false := by
  constructor
  · intro h
    have := congrArg (fun v => v.getLsbD i) h
    simpa [getLsbD_twoPow _ _ hi] using this
  · intro h
    apply BitVec.eq_of_getLsbD_eq
    intro j hj
    simp only [BitVec.getLsbD_and, getLsbD_twoPow _ _ hi]
    by_cases hij : i = j
    · subst hij
      simp [h]
    · simp [hij]

/-- The scan finds exactly the bits that are set in one of the two bitmaps. -/
theorem mem_setBits (a b : Bitmap) (i : Nat) :
    i ∈ setBits a b ↔ (a.testBit i || b.testBit i) = true := by
  have hor : (a.testBit i || b.testBit i)
      = (a.getD (i / 64) 0 ||| b.getD (i / 64) 0).getLsbD (i % 64) := by
    simp [testBit]
  rw [hor]
  simp only [setBits, List.mem_flatMap, List.mem_range]
  constructor
  · rintro ⟨w, -, hmem⟩
    split_ifs at hmem with hz
    · exact absurd hmem List.not_mem_nil
    · obtain ⟨bit, hbit, hsome⟩ := List.mem_filterMap.mp hmem
      rw [List.mem_range] at hbit
      split_ifs at hsome with hand
      cases hsome
      rw [and_twoPow_eq_zero _ hbit] at hand
      have hdiv : (w * 64 + bit) / 64 = w := by omega
      have hmod : (w * 64 + bit) % 64 = bit := by omega
      rw [hdiv, hmod]
      exact Bool.not_eq_false _ ▸ hand
  · intro hbit
    have hlt : i % 64 < 64 := Nat.mod_lt _ (by decide)
    have hne : a.getD (i / 64) 0 ||| b.getD (i / 64) 0 ≠ 0 := by
      intro hz
      rw [hz] at hbit
      simp at hbit
    have hword : i / 64 < max a.length b.length := by
      by_contra hge
      apply hne
      have ha : a[i / 64]? = none := List.getElem?_eq_none (by omega)
      have hb : b[i / 64]? = none := List.getElem?_eq_none (by omega)
      simp [List.getD_eq_getElem?_getD, ha, hb]
    refine ⟨i / 64, hword, ?_⟩
    rw [if_neg hne]
    refine List.mem_filterMap.mpr ⟨i % 64, List.mem_range.mpr hlt, ?_⟩
    rw [if_neg (by rw [and_twoPow_eq_zero _ hlt, hbit]; decide)]
    congr 1
    omega

end Bitmap

end MicroMachines.Lib
