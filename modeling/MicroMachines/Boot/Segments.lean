import Mathlib.Tactic

set_option autoImplicit false

/-! # Segment descriptors

`gdt_entry` of `crates/mm-vmm/src/vcpu.rs` packs the flags, the base and the limit of a segment into the
sixty-four bits of a descriptor, where base and limit are in two pieces each and the high piece of the limit
lies between the two pieces of the flags. `kvm_segment_from_gdt` takes them out again.

`getLsbD_gdtEntry` says for each bit of a descriptor which bit of which argument it is. So the fields do not
overlap, and every field that is taken out is the one that was put in.
-/

namespace MicroMachines.Boot

def gdtEntry (flags : BitVec 16) (base limit : BitVec 32) : BitVec 64 :=
  ((base.setWidth 64 &&& 0xff000000#64) <<< (56 - 24)) |||
    ((flags.setWidth 64 &&& 0x0000f0ff#64) <<< 40) |||
    ((limit.setWidth 64 &&& 0x000f0000#64) <<< (48 - 16)) |||
    ((base.setWidth 64 &&& 0x00ffffff#64) <<< 16) |||
    (limit.setWidth 64 &&& 0x0000ffff#64)

structure KvmSegment where
  base : BitVec 64
  limit : BitVec 32
  selector : BitVec 16
  type : BitVec 8
  present : BitVec 8
  dpl : BitVec 8
  db : BitVec 8
  s : BitVec 8
  l : BitVec 8
  g : BitVec 8
  avl : BitVec 8
  unusable : BitVec 8
  padding : BitVec 8
  deriving DecidableEq, Repr

def kvmSegmentFromGdt (entry : BitVec 64) (tableIndex : BitVec 8) : KvmSegment :=
  let present := ((entry >>> 47) &&& 1#64).setWidth 8
  { base := ((entry >>> 16) &&& 0x00ffffff#64) ||| ((entry >>> 32) &&& 0xff000000#64)
    limit := (((entry &&& 0x000f000000000000#64) >>> 32) ||| (entry &&& 0xffff#64)).setWidth 32
    selector := tableIndex.setWidth 16 * 8
    type := ((entry >>> 40) &&& 0xf#64).setWidth 8
    present := present
    dpl := ((entry >>> 45) &&& 0x3#64).setWidth 8
    db := ((entry >>> 54) &&& 1#64).setWidth 8
    s := ((entry >>> 44) &&& 1#64).setWidth 8
    l := ((entry >>> 53) &&& 1#64).setWidth 8
    g := ((entry >>> 55) &&& 1#64).setWidth 8
    avl := ((entry >>> 52) &&& 1#64).setWidth 8
    unusable := if present = 0 then 1 else 0
    padding := 0 }

/-! ## Bit by bit -/

/-- The mask of the `n` bits from `i` on. -/
def mask (i n : Nat) : BitVec 64 := (BitVec.allOnes n).setWidth 64 <<< i

theorem getLsbD_mask (i n j : Nat) :
    (mask i n).getLsbD j = (decide (i ≤ j) && decide (j < i + n) && decide (j < 64)) := by
  simp only [mask, BitVec.getLsbD_shiftLeft, BitVec.getLsbD_setWidth, BitVec.getLsbD_allOnes]
  grind

/-- **Where the bits of a descriptor come from.** -/
theorem getLsbD_gdtEntry (flags : BitVec 16) (base limit : BitVec 32) (j : Nat) :
    (gdtEntry flags base limit).getLsbD j =
      if j < 16 then limit.getLsbD j
      else if j < 40 then base.getLsbD (j - 16)
      else if j < 48 then flags.getLsbD (j - 40)
      else if j < 52 then limit.getLsbD (j - 32)
      else if j < 56 then flags.getLsbD (j - 40)
      else base.getLsbD (j - 32) := by
  have hbaseHigh : 0xff000000#64 = mask 24 8 := by decide
  have hflags : 0x0000f0ff#64 = mask 0 8 ||| mask 12 4 := by decide
  have hlimitHigh : 0x000f0000#64 = mask 16 4 := by decide
  have hbaseLow : 0x00ffffff#64 = mask 0 24 := by decide
  have hlimitLow : 0x0000ffff#64 = mask 0 16 := by decide
  rw [gdtEntry, hbaseHigh, hflags, hlimitHigh, hbaseLow, hlimitLow]
  simp only [BitVec.getLsbD_or, BitVec.getLsbD_shiftLeft, BitVec.getLsbD_and, BitVec.getLsbD_setWidth,
    getLsbD_mask]
  grind

section Fields

variable (flags : BitVec 16) (base limit : BitVec 32)

theorem base_gdtEntry (tableIndex : BitVec 8) :
    (kvmSegmentFromGdt (gdtEntry flags base limit) tableIndex).base = base.setWidth 64 := by
  have hlow : 0x00ffffff#64 = mask 0 24 := by decide
  have hhigh : 0xff000000#64 = mask 24 8 := by decide
  apply BitVec.eq_of_getLsbD_eq
  intro j hj
  rw [kvmSegmentFromGdt, hlow, hhigh]
  simp only [BitVec.getLsbD_or, BitVec.getLsbD_and, BitVec.getLsbD_ushiftRight, BitVec.getLsbD_setWidth,
    getLsbD_mask, getLsbD_gdtEntry]
  grind

theorem limit_gdtEntry (tableIndex : BitVec 8) :
    (kvmSegmentFromGdt (gdtEntry flags base limit) tableIndex).limit =
      (limit.extractLsb' 0 20).setWidth 32 := by
  have hhigh : 0x000f000000000000#64 = mask 48 4 := by decide
  have hlow : 0xffff#64 = mask 0 16 := by decide
  apply BitVec.eq_of_getLsbD_eq
  intro j hj
  rw [kvmSegmentFromGdt, hhigh, hlow]
  simp only [BitVec.getLsbD_or, BitVec.getLsbD_and, BitVec.getLsbD_ushiftRight, BitVec.getLsbD_setWidth,
    BitVec.getLsbD_extractLsb', getLsbD_mask, getLsbD_gdtEntry]
  grind

/-- A field of the flags, if it does not touch the four bits that are not stored. -/
theorem flags_gdtEntry (k : Nat) (m : BitVec 64) (i n : Nat) (hk : k = 40 + i) (hm : m = mask 0 n)
    (hin : i + n ≤ 8 ∨ 12 ≤ i ∧ i + n ≤ 16) :
    ((gdtEntry flags base limit >>> k) &&& m).setWidth 8 = (flags.extractLsb' i n).setWidth 8 := by
  subst hk hm
  apply BitVec.eq_of_getLsbD_eq
  intro j hj
  simp only [BitVec.getLsbD_and, BitVec.getLsbD_ushiftRight, BitVec.getLsbD_setWidth,
    BitVec.getLsbD_extractLsb', getLsbD_mask, getLsbD_gdtEntry]
  grind

/-- Four bits of the flags are not stored. -/
theorem gdtEntry_congr {flags' : BitVec 16}
    (hsame : ∀ j, j < 8 ∨ 12 ≤ j → flags'.getLsbD j = flags.getLsbD j) :
    gdtEntry flags' base limit = gdtEntry flags base limit := by
  apply BitVec.eq_of_getLsbD_eq
  intro j hj
  simp only [getLsbD_gdtEntry]
  grind

end Fields

/-- **What was encoded is decoded.** The base, the low twenty bits of the limit, and each field of the flags
at its bits. Bits 8 to 11 of the flags have no effect on any of them. -/
theorem segment_decoded (flags : BitVec 16) (base limit : BitVec 32) (tableIndex : BitVec 8) :
    let seg := kvmSegmentFromGdt (gdtEntry flags base limit) tableIndex
    seg.base = base.setWidth 64 ∧
      seg.limit = (limit.extractLsb' 0 20).setWidth 32 ∧
      seg.type = (flags.extractLsb' 0 4).setWidth 8 ∧
      seg.s = (flags.extractLsb' 4 1).setWidth 8 ∧
      seg.dpl = (flags.extractLsb' 5 2).setWidth 8 ∧
      seg.present = (flags.extractLsb' 7 1).setWidth 8 ∧
      seg.avl = (flags.extractLsb' 12 1).setWidth 8 ∧
      seg.l = (flags.extractLsb' 13 1).setWidth 8 ∧
      seg.db = (flags.extractLsb' 14 1).setWidth 8 ∧
      seg.g = (flags.extractLsb' 15 1).setWidth 8 ∧
      ∀ flags' : BitVec 16, (∀ j, j < 8 ∨ 12 ≤ j → flags'.getLsbD j = flags.getLsbD j) →
        kvmSegmentFromGdt (gdtEntry flags' base limit) tableIndex = seg := by
  refine ⟨base_gdtEntry flags base limit tableIndex, limit_gdtEntry flags base limit tableIndex,
    ?_, ?_, ?_, ?_, ?_, ?_, ?_, ?_, ?_⟩
  · exact flags_gdtEntry flags base limit 40 0xf#64 0 4 rfl (by decide) (by decide)
  · exact flags_gdtEntry flags base limit 44 1#64 4 1 rfl (by decide) (by decide)
  · exact flags_gdtEntry flags base limit 45 0x3#64 5 2 rfl (by decide) (by decide)
  · exact flags_gdtEntry flags base limit 47 1#64 7 1 rfl (by decide) (by decide)
  · exact flags_gdtEntry flags base limit 52 1#64 12 1 rfl (by decide) (by decide)
  · exact flags_gdtEntry flags base limit 53 1#64 13 1 rfl (by decide) (by decide)
  · exact flags_gdtEntry flags base limit 54 1#64 14 1 rfl (by decide) (by decide)
  · exact flags_gdtEntry flags base limit 55 1#64 15 1 rfl (by decide) (by decide)
  · intro flags' hsame
    rw [gdtEntry_congr flags base limit hsame]

/-- The code segment of the boot processor. -/
example : kvmSegmentFromGdt (gdtEntry 0xa09b 0 0xfffff) 1 =
    ⟨0, 0xfffff, 8, 0xb, 1, 0, 0, 1, 1, 1, 0, 0, 0⟩ := by decide

end MicroMachines.Boot
