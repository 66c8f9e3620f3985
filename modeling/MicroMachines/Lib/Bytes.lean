import Mathlib.Tactic

set_option autoImplicit false

/-! # Little-endian bytes

A number as `n` bytes, least significant first, and back.
-/

namespace MicroMachines.Lib

/-- The `n` low bytes of a number. -/
def leBytes : Nat → Nat → List UInt8
  | 0, _ => []
  | n + 1, v => UInt8.ofNat v :: leBytes n (v / 256)

/-- The number with the given bytes. -/
def ofLeBytes : List UInt8 → Nat
  | [] => 0
  | b :: bs => b.toNat + 256 * ofLeBytes bs

@[simp] theorem leBytes_length (n v : Nat) : (leBytes n v).length = n := by
  induction n generalizing v with
  | zero => rfl
  | succ n ih => rw [leBytes, List.length_cons, ih]

theorem ofLeBytes_leBytes (n v : Nat) : ofLeBytes (leBytes n v) = v % 256 ^ n := by
  induction n generalizing v with
  | zero => rw [pow_zero, Nat.mod_one]; rfl
  | succ n ih =>
    have hbyte : (UInt8.ofNat v).toNat = v % 256 := by simp
    rw [leBytes, ofLeBytes, ih, hbyte, pow_succ', Nat.mod_mul]

theorem leBytes_inj {n v w : Nat} (hv : v < 256 ^ n) (hw : w < 256 ^ n)
    (h : leBytes n v = leBytes n w) : v = w := by
  have h' := congrArg ofLeBytes h
  rwa [ofLeBytes_leBytes, ofLeBytes_leBytes, Nat.mod_eq_of_lt hv, Nat.mod_eq_of_lt hw] at h'

/-- A 32-bit number is determined by its four bytes. -/
theorem leBytes_uint32_inj {v w : UInt32} (h : leBytes 4 v.toNat = leBytes 4 w.toNat) : v = w :=
  UInt32.toNat_inj.mp (leBytes_inj v.toNat_lt w.toNat_lt h)

/-- A 64-bit number is determined by its eight bytes. -/
theorem leBytes_uint64_inj {v w : UInt64} (h : leBytes 8 v.toNat = leBytes 8 w.toNat) : v = w :=
  UInt64.toNat_inj.mp (leBytes_inj v.toNat_lt w.toNat_lt h)

end MicroMachines.Lib
