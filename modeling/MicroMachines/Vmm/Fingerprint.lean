import Mathlib.Data.List.Lex
import Mathlib.Data.List.Sort
import MicroMachines.Lib.Bytes
import MicroMachines.Vmm.SnapshotStore

set_option autoImplicit false

/-! # The fingerprint of a host

A snapshot is tied to the CPUID leaves of the host that took it. `cpuid_hash` of
`crates/mm-vmm/src/machine.rs` hashes what KVM reports, and `verify_host` compares the hash with that of
the host of a restore. KVM reports the leaves in no fixed order, and some of their fields tell on which CPU
or in which context it was asked; so these fields are masked and the leaves are sorted before they are hashed.

Sorting is a canonical form since the order on the words of a leaf is total: leaves that are equal in the
order are equal. So the hash depends on the leaves only up to their order and the masked fields
(`hash_stable`).
-/

namespace MicroMachines.Vmm

open MicroMachines.Lib

/-! ## The hash -/

/-- `kvm_cpuid_entry2`. -/
structure CpuidEntry where
  function : UInt32
  index : UInt32
  flags : UInt32
  eax : UInt32
  ebx : UInt32
  ecx : UInt32
  edx : UInt32
  deriving DecidableEq, Repr

/-- The words of an entry that are hashed. -/
def canonicalWords (e : CpuidEntry) : List UInt32 :=
  let (ebx, ecx, edx) :=
    if e.function = 0x1 then (e.ebx &&& 0x00ffffff, e.ecx, e.edx)
    else if e.function = 0xd then
      if e.index = 0 then (0, 0, e.edx)
      else if e.index = 1 then (0, e.ecx, e.edx)
      else (e.ebx, e.ecx, e.edx)
    else if e.function = 0xb ∨ e.function = 0x1f then (e.ebx, e.ecx, 0)
    else (e.ebx, e.ecx, e.edx)
  [e.function, e.index, e.flags, e.eax, ebx, ecx, edx]

/-- The order of `[u32; 7]`. -/
def wordsLe (a b : List UInt32) : Bool := decide (a.map UInt32.toNat ≤ b.map UInt32.toNat)

def FNV_OFFSET : UInt64 := 0xcbf29ce484222325
def FNV_PRIME : UInt64 := 0x00000100000001b3

/-- `cpuid_hash`, of the entries that KVM has reported. -/
def cpuidHash (cpuid : List CpuidEntry) : UInt64 :=
  ((cpuid.map canonicalWords).mergeSort wordsLe).foldl (fun h e =>
    e.foldl (fun h word =>
      (leBytes 4 word.toNat).foldl (fun h b => (h ^^^ b.toUInt64) * FNV_PRIME) h) h) FNV_OFFSET

/-! ## Restoring onto a host -/

/-- `format!("{:#018x}", n)`. -/
def hexFingerprint (n : UInt64) : String :=
  "0x" ++ String.ofList (List.replicate (16 - (Nat.toDigits 16 n.toNat).length) '0' ++
    Nat.toDigits 16 n.toNat)

def HostFingerprint.isUnset (host : HostFingerprint) : Bool := host.cpuidHash == 0

def HostFingerprint.checkRestoreOnto (host live : HostFingerprint) : Except String Unit :=
  if host.isUnset then .ok ()
  else if host.cpuidHash ≠ live.cpuidHash then
    .error ("snapshot host CPU feature set (CPUID fingerprint " ++ hexFingerprint host.cpuidHash ++
      ") differs from this host (" ++ hexFingerprint live.cpuidHash ++
      "); restoring here would crash the guest — restore on a host with a matching CPU.")
  else .ok ()

/-- What `verify_host` does with the entries of the live host. -/
def HostFingerprint.verifyHost (expected : HostFingerprint) (live : List CpuidEntry) : Except VmmError Unit :=
  (expected.checkRestoreOnto ⟨Vmm.cpuidHash live, 0⟩).mapError VmmError.device

/-! ## Stability -/

/-- The masked entry: no initial APIC id in leaf 1, no XSAVE sizes in leaf 0xD, no x2APIC id in leaves 0xB and
0x1F. -/
def CpuidEntry.masked (e : CpuidEntry) : CpuidEntry :=
  { e with
    ebx :=
      if e.function = 0x1 then e.ebx &&& 0x00ffffff
      else if e.function = 0xd ∧ (e.index = 0 ∨ e.index = 1) then 0 else e.ebx
    ecx := if e.function = 0xd ∧ e.index = 0 then 0 else e.ecx
    edx := if e.function = 0xb ∨ e.function = 0x1f then 0 else e.edx }

/-- The words of an entry. -/
def CpuidEntry.words (e : CpuidEntry) : List UInt32 :=
  [e.function, e.index, e.flags, e.eax, e.ebx, e.ecx, e.edx]

/-- What is hashed are the words of the masked entry. -/
theorem canonicalWords_eq (e : CpuidEntry) : canonicalWords e = e.masked.words := by
  unfold canonicalWords CpuidEntry.masked CpuidEntry.words
  by_cases h1 : e.function = 0x1
  · simp [h1]
  · by_cases hd : e.function = 0xd
    · by_cases h0 : e.index = 0
      · simp [hd, h0]
      · by_cases hi : e.index = 1
        · simp [hd, hi]
        · simp [hd, h0, hi]
    · by_cases hb : e.function = 0xb ∨ e.function = 0x1f <;> simp [h1, hd, hb]

theorem map_toNat_injective : Function.Injective (List.map UInt32.toNat) :=
  List.map_injective_iff.mpr (fun _ _ => UInt32.toNat_inj.mp)

/-- The order is total, so sorting does not depend on the order of the entries. -/
theorem mergeSort_wordsLe_eq {as bs : List (List UInt32)} (h : as.Perm bs) :
    as.mergeSort wordsLe = bs.mergeSort wordsLe := by
  have hsorted : ∀ l : List (List UInt32), (l.mergeSort wordsLe).Pairwise (fun a b => wordsLe a b = true) := by
    intro l
    apply List.pairwise_mergeSort
    · intro a b c hab hbc
      rw [wordsLe, decide_eq_true_iff] at *
      exact hab.trans hbc
    · intro a b
      rw [Bool.or_eq_true, wordsLe, wordsLe, decide_eq_true_iff, decide_eq_true_iff]
      exact le_total _ _
  have hperm : (as.mergeSort wordsLe).Perm (bs.mergeSort wordsLe) :=
    ((List.mergeSort_perm as wordsLe).trans h).trans (List.mergeSort_perm bs wordsLe).symm
  refine hperm.eq_of_pairwise ?_ (hsorted as) (hsorted bs)
  intro a b _ _ hab hba
  rw [wordsLe, decide_eq_true_iff] at hab hba
  exact map_toNat_injective (le_antisymm hab hba)

/-- **The fingerprint is stable.** Two reports that are the same up to the order of the entries and the masked
fields have the same hash, and a snapshot taken with the one is not refused with the other. -/
theorem hash_stable (es₁ es₂ : List CpuidEntry)
    (h : (es₁.map CpuidEntry.masked).Perm (es₂.map CpuidEntry.masked)) :
    cpuidHash es₁ = cpuidHash es₂ ∧
      ∀ tscKhz, (HostFingerprint.mk (cpuidHash es₁) tscKhz).verifyHost es₂ = .ok () := by
  have hwords : (es₁.map canonicalWords).Perm (es₂.map canonicalWords) := by
    have hmap := h.map CpuidEntry.words
    rw [List.map_map, List.map_map] at hmap
    rwa [List.map_congr_left (fun e _ => canonicalWords_eq e),
      List.map_congr_left (fun e _ => canonicalWords_eq e)]
  have hhash : cpuidHash es₁ = cpuidHash es₂ := by
    rw [cpuidHash, cpuidHash, mergeSort_wordsLe_eq hwords]
  refine ⟨hhash, fun tscKhz => ?_⟩
  rw [HostFingerprint.verifyHost, HostFingerprint.checkRestoreOnto, hhash]
  split
  · rfl
  · rw [if_neg (not_not_intro rfl)]
    rfl

/-- Two reports of one host, from two of its CPUs and in two orders. -/
theorem hash_stable_two_cpus :
    cpuidHash [⟨1, 0, 0, 6, 0x00010800, 3, 4⟩, ⟨0xb, 0, 1, 1, 2, 0x100, 0⟩] =
      cpuidHash [⟨0xb, 0, 1, 1, 2, 0x100, 2⟩, ⟨1, 0, 0, 6, 0x02010800, 3, 4⟩] :=
  (hash_stable _ _ (by decide)).1

end MicroMachines.Vmm
