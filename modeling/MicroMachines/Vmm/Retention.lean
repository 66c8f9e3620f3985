import MicroMachines.Vmm.SnapshotCrash

set_option autoImplicit false

/-! # Retention

`gc` lists the complete snapshots of a machine, newest first, and removes all but the first `keep` of
them. Everything follows from two facts. `safe_gc`: a call that returns leaves the tree without the
directories of the listed snapshots behind the first `keep`, and touches nothing else. `list_without`: in
such a tree `list` finds the first `keep` of what it found before, since it only looks at the entries one
by one and sorts them by id, of which there is one each.

The listing order of the directory is part of the file system, and the order in which the entries of a
removed directory come is an argument of the call; nothing is assumed of either.
-/

namespace MicroMachines.Vmm

open MicroMachines.Lib MicroMachines.Lib.Fallible

namespace SnapshotStore

variable {store : SnapshotStore} {json : Json} {machine : String} {fs fs' : Fs}
  {snaps : List SnapshotRef}

/-! ## What is listed -/

variable {d : Path} {id : String} {keep : Nat}

theorem snapshotAt_eq {snap : SnapshotRef}
    (h : snapshotAt json fs d id = some snap) : snap.id = id ∧ snap.dir = d ++ [id] := by
  unfold snapshotAt at h
  split_ifs at h
  obtain ⟨bytes, _, hparse⟩ := Option.bind_eq_some_iff.mp h
  obtain ⟨manifest, _, rfl⟩ := Option.map_eq_some_iff.mp hparse
  exact ⟨rfl, rfl⟩

/-- What an entry is depends on the entry and its manifest only. -/
theorem snapshotAt_congr (h : ∀ q, d ++ [id] <+: q → fs'.get q = fs.get q) :
    snapshotAt json fs' d id = snapshotAt json fs d id := by
  unfold snapshotAt Fs.readFile
  rw [h _ (List.prefix_refl _), h _ (List.prefix_append _ _)]

/-- `list` finds the entries that are snapshots, and no others. -/
theorem mem_list_iff (h : store.list json machine fs = .ok snaps) {snap : SnapshotRef} :
    snap ∈ snaps ↔ snapshotAt json fs (store.machineDir machine) snap.id = some snap := by
  have hnone : ∀ {id}, fs.get (store.machineDir machine) ≠ some .dir →
      snapshotAt json fs (store.machineDir machine) id = none := by
    intro id hdir
    refine if_neg (fun hentry => hdir (@Fs.get_parent fs _ id ?_))
    rw [hentry]
    exact Option.some_ne_none _
  unfold list at h
  split at h
  · next hget =>
      cases h
      rw [hnone (by rw [hget]; exact nofun)]
      exact ⟨nofun, nofun⟩
  · cases h
  · cases h
    rw [List.mem_mergeSort, List.mem_filterMap]
    constructor
    · rintro ⟨id, _, hat⟩
      rw [(snapshotAt_eq hat).1]
      exact hat
    · intro hat
      refine ⟨snap.id, ?_, hat⟩
      unfold snapshotAt at hat
      split_ifs at hat with hdir
      rw [Fs.mem_readDir, hdir]
      exact Option.some_ne_none _

theorem map_id_filterMap (d : Path) (names : List String) :
    (names.filterMap (snapshotAt json fs d)).map SnapshotRef.id =
      names.filter (fun id => (snapshotAt json fs d id).isSome) := by
  induction names with
  | nil => rfl
  | cons id names ih =>
    cases h : snapshotAt json fs d id with
    | none =>
      rw [List.filterMap_cons_none h, ih, List.filter_cons_of_neg (by simp [h])]
    | some snap =>
      rw [List.filterMap_cons_some h, List.map_cons, ih, List.filter_cons_of_pos (by simp [h]),
        (snapshotAt_eq h).1]

/-- **Newest first**: strictly, since an id is listed once. -/
theorem list_sorted (h : store.list json machine fs = .ok snaps) :
    snaps.Pairwise (fun a b => b.id < a.id) := by
  unfold list at h
  split at h
  · cases h
    exact List.Pairwise.nil
  · cases h
  · cases h
    have hsorted := @List.pairwise_mergeSort _ (fun a b : SnapshotRef => decide (b.id ≤ a.id))
      (fun a b c hab hbc => decide_eq_true
        (String.le_trans (of_decide_eq_true hbc) (of_decide_eq_true hab)))
      (fun a b => by simpa using String.le_total b.id a.id)
      ((fs.readDir (store.machineDir machine)).filterMap
        (snapshotAt json fs (store.machineDir machine)))
    have hnodup : ((((fs.readDir (store.machineDir machine)).filterMap
        (snapshotAt json fs (store.machineDir machine))).mergeSort
          (fun a b => decide (b.id ≤ a.id))).map SnapshotRef.id).Nodup := by
      rw [((List.mergeSort_perm _ _).map _).nodup_iff, map_id_filterMap]
      exact (Fs.nodup_readDir fs _).filter _
    rw [List.Nodup, List.pairwise_map] at hnodup
    refine (hsorted.and hnodup).imp ?_
    rintro a b ⟨hle, hne⟩
    exact String.not_le.mp (fun hge => hne (String.le_antisymm hge (of_decide_eq_true hle)))

/-- Two listings of the same snapshots are the same. -/
theorem eq_of_sorted {xs ys : List SnapshotRef} (hxs : xs.Pairwise (fun a b => b.id < a.id))
    (hys : ys.Pairwise (fun a b => b.id < a.id)) (h : ∀ snap, snap ∈ xs ↔ snap ∈ ys) : xs = ys := by
  have hnodup : ∀ {zs : List SnapshotRef}, zs.Pairwise (fun a b => b.id < a.id) → zs.Nodup := by
    intro zs hzs
    refine hzs.imp ?_
    rintro a b hlt rfl
    exact String.lt_irrefl _ hlt
  refine List.Perm.eq_of_pairwise ?_ hxs hys ((List.perm_ext_iff_of_nodup (hnodup hxs) (hnodup hys)).mpr h)
  intro a b _ _ hab hba
  exact absurd hab (String.lt_asymm hba)

/-! ## What a collection removes -/

/-- The directories that a collection removes. -/
def discarded (snaps : List SnapshotRef) (keep : Nat) : List Path :=
  (snaps.drop keep).map SnapshotRef.dir

/-- **A call of `gc` that returns** has removed the directories of the snapshots behind the first `keep`,
and nothing else. -/
theorem safe_gc (store : SnapshotStore) (json : Json) (machine : String) (keep : Nat) (o : EntryOrder)
    (fs : Fs) : Safe (fun _ => True)
      (fun fs' ids => ∃ snaps, store.list json machine fs = .ok snaps ∧
        ids = ((snaps.drop keep).map SnapshotRef.id).reverse ∧
          fs.Without (discarded snaps keep) fs')
      (fun _ => True) fs (store.gc json machine keep o) := by
  refine safe_bind (safe_look trivial ?_ trivial)
  intro snaps hlist
  have hdir : ∀ snap ∈ snaps.drop keep, snap.dir = store.machineDir machine ++ [snap.id] :=
    fun snap hsnap => (mem_list hlist (List.mem_of_mem_drop hsnap)).1
  refine safe_bind (safe_forEach (fun rest fs' => ∃ done, snaps.drop keep = done ++ rest ∧
    fs.Without (done.map SnapshotRef.dir) fs') _ ⟨[], rfl, Fs.Without.refl fs⟩ ?_ ?_)
  · rintro snap rest a ⟨done, hsplit, hwithout⟩
    have hsnap := hdir snap (by rw [hsplit]; exact List.mem_append_right _ List.mem_cons_self)
    refine (safe_removeDirAll_gone o (store.machineDir machine) snap.id a).mono
      (fun _ _ => trivial) ?_ (fun _ _ => trivial)
    rintro b _ ⟨hshrinks, hnone⟩
    refine ⟨done ++ [snap], by rw [hsplit, List.append_assoc]; rfl, ?_⟩
    rw [List.map_append, List.map_singleton, hsnap]
    exact hwithout.snoc hshrinks hnone
  · rintro a ⟨done, hsplit, hwithout⟩
    rw [List.append_nil] at hsplit
    refine safe_pure ⟨snaps, hlist, rfl, ?_⟩
    rw [discarded, hsplit]
    exact hwithout

/-- The directories of the entries of a directory are not below one another. -/
theorem not_prefix_entry {id' : String} (hne : id ≠ id') {q : Path}
    (hq : d ++ [id'] <+: q) : ¬ d ++ [id] <+: q := by
  intro hid
  have hpre := List.prefix_of_prefix_length_le hid hq (by simp)
  have heq := hpre.eq_of_length (by simp)
  exact hne (List.singleton_inj.mp (List.append_cancel_left heq))

/-- Entries that are not discarded are as they were. -/
theorem kept_entry (h : store.list json machine fs = .ok snaps)
    (hwithout : fs.Without (discarded snaps keep) fs')
    (hid : id ∉ (snaps.drop keep).map SnapshotRef.id) (q : Path)
    (hq : store.machineDir machine ++ [id] <+: q) : fs'.get q = fs.get q := by
  refine hwithout.kept q ?_
  intro p hp
  obtain ⟨snap, hsnap, rfl⟩ := List.mem_map.mp hp
  rw [(mem_list h (List.mem_of_mem_drop hsnap)).1]
  refine not_prefix_entry ?_ hq
  rintro rfl
  exact hid (List.mem_map_of_mem hsnap)

/-- What is not below the machine's directory is as it was. -/
theorem kept_outside (h : store.list json machine fs = .ok snaps)
    (hwithout : fs.Without (discarded snaps keep) fs') {q : Path}
    (hq : ¬ store.machineDir machine <+: q ∨ q = store.machineDir machine) : fs'.get q = fs.get q := by
  refine hwithout.kept q ?_
  intro p hp hpre
  obtain ⟨snap, hsnap, rfl⟩ := List.mem_map.mp hp
  rw [(mem_list h (List.mem_of_mem_drop hsnap)).1] at hpre
  rcases hq with hq | rfl
  · exact hq ((List.prefix_append _ _).trans hpre)
  · have hlen := hpre.length_le
    simp at hlen

/-- **The list afterwards**: the first `keep` of those before. -/
theorem list_without (h : store.list json machine fs = .ok snaps)
    (hwithout : fs.Without (discarded snaps keep) fs') :
    store.list json machine fs' = .ok (snaps.take keep) := by
  have hmachine : fs'.get (store.machineDir machine) = fs.get (store.machineDir machine) :=
    kept_outside h hwithout (Or.inr rfl)
  -- the list is there again
  obtain ⟨snaps', hsnaps'⟩ : ∃ snaps', store.list json machine fs' = .ok snaps' := by
    unfold list at h ⊢
    rw [hmachine]
    split at h
    · exact ⟨_, rfl⟩
    · cases h
    · exact ⟨_, rfl⟩
  rw [hsnaps']
  congr 1
  have hsorted := list_sorted h
  refine eq_of_sorted (list_sorted hsnaps') (hsorted.sublist (List.take_sublist keep snaps)) ?_
  intro snap
  rw [mem_list_iff hsnaps']
  by_cases hid : snap.id ∈ (snaps.drop keep).map SnapshotRef.id
  · -- an id that was discarded is not there, and was listed once
    obtain ⟨dropped, hdropped, hsame⟩ := List.mem_map.mp hid
    have hgone : snapshotAt json fs' (store.machineDir machine) snap.id = none := by
      refine if_neg ?_
      rw [hwithout.gone dropped.dir (List.mem_map_of_mem hdropped) _ (by
        rw [(mem_list h (List.mem_of_mem_drop hdropped)).1, hsame])]
      exact nofun
    rw [hgone]
    refine ⟨nofun, fun htaken => ?_⟩
    rw [← List.take_append_drop keep snaps, List.pairwise_append] at hsorted
    have hlt := hsorted.2.2 snap htaken dropped hdropped
    rw [hsame] at hlt
    exact absurd hlt (String.lt_irrefl _)
  · rw [snapshotAt_congr (kept_entry h hwithout hid), ← mem_list_iff h]
    constructor
    · intro hmem
      rw [← List.take_append_drop keep snaps, List.mem_append] at hmem
      exact hmem.resolve_right (fun hdrop => hid (List.mem_map_of_mem hdrop))
    · exact List.mem_of_mem_take

/-- A collection that finds nothing to remove changes nothing, however it ends. -/
theorem safe_gc_idle (h : store.list json machine fs = .ok snaps)
    (hkeep : snaps.length ≤ keep) (o : EntryOrder) :
    Safe (fun _ => True) (fun fs' ids => fs' = fs ∧ ids = []) (fun fs' => fs' = fs) fs
      (store.gc json machine keep o) := by
  refine safe_bind (safe_look trivial ?_ rfl)
  intro snaps' hsnaps'
  rw [h] at hsnaps'
  cases hsnaps'
  rw [List.drop_eq_nil_of_le hkeep]
  exact ⟨rfl, rfl⟩

/-- A directory that was made and not filled, and a snapshot. -/
def oneOfTwo : Fs :=
  let store := SnapshotStore.new []
  (Prog.exec (store.create fixedWidth "web" 5 smallCapture) []
    (Prog.exec (store.newSnapshotDir "web" 5) [] Fs.empty).1).1

end SnapshotStore

end MicroMachines.Vmm
