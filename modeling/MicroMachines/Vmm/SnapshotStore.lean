import MicroMachines.Lib.Files
import MicroMachines.Vmm.Orchestrator

set_option autoImplicit false

/-! # The snapshot store

`crates/mm-vmm/src/snapshot/store.rs` keeps the snapshots of a machine as directories, named by a
zero-padded time. The store makes a directory; a capture fills it (`snapshot/engine.rs` and
`machine.rs`, whose scripts are those of `Vmm/Orchestrator.lean`); `list` takes every directory
with a manifest that parses for a snapshot.

Calls are programs over a file system (`Lib/Files.lean`), so that they can be killed at any of
their statements. The order in which `remove_dir_all` finds the entries of a directory is an
argument of the calls that remove. `serde_json` appears as what the store uses of it (`Json`), the
system clock as the argument `now`.
-/

namespace MicroMachines.Vmm

open MicroMachines.Lib

def MEMORY_FILE : String := "memory.bin"
def STATE_FILE : String := "state.bin"
def MANIFEST_FILE : String := "manifest.json"

/-- The machine name under which a worker stores the snapshots of its jail. -/
def SNAPSHOT_BUCKET : String := "local"

/-! ## Manifests -/

inductive SnapshotKind
  | full
  | diff
  deriving DecidableEq, Repr

structure HostFingerprint where
  cpuidHash : UInt64
  tscKhz : UInt32
  deriving DecidableEq, Repr

structure SnapshotManifest where
  version : UInt32
  vcpuCount : UInt8
  memoryMib : UInt64
  memoryFile : String
  stateFile : String
  kind : SnapshotKind
  parentUid : Option String
  host : HostFingerprint
  deriving DecidableEq, Repr

def SnapshotManifest.CURRENT_VERSION : UInt32 := 1

/-- A text format for manifests, in which the beginning of a manifest is not one. -/
structure Json where
  toVecPretty : SnapshotManifest → List UInt8
  fromSlice : List UInt8 → Option SnapshotManifest
  whole : ∀ m text, text <+: toVecPretty m → fromSlice text ≠ none → text = toVecPretty m

/-! ## The store -/

structure SnapshotStore where
  root : Path
  deriving DecidableEq, Repr

/-- One stored snapshot. -/
structure SnapshotRef where
  id : String
  dir : Path
  manifest : SnapshotManifest
  deriving DecidableEq, Repr

/-- Keep ASCII alphanumerics, `-`, `_` and `.`; make a single path component of the rest. -/
def sanitize (name : String) : String :=
  let out := String.ofList (name.toList.map (fun c =>
    if c.isAlphanum || c == '-' || c == '_' || c == '.' then c else '_'))
  if out = "" ∨ out = "." ∨ out = ".." then "_" else out

/-- `format!("{:020}", n)`. -/
def padded (n : Nat) : String :=
  String.ofList (List.replicate (20 - (Nat.toDigits 10 n).length) '0' ++ Nat.toDigits 10 n)

/-- `u128::saturating_add`. -/
def saturatingAdd128 (a b : Nat) : Nat := min (a + b) (2 ^ 128 - 1)

namespace SnapshotStore

def new (stateRoot : Path) : SnapshotStore := ⟨stateRoot ++ ["snapshots"]⟩

def machineDir (store : SnapshotStore) (machine : String) : Path := store.root ++ [sanitize machine]

def dir (store : SnapshotStore) (machine id : String) : Path :=
  store.machineDir machine ++ [sanitize id]

/-- The loop of `new_snapshot_dir`, with the number of tries left. -/
def tryIds (machineDir : Path) (base : Nat) : Nat → Nat → FsM String
  | 0, _ => Fallible.fail .alreadyExists
  | tries + 1, bump => do
      let id := padded (saturatingAdd128 base bump)
      let made ← Fallible.attempt (createDir machineDir id)
      match made with
      | .ok _ => pure id
      | .error .alreadyExists => tryIds machineDir base tries (bump + 1)
      | .error e => Fallible.fail e

def newSnapshotDir (store : SnapshotStore) (machine : String) (now : Nat) : FsM String := do
  createDirAll [] (store.machineDir machine)
  tryIds (store.machineDir machine) now 1000000 0

/-- An entry of the machine's directory, if it is a directory with a manifest. -/
def snapshotAt (json : Json) (fs : Fs) (machineDir : Path) (id : String) : Option SnapshotRef :=
  if fs.get (machineDir ++ [id]) = some .dir then
    (fs.readFile (machineDir ++ [id] ++ [MANIFEST_FILE])).bind (fun bytes =>
      (json.fromSlice bytes).map (fun manifest => ⟨id, machineDir ++ [id], manifest⟩))
  else none

/-- `list`: newest first. -/
def list (store : SnapshotStore) (json : Json) (machine : String) (fs : Fs) :
    Except IoError (List SnapshotRef) :=
  match fs.get (store.machineDir machine) with
  | none => .ok []
  | some (.file _) => .error .notADirectory
  | some .dir =>
    .ok (((fs.readDir (store.machineDir machine)).filterMap
      (snapshotAt json fs (store.machineDir machine))).mergeSort (fun a b => decide (b.id ≤ a.id)))

/-- `gc`: the ids removed, oldest first. -/
def gc (store : SnapshotStore) (json : Json) (machine : String) (keep : Nat) (o : EntryOrder) :
    FsM (List String) := do
  let snaps ← look (store.list json machine)
  Fallible.forEach (snaps.drop keep) (fun snap => removeDirAll o (store.machineDir machine) snap.id)
  pure ((snaps.drop keep).map SnapshotRef.id).reverse

def remove (store : SnapshotStore) (machine id : String) (o : EntryOrder) : FsM Unit := do
  let removed ← Fallible.attempt (removeDirAll o (store.machineDir machine) (sanitize id))
  match removed with
  | .ok _ => pure ()
  | .error .notFound => pure ()
  | .error e => Fallible.fail e

variable {store : SnapshotStore} {json : Json} {machine : String} {fs : Fs}

theorem stays_remove {I : Fs → Prop} {id : String} {o : EntryOrder}
    (h : Fallible.Stays I fs (removeDirAll o (store.machineDir machine) (sanitize id))) :
    Fallible.Stays I fs (store.remove machine id o) := by
  refine Fallible.safe_bind (Fallible.safe_attempt (h.mono (fun _ h => h) (fun _ _ h => h) ?_))
  intro fs' h e
  cases e <;> exact h

/-- What is listed is a directory with a manifest. -/
theorem mem_list {snaps : List SnapshotRef} (h : store.list json machine fs = .ok snaps) {snap : SnapshotRef}
    (hmem : snap ∈ snaps) : snap.dir = store.machineDir machine ++ [snap.id] ∧ ∃ bytes,
      fs.get (snap.dir ++ [MANIFEST_FILE]) = some (.file bytes) ∧
        json.fromSlice bytes = some snap.manifest := by
  unfold list at h
  split at h
  · cases h
    cases hmem
  · cases h
  · cases h
    obtain ⟨id, _, hat⟩ := List.mem_filterMap.mp (List.mem_mergeSort.mp hmem)
    unfold snapshotAt at hat
    split_ifs at hat
    obtain ⟨bytes, hbytes, hparse⟩ := Option.bind_eq_some_iff.mp hat
    obtain ⟨manifest, hmanifest, rfl⟩ := Option.map_eq_some_iff.mp hparse
    exact ⟨rfl, bytes, Fs.readFile_eq_some.mp hbytes, hmanifest⟩

theorem list_eq_nil :
    store.list json machine fs = .ok [] ↔ fs.get (store.machineDir machine) = none ∨
      fs.get (store.machineDir machine) = some .dir ∧ ∀ id ∈ fs.readDir (store.machineDir machine),
          snapshotAt json fs (store.machineDir machine) id = none := by
  unfold list
  cases hget : fs.get (store.machineDir machine) with
  | none => simp
  | some n =>
    cases n with
    | file c => simp
    | dir =>
      constructor
      · intro h
        have hperm := List.mergeSort_perm ((fs.readDir (store.machineDir machine)).filterMap
          (snapshotAt json fs (store.machineDir machine))) (fun a b => decide (b.id ≤ a.id))
        rw [Except.ok.inj h] at hperm
        exact Or.inr ⟨rfl, List.filterMap_eq_nil_iff.mp (List.perm_nil.mp hperm.symm)⟩
      · rintro (h | ⟨-, h⟩)
        · cases h
        · rw [List.filterMap_eq_nil_iff.mpr h, List.mergeSort_nil]

/-- Nothing is listed if nothing was, and the directory is as it was. -/
theorem list_eq_nil_of_same {fs' : Fs}
    (hsame : ∀ rest, fs'.get (store.machineDir machine ++ rest) = fs.get (store.machineDir machine ++ rest))
    (h : store.list json machine fs = .ok []) : store.list json machine fs' = .ok [] := by
  have hdir : fs'.get (store.machineDir machine) = fs.get (store.machineDir machine) := by
    simpa using hsame []
  rw [list_eq_nil] at h ⊢
  rw [hdir]
  refine h.imp_right (fun ⟨hthere, hnone⟩ => ⟨hthere, fun id hid => ?_⟩)
  -- an entry that is there now was there before, with the same manifest
  have hid' : id ∈ fs.readDir (store.machineDir machine) := by
    rw [Fs.mem_readDir, hsame] at hid
    exact Fs.mem_readDir.mpr hid
  have hmanifest : fs'.readFile (store.machineDir machine ++ [id] ++ [MANIFEST_FILE]) =
      fs.readFile (store.machineDir machine ++ [id] ++ [MANIFEST_FILE]) := by
    unfold Fs.readFile
    rw [List.append_assoc, hsame]
  rw [← hnone id hid']
  unfold snapshotAt
  rw [hsame, hmanifest]

end SnapshotStore

/-! ## Captures -/

inductive CaptureKind
  | snapshot
  | snapshotInPlace
  | branch
  deriving DecidableEq, Repr

def CaptureKind.call : CaptureKind → Call
  | .snapshot => .snapshot
  | .snapshotInPlace => .snapshotInPlace
  | .branch => .branch

/-- What a capture reads of its machine: guest RAM piece by piece in the order of the image, the
pages copied again at the final barrier of a branch with their offsets, and the rest. -/
structure Capture where
  kind : CaptureKind
  shape : Shape
  ram : List (List UInt8)
  dirty : List (Nat × List UInt8)
  state : List UInt8
  vcpus : UInt8
  memoryMib : UInt64
  host : HostFingerprint
  deriving DecidableEq, Repr

/-- Pieces one after the other, from an offset on. -/
def setPieces : Nat → List (List UInt8) → List UInt8 → List UInt8
  | _, [], c => c
  | offset, piece :: pieces, c => setPieces (offset + piece.length) pieces (setBytes offset piece c)

/-- Pages at their offsets. -/
def setPages (pages : List (Nat × List UInt8)) (c : List UInt8) : List UInt8 :=
  pages.foldl (fun c page => setBytes page.1 page.2 c) c

namespace Capture

/-- The image that a branch writes while the machine runs. -/
def copied (cap : Capture) : List UInt8 :=
  setPieces 0 cap.ram (List.replicate cap.ram.flatten.length 0)

/-- The whole of `memory.bin`. -/
def memory (cap : Capture) : List UInt8 :=
  match cap.kind with
  | .branch => setPages cap.dirty cap.copied
  | _ => cap.ram.flatten

def manifest (cap : Capture) : SnapshotManifest where
  version := SnapshotManifest.CURRENT_VERSION
  vcpuCount := cap.vcpus
  memoryMib := cap.memoryMib
  memoryFile := MEMORY_FILE
  stateFile := STATE_FILE
  kind := .full
  parentUid := none
  host := cap.host

end Capture

/-- The loop of `write_branch_image`. -/
def writePieces (d : Path) : Nat → List (List UInt8) → FsM Unit
  | _, [] => pure ()
  | offset, piece :: pieces => do
      writeAt d MEMORY_FILE offset piece
      writePieces d (offset + piece.length) pieces

/-- `set_len`. -/
def setLen (n : Nat) (c : List UInt8) : List UInt8 := c.take n ++ List.replicate (n - c.length) 0

/-- Whether a program succeeded. -/
def succeeded {α : Type} (t : FsM α) : Prog Fs IoError Bool := Prog.bind t (fun r => .done r.isOk)

theorem safe_succeeded {α : Type} {I : Fs → Prop} {Q : Fs → Bool → Prop} {fs : Fs} {t : FsM α}
    (h : Fallible.Safe I (fun fs _ => Q fs true) (fun fs => Q fs false) fs t) :
    (succeeded t).Safe I Q fs := by
  refine Prog.Safe.bind (Prog.Safe.imp h ?_)
  rintro fs (e | a) hr
  · exact hr
  · exact hr

/-- What an operation of a capture does to the files of the directory `d`. The others leave them
alone, and may fail. -/
def fileOp (json : Json) (cap : Capture) (d : Path) : Op → Prog Fs IoError Bool
  | .createDirAll => succeeded (createDirAll [] d)
  | .createMemoryFile => succeeded (createFile d MEMORY_FILE)
  | .dumpGuestMemory => succeeded (appendAll d MEMORY_FILE cap.ram.flatten)
  | .openImage => succeeded (createFile d MEMORY_FILE)
  | .writeBranchImage => succeeded (do
      rewriteFile d MEMORY_FILE (setLen cap.ram.flatten.length)
      writePieces d 0 cap.ram)
  | .openForRecopy => succeeded (look (fun fs =>
    if (fs.readFile (d ++ [MEMORY_FILE])).isSome then .ok () else .error .notFound))
  | .recopyBranchPages => succeeded (Fallible.forEach cap.dirty (fun page =>
    writeAt d MEMORY_FILE page.1 page.2))
  | .writeState => succeeded (writeFile d STATE_FILE cap.state)
  | .writeManifest => succeeded (writeFile d MANIFEST_FILE (json.toVecPretty cap.manifest))
  | _ => .stmt (fun fs => fs) (fun _ => .done true) (fun _ => .done false)

/-- A capture into the directory `d`. -/
def Capture.prog (json : Json) (cap : Capture) (d : Path) : Prog Fs IoError (Except VmmError Unit) :=
  Script.interp (fileOp json cap d) (cap.kind.call.script cap.shape)

/-- The calls on a store: make a snapshot in a new directory, as the worker's control socket does,
and remove snapshots. -/
inductive StoreCall
  | create (machine : String) (now : Nat) (cap : Capture)
  | remove (machine id : String) (o : EntryOrder)
  | gc (machine : String) (keep : Nat) (o : EntryOrder)

/-- A capture in a new directory, and its id. -/
def SnapshotStore.create (store : SnapshotStore) (json : Json) (machine : String) (now : Nat)
    (cap : Capture) : FsM String := do
  let id ← store.newSnapshotDir machine now
  Prog.bind (cap.prog json (store.machineDir machine ++ [id])) (fun r =>
    match r with
    | .ok _ => .done (.ok id)
    | .error _ => .done (.error .other))

/-- A call, and the ids it answers with. -/
def StoreCall.prog (json : Json) (store : SnapshotStore) : StoreCall → FsM (List String)
  | .create machine now cap => do
      let id ← store.create json machine now cap
      pure [id]
  | .remove machine id o => do
      store.remove machine id o
      pure []
  | .gc machine keep o => store.gc json machine keep o

end MicroMachines.Vmm
