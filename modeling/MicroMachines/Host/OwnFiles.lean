import MicroMachines.Host.Jails
import MicroMachines.Vmm.SnapshotCrash

set_option autoImplicit false

/-! # A launch and the files of earlier machines

The commands of a host, one after the other, and what they do to its files. A jail is named by its machine and
stays when the machine goes. A launch takes the files that it finds in the jail, and makes those that it does not
find.

So a worker opens the files that its launch was given if and only if each of them was missing in the jail, or was
there with the same content (`own_files_iff`). This is so under a name that has never been used; it is not when a
name is used again for another image (`stale_rootfs`).
-/

namespace MicroMachines.Host

open MicroMachines.Lib MicroMachines.Boot MicroMachines.Net MicroMachines.Vmm
open MicroMachines.Lib.Fallible

/-! ## Calls -/

/-- A change of a file that no command makes: an image or a kernel is replaced, a worker writes a snapshot. -/
inductive Edit
  | mkdir (d : Path) (name : String)
  | write (d : Path) (name : String) (bytes : List UInt8)
  | unlink (d : Path) (name : String)
  | rmdir (d : Path) (name : String)

def Edit.dir : Edit → Path
  | .mkdir d _ | .write d _ _ | .unlink d _ | .rmdir d _ => d

def Edit.prog : Edit → FsM Unit
  | .mkdir d name => createDir d name
  | .write d name bytes => writeFile d name bytes
  | .unlink d name => change (fun fs => fs.unlink d name)
  | .rmdir d name => change (fun fs => fs.rmdir d name)

def instancesDir (root : Path) : Path := root ++ ["instances"]

/-- `remove_instance_overlay`, all that `mm rm` does to the files. -/
def removeInstanceOverlay (root : Path) (name : String) (o : EntryOrder) : FsM Unit := do
  let there ← pathExists (instancesDir root ++ [name])
  if there then removeDirAll o (instancesDir root) name else pure ()

inductive FileCall
  /-- `mm run`. -/
  | launch (env : FileEnv) (spec : LaunchSpec)
  /-- `mm restore` and `mm branch`. -/
  | restore (env : FileEnv) (spec : RestoreSpec)
  | stop (name : String)
  | rm (name : String) (o : EntryOrder)
  | edit (e : Edit)

namespace FileCall

/-- The call as a program. The outcome of a launch is that it gives if it succeeds. -/
def prog (root : Path) : FileCall → Prog Fs IoError (Option LaunchOutcome)
  | .launch env spec =>
    (Script.interp (fileOp root env) (Host.launch (env.host root) { spec with stateRoot := root })).bind
      (fun r => .done r.toOption)
  | .restore env spec =>
    (Script.interp (fileOp root env) (restoreLaunch (env.host root) { spec with stateRoot := root })).bind
      (fun r => .done r.toOption)
  | .stop _ => .done none
  | .rm name o => Prog.bind (removeInstanceOverlay root name o) (fun _ => .done none)
  | .edit e => Prog.bind e.prog (fun _ => .done none)

/-- The machine that is launched. -/
def machine : FileCall → Option String
  | .launch _ spec => some spec.name
  | .restore _ spec => some spec.name
  | _ => none

/-- The files that are given, each with its place in the jail. -/
def files (root : Path) : FileCall → List (Path × Path)
  | .launch env spec =>
    [(spec.kernelPath, jailKernel root spec.name), (env.baseImagePath root, jailRootfs root spec.name)]
  | .restore _ spec =>
    [(spec.kernelPath, jailKernel root spec.name), (spec.rootfsPath, jailRootfs root spec.name),
      (spec.snapshotDir ++ [MANIFEST_FILE], jailRestore root spec.name ++ [MANIFEST_FILE]),
      (spec.snapshotDir ++ [STATE_FILE], jailRestore root spec.name ++ [STATE_FILE]),
      (spec.snapshotDir ++ [MEMORY_FILE], jailRestore root spec.name ++ [MEMORY_FILE])]
  | _ => []

/-- The content of a file that is given. The root disk of an image is built if it is not there. -/
def content (root : Path) (fs : Fs) (p : Path) : FileCall → Option (List UInt8)
  | .launch env _ =>
    if fs.get p = none ∧ p = env.baseImagePath root then some env.built else fs.readFile p
  | _ => fs.readFile p

end FileCall

/-- The snapshots of a machine. -/
def snapshotsOf (json : Json) (root : Path) (name : String) (fs : Fs) : Except IoError (List SnapshotRef) :=
  (SnapshotStore.new (jailRoot root name)).list json SNAPSHOT_BUCKET fs

/-- **Its own files.** The worker finds in the jail what its launch was given, and no snapshot. -/
structure OwnFiles (json : Json) (root : Path) (c : FileCall) (name : String) (fs fs' : Fs) : Prop where
  files : ∀ f ∈ c.files root, ∃ bytes, c.content root fs f.1 = some bytes ∧ fs'.readFile f.2 = some bytes
  snapshots : snapshotsOf json root name fs' = .ok []

/-- A jail that is fit for a launch: what is there is what the launch is given, and there is no snapshot. -/
structure Clean (json : Json) (root : Path) (c : FileCall) (name : String) (fs : Fs) : Prop where
  files : ∀ f ∈ c.files root, ∃ bytes, c.content root fs f.1 = some bytes ∧
    (fs.get f.2 = none ∨ fs.readFile f.2 = some bytes)
  snapshots : snapshotsOf json root name fs = .ok []

/-! ## Where a launch works -/

/-- The files that a launch puts into the jail. -/
def jailed (root : Path) (name : String) : List Path :=
  [jailKernel root name, jailRootfs root name, jailRestore root name ++ [MANIFEST_FILE],
    jailRestore root name ++ [STATE_FILE], jailRestore root name ++ [MEMORY_FILE]]

/-- The steps that do something to the files. -/
def HostOp.isFile : HostOp → Bool
  | .buildBaseRootfs _ _ _ | .createDirAll _ | .linkOrCopy _ _ | .ensureSshKey _ | .writeConfig _ _
  | .bindListener _ | .spawnWorker _ => true
  | _ => false

/-- The steps of a launch under a name. -/
inductive Fits (root : Path) (name : String) : HostOp → Prop
  | image {image : String} {init : Path} {sshd : Option Path} : Fits root name (.buildBaseRootfs image init sshd)
  | jail : Fits root name (.createDirAll (jailRoot root name))
  | snapshots : Fits root name (.createDirAll (jailSnapshots root name))
  | restore : Fits root name (.createDirAll (jailRestore root name))
  | link {src dst : Path} (h : dst ∈ jailed root name) : Fits root name (.linkOrCopy src dst)
  | key : Fits root name (.ensureSshKey root)
  | config {cfg : VmConfig} : Fits root name (.writeConfig (jailDir root name ++ ["config.json"]) cfg)
  | listener {x : String} (h : x ≠ "root") : Fits root name (.bindListener (jailDir root name ++ [x]))
  | worker {worker : WorkerSpec} (h : worker.log = jailDir root name ++ ["console.log"]) :
      Fits root name (.spawnWorker worker)
  | quiet {op : HostOp} (h : op.isFile = false) : Fits root name op

namespace Fits

variable {root : Path} {env : FileEnv} {name : String} {op : HostOp}

theorem not_touches_of_quiet (h : op.isFile = false) (q : Path) : ¬ touches root env op q := by
  intro ht
  cases op with
  | buildBaseRootfs image init sshd | createDirAll p | linkOrCopy src dst
  | ensureSshKey root' | writeConfig p cfg | bindListener p | spawnWorker worker => cases h
  | _ => exact ht

/-- No other jail is made. -/
theorem jail_of_touches (h : Fits root name op) {x : String} (ht : touches root env op (jailDir root x)) :
    x = name := by
  cases h with
  | image =>
    simp [touches, jailDir, FileEnv.baseImagePath, FileEnv.imageDir, List.prefix_append_right_inj] at ht
  | jail => simpa [touches, jailDir, jailRoot, List.prefix_append_right_inj] using ht
  | snapshots => simpa [touches, jailDir, jailRoot, jailSnapshots, List.prefix_append_right_inj] using ht
  | restore => simpa [touches, jailDir, jailRoot, jailRestore, List.prefix_append_right_inj] using ht
  | link hdst =>
    obtain rfl : jailDir root x = _ := ht
    simp [jailed, jailKernel, jailRootfs, jailRestore, jailRoot, jailDir] at hdst
  | key => simp [touches, jailDir, sshDir, List.prefix_append_right_inj] at ht
  | config | listener hx => simp [touches, jailDir] at ht
  | worker hlog => simp [touches, jailDir, hlog] at ht
  | quiet hquiet => exact absurd ht (not_touches_of_quiet hquiet _)

/-- Below the directory of the snapshots, nothing changes. -/
theorem not_touches_snapshot (h : Fits root name op) (x : String) (rest : Path) :
    ¬ touches root env op (jailSnapshots root name ++ x :: rest) := by
  intro ht
  cases h with
  | image =>
    simp [touches, jailDir, jailRoot, jailSnapshots, FileEnv.baseImagePath, FileEnv.imageDir,
      List.prefix_append_right_inj] at ht
  | jail | snapshots => simp [touches, jailDir, jailRoot, jailSnapshots, List.prefix_append_right_inj] at ht
  | restore => simp [touches, jailDir, jailRoot, jailSnapshots, jailRestore, List.prefix_append_right_inj] at ht
  | link hdst =>
    obtain rfl : jailSnapshots root name ++ x :: rest = _ := ht
    simp [jailed, jailKernel, jailRootfs, jailRestore, jailSnapshots, jailRoot, jailDir] at hdst
  | key => simp [touches, jailDir, jailRoot, jailSnapshots, sshDir, List.prefix_append_right_inj] at ht
  | config | listener hx => simp [touches, jailDir, jailRoot, jailSnapshots] at ht
  | worker hlog => simp [touches, jailDir, jailRoot, jailSnapshots, hlog] at ht
  | quiet hquiet => exact absurd ht (not_touches_of_quiet hquiet _)

/-- A file of the jail is not a directory of it, and not beside its root. -/
theorem jailed_apart {dst : Path} (hdst : dst ∈ jailed root name) :
    ¬ dst <+: env.baseImagePath root ∧ ¬ dst <+: jailRoot root name ∧ ¬ dst <+: jailSnapshots root name ∧
      ¬ dst <+: jailRestore root name ∧ ¬ dst <+: sshDir root ∧ (∀ x, dst ≠ sshDir root ++ [x]) ∧
      ∀ x, dst ≠ jailDir root name ++ [x] := by
  simp only [jailed, List.mem_cons, List.not_mem_nil, or_false] at hdst
  rcases hdst with rfl | rfl | rfl | rfl | rfl <;>
    simp [jailDir, jailRoot, jailSnapshots, jailRestore, jailKernel, jailRootfs, sshDir, FileEnv.baseImagePath,
      FileEnv.imageDir, List.prefix_append_right_inj]

/-- A file of the jail is put there by the step that is for it. -/
theorem link_of_touches (h : Fits root name op) {dst : Path} (hdst : dst ∈ jailed root name)
    (ht : touches root env op dst) : ∃ src, op = .linkOrCopy src dst := by
  obtain ⟨himage, hjail, hsnapshots, hrestore, hssh, hkey, hbeside⟩ := @jailed_apart root env name dst hdst
  cases h with
  | image => exact absurd ht himage
  | jail => exact absurd ht hjail
  | snapshots => exact absurd ht hsnapshots
  | restore => exact absurd ht hrestore
  | @link src dst' hdst' =>
    obtain rfl : dst = dst' := ht
    exact ⟨src, rfl⟩
  | key =>
    rcases ht with ht | ⟨x, rfl⟩
    · exact absurd ht hssh
    · exact absurd rfl (hkey x)
  | config | listener hx => exact absurd ht (hbeside _)
  | worker hlog => exact absurd (Eq.trans ht hlog) (hbeside _)
  | quiet hquiet => exact absurd ht (not_touches_of_quiet hquiet _)

end Fits

/-! ## A launch, step by step -/

/-- How far a launch is. -/
structure View where
  /-- The root disk of the image is there. -/
  built : Bool
  /-- The files that are in the jail, with those that were given for them. -/
  linked : List (Path × Path)
  /-- Files have been overwritten. -/
  late : Bool
  /-- The root disk or a file of the jail could not be made. -/
  failed : Bool

namespace View

def pre (root : Path) (name : String) (op : HostOp) (v : View) : Prop :=
  Fits root name op ∧ v.failed = false ∧
    match op with
    | .buildBaseRootfs _ _ _ => v.built = false
    | .linkOrCopy _ dst => v.built = true ∧ v.late = false ∧ ∀ f ∈ v.linked, f.2 ≠ dst
    | _ => v.built = true

def next (op : HostOp) (ok : Bool) (v : View) : View :=
  match op with
  | .buildBaseRootfs _ _ _ => if ok then { v with built := true } else { v with failed := true }
  | .linkOrCopy src dst => if ok then { v with linked := (src, dst) :: v.linked } else { v with failed := true }
  | op => { v with late := v.late || overwrites op }

end View

/-- What has become of the files of `fs`, for a launch whose files have the contents `given`. -/
structure Linking (root : Path) (name : String) (given : Path → Option (List UInt8)) (fs : Fs) (v : View)
    (d : Fs) : Prop where
  snapshots : ∀ x rest, d.get (jailSnapshots root name ++ x :: rest) =
    fs.get (jailSnapshots root name ++ x :: rest)
  /-- What was in the jail is still there. -/
  old : ∀ dst ∈ jailed root name, fs.get dst ≠ none → d.get dst = fs.get dst
  start : v.failed = false → v.built = false → d = fs
  /-- What is given can still be had. -/
  source : v.failed = false → v.built = true → v.late = false → ∀ p bytes, given p = some bytes →
    d.get p = some (.file bytes)
  todo : v.failed = false → ∀ dst ∈ jailed root name, (∀ f ∈ v.linked, f.2 ≠ dst) → d.get dst = fs.get dst
  done : ∀ f ∈ v.linked, f.2 ∈ jailed root name ∧
    (fs.get f.2 = none → ∀ bytes, given f.1 = some bytes → d.get f.2 = some (.file bytes))

namespace Linking

variable {root : Path} {env : FileEnv} {name : String} {given : Path → Option (List UInt8)} {fs d d' : Fs}
  {v : View} {op : HostOp} {ok : Bool}

/-- When a launch has failed, there is less to say. -/
theorem of_failed (hfailed : v.failed = true)
    (hsnapshots : ∀ x rest, d.get (jailSnapshots root name ++ x :: rest) =
      fs.get (jailSnapshots root name ++ x :: rest))
    (hold : ∀ dst ∈ jailed root name, fs.get dst ≠ none → d.get dst = fs.get dst)
    (hdone : ∀ f ∈ v.linked, f.2 ∈ jailed root name ∧
      (fs.get f.2 = none → ∀ bytes, given f.1 = some bytes → d.get f.2 = some (.file bytes))) :
    Linking root name given fs v d := by
  have hnot : v.failed ≠ false := by
    rw [hfailed]
    exact Bool.true_eq_false_eq_False
  exact ⟨hsnapshots, hold, fun h => absurd h hnot, fun h => absurd h hnot, fun h => absurd h hnot, hdone⟩

/-- No step is for a snapshot. -/
theorem snapshots_of_done (h : Linking root name given fs v d) (hfits : Fits root name op)
    (hdone : Done root env op ok d d') (x : String) (rest : Path) :
    d'.get (jailSnapshots root name ++ x :: rest) = fs.get (jailSnapshots root name ++ x :: rest) :=
  (hdone.within _ (hfits.not_touches_snapshot x rest)).trans (h.snapshots x rest)

/-- A file of the jail is made by a link and by no other step. -/
theorem same_of_done (hfits : Fits root name op) (hlink : ∀ src dst, op ≠ .linkOrCopy src dst)
    (hdone : Done root env op ok d d') : ∀ dst ∈ jailed root name, d'.get dst = d.get dst := by
  intro dst hdst
  refine hdone.within dst (fun ht => ?_)
  obtain ⟨src, hop⟩ := hfits.link_of_touches hdst ht
  exact hlink src dst hop

theorem done_of_same (h : Linking root name given fs v d)
    (hsame : ∀ dst ∈ jailed root name, d'.get dst = d.get dst) : ∀ f ∈ v.linked, f.2 ∈ jailed root name ∧
      (fs.get f.2 = none → ∀ bytes, given f.1 = some bytes → d'.get f.2 = some (.file bytes)) := by
  intro f hf
  obtain ⟨hmem, hfile⟩ := h.done f hf
  exact ⟨hmem, fun hnone bytes hbytes => (hsame f.2 hmem).trans (hfile hnone bytes hbytes)⟩

/-- A step that is not for a file of the jail. -/
theorem other (h : Linking root name given fs v d) (hfits : Fits root name op) (hbuilt : v.built = true)
    (hlink : ∀ src dst, op ≠ .linkOrCopy src dst) (hdone : Done root env op ok d d') :
    Linking root name given fs { v with late := v.late || overwrites op } d' := by
  have hsame := same_of_done hfits hlink hdone
  constructor
  · exact h.snapshots_of_done hfits hdone
  · exact fun dst hdst hold => (hsame dst hdst).trans (h.old dst hdst hold)
  · exact fun _ hnot => absurd (hnot.symm.trans hbuilt) Bool.false_ne_true
  · intro hfailed _ hlate p bytes hp
    rw [Bool.or_eq_false_iff] at hlate
    have hget := h.source hfailed hbuilt hlate.1 p bytes hp
    rw [hdone.grows hlate.2 p (by rw [hget]; exact Option.some_ne_none _), hget]
  · exact fun hfailed dst hdst hnot => (hsame dst hdst).trans (h.todo hfailed dst hdst hnot)
  · exact h.done_of_same hsame

/-- The root disk is built, or was there. -/
theorem build (h : Linking root name given fs v d) {image : String} {init : Path} {sshd : Option Path}
    (hgiven : ∀ p bytes, given p = some bytes → fs.get p = some (.file bytes) ∨
      fs.get p = none ∧ p = env.baseImagePath root ∧ bytes = env.built)
    (hbuilt : v.built = false) (hdone : Done root env (.buildBaseRootfs image init sshd) ok d d') :
    Linking root name given fs (View.next (.buildBaseRootfs image init sshd) ok v) d' := by
  have hsnapshots := h.snapshots_of_done .image hdone
  have hfits : Fits root name (.buildBaseRootfs image init sshd) := .image
  have hsame := same_of_done hfits (fun _ _ heq => HostOp.noConfusion heq) hdone
  have hold : ∀ dst ∈ jailed root name, fs.get dst ≠ none → d'.get dst = fs.get dst :=
    fun dst hdst hthere => (hsame dst hdst).trans (h.old dst hdst hthere)
  cases ok with
  | false => exact of_failed rfl hsnapshots hold (h.done_of_same hsame)
  | true =>
    refine ⟨hsnapshots, hold, fun _ hnot => absurd hnot.symm Bool.false_ne_true, ?_, ?_,
      h.done_of_same hsame⟩
    · intro hfailed _ _ p bytes hp
      obtain rfl := h.start hfailed hbuilt
      rcases hgiven p bytes hp with hfile | ⟨hnone, rfl, rfl⟩
      · rw [hdone.grows rfl p (by rw [hfile]; exact Option.some_ne_none _), hfile]
      · exact hdone.built image init sshd rfl rfl hnone
    · exact fun hfailed dst hdst hnot => (hsame dst hdst).trans (h.todo hfailed dst hdst hnot)

/-- A file is put into the jail, unless it is there. -/
theorem link (h : Linking root name given fs v d) {src dst : Path} (hdst : dst ∈ jailed root name)
    (hfailed : v.failed = false) (hbuilt : v.built = true) (hlate : v.late = false)
    (hnew : ∀ f ∈ v.linked, f.2 ≠ dst) (hdone : Done root env (.linkOrCopy src dst) ok d d') :
    Linking root name given fs (View.next (.linkOrCopy src dst) ok v) d' := by
  have hgrows : d.Grows d' := hdone.grows rfl
  have hsnapshots := h.snapshots_of_done (.link hdst) hdone
  have hold : ∀ dst' ∈ jailed root name, fs.get dst' ≠ none → d'.get dst' = fs.get dst' := by
    intro dst' hdst' hthere
    have heq := h.old dst' hdst' hthere
    rw [hgrows dst' (by rw [heq]; exact hthere), heq]
  have hlinked : ∀ f ∈ v.linked, f.2 ∈ jailed root name ∧
      (fs.get f.2 = none → ∀ bytes, given f.1 = some bytes → d'.get f.2 = some (.file bytes)) := by
    intro f hf
    obtain ⟨hmem, hfile⟩ := h.done f hf
    refine ⟨hmem, fun hnone bytes hbytes => ?_⟩
    rw [hdone.within f.2 (hnew f hf)]
    exact hfile hnone bytes hbytes
  cases ok with
  | false =>
    exact of_failed rfl hsnapshots hold hlinked
  | true =>
    refine ⟨hsnapshots, hold, fun _ hnot => absurd (hnot.symm.trans hbuilt) Bool.false_ne_true, ?_, ?_, ?_⟩
    · intro _ _ _ p bytes hp
      have hget := h.source hfailed hbuilt hlate p bytes hp
      rw [hgrows p (by rw [hget]; exact Option.some_ne_none _), hget]
    · intro _ dst' hdst' hnot
      have hne : dst' ≠ dst := fun heq => hnot (src, dst) List.mem_cons_self heq.symm
      rw [hdone.within dst' hne]
      exact h.todo hfailed dst' hdst' (fun f hf => hnot f (List.mem_cons_of_mem _ hf))
    · intro f hf
      rcases List.mem_cons.mp hf with rfl | hmem
      · -- it was missing, and so it is missing still
        refine ⟨hdst, fun hnone bytes hbytes => ?_⟩
        have hmissing : d.get dst = none := (h.todo hfailed dst hdst hnew).trans hnone
        exact hdone.linked src dst rfl rfl hmissing bytes
          (Fs.readFile_eq_some.mpr (h.source hfailed hbuilt hlate src bytes hbytes))
      · exact hlinked f hmem

/-- **One step.** -/
theorem step (h : Linking root name given fs v d) (hpre : View.pre root name op v)
    (hgiven : ∀ p bytes, given p = some bytes → fs.get p = some (.file bytes) ∨
      fs.get p = none ∧ p = env.baseImagePath root ∧ bytes = env.built)
    (hdone : Done root env op ok d d') : Linking root name given fs (View.next op ok v) d' := by
  obtain ⟨hfits, hfailed, hop⟩ := hpre
  cases op with
  | buildBaseRootfs image init sshd => exact h.build hgiven hop hdone
  | linkOrCopy src dst =>
    obtain ⟨hbuilt, hlate, hnew⟩ := hop
    have hdst : dst ∈ jailed root name := by
      cases hfits with
      | link hdst => exact hdst
      | quiet hquiet => cases hquiet
    exact h.link hdst hfailed hbuilt hlate hnew hdone
  | _ => exact h.other hfits hop (fun _ _ heq => HostOp.noConfusion heq) hdone

end Linking

/-! ## The scripts -/

/-- The steps of the task come in order, and it ends in `P` if it succeeds. -/
def Takes {α : Type} (root : Path) (name : String) (P : View → Prop) (v : View) (t : HostM α) : Prop :=
  Task.Safe (View.pre root name) View.next (fun v _ => P v) (fun _ => True) v t

section Takes

variable {α β : Type} {root : Path} {name : String} {P : View → Prop} {v : View}

theorem takes_bind {t : HostM α} {f : α → HostM β}
    (h : Takes root name (fun v => ∀ a, Takes root name P v (f a)) v t) :
    Takes root name P v (t >>= f) :=
  Task.safe_bind (Task.Safe.mono (fun _ a hf => hf a) (fun _ he => he) h)

variable {op : HostOp}

theorem takes_call {context : String} (hpre : View.pre root name op v)
    (h : P (View.next op true v)) : Takes root name P v (call op context) :=
  Task.safe_perform hpre h trivial

theorem next_of_quiet (h : op.isFile = false) (ok : Bool) (v : View) : View.next op ok v = v := by
  cases op with
  | buildBaseRootfs image init sshd | createDirAll p | linkOrCopy src dst
  | ensureSshKey root' | writeConfig p cfg | bindListener p | spawnWorker worker => cases h
  | _ => simp [View.next, overwrites]

theorem pre_of_quiet (h : op.isFile = false) (hbuilt : v.built = true)
    (hfailed : v.failed = false) : View.pre root name op v := by
  refine ⟨.quiet h, hfailed, ?_⟩
  cases op with
  | buildBaseRootfs image init sshd | linkOrCopy src dst => cases h
  | _ => exact hbuilt

/-- Steps that do nothing to the files. -/
theorem takes_of_avoids {t : HostM α} (ht : t.Avoids HostOp.isFile) (hbuilt : v.built = true)
    (hfailed : v.failed = false) (h : P v) : Takes root name P v t := by
  have hscript : ∀ s : Script HostOp (Except HostError α), s.Avoids HostOp.isFile → Takes root name P v s := by
    intro s hs
    induction s with
    | done r =>
      cases r with
      | error e => exact trivial
      | ok a => exact h
    | op o k ih =>
      refine ⟨pre_of_quiet hs.1 hbuilt hfailed, fun b => ?_⟩
      rw [next_of_quiet hs.1]
      exact ih b (hs.2 b)
  exact hscript t ht

end Takes

section Quiet

theorem quiet_cloneNetwork (plan : CloneNetPlan) : (cloneNetwork plan).Avoids HostOp.isFile := by
  refine Task.avoids_bind (Task.avoids_forEach (fun _ => avoids_call rfl _) _) fun _ =>
    Task.avoids_bind (Task.avoids_result (Task.avoids_bind (avoids_call rfl _) fun _ =>
      Task.avoids_forEach (fun _ => avoids_call rfl _) _)) fun wired => ?_
  cases wired with
  | ok _ => exact Task.avoids_pure
  | error e =>
    exact Task.avoids_bind (Task.avoids_forEach (fun _ => Task.avoids_act rfl) _) fun _ => Task.avoids_fail

theorem quiet_restoreNetwork (env : HostEnv) (spec : RestoreSpec) :
    (restoreNetwork env spec).Avoids HostOp.isFile := by
  unfold restoreNetwork
  cases spec.cloneNet with
  | none => exact Task.avoids_bind (avoids_bridgeNetwork _ _ _ rfl) fun _ => Task.avoids_pure
  | some cn =>
    exact Task.avoids_bind (avoids_okOr _ _) fun _ => Task.avoids_bind (quiet_cloneNetwork _) fun _ =>
      Task.avoids_pure

end Quiet

/-- A launch that has come this far. -/
def atLinks (linked : List (Path × Path)) : View := ⟨true, linked, false, false⟩

section Scripts

variable {root : Path} {name : String} {P : View → Prop}

variable {context : String} {linked : List (Path × Path)}

theorem takes_quiet {op : HostOp} {v : View} (h : op.isFile = false) (hbuilt : v.built = true)
    (hfailed : v.failed = false) (hP : P v) : Takes root name P v (call op context) :=
  takes_of_avoids (avoids_call h context) hbuilt hfailed hP

theorem takes_link {src dst : Path} (hdst : dst ∈ jailed root name) (hnew : ∀ f ∈ linked, f.2 ≠ dst)
    (hP : P (atLinks ((src, dst) :: linked))) :
    Takes root name P (atLinks linked) (call (.linkOrCopy src dst) context) :=
  takes_call ⟨.link hdst, rfl, rfl, rfl, hnew⟩ hP

theorem takes_createDirAll {p : Path} (hfits : Fits root name (.createDirAll p)) (hP : P (atLinks linked)) :
    Takes root name P (atLinks linked) (call (.createDirAll p) context) :=
  takes_call ⟨hfits, rfl, rfl⟩ hP

theorem takes_prepareJail {kernel rootfs : Path}
    (hP : P (atLinks [(rootfs, jailRootfs root name), (kernel, jailKernel root name)])) :
    Takes root name P (atLinks []) (prepareJail root name kernel rootfs) := by
  have hne : jailKernel root name ≠ jailRootfs root name := by simp [jailKernel, jailRootfs]
  refine takes_bind (takes_createDirAll .jail fun _ => ?_)
  refine takes_bind (takes_link (by simp [jailed]) (List.forall_mem_nil _) fun _ => ?_)
  refine takes_bind (takes_link (by simp [jailed]) (List.forall_mem_singleton.mpr hne) fun _ => ?_)
  exact takes_quiet rfl rfl rfl hP

theorem takes_prepareSnapshots (hP : P (atLinks linked)) :
    Takes root name P (atLinks linked) (prepareSnapshots root name) :=
  takes_bind (takes_createDirAll .snapshots fun _ => takes_quiet rfl rfl rfl hP)

theorem takes_startWorker {v : View} {env : HostEnv} {ip : Ipv4Addr} {tapName : String} {cfg : VmConfig}
    {detach : Bool} {restoreDir : Option Path} (hbuilt : v.built = true) (hfailed : v.failed = false)
    (hP : P { v with late := true }) :
    Takes root name P v (startWorker env root name ip tapName cfg detach restoreDir) := by
  unfold startWorker
  dsimp only
  split_ifs
  · exact trivial
  · have hlate : View.next (.writeConfig (jailDir root name ++ ["config.json"]) cfg) true v =
        { v with late := true } := by simp [View.next, overwrites]
    refine takes_bind (takes_call ⟨.config, hfailed, hbuilt⟩ fun _ => ?_)
    rw [hlate]
    refine takes_bind (takes_call ⟨.listener (by decide), hfailed, hbuilt⟩ fun _ => ?_)
    refine takes_bind (takes_call ⟨.listener (by decide), hfailed, hbuilt⟩ fun _ => ?_)
    exact takes_bind (takes_call ⟨.worker rfl, hfailed, hbuilt⟩ fun _ => hP)

/-- `launch` puts the kernel and the root disk into the jail. -/
theorem takes_launch (env : HostEnv) (spec : LaunchSpec) (hroot : spec.stateRoot = root)
    (hP : P { atLinks [(env.rootfs spec.image spec.mmInitPath spec.sshdPath, jailRootfs root spec.name),
      (spec.kernelPath, jailKernel root spec.name)] with late := true }) :
    Takes root spec.name P ⟨false, [], false, false⟩ (launch env spec) := by
  subst hroot
  refine takes_bind (takes_call ⟨.image, rfl, rfl⟩ fun _ => ?_)
  refine takes_bind (takes_of_avoids (avoids_bridgeNetwork _ _ _ rfl) rfl rfl fun net => ?_)
  refine takes_bind (takes_quiet rfl rfl rfl fun _ => ?_)
  refine takes_bind (takes_prepareJail fun _ => ?_)
  refine takes_bind (takes_prepareSnapshots fun _ => ?_)
  refine takes_bind (takes_call ⟨.key, rfl, rfl⟩ fun _ => ?_)
  dsimp only
  split_ifs
  · exact takes_startWorker rfl rfl hP
  · exact takes_bind (takes_quiet rfl rfl rfl fun _ => takes_startWorker rfl rfl hP)

theorem takes_linkSnapshotDir {src : Path}
    (hnew : ∀ f ∈ linked, ∀ file, f.2 ≠ jailRestore root name ++ [file])
    (hP : P (atLinks ([MEMORY_FILE, STATE_FILE, MANIFEST_FILE].map
      (fun file => (src ++ [file], jailRestore root name ++ [file])) ++ linked))) :
    Takes root name P (atLinks linked) (linkSnapshotDir src (jailRestore root name)) := by
  refine takes_bind (takes_bind (takes_link (by simp [jailed]) (fun f hf => hnew f hf _)
    fun _ => takes_quiet rfl rfl rfl fun _ => ?_))
  refine takes_bind (takes_bind (takes_link (by simp [jailed]) ?_ fun _ => takes_quiet rfl rfl rfl fun _ => ?_))
  · simp only [List.forall_mem_cons]
    exact ⟨by simp [MANIFEST_FILE, STATE_FILE], fun f hf => hnew f hf _⟩
  refine takes_bind (takes_bind (takes_link (by simp [jailed]) ?_ fun _ => takes_quiet rfl rfl rfl fun _ => hP))
  simp only [List.forall_mem_cons]
  exact ⟨by simp [MEMORY_FILE, STATE_FILE], by simp [MEMORY_FILE, MANIFEST_FILE], fun f hf => hnew f hf _⟩

/-- `restore_launch` puts five files into the jail. -/
theorem takes_restoreLaunch (env : HostEnv) (spec : RestoreSpec) (hroot : spec.stateRoot = root)
    (hP : P { atLinks ([MEMORY_FILE, STATE_FILE, MANIFEST_FILE].map
        (fun file => (spec.snapshotDir ++ [file], jailRestore root spec.name ++ [file])) ++
      [(spec.rootfsPath, jailRootfs root spec.name), (spec.kernelPath, jailKernel root spec.name)]) with
      late := true }) :
    Takes root spec.name P (atLinks []) (restoreLaunch env spec) := by
  subst hroot
  refine takes_bind (takes_of_avoids (quiet_restoreNetwork _ _) rfl rfl fun net => ?_)
  refine takes_bind (takes_quiet rfl rfl rfl fun _ => ?_)
  refine takes_bind (takes_prepareJail fun _ => ?_)
  refine takes_bind (takes_createDirAll .restore fun _ => ?_)
  refine takes_bind (takes_linkSnapshotDir ?_ fun _ => ?_)
  · simp [jailKernel, jailRootfs, jailRestore]
  refine takes_bind (takes_quiet rfl rfl rfl fun _ => ?_)
  exact takes_bind (takes_prepareSnapshots fun _ => takes_startWorker rfl rfl hP)

end Scripts

/-! ## A launch that succeeds -/

section Launch

variable {root : Path} {env : FileEnv} {name : String} {given : Path → Option (List UInt8)} {fs : Fs}

/-- What is in the jail in the end. -/
theorem safe_linking {t : HostM LaunchOutcome} {files : List (Path × Path)} {v : View}
    (hgiven : ∀ p bytes, given p = some bytes → fs.get p = some (.file bytes) ∨
      fs.get p = none ∧ p = env.baseImagePath root ∧ bytes = env.built)
    (hv : Linking root name given fs v fs) (ht : Takes root name (fun v => ∀ f ∈ files, f ∈ v.linked) v t) :
    ((Script.interp (fileOp root env) t).bind (fun r => .done r.toOption)).Safe (fun _ => True)
      (fun d r => r.isSome = true → ∃ v, Linking root name given fs v d ∧ ∀ f ∈ files, f ∈ v.linked) fs := by
  have hop : ∀ op v d, View.pre root name op v → Linking root name given fs v d →
      (fileOp root env op).Safe (fun _ => True) (fun d ok => Linking root name given fs (View.next op ok v) d) d :=
    fun op v d hpre hd => (fileOp_done op d).mono (fun _ _ => trivial)
      (fun d' ok hdone => hd.step hpre hgiven hdone)
  have hinterp := Script.Safe.interp hop ht hv
  refine Prog.Safe.bind (hinterp.mono (fun _ h => h) ?_)
  rintro d r ⟨v, hlinking, hpost⟩ hsome
  cases r with
  | error e => cases hsome
  | ok out => exact ⟨v, hlinking, hpost⟩

/-- The files of a launch that has succeeded. -/
theorem FileCall.safe_files {c : FileCall} (hc : c.machine = some name) (fs : Fs) :
    (c.prog root).Safe (fun _ => True) (fun d r => r.isSome = true →
      ∃ v, Linking root name (fun p => c.content root fs p) fs v d ∧ ∀ f ∈ c.files root, f ∈ v.linked) fs := by
  cases c with
  | launch env spec =>
    cases hc
    refine safe_linking ?_ ?_ (takes_launch (env.host root) { spec with stateRoot := root } rfl ?_)
    · intro p bytes hp
      simp only [content] at hp
      split_ifs at hp with hbase
      · obtain ⟨hnone, rfl⟩ := hbase
        exact Or.inr ⟨hnone, rfl, (Option.some.inj hp).symm⟩
      · exact Or.inl (Fs.readFile_eq_some.mp hp)
    · exact ⟨fun _ _ => rfl, fun _ _ _ => rfl, fun _ _ => rfl, fun _ hnot => absurd hnot Bool.false_ne_true,
        fun _ _ _ _ => rfl, List.forall_mem_nil _⟩
    · simp [files, atLinks, FileEnv.host]
  | restore env spec =>
    cases hc
    refine safe_linking (fun p bytes hp => Or.inl (Fs.readFile_eq_some.mp hp)) ?_
      (takes_restoreLaunch (env.host root) { spec with stateRoot := root } rfl ?_)
    · exact ⟨fun _ _ => rfl, fun _ _ _ => rfl, fun _ _ => rfl,
        fun _ _ _ p bytes hp => Fs.readFile_eq_some.mp hp, fun _ _ _ _ => rfl, List.forall_mem_nil _⟩
    · simp [files, atLinks]
  | _ => cases hc

end Launch

/-! ## Names that are not used -/

def jailsDir (root : Path) : Path := root ++ ["jails"]

/-- There is no jail under these names. -/
def NoJail (root : Path) (unused : String → Prop) (fs : Fs) : Prop :=
  ∀ x, unused x → fs.get (jailDir root x) = none

section NoJail

variable {root : Path} {env : FileEnv} {name : String} {unused : String → Prop} {d d' : Fs}

theorem NoJail.within (h : NoJail root unused d) {op : HostOp} (hfits : Fits root name op) (hused : ¬ unused name)
    (hwithin : d.Within (touches root env op) d') : NoJail root unused d' := by
  intro x hx
  rw [hwithin (jailDir root x)]
  · exact h x hx
  · intro ht
    exact hused (hfits.jail_of_touches ht ▸ hx)

theorem NoJail.only (h : NoJail root unused d) {dir : Path} {file : String} (hdir : dir ≠ jailsDir root)
    (honly : d.Only (dir ++ [file]) d') : NoJail root unused d' := by
  intro x hx
  rw [honly (jailDir root x)]
  · exact h x hx
  · intro heq
    have hsplit : jailsDir root ++ [x] = dir ++ [file] := by simpa [jailsDir, jailDir] using heq
    exact hdir (List.append_inj' hsplit rfl).1.symm

theorem NoJail.shrinks (h : NoJail root unused d) {p : Path} (hshrinks : d.Shrinks p d') :
    NoJail root unused d' := by
  intro x hx
  rcases hshrinks (jailDir root x) with heq | ⟨-, hnone⟩
  · rw [heq]
    exact h x hx
  · exact hnone

/-- A launch makes no jail but its own. -/
theorem safe_launch_noJail {t : HostM LaunchOutcome} {v : View} (hused : ¬ unused name)
    (ht : Takes root name (fun _ => True) v t) (hd : NoJail root unused d) :
    ((Script.interp (fileOp root env) t).bind (fun r => .done r.toOption)).Safe (NoJail root unused)
      (fun _ _ => True) d := by
  have hop : ∀ op v d, View.pre root name op v → NoJail root unused d →
      (fileOp root env op).Safe (NoJail root unused) (fun d _ => NoJail root unused d) d :=
    fun op v d hpre hd => (fileOp_done op d).mono (fun d' hwithin => hd.within hpre.1 hused hwithin)
      (fun d' ok hdone => hd.within hpre.1 hused hdone.within)
  have hinterp := Script.Safe.interp hop ht hd
  exact Prog.Safe.bind (hinterp.mono (fun _ h => h) (fun _ _ _ => trivial))

theorem safe_edit_noJail (e : Edit) (hdir : e.dir ≠ jailsDir root) (hd : NoJail root unused d) :
    Safe (NoJail root unused) (fun _ _ => True) (fun _ => True) d e.prog := by
  cases e with
  | mkdir dir name =>
    refine safe_change hd (fun d' h => ⟨?_, trivial⟩) trivial
    exact hd.only hdir (Fs.createDir_ok h).2.2
  | write dir name bytes =>
    exact safe_writeFile_only.mono (fun d' h => hd.only hdir h) (fun _ _ _ => trivial) (fun _ _ => trivial)
  | unlink dir name =>
    refine safe_change hd (fun d' h => ⟨?_, trivial⟩) trivial
    exact hd.only hdir (Fs.unlink_ok h).2
  | rmdir dir name =>
    refine safe_change hd (fun d' h => ⟨?_, trivial⟩) trivial
    exact hd.only hdir (Fs.rmdir_ok h).2

theorem safe_rm_noJail (name : String) (o : EntryOrder) (hd : NoJail root unused d) :
    Safe (NoJail root unused) (fun _ _ => True) (fun _ => True) d (removeInstanceOverlay root name o) := by
  refine safe_bind (safe_pathExists hd (fun _ => ?_) (fun _ => ?_) trivial)
  · refine safe_bind (safe_look hd (fun size _ => ?_) trivial)
    exact (safe_removeTree_shrinks _ _ _ d).mono (fun d' h => hd.shrinks h) (fun _ _ _ => trivial)
      (fun _ _ => trivial)
  · exact safe_pure trivial

/-- **Every call.** -/
theorem FileCall.safe_noJail {c : FileCall} (hused : ∀ name, c.machine = some name → ¬ unused name)
    (hedit : ∀ e, c = .edit e → e.dir ≠ jailsDir root) (hd : NoJail root unused d) :
    (c.prog root).Safe (NoJail root unused) (fun _ _ => True) d := by
  cases c with
  | launch env spec =>
    exact safe_launch_noJail (hused spec.name rfl)
      (takes_launch (env.host root) { spec with stateRoot := root } rfl trivial) hd
  | restore env spec =>
    exact safe_launch_noJail (hused spec.name rfl)
      (takes_restoreLaunch (env.host root) { spec with stateRoot := root } rfl trivial) hd
  | stop name => exact trivial
  | rm name o =>
    exact Prog.Safe.bind (Prog.Safe.mono (fun _ h => h) (fun _ _ _ => trivial) (safe_rm_noJail name o hd))
  | edit e =>
    exact Prog.Safe.bind (Prog.Safe.mono (fun _ h => h) (fun _ _ _ => trivial)
      (safe_edit_noJail e (hedit e rfl) hd))

end NoJail

/-! ## The result -/

section OwnFiles

variable {json : Json} {root : Path} {name : String} {fs fs' : Fs}

/-- The list of the snapshots is empty if it was, and nothing has changed among them. -/
theorem snapshotsOf_nil (hsame : ∀ x rest, fs'.get (jailSnapshots root name ++ x :: rest) =
      fs.get (jailSnapshots root name ++ x :: rest))
    (h : snapshotsOf json root name fs = .ok []) : snapshotsOf json root name fs' = .ok [] := by
  obtain ⟨x, hdir⟩ : ∃ x, (SnapshotStore.new (jailRoot root name)).machineDir SNAPSHOT_BUCKET =
      jailSnapshots root name ++ [x] := ⟨_, rfl⟩
  refine SnapshotStore.list_eq_nil_of_same (fun rest => ?_) h
  rw [hdir, List.append_assoc]
  exact hsame x rest

/-- Where there is no jail, there is nothing of a machine. -/
theorem clean_of_noJail {c : FileCall} (hc : c.machine = some name) (hjail : fs.get (jailDir root name) = none)
    (hgiven : ∀ f ∈ c.files root, (c.content root fs f.1).isSome = true) : Clean json root c name fs := by
  have hnone : ∀ rest : Path, fs.get (jailDir root name ++ rest) = none := by
    intro rest
    induction rest using List.reverseRecOn with
    | nil => rw [List.append_nil, hjail]
    | append_singleton rest x ih =>
      rw [← List.append_assoc]
      exact Fs.get_child_of_none ih x
  constructor
  · intro f hf
    obtain ⟨bytes, hbytes⟩ := Option.isSome_iff_exists.mp (hgiven f hf)
    refine ⟨bytes, hbytes, Or.inl ?_⟩
    obtain ⟨rest, hrest⟩ : ∃ rest, f.2 = jailDir root name ++ rest := by
      cases c with
      | launch env spec =>
        cases hc
        simp only [FileCall.files, List.mem_cons, List.not_mem_nil, or_false] at hf
        rcases hf with rfl | rfl <;> exact ⟨_, List.append_assoc _ _ _⟩
      | restore env spec =>
        cases hc
        simp only [FileCall.files, List.mem_cons, List.not_mem_nil, or_false] at hf
        rcases hf with rfl | rfl | rfl | rfl | rfl
        · exact ⟨_, List.append_assoc _ _ _⟩
        · exact ⟨_, List.append_assoc _ _ _⟩
        · exact ⟨["root", "restore", MANIFEST_FILE], by simp [jailRestore, jailRoot]⟩
        · exact ⟨["root", "restore", STATE_FILE], by simp [jailRestore, jailRoot]⟩
        · exact ⟨["root", "restore", MEMORY_FILE], by simp [jailRestore, jailRoot]⟩
      | _ => cases hc
    rw [hrest]
    exact hnone rest
  · obtain ⟨rest, hrest⟩ : ∃ rest, (SnapshotStore.new (jailRoot root name)).machineDir SNAPSHOT_BUCKET =
        jailDir root name ++ rest :=
      ⟨["root", "snapshots", sanitize SNAPSHOT_BUCKET], by
        simp [SnapshotStore.machineDir, SnapshotStore.new, jailRoot]⟩
    unfold snapshotsOf SnapshotStore.list
    rw [hrest, hnone rest]

/-- What a launch that has succeeded finds in its jail. -/
theorem ownFiles_iff_clean {c : FileCall} {v : View}
    (h : Linking root name (fun p => c.content root fs p) fs v fs') (hlinked : ∀ f ∈ c.files root, f ∈ v.linked) :
    OwnFiles json root c name fs fs' ↔ Clean json root c name fs := by
  constructor
  · intro hown
    refine ⟨fun f hf => ?_, snapshotsOf_nil (fun x rest => (h.snapshots x rest).symm) hown.snapshots⟩
    obtain ⟨bytes, hbytes, hread⟩ := hown.files f hf
    refine ⟨bytes, hbytes, ?_⟩
    by_cases hnone : fs.get f.2 = none
    · exact Or.inl hnone
    · refine Or.inr ?_
      have hold := h.old f.2 (h.done f (hlinked f hf)).1 hnone
      rw [Fs.readFile_eq_some, ← hold]
      exact Fs.readFile_eq_some.mp hread
  · intro hclean
    refine ⟨fun f hf => ?_, snapshotsOf_nil h.snapshots hclean.snapshots⟩
    obtain ⟨bytes, hbytes, hjail⟩ := hclean.files f hf
    refine ⟨bytes, hbytes, ?_⟩
    obtain ⟨hmem, hdone⟩ := h.done f (hlinked f hf)
    rw [Fs.readFile_eq_some]
    rcases hjail with hnone | hread
    · exact hdone hnone bytes hbytes
    · have hget := Fs.readFile_eq_some.mp hread
      rw [h.old f.2 hmem (by rw [hget]; exact Option.some_ne_none _), hget]

end OwnFiles

/-- **A launch and its own files.** After any calls, killed or not, a launch that succeeds uses the files that it
was given, and has no snapshot at first, if and only if its jail was clean. If no call was for a machine of its
name, it was. -/
theorem own_files_iff (json : Json) (root : Path) (fs₀ : Fs) (hnew : ∀ x, fs₀.get (jailDir root x) = none)
    (as : List (Session.Act FileCall IoError))
    (hedits : ∀ e, .start (.edit e) ∈ as → e.dir ≠ jailsDir root)
    (s : Session Fs IoError (Option LaunchOutcome))
    (hrun : run (Session.step (FileCall.prog root)) ⟨fs₀, none⟩ as = some s)
    (c : FileCall) (name : String) (hc : c.machine = some name) (bs : List (Session.Act FileCall IoError))
    (hstay : .leave ∉ bs) (fs' : Fs) (out : LaunchOutcome)
    (hcall : run (Session.step (FileCall.prog root)) ⟨s.store, none⟩ (.start c :: bs) =
      some ⟨fs', some (.done (some out))⟩) :
    (OwnFiles json root c name s.store fs' ↔ Clean json root c name s.store) ∧
      ((∀ c', .start c' ∈ as → c'.machine ≠ some name) →
        (∀ f ∈ c.files root, (c.content root s.store f.1).isSome = true) →
          OwnFiles json root c name s.store fs') := by
  obtain ⟨v, hlinking, hlinked⟩ := Session.finishes_safe (FileCall.safe_files hc s.store) hstay hcall rfl
  have hiff : OwnFiles json root c name s.store fs' ↔ Clean json root c name s.store :=
    ownFiles_iff_clean hlinking hlinked
  refine ⟨hiff, fun hunused hgiven => hiff.mpr (clean_of_noJail hc ?_ hgiven)⟩
  have hnone := Session.run_safe (NoJail root (fun x => ∀ c', .start c' ∈ as → c'.machine ≠ some x)) as
    (fun c' hc' d hd => FileCall.safe_noJail (fun x hx hnot => hnot c' hc' hx)
      (fun e he => hedits e (he ▸ hc')) hd) (fun x _ => hnew x) hrun
  exact hnone name hunused

/-! ## Runs -/

/-- A host on which an image resolves to the given digest, and its root disk has this content. -/
def fileEnv (hex : String) (built : List UInt8) : FileEnv where
  rootfs _ _ _ := []
  imageArgv _ := ["/bin/sh"]
  authorizedKey := [1]
  randomSeed := none
  egress := some "eth0"
  pid := 100
  algorithm := "sha256"
  hex := hex
  tag := "init"
  built := built
  privateKey := [2]
  serialized _ := [3]

def webSpec (image : String) : LaunchSpec where
  image := image
  name := "web"
  cpus := 1
  memoryMib := 256
  ssh := true
  detach := true
  stateRoot := []
  kernelPath := ["vmlinux"]
  mmInitPath := ["mm-init"]
  sshdPath := none
  reservedIps := []

/-- A kernel is put in place. -/
def kernelPlaced : List (Session.Act FileCall IoError) :=
  .start (.edit (.write [] "vmlinux" [7])) :: List.replicate 2 .stmt ++ [.leave]

/-- `mm run` of a machine `web` whose image has the given digest and root disk. -/
def runsWeb (hex : String) (built : List UInt8) : FileCall := .launch (fileEnv hex built) (webSpec "alpine")

/-- The worker of `web` writes a snapshot, and `mm rm` finds no overlay to remove. -/
def snapshotted : List (Session.Act FileCall IoError) :=
  ([.start (.edit (.mkdir ["jails", "web", "root", "snapshots"] "local")), .stmt, .leave,
      .start (.edit (.mkdir ["jails", "web", "root", "snapshots", "local"] "7")), .stmt, .leave,
      .start (.edit (.write ["jails", "web", "root", "snapshots", "local", "7"] MANIFEST_FILE
        (List.replicate 25 0)))] : List (Session.Act FileCall IoError)) ++ List.replicate 26 .stmt ++
    [.leave, .start (.rm "web" (EntryOrder.first MANIFEST_FILE)), .stmt, .leave]

/-- A launch has just succeeded. -/
def succeeds (s : Session Fs IoError (Option LaunchOutcome)) : Bool :=
  match s.running with
  | some (.done r) => r.isSome
  | _ => false

theorem eq_of_succeeds {s : Session Fs IoError (Option LaunchOutcome)} (h : succeeds s = true) :
    ∃ out, s = ⟨s.store, some (.done (some out))⟩ := by
  obtain ⟨d, running⟩ := s
  cases running with
  | none => cases h
  | some p =>
    cases p with
    | stmt u n e => cases h
    | done r =>
      cases r with
      | none => cases h
      | some out => exact ⟨out, rfl⟩

/-- The first machine of a name. -/
theorem own_files_first :
    ∃ s fs' out, run (Session.step (FileCall.prog [])) ⟨Fs.empty, none⟩ kernelPlaced = some s ∧
      run (Session.step (FileCall.prog [])) ⟨s.store, none⟩
        (.start (runsWeb "aa" [5]) :: List.replicate 40 .stmt) = some ⟨fs', some (.done (some out))⟩ ∧
      OwnFiles fixedWidth [] (runsWeb "aa" [5]) "web" s.store fs' := by
  obtain ⟨s, hs, hboth⟩ : ∃ s, run (Session.step (FileCall.prog [])) ⟨Fs.empty, none⟩ kernelPlaced = some s ∧
      ((runsWeb "aa" [5]).files []).all (fun f => ((runsWeb "aa" [5]).content [] s.store f.1).isSome) &&
        (run (Session.step (FileCall.prog [])) ⟨s.store, none⟩
          (.start (runsWeb "aa" [5]) :: List.replicate 40 .stmt)).any succeeds :=
    exists_of_any (by decide +kernel)
  obtain ⟨hgiven, hsucceeds⟩ := (Bool.and_eq_true_iff).mp hboth
  obtain ⟨s', hs', hdone⟩ := (Option.any_eq_true _ _).mp hsucceeds
  obtain ⟨out, hout⟩ := eq_of_succeeds hdone
  rw [hout] at hs'
  refine ⟨s, s'.store, out, hs, hs', ?_⟩
  refine (own_files_iff fixedWidth [] Fs.empty (fun _ => rfl) kernelPlaced ?_ s hs (runsWeb "aa" [5]) "web" rfl
    (List.replicate 40 .stmt) (by simp) s'.store out hs').2 ?_ (List.all_eq_true.mp hgiven)
  · intro e he
    have heq : e = .write [] "vmlinux" [7] := by simpa [kernelPlaced] using he
    rw [heq]
    simp [Edit.dir, jailsDir]
  · intro c' hc'
    have heq : c' = .edit (.write [] "vmlinux" [7]) := by simpa [kernelPlaced] using hc'
    rw [heq]
    simp [FileCall.machine]

/-- The name is used again, when its image has another root disk: the worker opens the root disk of the first
machine, and the snapshot of that is listed as its own. -/
theorem stale_rootfs : (run (Session.step (FileCall.prog [])) ⟨Fs.empty, none⟩
      (kernelPlaced ++ .start (runsWeb "aa" [5]) :: List.replicate 40 .stmt ++ .leave :: snapshotted ++
        .start (runsWeb "bb" [6]) :: List.replicate 27 .stmt)).map (fun s =>
          (succeeds s, s.store.readFile ["images", "sha256", "bb.init.ext4"],
            s.store.readFile (jailRootfs [] "web"),
            (snapshotsOf fixedWidth [] "web" s.store).toOption.map (fun snaps => snaps.map SnapshotRef.id))) =
      some (true, some [6], some [5], some ["7"]) := by
  decide +kernel

end MicroMachines.Host
