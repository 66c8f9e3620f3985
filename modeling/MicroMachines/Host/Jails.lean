import MicroMachines.Host.Launch

set_option autoImplicit false

/-! # The files of a jail

What the steps of a launch do to the files of the host: `fileOp` makes a program of each, and `fileOp_done` says
what has become of the files when it is over. A step of a launch changes few paths (`touches`). Until the
configuration is written, nothing changes that is there; a file of the jail that is found there is taken.

A hard link is a copy here. What is written to one of its names later would be seen under the other, too; this is
left to those who write.
-/

namespace MicroMachines.Host

open MicroMachines.Lib MicroMachines.Boot MicroMachines.Net MicroMachines.Vmm
open MicroMachines.Lib.Fallible

/-! ## The steps of a launch as programs -/

/-- What the host answers, with the contents of the files that it makes. -/
structure FileEnv extends HostEnv where
  /-- The digest that the image reference resolves to at the time. -/
  algorithm : String
  hex : String
  /-- The tag of the programs that are put into the root disk. -/
  tag : String
  /-- The root disk that is built. -/
  built : List UInt8
  privateKey : List UInt8
  serialized : VmConfig → List UInt8

namespace FileEnv

variable (env : FileEnv) (root : Path)

def imageDir : Path := root ++ ["images", env.algorithm]

def imageFile : String := env.hex ++ "." ++ env.tag ++ ".ext4"

def baseImagePath : Path := env.imageDir root ++ [env.imageFile]

/-- The answers of the host, the path of the root disk among them. -/
def host : HostEnv := { env.toHostEnv with rootfs := fun _ _ _ => env.baseImagePath root }

end FileEnv

def pathExists (p : Path) : FsM Bool := look (fun fs => .ok (decide (fs.get p ≠ none)))

/-- `build_base_rootfs`, as far as its result goes: it is renamed into place when it is complete. -/
def buildBaseRootfs (root : Path) (env : FileEnv) : FsM Unit := do
  let cached ← pathExists (env.baseImagePath root)
  if cached then pure ()
  else do
    createDirAll [] (env.imageDir root)
    change (fun fs => fs.modifyFile (env.imageDir root) env.imageFile (fun _ => .ok env.built))

/-- `link_or_copy`: what is there is taken. -/
def linkOrCopy (src d : Path) (name : String) : FsM Unit := do
  let there ← pathExists (d ++ [name])
  if there then pure ()
  else do
    let linked ← attempt (hardLink src d name)
    match linked with
    | .ok _ => pure ()
    | .error _ => copyFile src d name

def sshDir (root : Path) : Path := root ++ ["ssh"]

/-- `ensure_ssh_key`. -/
def ensureSshKey (env : FileEnv) (root : Path) : FsM Unit := do
  createDirAll [] (sshDir root)
  let there ← pathExists (sshDir root ++ ["id_ed25519.pub"])
  if there then pure ()
  else do
    writeFile (sshDir root) "id_ed25519" env.privateKey
    writeFile (sshDir root) "id_ed25519.pub" env.authorizedKey

/-- Open a file at its end, or a new one. -/
def openLog (d : Path) (name : String) : FsM Unit :=
  change (fun fs => fs.modifyFile d name (fun old => .ok (old.getD [])))

/-- The part of `spawn_worker` that opens the log. -/
def spawnWorker (worker : WorkerSpec) : FsM Unit := do
  if worker.detach then atPath worker.log openLog else pure ()
  look (fun _ => .ok ())

/-- What a step of a launch does to the files. A socket is an empty file. The steps that are not named leave
the files alone, and may fail. -/
def fileOp (root : Path) (env : FileEnv) : HostOp → Prog Fs IoError Bool
  | .buildBaseRootfs _ _ _ => succeeded (buildBaseRootfs root env)
  | .createDirAll p => succeeded (createDirAll [] p)
  | .linkOrCopy src dst => succeeded (atPath dst (linkOrCopy src))
  | .ensureSshKey root' => succeeded (ensureSshKey env root')
  | .writeConfig p cfg => succeeded (atPath p (fun d name => writeFile d name (env.serialized cfg)))
  | .bindListener p => succeeded (atPath p createFile)
  | .spawnWorker worker => succeeded (spawnWorker worker)
  | _ => .stmt (fun fs => fs) (fun _ => .done true) (fun _ => .done false)

/-! ### What a step changes -/

/-- The paths that a step may change. -/
def touches (root : Path) (env : FileEnv) : HostOp → Path → Prop
  | .buildBaseRootfs _ _ _, q => q <+: env.baseImagePath root
  | .createDirAll p, q => q <+: p
  | .linkOrCopy _ dst, q => q = dst
  | .ensureSshKey root', q => q <+: sshDir root' ∨ ∃ name, q = sshDir root' ++ [name]
  | .writeConfig p _, q => q = p
  | .bindListener p, q => q = p
  | .spawnWorker worker, q => q = worker.log
  | _, _ => False

/-- The steps that write to a file that may be there. -/
def overwrites : HostOp → Bool
  | .ensureSshKey _ | .writeConfig _ _ | .bindListener _ | .spawnWorker _ => true
  | _ => false

/-- What a step has done. -/
structure Done (root : Path) (env : FileEnv) (op : HostOp) (ok : Bool) (fs fs' : Fs) : Prop where
  within : fs.Within (touches root env op) fs'
  grows : overwrites op = false → fs.Grows fs'
  linked : ∀ src dst, op = .linkOrCopy src dst → ok = true → fs.get dst = none →
    ∀ c, fs.readFile src = some c → fs'.get dst = some (.file c)
  built : ∀ image init sshd, op = .buildBaseRootfs image init sshd → ok = true →
    fs.get (env.baseImagePath root) = none → fs'.get (env.baseImagePath root) = some (.file env.built)

section Programs

variable {root : Path} {env : FileEnv} {fs : Fs}

theorem safe_pathExists {I : Fs → Prop} {Q : Fs → Bool → Prop} {E : Fs → Prop} {p : Path} (hI : I fs)
    (hthere : fs.get p ≠ none → Q fs true) (hnone : fs.get p = none → Q fs false) (herr : E fs) :
    Safe I Q E fs (pathExists p) := by
  refine safe_look hI ?_ herr
  intro b hb
  cases hb
  by_cases h : fs.get p = none
  · simpa [h] using hnone h
  · simpa [h] using hthere h

theorem safe_linkOrCopy (src d : Path) (name : String) : Safe (fs.Only (d ++ [name]))
      (fun fs' _ => fs.Only (d ++ [name]) fs' ∧ fs.Grows fs' ∧ (fs.get (d ++ [name]) = none →
        ∀ c, fs.readFile src = some c → fs'.get (d ++ [name]) = some (.file c)))
      (fun fs' => fs.Only (d ++ [name]) fs' ∧ fs.Grows fs') fs (linkOrCopy src d name) := by
  have hself : fs.Only (d ++ [name]) fs := fun _ _ => rfl
  refine safe_bind (safe_pathExists hself ?_ ?_ ⟨hself, Fs.Grows.refl fs⟩)
  · intro hthere
    exact safe_pure ⟨hself, Fs.Grows.refl fs, fun hnone => absurd hnone hthere⟩
  · intro hnone
    -- a new file with the content of the source, by a link or by a copy
    have hmade : ∀ {c : List UInt8} {fs' : Fs}, fs.readFile src = some c →
        FileIn (d ++ [name]) (· = c) fs fs' →
        fs.Only (d ++ [name]) fs' ∧ fs.Grows fs' ∧ (fs.get (d ++ [name]) = none →
          ∀ c, fs.readFile src = some c → fs'.get (d ++ [name]) = some (.file c)) := by
      intro c fs' hc hin
      refine ⟨hin.1, hin.1.grows hnone, fun _ c' hc' => ?_⟩
      obtain rfl := Option.some.inj (hc.symm.trans hc')
      exact hin.get
    refine safe_bind (safe_attempt (safe_hardLink hself ?_ (fun e => ?_)))
    · exact fun c fs' hc hin => ⟨hin.1, safe_pure (hmade hc hin)⟩
    · refine safe_copyFile.mono (fun _ h => h) ?_ (fun _ honly => ⟨honly, honly.grows hnone⟩)
      rintro fs' - ⟨c, hc, hin⟩
      exact hmade hc hin

theorem safe_buildBaseRootfs : Safe (fs.Within (· <+: env.baseImagePath root))
      (fun fs' _ => fs.Within (· <+: env.baseImagePath root) fs' ∧ fs.Grows fs' ∧
        (fs.get (env.baseImagePath root) = none →
          fs'.get (env.baseImagePath root) = some (.file env.built)))
      (fun fs' => fs.Within (· <+: env.baseImagePath root) fs' ∧ fs.Grows fs') fs
      (buildBaseRootfs root env) := by
  have hself := Fs.Within.refl (· <+: env.baseImagePath root) fs
  refine safe_bind (safe_pathExists hself ?_ ?_ ⟨hself, Fs.Grows.refl fs⟩)
  · intro hthere
    exact safe_pure ⟨hself, Fs.Grows.refl fs, fun hnone => absurd hnone hthere⟩
  · intro hnone
    have hdir : ∀ q, q <+: env.imageDir root → q <+: env.baseImagePath root :=
      fun q hq => hq.trans (List.prefix_append _ _)
    have himage : ∀ {a : Fs}, fs.Within (· <+: env.imageDir root) a →
        a.get (env.baseImagePath root) = none := by
      intro a ha
      rw [ha, hnone]
      intro hle
      have hlen := hle.length_le
      simp [FileEnv.baseImagePath] at hlen
    refine safe_bind (safe_createDirAll_grows.mono ?_ ?_ ?_)
    · exact fun a ha => ha.1.mono hdir
    · rintro a - ⟨hwithin, hgrows⟩
      refine safe_change (hwithin.mono hdir) ?_ ⟨hwithin.mono hdir, hgrows⟩
      intro b hb
      obtain ⟨c, hc, hget, honly⟩ := Fs.modifyFile_ok hb
      cases hc
      have hwithin' := (hwithin.mono hdir).trans (honly.within (List.prefix_refl _))
      exact ⟨hwithin', hwithin', hgrows.trans (honly.grows (himage hwithin)), fun _ => hget⟩
    · exact fun a ha => ⟨ha.1.mono hdir, ha.2⟩

theorem safe_ensureSshKey (root' : Path) :
    Stays (fs.Within (touches root env (.ensureSshKey root'))) fs (ensureSshKey env root') := by
  have hdir : ∀ a, fs.Within (· <+: sshDir root') a ∧ fs.Grows a →
      fs.Within (touches root env (.ensureSshKey root')) a :=
    fun a ha => ha.1.mono (fun q hq => Or.inl hq)
  have hwrite : ∀ {a : Fs} {name : String} {bytes : List UInt8},
      fs.Within (touches root env (.ensureSshKey root')) a →
      Stays (fs.Within (touches root env (.ensureSshKey root'))) a (writeFile (sshDir root') name bytes) := by
    intro a name bytes ha
    refine safe_writeFile_only.stays.weaken ?_
    exact fun b hb => ha.trans (hb.within (Or.inr ⟨name, rfl⟩))
  refine safe_bind (safe_createDirAll_grows.mono hdir ?_ hdir)
  intro a _ ha
  refine safe_bind (safe_pathExists (hdir a ha) ?_ ?_ (hdir a ha))
  · exact fun _ => safe_pure (hdir a ha)
  · intro _
    exact safe_bind ((hwrite (hdir a ha)).imp (fun b _ hb => hwrite hb))

/-- A write to one file. -/
theorem safe_atPath {p : Path} {call : Path → String → FsM Unit}
    (hcall : ∀ d name, Stays (fs.Only (d ++ [name])) fs (call d name)) :
    Stays (fs.Within (· = p)) fs (atPath p call) := by
  rcases List.eq_nil_or_concat' p with rfl | ⟨d, name, rfl⟩
  · exact safe_fail (Fs.Within.refl _ fs)
  · rw [atPath_concat]
    exact (hcall d name).weaken (fun a ha => ha.within rfl)

theorem safe_openLog (d : Path) (name : String) : Stays (fs.Only (d ++ [name])) fs (openLog d name) := by
  have hself : fs.Only (d ++ [name]) fs := fun _ _ => rfl
  refine safe_change hself ?_ hself
  intro fs' h
  obtain ⟨c, -, -, honly⟩ := Fs.modifyFile_ok h
  exact ⟨honly, honly⟩

/-- A step that overwrites a file. -/
theorem done_of_within {op : HostOp} {ok : Bool} {fs' : Fs} (hop : overwrites op = true)
    (h : fs.Within (touches root env op) fs') : Done root env op ok fs fs' := by
  refine ⟨h, fun hnot => absurd (hop.symm.trans hnot) (by decide), ?_, ?_⟩
  · rintro src dst rfl
    cases hop
  · rintro image init sshd rfl
    cases hop

/-- A program for such a step. -/
theorem succeeded_of_stays {op : HostOp} {t : FsM Unit} (hop : overwrites op = true)
    (h : Stays (fs.Within (touches root env op)) fs t) :
    (succeeded t).Safe (fs.Within (touches root env op)) (fun fs' ok => Done root env op ok fs fs') fs :=
  safe_succeeded (h.mono (fun _ h => h) (fun _ _ h => done_of_within hop h) (fun _ h => done_of_within hop h))

theorem safe_spawnWorker (worker : WorkerSpec) :
    Stays (fs.Within (· = worker.log)) fs (spawnWorker worker) := by
  have hspawn : ∀ a, fs.Within (· = worker.log) a →
      Stays (fs.Within (· = worker.log)) a (look (fun _ => .ok ())) :=
    fun a ha => safe_look ha (fun _ _ => ha) ha
  unfold spawnWorker
  split_ifs
  · exact safe_bind ((safe_atPath safe_openLog).imp (fun a _ ha => hspawn a ha))
  · exact hspawn fs (Fs.Within.refl _ fs)

/-- A step that makes directories, or nothing. -/
theorem done_of_grows {op : HostOp} {ok : Bool} {fs' : Fs} (hwithin : fs.Within (touches root env op) fs')
    (hgrows : fs.Grows fs') (hlink : ∀ src dst, op ≠ .linkOrCopy src dst)
    (hbuild : ∀ image init sshd, op ≠ .buildBaseRootfs image init sshd) : Done root env op ok fs fs' :=
  ⟨hwithin, fun _ => hgrows, fun src dst h => absurd h (hlink src dst),
    fun image init sshd h => absurd h (hbuild image init sshd)⟩

/-- A step that has failed, and has overwritten nothing. -/
theorem done_of_failed {op : HostOp} {fs' : Fs} (hwithin : fs.Within (touches root env op) fs')
    (hgrows : fs.Grows fs') : Done root env op false fs fs' :=
  ⟨hwithin, fun _ => hgrows, fun _ _ _ hok => absurd hok (by decide), fun _ _ _ _ hok => absurd hok (by decide)⟩

theorem done_linkOrCopy (src dst : Path) (fs : Fs) :
    (fileOp root env (.linkOrCopy src dst)).Safe (fs.Within (· = dst))
      (fun fs' ok => Done root env (.linkOrCopy src dst) ok fs fs') fs := by
  rcases List.eq_nil_or_concat' dst with rfl | ⟨d, name, rfl⟩
  · have hfailed : Done root env (.linkOrCopy src []) false fs fs :=
      done_of_failed (Fs.Within.refl _ fs) (Fs.Grows.refl fs)
    exact hfailed
  · show Prog.Safe _ _ fs (succeeded (atPath (d ++ [name]) (linkOrCopy src)))
    rw [atPath_concat]
    refine safe_succeeded ((safe_linkOrCopy src d name).mono (fun _ h => h.within rfl) ?_ ?_)
    · rintro fs' - ⟨honly, hgrows, hlinked⟩
      refine ⟨honly.within rfl, fun _ => hgrows, ?_, fun _ _ _ h => HostOp.noConfusion h⟩
      intro src' dst' heq _
      injection heq with hsrc hdst
      rw [← hsrc, ← hdst]
      exact hlinked
    · rintro fs' ⟨honly, hgrows⟩
      exact done_of_failed (honly.within rfl) hgrows

/-- **One step.** -/
theorem fileOp_done (op : HostOp) (fs : Fs) :
    (fileOp root env op).Safe (fs.Within (touches root env op)) (fun fs' ok => Done root env op ok fs fs') fs := by
  -- the steps that leave the files alone
  have hquiet : (∀ src dst, op ≠ .linkOrCopy src dst) →
      (∀ image init sshd, op ≠ .buildBaseRootfs image init sshd) →
      Prog.Safe (fs.Within (touches root env op)) (fun fs' ok => Done root env op ok fs fs') fs
        (.stmt (fun fs => fs) (fun _ => .done true) (fun _ => .done false) : Prog Fs IoError Bool) := by
    intro hlink hbuild
    have hdone : ∀ ok, Done root env op ok fs fs :=
      fun ok => done_of_grows (Fs.Within.refl _ fs) (Fs.Grows.refl fs) hlink hbuild
    exact ⟨Fs.Within.refl _ fs, hdone true, fun _ => hdone false⟩
  cases op with
  | buildBaseRootfs image init sshd =>
    refine safe_succeeded (safe_buildBaseRootfs.mono (fun _ h => h) ?_ ?_)
    · rintro fs' - ⟨hwithin, hgrows, hbuilt⟩
      exact ⟨hwithin, fun _ => hgrows, fun _ _ h => HostOp.noConfusion h, fun _ _ _ _ _ => hbuilt⟩
    · exact fun fs' h => done_of_failed h.1 h.2
  | createDirAll p =>
    have hdone : ∀ fs' ok, fs.Within (· <+: p) fs' ∧ fs.Grows fs' →
        Done root env (.createDirAll p) ok fs fs' :=
      fun fs' ok h => done_of_grows h.1 h.2 (fun _ _ h => HostOp.noConfusion h)
        (fun _ _ _ h => HostOp.noConfusion h)
    exact safe_succeeded (safe_createDirAll_grows.mono (fun _ h => h.1) (fun fs' _ h => hdone fs' true h)
      (fun fs' h => hdone fs' false h))
  | linkOrCopy src dst => exact done_linkOrCopy src dst fs
  | ensureSshKey root' =>
    exact succeeded_of_stays rfl (safe_ensureSshKey root')
  | writeConfig p cfg =>
    exact succeeded_of_stays rfl (safe_atPath (fun _ _ => safe_writeFile_only.stays))
  | bindListener p =>
    exact succeeded_of_stays rfl (safe_atPath (fun _ _ => safe_createFile_only.stays))
  | spawnWorker worker =>
    exact succeeded_of_stays rfl (safe_spawnWorker worker)
  | _ => exact hquiet (fun _ _ h => HostOp.noConfusion h) (fun _ _ _ h => HostOp.noConfusion h)

end Programs

end MicroMachines.Host
