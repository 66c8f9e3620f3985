import MicroMachines.Lib.Bytes
import MicroMachines.Vmm.SnapshotStore

set_option autoImplicit false

/-! # Snapshots and kills

The only mark of a complete snapshot is a manifest that parses. A capture writes it last, so a
capture that is killed leaves no mark. A removal takes the entries of the directory in the order
in which it finds them: if it is killed after `memory.bin` or `state.bin` and before the manifest,
the mark stays and what it stands for is gone.

* `CaptureKind.script_safe`: each of the three captures writes the manifest only after both files.
* `list_onlyFinished`: if removals come to the manifest before the two files, then whatever calls
  are made, and wherever each of them is killed, only finished captures are listed.
* `list_killed_removal`: a removal that is killed between `memory.bin` and the manifest.
-/

namespace MicroMachines.Vmm

open MicroMachines.Lib

/-! ## The manifest comes last -/

/-- What is known of the files of a capture: no manifest yet, `memory.bin` empty, holding the live
copy of a branch, or complete; `state.bin` complete as well; and nothing, once the manifest is
being written. -/
inductive CapturePhase
  | blank
  | opened
  | copied
  | imaged
  | described
  | listed
  deriving DecidableEq, Repr

/-- The operations that write to one of the three files. -/
def Op.isFile : Op → Bool
  | .createMemoryFile | .dumpGuestMemory | .openImage | .writeBranchImage | .recopyBranchPages
  | .writeState | .writeManifest => true
  | _ => false

namespace CapturePhase

def pre (kind : CaptureKind) : Op → CapturePhase → Prop
  | .createMemoryFile, v => v = .blank
  | .openImage, v => v = .blank
  | .dumpGuestMemory, v => kind ≠ .branch ∧ v = .opened
  | .writeBranchImage, v => kind = .branch ∧ v = .opened
  | .recopyBranchPages, v => kind = .branch ∧ v = .copied
  | .writeState, v => v = .imaged
  | .writeManifest, v => v = .described
  | _, _ => True

def next : Op → Bool → CapturePhase → CapturePhase
  | .createMemoryFile, b, _ => if b then .opened else .blank
  | .openImage, b, _ => if b then .opened else .blank
  | .dumpGuestMemory, b, _ => if b then .imaged else .blank
  | .writeBranchImage, b, _ => if b then .copied else .blank
  | .recopyBranchPages, b, _ => if b then .imaged else .blank
  | .writeState, b, _ => if b then .described else .blank
  | .writeManifest, _, _ => .listed
  | _, _, v => v

theorem pre_of_isFile {kind : CaptureKind} {o : Op} (h : o.isFile = false) (v : CapturePhase) :
    pre kind o v := by
  cases o <;> trivial

theorem next_of_isFile {o : Op} (h : o.isFile = false) (b : Bool) (v : CapturePhase) :
    next o b v = v := by
  cases o <;> first | rfl | cases h

end CapturePhase

section Scripts

open Task CapturePhase

variable {α : Type} {kind : CaptureKind} {v : CapturePhase}

/-- A part of a capture that writes none of the files. -/
theorem safe_quiet {Q : CapturePhase → α → Prop} {E : CapturePhase → Prop} {t : Orch α}
    (h : t.Avoids Op.isFile) (hQ : ∀ a, Q v a) (hE : E v) :
    Task.Safe (pre kind) next Q E v t := by
  refine Script.Avoids.safe (fun o ho v => pre_of_isFile ho v)
    (fun o ho b v => next_of_isFile ho b v) h ?_
  rintro (e | a)
  · exact hE
  · exact hQ a

theorem avoids_release : release.Avoids Op.isFile :=
  avoids_bind (avoids_act rfl) (fun _ => avoids_act rfl)

theorem avoids_releaseBarrier : releaseBarrier.Avoids Op.isFile :=
  avoids_bind avoids_release (fun _ => avoids_perform rfl)

theorem avoids_quiesceAtBarrier (m : Shape) (devices : Bool) :
    (quiesceAtBarrier m devices).Avoids Op.isFile := by
  refine avoids_ite avoids_fail ?_
  refine avoids_bind (avoids_bind (avoids_act rfl) (fun _ => avoids_act rfl)) (fun _ => ?_)
  refine avoids_bind (avoids_ite (avoids_forEach (fun _ => avoids_perform rfl) _) avoids_pure)
    (fun _ => ?_)
  refine avoids_bind (avoids_test rfl) (fun parked => avoids_ite avoids_pure ?_)
  exact avoids_bind avoids_release (fun _ => avoids_bind (avoids_act rfl) (fun _ => avoids_fail))

theorem avoids_captureVmState (m : Shape) : (captureVmState m).Avoids Op.isFile := by
  refine avoids_bind (avoids_forEach (fun _ => avoids_perform rfl) _) (fun _ => ?_)
  refine avoids_bind (avoids_forEach (fun _ => avoids_perform rfl) _) (fun _ => ?_)
  exact avoids_bind (avoids_perform rfl) (fun _ => avoids_perform rfl)

theorem avoids_setDirtyLogging (m : Shape) (enable : Bool) :
    (setDirtyLogging m enable).Avoids Op.isFile :=
  avoids_forEach (fun _ => avoids_perform rfl) _

theorem avoids_collectDirtyPages (m : Shape) : (collectDirtyPages m).Avoids Op.isFile :=
  avoids_bind (avoids_act rfl) (fun _ => avoids_forEach (fun _ => avoids_perform rfl) _)

theorem avoids_abandonBranch (m : Shape) (e : VmmError) : (abandonBranch m e).Avoids Op.isFile :=
  avoids_bind (avoids_result (avoids_setDirtyLogging m false)) (fun _ =>
    avoids_bind (avoids_result avoids_releaseBarrier) (fun _ => avoids_fail))

theorem avoids_joinVcpus (is : List Nat) : (joinVcpus is).Avoids Op.isFile := by
  induction is with
  | nil => exact avoids_pure
  | cons i is ih =>
    exact avoids_bind (avoids_test rfl) (fun _ => avoids_bind ih (fun _ => avoids_pure))

theorem avoids_pauseAndCaptureVcpus (m : Shape) : (pauseAndCaptureVcpus m).Avoids Op.isFile := by
  refine avoids_bind (avoids_act rfl) (fun _ => avoids_bind (avoids_joinVcpus _) (fun _ => ?_))
  exact avoids_ite (avoids_forEach (fun _ => avoids_perform rfl) _) avoids_fail

theorem avoids_pauseDevices (m : Shape) : (pauseDevices m).Avoids Op.isFile :=
  avoids_forEach (fun _ => avoids_bind (avoids_perform rfl) (fun _ => avoids_perform rfl)) _

variable {E : CapturePhase → Prop}

theorem ordered_dumpGuestMemory {Q : CapturePhase → Unit → Prop} (hkind : kind ≠ .branch)
    (hQ : Q .imaged ()) (hE : E .blank) :
    Task.Safe (pre kind) next Q E .blank dumpGuestMemory :=
  safe_bind (safe_perform rfl (safe_perform ⟨hkind, rfl⟩ hQ hE) hE)

variable (kind v) in
/-- From here on, the files are written in order. -/
abbrev Ordered (t : Orch α) : Prop := Task.Safe (pre kind) next (fun _ _ => True) (fun _ => True) v t

theorem ordered_bind {β : Type} {t : Orch α} {f : α → Orch β} (h : t.Avoids Op.isFile)
    (hf : ∀ a, Ordered kind v (f a)) : Ordered kind v (t >>= f) :=
  safe_bind (safe_quiet h hf trivial)

/-- The metadata is written behind the image. -/
theorem ordered_metadata : Ordered kind .imaged (do
    perform .cpuidHash kvmError
    writeSnapshotMetadata) :=
  ordered_bind (avoids_perform rfl) (fun _ =>
    safe_bind (safe_perform rfl (safe_perform rfl trivial trivial) trivial))

theorem ordered_snapshot (m : Shape) (hkind : kind ≠ .branch) : Ordered kind .blank (snapshot m) := by
  refine ordered_bind (avoids_perform rfl) (fun _ => ?_)
  refine ordered_bind (avoids_pauseAndCaptureVcpus m) (fun _ => ?_)
  refine ordered_bind (avoids_pauseDevices m) (fun _ => ?_)
  refine ordered_bind (avoids_perform rfl) (fun _ => ?_)
  refine ordered_bind (avoids_perform rfl) (fun _ => ?_)
  exact safe_bind (ordered_dumpGuestMemory hkind ordered_metadata trivial)

theorem ordered_snapshotInPlace (m : Shape) (hkind : kind ≠ .branch) :
    Ordered kind .blank (snapshotInPlace m) := by
  refine ordered_bind (avoids_perform rfl) (fun _ => ?_)
  refine ordered_bind (avoids_quiesceAtBarrier m true) (fun _ => ?_)
  -- The barrier is released whatever the capture came to; its result is looked at afterwards.
  have hfinish : ∀ v captured, (captured = .ok () → v = .imaged) → Ordered kind v (do
      let released ← result releaseBarrier
      ofResult captured
      ofResult released
      perform .cpuidHash kvmError
      writeSnapshotMetadata) := by
    intro v captured hv
    refine ordered_bind (avoids_result avoids_releaseBarrier) (fun released => ?_)
    cases captured with
    | error e => exact safe_bind (safe_ofResult trivial)
    | ok u =>
      obtain rfl := hv rfl
      exact safe_bind (safe_ofResult (ordered_bind avoids_ofResult (fun _ => ordered_metadata)))
  have hfailed := fun v e => hfinish v (.error e) (fun h => by cases h)
  refine safe_bind (safe_result_cases (safe_bind
    (safe_quiet (avoids_captureVmState m) (fun _ => ?_) (hfailed _))))
  exact ordered_dumpGuestMemory hkind (hfinish _ _ (fun _ => rfl)) (hfailed _)

/-- The end of `finish_branch` writes the metadata behind the image. -/
theorem ordered_finishRest (m : Shape) (v : CapturePhase) (finished : Except VmmError Unit)
    (hv : finished = .ok () → v = .imaged) : Ordered .branch v (do
      let _ ← result (setDirtyLogging m false)
      let released ← result releaseBarrier
      match finished with
      | .error e => fail e
      | .ok _ =>
        ofResult released
        perform .cpuidHash kvmError
        writeSnapshotMetadata) := by
  refine ordered_bind (avoids_result (avoids_setDirtyLogging m false)) (fun _ => ?_)
  refine ordered_bind (avoids_result avoids_releaseBarrier) (fun released => ?_)
  cases finished with
  | error e => exact safe_fail trivial
  | ok u =>
    obtain rfl := hv rfl
    exact ordered_bind avoids_ofResult (fun _ => ordered_metadata)

theorem ordered_finishBranch (m : Shape) : Ordered .branch .copied (finishBranch m) := by
  have hfinish := ordered_finishRest m
  have hfailed := fun v e => hfinish v (.error e) (fun h => by cases h)
  refine ordered_bind (avoids_quiesceAtBarrier m true) (fun _ => ?_)
  refine safe_bind (safe_result_cases (safe_bind
    (safe_quiet (avoids_captureVmState m) (fun _ => ?_) (hfailed _))))
  refine safe_bind (safe_quiet (avoids_collectDirtyPages m) (fun _ => ?_) (hfailed _))
  refine safe_bind (safe_quiet (avoids_perform rfl) (fun _ => ?_) (hfailed _))
  exact safe_perform ⟨rfl, rfl⟩ (hfinish .imaged (.ok ()) (fun _ => rfl)) (hfailed _)

theorem ordered_branch (m : Shape) : Ordered .branch .blank (branch m) := by
  refine ordered_bind (avoids_perform rfl) (fun _ => ?_)
  refine ordered_bind (avoids_quiesceAtBarrier m true) (fun _ => ?_)
  refine ordered_bind (avoids_result (avoids_bind (avoids_setDirtyLogging m true)
    (fun _ => avoids_collectDirtyPages m))) (fun armed => ?_)
  cases armed with
  | error e => exact safe_quiet (avoids_abandonBranch m e) (fun _ => trivial) trivial
  | ok u =>
    refine ordered_bind avoids_releaseBarrier (fun _ => ?_)
    have hfailed : ∀ v e, Ordered .branch v (do
        quiesceAtBarrier m true
        abandonBranch m e) :=
      fun v e => ordered_bind (avoids_quiesceAtBarrier m true)
        (fun _ => safe_quiet (avoids_abandonBranch m e) (fun _ => trivial) trivial)
    refine safe_bind (safe_result_cases (safe_bind (safe_perform rfl ?_ (hfailed _))))
    exact safe_perform ⟨rfl, rfl⟩ (ordered_finishBranch m) (hfailed _)

/-- Each capture writes the manifest only after both other files. -/
theorem CaptureKind.script_safe (kind : CaptureKind) (m : Shape) :
    Script.Safe (pre kind) next (fun _ _ => True) .blank (kind.call.script m) := by
  have hsafe : Ordered kind .blank (kind.call.script m) := by
    cases kind with
    | snapshot => exact ordered_snapshot m (fun h => by cases h)
    | snapshotInPlace => exact ordered_snapshotInPlace m (fun h => by cases h)
    | branch => exact ordered_branch m
  exact Script.Safe.mono (fun _ _ _ => trivial) hsafe

end Scripts

/-! ## Writing the files -/

section Files

open Fallible

variable {fs : Fs} {d : Path}

theorem safe_writePieces {offset : Nat} {pieces : List (List UInt8)} {c : List UInt8}
    (hfile : fs.get (d ++ [MEMORY_FILE]) = some (.file c)) :
    Edits (d ++ [MEMORY_FILE]) (fun _ => True) (· = setPieces offset pieces c) fs
      (writePieces d offset pieces) := by
  induction pieces generalizing fs offset c with
  | nil => exact safe_pure ⟨fun _ _ => rfl, c, rfl, hfile⟩
  | cons piece pieces ih =>
    refine safe_bind ((safe_writeAt hfile).imp ?_)
    intro fs' _ h
    exact Edits.after (@ih _ (offset + piece.length) _ h.get) (h.mono (fun _ _ => trivial))

/-- `write_branch_image`, after the file was emptied. -/
theorem safe_writeImage {pieces : List (List UInt8)}
    (hfile : fs.get (d ++ [MEMORY_FILE]) = some (.file [])) :
    Edits (d ++ [MEMORY_FILE]) (fun _ => True)
      (· = setPieces 0 pieces (List.replicate pieces.flatten.length 0)) fs (do
        rewriteFile d MEMORY_FILE (setLen pieces.flatten.length)
        writePieces d 0 pieces) := by
  have hself : FileIn (d ++ [MEMORY_FILE]) (fun _ => True) fs fs :=
    ⟨fun _ _ => rfl, [], trivial, hfile⟩
  refine safe_bind (safe_rewriteFile hself hfile ?_ hself)
  intro fs' h
  have hany := h.mono (fun _ _ => trivial)
  have hzeros : fs'.get (d ++ [MEMORY_FILE]) =
      some (.file (List.replicate pieces.flatten.length 0)) := by
    rw [h.get, setLen, List.take_nil, List.nil_append, List.length_nil, Nat.sub_zero]
  exact ⟨hany, (safe_writePieces hzeros).after hany⟩

theorem safe_writePages {pages : List (Nat × List UInt8)} {c : List UInt8}
    (hfile : fs.get (d ++ [MEMORY_FILE]) = some (.file c)) :
    Edits (d ++ [MEMORY_FILE]) (fun _ => True) (· = setPages pages c) fs
      (forEach pages (fun page => writeAt d MEMORY_FILE page.1 page.2)) := by
  induction pages generalizing fs c with
  | nil => exact safe_pure ⟨fun _ _ => rfl, c, rfl, hfile⟩
  | cons page pages ih =>
    refine safe_bind ((safe_writeAt hfile).imp ?_)
    intro fs' _ h
    exact (ih h.get).after (h.mono (fun _ _ => trivial))

end Files

/-! ## Only finished captures -/

/-- All three files of the directory are those of the capture. -/
def Capture.Finished (json : Json) (cap : Capture) (fs : Fs) (d : Path) : Prop :=
  fs.get (d ++ [MEMORY_FILE]) = some (.file cap.memory) ∧
    fs.get (d ++ [STATE_FILE]) = some (.file cap.state) ∧
    fs.get (d ++ [MANIFEST_FILE]) = some (.file (json.toVecPretty cap.manifest))

section Sound

variable {json : Json} {store : SnapshotStore} {made : Capture → Prop} {fs fs' : Fs}

variable (json made) in
/-- A manifest in the directory that parses stands for one of the captures made. -/
def Sound (fs : Fs) (d : Path) : Prop :=
  ∀ bytes, fs.get (d ++ [MANIFEST_FILE]) = some (.file bytes) → json.fromSlice bytes ≠ none →
    ∃ cap, made cap ∧ cap.Finished json fs d

variable (json store made) in
/-- The same for every directory in which the store may keep a snapshot. -/
def OnlyFinished (fs : Fs) : Prop := ∀ m id, Sound json made fs (store.root ++ [m] ++ [id])

theorem Sound.congr {d : Path} (h : ∀ x, fs'.get (d ++ [x]) = fs.get (d ++ [x]))
    (hs : Sound json made fs d) : Sound json made fs' d := by
  intro bytes hget hparse
  rw [h] at hget
  obtain ⟨cap, hmade, hmem, hstate, hman⟩ := hs bytes hget hparse
  exact ⟨cap, hmade, (h _).trans hmem, (h _).trans hstate, (h _).trans hman⟩

theorem Sound.of_none {d : Path} (h : fs.get (d ++ [MANIFEST_FILE]) = none) :
    Sound json made fs d := by
  intro bytes hget
  rw [h] at hget
  cases hget

/-- A change to one file has to be looked at in its own directory only. -/
theorem OnlyFinished.only {m id x : String} (hI : OnlyFinished json store made fs)
    (honly : Fs.Only (store.root ++ [m] ++ [id] ++ [x]) fs fs')
    (hd : Sound json made fs' (store.root ++ [m] ++ [id])) : OnlyFinished json store made fs' := by
  intro m' id'
  by_cases heq : store.root ++ [m'] ++ [id'] = store.root ++ [m] ++ [id]
  · rw [heq]
    exact hd
  · refine (hI m' id').congr ?_
    intro y
    refine honly _ ?_
    intro hpath
    exact heq (List.append_inj' hpath rfl).1

/-- A change above the files does not matter. -/
theorem OnlyFinished.only_short {p : Path} (hI : OnlyFinished json store made fs)
    (honly : Fs.Only p fs fs') (hp : p.length < store.root.length + 3) :
    OnlyFinished json store made fs' := by
  intro m id
  refine (hI m id).congr ?_
  intro x
  refine honly _ ?_
  rintro rfl
  simp at hp

/-- Without the store's directory there is nothing in it. -/
theorem OnlyFinished.of_none (h : fs.get store.root = none) : OnlyFinished json store made fs :=
  fun m id => Sound.of_none
    (Fs.get_child_of_none (Fs.get_child_of_none (Fs.get_child_of_none h m) id) MANIFEST_FILE)

/-! ### Captures -/

section Capture

variable {cap : Capture} {m id : String}

variable (cap) in
/-- What a phase says of the directory `d`. -/
def CapturePhase.Holds (fs : Fs) (d : Path) : CapturePhase → Prop
  | .blank => fs.get (d ++ [MANIFEST_FILE]) = none
  | .opened => fs.get (d ++ [MANIFEST_FILE]) = none ∧ fs.get (d ++ [MEMORY_FILE]) = some (.file [])
  | .copied =>
    fs.get (d ++ [MANIFEST_FILE]) = none ∧
      fs.get (d ++ [MEMORY_FILE]) = some (.file cap.copied)
  | .imaged =>
    fs.get (d ++ [MANIFEST_FILE]) = none ∧
      fs.get (d ++ [MEMORY_FILE]) = some (.file cap.memory)
  | .described =>
    fs.get (d ++ [MANIFEST_FILE]) = none ∧
      fs.get (d ++ [MEMORY_FILE]) = some (.file cap.memory) ∧
      fs.get (d ++ [STATE_FILE]) = some (.file cap.state)
  | .listed => True

variable (json store made cap) in
/-- The invariant of a capture into the directory `id` of the machine directory `m`. -/
def CaptureInv (m id : String) (v : CapturePhase) (fs : Fs) : Prop :=
  OnlyFinished json store made fs ∧ v.Holds cap fs (store.root ++ [m] ++ [id])

theorem CapturePhase.Holds.congr {d : Path} (h : ∀ x, fs'.get (d ++ [x]) = fs.get (d ++ [x]))
    {v : CapturePhase} (hv : v.Holds cap fs d) : v.Holds cap fs' d := by
  cases v <;> simp only [CapturePhase.Holds, h] at hv ⊢ <;> exact hv

theorem path_ne {d : Path} {x y : String} (h : x ≠ y) : d ++ [x] ≠ d ++ [y] :=
  fun heq => h (List.singleton_inj.mp (List.append_inj' heq rfl).2)

/-- While there is no manifest, whatever is done to another file is harmless. -/
theorem OnlyFinished.only_blank {x : String} (hI : OnlyFinished json store made fs)
    (hblank : fs.get (store.root ++ [m] ++ [id] ++ [MANIFEST_FILE]) = none)
    (hx : x ≠ MANIFEST_FILE) (honly : Fs.Only (store.root ++ [m] ++ [id] ++ [x]) fs fs') :
    OnlyFinished json store made fs' ∧
      fs'.get (store.root ++ [m] ++ [id] ++ [MANIFEST_FILE]) = none := by
  have hkept : fs'.get (store.root ++ [m] ++ [id] ++ [MANIFEST_FILE]) = none := by
    rw [honly _ (path_ne hx.symm)]
    exact hblank
  exact ⟨hI.only honly (Sound.of_none hkept), hkept⟩

/-- An operation that writes to one file while there is no manifest. -/
theorem safe_blankWrite {x : String} {w : CapturePhase} {t : FsM Unit} {S : List UInt8 → Prop}
    (hx : x ≠ MANIFEST_FILE) (hI : OnlyFinished json store made fs)
    (hblank : fs.get (store.root ++ [m] ++ [id] ++ [MANIFEST_FILE]) = none)
    (ht : Writes (store.root ++ [m] ++ [id] ++ [x]) S fs t)
    (hw : ∀ fs', FileIn (store.root ++ [m] ++ [id] ++ [x]) S fs fs' →
      fs'.get (store.root ++ [m] ++ [id] ++ [MANIFEST_FILE]) = none →
      w.Holds cap fs' (store.root ++ [m] ++ [id])) :
    (succeeded t).Safe (OnlyFinished json store made)
      (fun fs b => CaptureInv json store made cap m id (if b = true then w else .blank) fs) fs := by
  refine safe_succeeded (ht.mono ?_ ?_ ?_)
  · exact fun fs' h => (hI.only_blank hblank hx h).1
  · intro fs' _ h
    obtain ⟨hI', hblank'⟩ := hI.only_blank hblank hx h.1
    exact ⟨hI', hw fs' h hblank'⟩
  · exact fun fs' h => hI.only_blank hblank hx h

/-- **One operation of a capture.** -/
theorem fileOp_safe (hmade : made cap) {o : Op} {v : CapturePhase}
    (hpre : CapturePhase.pre cap.kind o v) (hinv : CaptureInv json store made cap m id v fs) :
    (fileOp json cap (store.root ++ [m] ++ [id]) o).Safe (OnlyFinished json store made)
      (fun fs b => CaptureInv json store made cap m id (CapturePhase.next o b v) fs) fs := by
  have hmemory : MEMORY_FILE ≠ MANIFEST_FILE := by decide
  have hstate : STATE_FILE ≠ MANIFEST_FILE := by decide
  cases o
  case createDirAll =>
    have hdirs : Fallible.Stays (CaptureInv json store made cap m id v) fs
        (createDirAll [] (store.root ++ [m] ++ [id])) := by
      refine safe_createDirAll hinv ?_
      rintro p a b ⟨hI, hv⟩ _ hp _ honly
      have hlen : p.length < store.root.length + 3 := by
        have := hp.length_le
        simp at this
        omega
      refine ⟨hI.only_short honly hlen, hv.congr ?_⟩
      intro x
      refine honly _ ?_
      rintro rfl
      simp at hlen
    exact safe_succeeded (hdirs.mono (fun _ h => h.1) (fun _ _ h => h) (fun _ h => h))
  case createMemoryFile | openImage =>
    cases hpre
    exact safe_blankWrite hmemory hinv.1 hinv.2 safe_createFile_only
      (fun fs' h hblank => ⟨hblank, h.get⟩)
  case dumpGuestMemory =>
    obtain ⟨hkind, rfl⟩ := hpre
    obtain ⟨hI, hblank, hempty⟩ := hinv
    refine safe_blankWrite hmemory hI hblank (safe_only (safe_appendAll hempty)) ?_
    intro fs' h hblank'
    refine ⟨hblank', ?_⟩
    rw [h.get, List.nil_append]
    cases hcap : cap.kind <;> simp_all [Capture.memory]
  case writeBranchImage =>
    obtain ⟨_, rfl⟩ := hpre
    obtain ⟨hI, hblank, hempty⟩ := hinv
    refine safe_blankWrite hmemory hI hblank (safe_only (safe_writeImage hempty)) ?_
    intro fs' h hblank'
    exact ⟨hblank', h.get⟩
  case openForRecopy =>
    exact safe_succeeded (safe_look hinv.1 (fun _ _ => hinv) hinv)
  case recopyBranchPages =>
    obtain ⟨hkind, rfl⟩ := hpre
    obtain ⟨hI, hblank, hcopied⟩ := hinv
    refine safe_blankWrite hmemory hI hblank (safe_only (safe_writePages hcopied)) ?_
    intro fs' h hblank'
    refine ⟨hblank', ?_⟩
    rw [h.get, Capture.memory, hkind]
  case writeState =>
    cases hpre
    obtain ⟨hI, hblank, himage⟩ := hinv
    refine safe_blankWrite hstate hI hblank safe_writeFile_only ?_
    intro fs' h hblank'
    refine ⟨hblank', ?_, h.get⟩
    rw [h.1 _ (path_ne (by decide))]
    exact himage
  case writeManifest =>
    cases hpre
    obtain ⟨hI, hblank, himage, hst⟩ := hinv
    have hsound : ∀ fs', fs' = fs ∨ FileIn (store.root ++ [m] ++ [id] ++ [MANIFEST_FILE])
        (fun c => c <+: json.toVecPretty cap.manifest) fs fs' → OnlyFinished json store made fs' := by
      rintro fs' (rfl | ⟨honly, c, hc, hget⟩)
      · exact hI
      · refine hI.only honly ?_
        intro bytes hbytes hparse
        have hbytes' : bytes = json.toVecPretty cap.manifest := by
          rw [hget] at hbytes
          cases hbytes
          exact json.whole _ _ hc hparse
        refine ⟨cap, hmade, ?_, ?_, ?_⟩
        · rw [honly _ (path_ne hmemory)]
          exact himage
        · rw [honly _ (path_ne hstate)]
          exact hst
        · rw [hbytes, hbytes']
    refine safe_succeeded (safe_writeFile.mono hsound ?_ ?_)
    · intro fs' _ h
      refine ⟨hsound fs' (Or.inr (h.mono ?_)), trivial⟩
      rintro c rfl
      exact List.prefix_refl _
    · exact fun fs' h => ⟨hsound fs' h, trivial⟩
  all_goals exact ⟨hinv.1, hinv, fun _ => hinv⟩

/-- The whole capture, from a directory with no manifest in it. -/
theorem Capture.prog_safe (hmade : made cap) (hI : OnlyFinished json store made fs)
    (hblank : fs.get (store.root ++ [m] ++ [id] ++ [MANIFEST_FILE]) = none) :
    (cap.prog json (store.root ++ [m] ++ [id])).Safe (OnlyFinished json store made)
      (fun fs _ => OnlyFinished json store made fs) fs := by
  have hinv : CaptureInv json store made cap m id .blank fs := ⟨hI, hblank⟩
  have hop : ∀ o v fs, CapturePhase.pre cap.kind o v → CaptureInv json store made cap m id v fs →
      (fileOp json cap (store.root ++ [m] ++ [id]) o).Safe (OnlyFinished json store made)
        (fun fs b => CaptureInv json store made cap m id (CapturePhase.next o b v) fs) fs :=
    fun o v fs hpre hinv => fileOp_safe hmade hpre hinv
  refine (Script.Safe.interp hop (cap.kind.script_safe cap.shape) hinv).mono (fun _ h => h) ?_
  rintro fs' _ ⟨v, hinv, _⟩
  exact hinv.1

end Capture

/-! ### Calls -/

section Calls

open Fallible

/-- The directory that is found has nothing in it. -/
theorem tryIds_safe {m : String} (base tries bump : Nat) (hI : OnlyFinished json store made fs) :
    Safe (OnlyFinished json store made)
      (fun fs id => OnlyFinished json store made fs ∧
        fs.get (store.root ++ [m] ++ [id] ++ [MANIFEST_FILE]) = none)
      (OnlyFinished json store made) fs
      (SnapshotStore.tryIds (store.root ++ [m]) base tries bump) := by
  induction tries generalizing bump fs with
  | zero => exact safe_fail hI
  | succ tries ih =>
    refine safe_bind (safe_attempt (safe_change hI ?_ ?_))
    · intro fs' h
      obtain ⟨hnone, _, honly⟩ := Fs.createDir_ok h
      have hI' : OnlyFinished json store made fs' := hI.only_short honly (by simp)
      refine ⟨hI', safe_pure ⟨hI', ?_⟩⟩
      rw [honly _ (by simp)]
      exact Fs.get_child_of_none hnone MANIFEST_FILE
    · intro e
      cases e with
      | alreadyExists => exact ih (bump + 1) hI
      | _ => exact safe_fail hI

theorem newSnapshotDir_safe (machine : String) (now : Nat)
    (hI : OnlyFinished json store made fs) :
    Safe (OnlyFinished json store made)
      (fun fs id => OnlyFinished json store made fs ∧
        fs.get (store.machineDir machine ++ [id] ++ [MANIFEST_FILE]) = none)
      (OnlyFinished json store made) fs (store.newSnapshotDir machine now) := by
  have hdirs : Stays (OnlyFinished json store made) fs (createDirAll [] (store.machineDir machine)) := by
    refine safe_createDirAll hI ?_
    intro p a b ha _ hp _ honly
    refine ha.only_short honly ?_
    have := hp.length_le
    simp [SnapshotStore.machineDir] at this
    omega
  exact safe_bind (hdirs.imp (fun _ _ h => tryIds_safe now 1000000 0 h))

/-- The two files do not come before the manifest. -/
def ManifestFirst (names : List String) : Prop :=
  ∀ x ∈ names.takeWhile (fun x => decide (x ≠ MANIFEST_FILE)), x ≠ MEMORY_FILE ∧ x ≠ STATE_FILE

instance (names : List String) : Decidable (ManifestFirst names) :=
  inferInstanceAs (Decidable (∀ x ∈ _, _))

theorem ManifestFirst.tail {x : String} {rest : List String} (h : ManifestFirst (x :: rest))
    (hx : x ≠ MANIFEST_FILE) : ManifestFirst rest := by
  intro y hy
  refine h y ?_
  rw [List.takeWhile_cons_of_pos (by simpa using hx)]
  exact List.mem_cons_of_mem x hy

theorem ManifestFirst.head_ne {x : String} {rest : List String} (h : ManifestFirst (x :: rest)) :
    ¬ (x = MEMORY_FILE ∨ x = STATE_FILE) := by
  intro hx
  have hne : x ≠ MANIFEST_FILE := by rcases hx with rfl | rfl <;> decide
  have hmem : x ∈ (x :: rest).takeWhile (fun x => decide (x ≠ MANIFEST_FILE)) := by
    rw [List.takeWhile_cons_of_pos (by simpa using hne)]
    exact List.mem_cons_self
  obtain ⟨hmemory, hstate⟩ := h x hmem
  exact hx.elim hmemory hstate

/-- Removals come to the manifest of a directory before they come to the two files. -/
def ManifestOrder (o : EntryOrder) : Prop :=
  ∀ names, MANIFEST_FILE ∈ names → ManifestFirst (o.arrange names)

/-- Removing an entry is harmless if it is not one of the two files, or the manifest is gone. -/
theorem OnlyFinished.shrinks {m id x : String} (hI : OnlyFinished json store made fs)
    (hx : x = MEMORY_FILE ∨ x = STATE_FILE →
      fs.get (store.root ++ [m] ++ [id] ++ [MANIFEST_FILE]) = none)
    (h : Fs.Shrinks (store.root ++ [m] ++ [id] ++ [x]) fs fs') :
    OnlyFinished json store made fs' := by
  have hother : ∀ m' id' y, store.root ++ [m'] ++ [id'] ++ [y] ≠ store.root ++ [m] ++ [id] ++ [x] →
      fs'.get (store.root ++ [m'] ++ [id'] ++ [y]) = fs.get (store.root ++ [m'] ++ [id'] ++ [y]) := by
    intro m' id' y hne
    rcases h (store.root ++ [m'] ++ [id'] ++ [y]) with hsame | ⟨hpre, _⟩
    · exact hsame
    · exact absurd (hpre.eq_of_length (by simp)).symm hne
  intro m' id'
  by_cases hd : store.root ++ [m'] ++ [id'] = store.root ++ [m] ++ [id]
  · rw [hd]
    have hin : ∀ y, y ≠ x → fs'.get (store.root ++ [m] ++ [id] ++ [y]) =
        fs.get (store.root ++ [m] ++ [id] ++ [y]) := fun y hy => hother m id y (path_ne hy)
    rcases h (store.root ++ [m] ++ [id] ++ [x]) with hsame | ⟨_, hgone⟩
    · refine (hI m id).congr ?_
      intro y
      by_cases hy : y = x
      · rw [hy]
        exact hsame
      · exact hin y hy
    · by_cases hman : x = MANIFEST_FILE
      · subst hman
        exact Sound.of_none hgone
      · by_cases hfile : x = MEMORY_FILE ∨ x = STATE_FILE
        · refine Sound.of_none ?_
          rw [hin _ (Ne.symm hman)]
          exact hx hfile
        · rw [not_or] at hfile
          intro bytes hbytes hparse
          rw [hin _ (Ne.symm hman)] at hbytes
          obtain ⟨cap, hmade, h1, h2, h3⟩ := hI m id bytes hbytes hparse
          exact ⟨cap, hmade, (hin _ (Ne.symm hfile.1)).trans h1,
            (hin _ (Ne.symm hfile.2)).trans h2, (hin _ (Ne.symm hman)).trans h3⟩
  · refine (hI m' id').congr ?_
    intro y
    exact hother m' id' y (fun heq => hd (List.append_inj' heq rfl).1)

theorem removeDirAll_safe {m : String} (id : String) {o : EntryOrder} (ho : ManifestOrder o)
    (hI : OnlyFinished json store made fs) :
    Stays (OnlyFinished json store made) fs (removeDirAll o (store.root ++ [m]) id) := by
  -- As long as the manifest is there, it is still to come, and before the two files.
  refine safe_removeDirAll
    (fun rest a => OnlyFinished json store made a ∧
      (a.get (store.root ++ [m] ++ [id] ++ [MANIFEST_FILE]) ≠ none →
        MANIFEST_FILE ∈ rest ∧ ManifestFirst rest)) hI ?_ ?_ ?_
  · intro _
    refine ⟨hI, fun hthere => ?_⟩
    have hmem := Fs.mem_readDir.mpr hthere
    exact ⟨(o.perm _).mem_iff.mpr hmem, ho _ hmem⟩
  · rintro x rest a b ⟨hIa, hman⟩ hshrinks
    have hIb : OnlyFinished json store made b := by
      refine hIa.shrinks ?_ hshrinks
      intro hx
      by_contra hthere
      exact (hman hthere).2.head_ne hx
    refine ⟨hIb, fun hgone => ⟨hIb, fun hthere => ?_⟩⟩
    have hx : x ≠ MANIFEST_FILE := by
      rintro rfl
      exact hthere hgone
    have hbefore : a.get (store.root ++ [m] ++ [id] ++ [MANIFEST_FILE]) ≠ none := by
      rcases hshrinks (store.root ++ [m] ++ [id] ++ [MANIFEST_FILE]) with hsame | ⟨_, hnone⟩
      · rw [← hsame]
        exact hthere
      · exact absurd hnone hthere
    obtain ⟨hmem, hfirst⟩ := hman hbefore
    exact ⟨List.mem_of_ne_of_mem (Ne.symm hx) hmem, hfirst.tail hx⟩
  · rintro a b ⟨hIa, _⟩ honly
    exact ⟨hIa, hIa.only_short honly (by simp)⟩

theorem create_safe {cap : Capture} (hmade : made cap) (machine : String) (now : Nat)
    (hI : OnlyFinished json store made fs) :
    Stays (OnlyFinished json store made) fs (store.create json machine now cap) := by
  refine safe_bind ((newSnapshotDir_safe machine now hI).imp ?_)
  rintro fs' id ⟨hI', hblank⟩
  refine Prog.Safe.bind ((Capture.prog_safe hmade hI' hblank).imp ?_)
  rintro fs'' (e | u) h
  · exact h
  · exact h

theorem remove_safe (machine id : String) {o : EntryOrder} (ho : ManifestOrder o)
    (hI : OnlyFinished json store made fs) :
    Stays (OnlyFinished json store made) fs (store.remove machine id o) :=
  SnapshotStore.stays_remove (removeDirAll_safe (sanitize id) ho hI)

theorem gc_safe (machine : String) (keep : Nat) {o : EntryOrder} (ho : ManifestOrder o)
    (hI : OnlyFinished json store made fs) :
    Stays (OnlyFinished json store made) fs (store.gc json machine keep o) := by
  refine safe_bind (safe_look hI ?_ hI)
  intro snaps _
  refine safe_bind (safe_forEach (fun _ a => OnlyFinished json store made a) _ hI ?_ ?_)
  · exact fun snap _ a ha => removeDirAll_safe snap.id ho ha
  · exact fun a ha => safe_pure ha

end Calls

end Sound

/-! ## Sessions -/

/-- The call removes nothing, or comes to the manifest first. -/
def StoreCall.ManifestFirst : StoreCall → Prop
  | .create _ _ _ => True
  | .remove _ _ o => ManifestOrder o
  | .gc _ _ o => ManifestOrder o

/-- The captures that were begun in a session. -/
def Begun (as : List (Session.Act StoreCall IoError)) (cap : Capture) : Prop :=
  ∃ machine now, .start (.create machine now cap) ∈ as

/-- **Only finished captures are listed**, in every state of every session on a new store in which
removals come to the manifest first: wherever the calls were killed, a snapshot that is listed has
the three files that one of the captures of the session had to write, complete. -/
theorem list_onlyFinished (json : Json) (store : SnapshotStore) (fs : Fs)
    (hnew : fs.get store.root = none) (as : List (Session.Act StoreCall IoError))
    (hfirst : ∀ c, .start c ∈ as → c.ManifestFirst)
    (s : Session Fs IoError (Except IoError (List String)))
    (hrun : run (Session.step (StoreCall.prog json store)) ⟨fs, none⟩ as = some s)
    (machine : String) (snaps : List SnapshotRef)
    (hlist : store.list json machine s.store = .ok snaps) :
    ∀ snap ∈ snaps, ∃ cap, Begun as cap ∧ cap.Finished json s.store snap.dir := by
  have hI : OnlyFinished json store (Begun as) s.store := by
    refine Session.run_safe (OnlyFinished json store (Begun as)) as ?_ (OnlyFinished.of_none hnew)
      hrun
    intro c hc d hd
    have hsafe : Fallible.Stays (OnlyFinished json store (Begun as)) d (StoreCall.prog json store c) := by
      cases c with
      | create machine now cap =>
        exact Fallible.safe_bind (create_safe ⟨machine, now, hc⟩ machine now hd)
      | remove machine id o =>
        exact Fallible.safe_bind (remove_safe machine id (hfirst _ hc) hd)
      | gc machine keep o => exact gc_safe machine keep (hfirst _ hc) hd
    exact Prog.Safe.imp hsafe (fun _ _ _ => trivial)
  intro snap hsnap
  obtain ⟨hdir, bytes, hman, hparse⟩ := SnapshotStore.mem_list hlist hsnap
  rw [hdir] at hman ⊢
  exact hI (sanitize machine) snap.id bytes hman (by rw [hparse]; simp)

/-! ## Two sessions -/

/-- A format of fixed width. -/
def fixedWidth : Json where
  toVecPretty m :=
    leBytes 4 m.version.toNat ++ leBytes 1 m.vcpuCount.toNat ++ leBytes 8 m.memoryMib.toNat ++
      leBytes 8 m.host.cpuidHash.toNat ++ leBytes 4 m.host.tscKhz.toNat
  fromSlice text :=
    if text.length = 25 then
      some {
        version := UInt32.ofNat (ofLeBytes (text.take 4))
        vcpuCount := UInt8.ofNat (ofLeBytes ((text.drop 4).take 1))
        memoryMib := UInt64.ofNat (ofLeBytes ((text.drop 5).take 8))
        memoryFile := MEMORY_FILE
        stateFile := STATE_FILE
        kind := .full
        parentUid := none
        host := {
          cpuidHash := UInt64.ofNat (ofLeBytes ((text.drop 13).take 8))
          tscKhz := UInt32.ofNat (ofLeBytes (text.drop 21)) } }
    else none
  whole := by
    intro m text hpre hparse
    refine hpre.eq_of_length ?_
    have hlen : text.length = 25 := by
      by_contra h
      exact hparse (if_neg h)
    rw [hlen]
    simp

/-- A frozen machine with one vCPU and two bytes of RAM. -/
def smallCapture : Capture where
  kind := .snapshot
  shape := ⟨1, 0, 0⟩
  ram := [[1], [2]]
  dirty := []
  state := [3]
  vcpus := 1
  memoryMib := 128
  host := ⟨7, 8⟩

/-- A snapshot of `n` statements. -/
def takeSnapshot (now n : Nat) : List (Session.Act StoreCall IoError) :=
  .start (.create "web" now smallCapture) :: List.replicate n .stmt ++ [.leave]

/-- A removal that is killed after its first `n` statements. -/
def killedRemoval (x : String) (n : Nat) : List (Session.Act StoreCall IoError) :=
  .start (.remove "web" "00000000000000000005" (EntryOrder.first x)) :: List.replicate n .stmt ++
    [.leave]

theorem manifestOrder_first : ManifestOrder (EntryOrder.first MANIFEST_FILE) := by
  intro names hmem x hx
  have hin : MANIFEST_FILE ∈ names.filter (fun y => decide (y = MANIFEST_FILE)) :=
    List.mem_filter.mpr ⟨hmem, by decide⟩
  obtain ⟨y, ys, hys⟩ := List.exists_cons_of_ne_nil (List.ne_nil_of_mem hin)
  have hy : y = MANIFEST_FILE := by
    have hmem' : y ∈ names.filter (fun y => decide (y = MANIFEST_FILE)) := by
      rw [hys]
      exact List.mem_cons_self
    exact of_decide_eq_true (List.mem_filter.mp hmem').2
  have harrange : (EntryOrder.first MANIFEST_FILE).arrange names = MANIFEST_FILE ::
      (ys ++ names.filter (fun y => !decide (y = MANIFEST_FILE))) := by
    show names.filter (fun y => decide (y = MANIFEST_FILE)) ++ _ = _
    rw [hys, hy, List.cons_append]
  rw [harrange, List.takeWhile_cons_of_neg (by simp)] at hx
  cases hx

/-- Two snapshots, and a removal of the first that is killed when the manifest is gone: the second
is listed. -/
theorem list_onlyFinished_two :
    ∃ (s : Session Fs IoError (Except IoError (List String))) (snaps : List SnapshotRef),
      run (Session.step (StoreCall.prog fixedWidth (SnapshotStore.new []))) ⟨Fs.empty, none⟩
        (takeSnapshot 5 45 ++ takeSnapshot 5 44 ++ killedRemoval MANIFEST_FILE 4) = some s ∧
      (SnapshotStore.new []).list fixedWidth "web" s.store = .ok snaps ∧
      snaps.map SnapshotRef.id = ["00000000000000000006"] ∧
      ∀ snap ∈ snaps, ∃ cap,
        Begun (takeSnapshot 5 45 ++ takeSnapshot 5 44 ++ killedRemoval MANIFEST_FILE 4) cap ∧
          cap.Finished fixedWidth s.store snap.dir := by
  have hrun : (run (Session.step (StoreCall.prog fixedWidth (SnapshotStore.new [])))
      ⟨Fs.empty, none⟩ (takeSnapshot 5 45 ++ takeSnapshot 5 44 ++ killedRemoval MANIFEST_FILE 4)).any
        (fun s => decide (((SnapshotStore.new []).list fixedWidth "web" s.store).toOption.map
          (fun snaps => snaps.map SnapshotRef.id) = some ["00000000000000000006"])) = true := by
    decide +kernel
  obtain ⟨s, hs, hids⟩ := (Option.any_eq_true _ _).mp hrun
  cases hlist : (SnapshotStore.new []).list fixedWidth "web" s.store with
  | error e =>
    rw [hlist] at hids
    cases of_decide_eq_true hids
  | ok snaps =>
    rw [hlist] at hids
    refine ⟨s, snaps, hs, hlist, Option.some.inj (of_decide_eq_true hids), ?_⟩
    refine list_onlyFinished fixedWidth (SnapshotStore.new []) Fs.empty rfl _ ?_ s hs "web" snaps
      hlist
    intro c hc
    cases c with
    | create machine now cap => trivial
    | remove machine id o =>
      simp [takeSnapshot, killedRemoval] at hc
      rw [hc.2.2]
      exact manifestOrder_first
    | gc machine keep o => simp [takeSnapshot, killedRemoval] at hc

/-- A snapshot, and a removal of it that comes to `memory.bin` first and is killed right after: the
snapshot is still listed, and is no finished capture any more. -/
theorem list_killed_removal :
    ∃ (s : Session Fs IoError (Except IoError (List String))) (snaps : List SnapshotRef),
      run (Session.step (StoreCall.prog fixedWidth (SnapshotStore.new []))) ⟨Fs.empty, none⟩
        (takeSnapshot 5 45 ++ killedRemoval MEMORY_FILE 4) = some s ∧
      (SnapshotStore.new []).list fixedWidth "web" s.store = .ok snaps ∧
      ∃ snap ∈ snaps, ∀ cap : Capture, ¬ cap.Finished fixedWidth s.store snap.dir := by
  have hrun : (run (Session.step (StoreCall.prog fixedWidth (SnapshotStore.new [])))
      ⟨Fs.empty, none⟩ (takeSnapshot 5 45 ++ killedRemoval MEMORY_FILE 4)).any
        (fun s => ((SnapshotStore.new []).list fixedWidth "web" s.store).toOption.any
          (fun snaps => snaps.any (fun snap =>
            decide (s.store.get (snap.dir ++ [MEMORY_FILE]) = none)))) = true := by
    decide +kernel
  obtain ⟨s, hs, hlisted⟩ := (Option.any_eq_true _ _).mp hrun
  cases hlist : (SnapshotStore.new []).list fixedWidth "web" s.store with
  | error e =>
    rw [hlist] at hlisted
    cases hlisted
  | ok snaps =>
    rw [hlist] at hlisted
    obtain ⟨snap, hsnap, hgone⟩ := List.any_eq_true.mp hlisted
    refine ⟨s, snaps, hs, hlist, snap, hsnap, ?_⟩
    rintro cap ⟨hmemory, _⟩
    rw [of_decide_eq_true hgone] at hmemory
    cases hmemory

end MicroMachines.Vmm
