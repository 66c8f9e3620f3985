import MicroMachines.Vmm.System

set_option autoImplicit false

/-! # What the orchestrating thread knows

The part of the state that only the orchestrating thread changes, and where in its call it is.
`View.pre` says what each operation may rely on, `View.post` what a call leaves behind.
`Call.safe` follows every script with its early returns and shows that it keeps to this, from
whatever an earlier call, failed or not, has left. It does not depend on what the other threads
do.
-/

namespace MicroMachines.Vmm

open MicroMachines.Lib Task

/-- The call writes a snapshot. -/
def Call.saves : Call → Bool
  | .snapshotInPlace => true
  | .branch => true
  | .snapshot => true
  | _ => false

structure View where
  call : Option Call := none
  released : Bool := false
  /-- The standing request: with devices, without, or none. -/
  cycle : Option Bool := none
  /-- All participants of the request have been seen parked. -/
  held : Bool := false
  /-- No slot has been emptied since the request. -/
  fresh : Bool := false
  /-- A freezing snapshot has set the pause flag and joined so many vCPUs. -/
  pausing : Bool := false
  joined : Nat := 0
  /-- The vCPU states and cursors collected so far, and how far the image is. -/
  vcpus : Nat := 0
  devs : Nat := 0
  copying : Bool := false
  copied : Bool := false

namespace View

/-- All vCPU threads have ended. -/
def Frozen (m : Shape) (v : View) : Prop := v.pausing = true ∧ v.joined = m.nVcpu

/-- All devices and vCPUs stand still, in place or for good. -/
def Still (m : Shape) (v : View) : Prop := (v.held = true ∧ v.cycle = some true) ∨ v.Frozen m

/-- No barrier is held, and if a request was left standing it was one with devices. -/
structure Rest (v : View) : Prop where
  held : v.held = false
  cycle : v.cycle ≠ some false

/-- How an operation changes the view. The flags can always be stored. -/
def next (o : Op) (ok : Bool) (v : View) : View :=
  match o, ok with
  | .clearReleased, _ => { v with released := false }
  | .setRequested devices, _ => { v with cycle := some devices, fresh := true }
  | .waitUntilParked _, true => { v with held := true }
  | .clearRequested, _ => { v with cycle := none, held := false }
  | .setReleased, _ => { v with released := true }
  | .takeVcpu i, true => { v with vcpus := i + 1, fresh := false }
  | .takeDevice d, true => { v with devs := d + 1, fresh := false }
  | .waitForCapture d, true => { v with devs := d + 1, fresh := false }
  | .createMemoryFile, true => { v with copying := true, copied := false }
  | .openForRecopy, true => { v with copying := true, copied := false }
  | .dumpGuestMemory, true => { v with copied := true }
  | .recopyBranchPages, true => { v with copied := true }
  | .setVcpuPause, _ => { v with pausing := true, joined := 0 }
  | .joinVcpu i, _ => { v with joined := i + 1 }
  | _, _ => v

/-- What an operation relies on. -/
def pre (m : Shape) : Op → View → Prop
  | .setRequested _, v =>
    v.released = false ∧ v.held = false ∧ v.pausing = false ∧ v.vcpus = 0 ∧ v.devs = 0 ∧
      v.copying = false
  | .wakeDevice d, v =>
    d < m.nDev ∧ ((v.cycle = some true ∧ v.pausing = false) ∨
      (v.call = some .snapshot ∧ v.Frozen m ∧ v.cycle ≠ some false))
  | .waitUntilParked devices, v =>
    v.cycle = some devices ∧ v.fresh = true ∧ v.pausing = false ∧ v.copying = false ∧
      v.vcpus = 0 ∧ v.devs = 0
  | .clearRequested, v => v.pausing = false
  | .setReleased, v => v.cycle = none
  | .takeVcpu i, v =>
    i < m.nVcpu ∧ i = v.vcpus ∧ v.copying = false ∧ (v.held = true ∨ v.Frozen m)
  | .takeDevice d, v =>
    d < m.nDev ∧ d = v.devs ∧ v.copying = false ∧ v.held = true ∧ v.cycle = some true
  | .waitForCapture d, v => d < m.nDev ∧ d = v.devs ∧ v.copying = false ∧ v.Frozen m
  | .dumpGuestMemory, v =>
    v.copying = true ∧ v.vcpus = m.nVcpu ∧ v.devs = m.nDev ∧ v.Still m
  | .recopyBranchPages, v =>
    v.copying = true ∧ v.vcpus = m.nVcpu ∧ v.devs = m.nDev ∧ v.held = true ∧
      v.cycle = some true
  | .setVcpuPause, v =>
    v.call = some .snapshot ∧ v.held = false ∧ v.pausing = false ∧ v.vcpus = 0 ∧ v.devs = 0 ∧
      v.copying = false
  | .joinVcpu i, v => i < m.nVcpu ∧ v.pausing = true ∧ v.joined = i
  | _, _ => True

/-- The snapshot is complete, and a freezing one has frozen the machine. -/
def Complete (m : Shape) (v : View) : Prop :=
  v.vcpus = m.nVcpu ∧ v.devs = m.nDev ∧ v.copied = true ∧ (v.call = some .snapshot → v.Frozen m)

/-- What a call leaves: no barrier is held, and a snapshot that was returned is complete. -/
def post (m : Shape) (v : View) (r : Except VmmError Unit) : Prop :=
  v.Rest ∧ (r = .ok () → ∀ c, v.call = some c → c.saves = true → v.Complete m)

theorem call_ne_snapshot {c : Call} {v : View} {P : Prop} (hc : c ≠ .snapshot)
    (hcall : v.call = some c) : v.call = some .snapshot → P :=
  fun h => absurd (Option.some.inj (hcall.symm.trans h)) hc

/-- A new call. -/
def enter (c : Call) (v : View) : View :=
  { v with
    call := some c
    pausing := false
    joined := 0
    vcpus := 0
    devs := 0
    copying := false
    copied := false }

/-- Nothing is held, and nothing has been collected yet. -/
structure Idle (c : Call) (v : View) : Prop where
  call : v.call = some c
  rest : v.Rest
  pausing : v.pausing = false
  vcpus : v.vcpus = 0
  devs : v.devs = 0
  copying : v.copying = false

/-- The barrier is held. -/
structure Holds (c : Call) (devices : Bool) (v : View) : Prop where
  call : v.call = some c
  cycle : v.cycle = some devices
  held : v.held = true
  pausing : v.pausing = false

/-- The barrier after a release. -/
def freed (v : View) : View := { v with cycle := none, held := false, released := true }

theorem freed_rest (v : View) : v.freed.Rest := ⟨rfl, nofun⟩

theorem enter_idle (c : Call) {v : View} (h : v.Rest) : (v.enter c).Idle c :=
  ⟨rfl, ⟨h.held, h.cycle⟩, rfl, rfl, rfl, rfl⟩

end View

/-! ## The barrier -/

/-- A task of the thread keeps to its view: it ends with `Q`, or fails with `E`. -/
abbrev View.Keeps {α : Type} (m : Shape) (Q : View → α → Prop) (E : View → Prop) (v : View)
    (t : Task Op VmmError α) : Prop :=
  Task.Safe (View.pre m) View.next Q E v t

section Safe

variable {m : Shape} {c : Call} {v : View} {Q : View → Unit → Prop} {E : View → Prop} {devices : Bool}

theorem safe_release (hp : v.pausing = false) (hQ : Q v.freed ()) :
    View.Keeps m Q E v release :=
  safe_bind (safe_act hp (fun _ => safe_act rfl (fun _ => hQ)))

theorem safe_releaseBarrier (hp : v.pausing = false)
    (hQ : Q v.freed ()) (hE : E v.freed) :
    View.Keeps m Q E v releaseBarrier :=
  safe_bind (safe_release hp (safe_perform trivial hQ hE))

theorem safe_released {α : Type} {Q : View → α → Prop} {f : Except VmmError Unit → Task Op VmmError α}
    (hp : v.pausing = false) (hf : ∀ r, View.Keeps m Q E v.freed (f r)) :
    View.Keeps m Q E v (result releaseBarrier >>= f) :=
  safe_bind (safe_result_cases (safe_releaseBarrier hp (hf _) (fun _ => hf _)))

/-- Waking the devices of a standing request. -/
theorem safe_wakeDevices (hcycle : v.cycle = some devices)
    (hp : v.pausing = false) (hQ : Q v ()) (hE : devices = true → E v) :
    View.Keeps m Q E v (wakeDevices m devices) := by
  cases devices with
  | false => exact safe_pure hQ
  | true =>
    refine safe_forEach_range (fun _ v' => v' = v) _ rfl (fun d v' hd hv => ?_) ?_
    · subst hv
      exact safe_perform ⟨hd, Or.inl ⟨hcycle, hp⟩⟩ rfl (hE rfl)
    · rintro _ rfl
      exact hQ

theorem safe_quiesceAtBarrier (hv : v.Idle c)
    (hQ : ∀ v', v'.Holds c devices → v'.vcpus = 0 → v'.devs = 0 → v'.copying = false → Q v' ())
    (hE : ∀ v', v'.Idle c → E v') :
    View.Keeps m Q E v (quiesceAtBarrier m devices) := by
  unfold quiesceAtBarrier
  split_ifs with h0
  · exact safe_fail (hE v hv)
  · refine safe_bind (safe_bind (safe_act trivial (fun _ => ?_)))
    refine safe_act ⟨rfl, hv.rest.held, hv.pausing, hv.vcpus, hv.devs, hv.copying⟩ (fun _ => ?_)
    refine safe_bind (safe_wakeDevices rfl hv.pausing ?_ (fun hdev => ?_))
    · refine safe_bind (safe_test ⟨rfl, rfl, hv.pausing, hv.copying, hv.vcpus, hv.devs⟩ (fun parked => ?_))
      cases parked with
      | true => exact safe_pure (hQ _ ⟨hv.call, rfl, rfl, hv.pausing⟩ hv.vcpus hv.devs hv.copying)
      | false =>
        refine safe_bind (safe_release hv.pausing ?_)
        refine safe_bind (safe_act trivial (fun _ => safe_fail (hE _ ?_)))
        exact ⟨hv.call, View.freed_rest _, hv.pausing, hv.vcpus, hv.devs, hv.copying⟩
    · subst hdev
      exact hE _ ⟨hv.call, ⟨hv.rest.held, nofun⟩, hv.pausing, hv.vcpus, hv.devs, hv.copying⟩

/-! ## Collecting -/

/-- Taking the vCPU states, in place or after a freeze. -/
theorem safe_takeVcpus {err : Nat → VmmError} (h0 : v.vcpus = 0)
    (hcopy : v.copying = false) (hstill : v.held = true ∨ v.Frozen m)
    (hQ : ∀ f, Q { v with vcpus := m.nVcpu, fresh := f } ())
    (hE : ∀ i f, E { v with vcpus := i, fresh := f }) :
    View.Keeps m Q E v
      (forEach (List.range m.nVcpu) (fun i => perform (.takeVcpu i) (err i))) := by
  refine safe_forEach_range (fun i v' => ∃ f, v' = { v with vcpus := i, fresh := f }) _
    ⟨v.fresh, by rw [← h0]⟩ (fun i v' hi hv => ?_) ?_
  · obtain ⟨f, rfl⟩ := hv
    exact safe_perform ⟨hi, rfl, hcopy, hstill⟩ ⟨false, rfl⟩ (hE i f)
  · rintro _ ⟨f, rfl⟩
    exact hQ f

theorem safe_collectDeviceStates (h0 : v.devs = 0)
    (hcopy : v.copying = false) (hheld : v.held = true) (hcycle : v.cycle = some true)
    (hQ : ∀ f, Q { v with devs := m.nDev, fresh := f } ())
    (hE : ∀ d f, E { v with devs := d, fresh := f }) :
    View.Keeps m Q E v (collectDeviceStates m) := by
  refine safe_forEach_range (fun d v' => ∃ f, v' = { v with devs := d, fresh := f }) _
    ⟨v.fresh, by rw [← h0]⟩ (fun d v' hd hv => ?_) ?_
  · obtain ⟨f, rfl⟩ := hv
    exact safe_perform ⟨hd, rfl, hcopy, hheld, hcycle⟩ ⟨false, rfl⟩ (hE d f)
  · rintro _ ⟨f, rfl⟩
    exact hQ f

/-- Collecting everything at a barrier with devices. An error leaves the barrier held. -/
theorem safe_captureVmState (hv : v.Holds c true) (hvc : v.vcpus = 0)
    (hd : v.devs = 0) (hcopy : v.copying = false)
    (hQ : ∀ v', v'.Holds c true → v'.vcpus = m.nVcpu → v'.devs = m.nDev → v'.copying = false →
      Q v' ())
    (hE : ∀ v', v'.Holds c true → E v') :
    View.Keeps m Q E v (captureVmState m) := by
  refine safe_bind (safe_takeVcpus hvc hcopy (Or.inl hv.held) (fun f => ?_) (fun i f => ?_))
  · refine safe_bind
      (safe_collectDeviceStates hd hcopy hv.held hv.cycle (fun f' => ?_) (fun d f' => ?_))
    · have hH : View.Holds c true { v with vcpus := m.nVcpu, devs := m.nDev, fresh := f' } :=
        ⟨hv.call, hv.cycle, hv.held, hv.pausing⟩
      refine safe_bind (safe_perform trivial ?_ (hE _ hH))
      exact safe_perform trivial (hQ _ hH rfl rfl hcopy) (hE _ hH)
    · exact hE _ ⟨hv.call, hv.cycle, hv.held, hv.pausing⟩
  · exact hE _ ⟨hv.call, hv.cycle, hv.held, hv.pausing⟩

/-- The dump, when everything stands still and has been collected. -/
theorem safe_dumpGuestMemory (hvc : v.vcpus = m.nVcpu)
    (hd : v.devs = m.nDev) (hstill : v.Still m)
    (hQ : Q { v with copying := true, copied := true } ())
    (hE : E v) (hE' : E { v with copying := true, copied := false }) :
    View.Keeps m Q E v dumpGuestMemory :=
  safe_bind (safe_perform trivial (safe_perform ⟨rfl, hvc, hd, hstill⟩ hQ hE') hE)

theorem safe_writeSnapshotMetadata (hQ : Q v ()) (hE : E v) :
    View.Keeps m Q E v writeSnapshotMetadata :=
  safe_bind (safe_perform trivial (safe_perform trivial hQ hE) hE)

/-- Operations on the dirty logs do not change the view. -/
theorem safe_setDirtyLogging {enable : Bool} (hQ : Q v ()) (hE : E v) :
    View.Keeps m Q E v (setDirtyLogging m enable) := by
  refine safe_forEach (fun _ v' => v' = v) _ rfl (fun _ _ v' hv => ?_) ?_
  · subst hv
    exact safe_perform trivial rfl hE
  · rintro _ rfl
    exact hQ

theorem safe_collectDirtyPages (hQ : Q v ()) (hE : E v) :
    View.Keeps m Q E v (collectDirtyPages m) := by
  refine safe_bind (safe_act trivial (fun _ => ?_))
  refine safe_forEach (fun _ v' => v' = v) _ rfl (fun _ _ v' hv => ?_) ?_
  · subst hv
    exact safe_perform trivial rfl hE
  · rintro _ rfl
    exact hQ

/-! ## The calls -/

/-- The postcondition of a call that succeeds; one that fails holds no barrier. -/
def View.Done (m : Shape) (v : View) : Prop :=
  v.Rest ∧ ∀ c, v.call = some c → c.saves = true → v.Complete m

/-- A call that keeps to its view. -/
abbrev View.Ends (m : Shape) (v : View) (t : Task Op VmmError Unit) : Prop :=
  View.Keeps m (fun v _ => v.Done m) View.Rest v t

theorem View.done_of_not_saves (hcall : v.call = some c) (hs : c.saves = false)
    (hrest : v.Rest) : v.Done m := by
  refine ⟨hrest, fun c' hc' hs' => ?_⟩
  rw [hcall] at hc'
  cases hc'
  rw [hs] at hs'
  cases hs'

theorem safe_checkpointInPlace (hv : v.Idle c) (hs : c.saves = false) :
    View.Ends m v (checkpointInPlace m) := by
  refine safe_bind (safe_quiesceAtBarrier hv (fun v' hH hvc _ hcopy => ?_) (fun v' h => h.rest))
  refine safe_bind (safe_result_cases
    (safe_takeVcpus hvc hcopy (Or.inl hH.held) (fun f => ?_) (fun i f e => ?_)))
  · exact safe_bind (safe_releaseBarrier hH.pausing
      (safe_ofResult (View.done_of_not_saves hH.call hs (View.freed_rest _))) (View.freed_rest _))
  · exact safe_bind (safe_releaseBarrier hH.pausing (safe_ofResult (View.freed_rest _)) (View.freed_rest _))

theorem safe_checkpointFullInPlace (hv : v.Idle c) (hs : c.saves = false) :
    View.Ends m v (checkpointFullInPlace m) := by
  refine safe_bind (safe_quiesceAtBarrier hv (fun v' hH hvc hd hcopy => ?_) (fun v' h => h.rest))
  refine safe_bind (safe_result_cases
    (safe_captureVmState hH hvc hd hcopy (fun v'' hH' _ _ _ => ?_) (fun v'' hH' e => ?_)))
  · exact safe_bind (safe_releaseBarrier hH'.pausing
      (safe_ofResult (View.done_of_not_saves hH'.call hs (View.freed_rest _))) (View.freed_rest _))
  · exact safe_bind (safe_releaseBarrier hH'.pausing (safe_ofResult (View.freed_rest _)) (View.freed_rest _))

/-- What follows the release in the two calls that write a snapshot in place. -/
theorem safe_finishInPlace {released : Except VmmError Unit} (hdone : v.Done m) :
    View.Ends m v (do
      ofResult released
      perform .cpuidHash kvmError
      writeSnapshotMetadata) := by
  refine safe_bind (safe_ofResult ?_)
  cases released with
  | error e => exact hdone.1
  | ok _ => exact safe_bind (safe_perform trivial (safe_writeSnapshotMetadata hdone hdone.1) hdone.1)

theorem safe_snapshotInPlace (hv : v.Idle c) (hc : c ≠ .snapshot) :
    View.Ends m v (snapshotInPlace m) := by
  -- the capture has failed: the barrier is released and the error returned
  have hfail : ∀ v' : View, v'.Holds c true → ∀ e : VmmError,
      View.Ends m v' (do
        let released ← result releaseBarrier
        ofResult (.error e)
        ofResult released
        perform .cpuidHash kvmError
        writeSnapshotMetadata) := fun v' hH e =>
    safe_released hH.pausing (fun _ => safe_bind (safe_ofResult (View.freed_rest _)))
  refine safe_bind (safe_perform trivial ?_ hv.rest)
  refine safe_bind (safe_quiesceAtBarrier hv (fun v' hH hvc hd hcopy => ?_) (fun v' h => h.rest))
  refine safe_bind (safe_result_cases (safe_bind
    (safe_captureVmState hH hvc hd hcopy (fun v'' hH' hvc' hd' hcopy' => ?_) hfail)))
  refine safe_dumpGuestMemory hvc' hd' (Or.inl ⟨hH'.held, hH'.cycle⟩) ?_ (hfail _ hH')
    (hfail _ ⟨hH'.call, hH'.cycle, hH'.held, hH'.pausing⟩)
  have hdone : View.Done m (View.freed { v'' with copying := true, copied := true }) :=
    ⟨View.freed_rest _, fun _ _ _ => ⟨hvc', hd', rfl, View.call_ne_snapshot hc hH'.call⟩⟩
  exact safe_released hH'.pausing (fun _ => safe_bind (safe_ofResult (safe_finishInPlace hdone)))

/-- Giving up a branch at a held barrier. -/
theorem safe_abandonBranch (hv : v.Holds c true) (e : VmmError) :
    View.Ends m v (abandonBranch m e) := by
  have hrest : View.Ends m v (do let _ ← result releaseBarrier; fail e) :=
    safe_released hv.pausing (fun _ => safe_fail (View.freed_rest _))
  exact safe_bind (safe_result_cases (safe_setDirtyLogging hrest (fun _ => hrest)))

theorem safe_finishBranch (hv : v.Idle c) (hc : c ≠ .snapshot) :
    View.Ends m v (finishBranch m) := by
  refine safe_bind (safe_quiesceAtBarrier hv (fun v' hH hvc hd hcopy => ?_) (fun v' h => h.rest))
  -- the rest after a failure is the same as giving up
  refine safe_bind (safe_result_cases (safe_bind (safe_captureVmState hH hvc hd hcopy
    (fun v'' hH' hvc' hd' hcopy' => ?_) (fun v'' hH' => safe_abandonBranch hH'))))
  refine safe_bind (safe_collectDirtyPages ?_ (safe_abandonBranch hH'))
  refine safe_bind (safe_perform trivial ?_ (safe_abandonBranch hH'))
  have hH'' : View.Holds c true { v'' with copying := true, copied := false } :=
    ⟨hH'.call, hH'.cycle, hH'.held, hH'.pausing⟩
  refine safe_perform ⟨rfl, hvc', hd', hH'.held, hH'.cycle⟩ ?_ (safe_abandonBranch hH'')
  have hdone : View.Done m (View.freed { v'' with copying := true, copied := true }) :=
    ⟨View.freed_rest _, fun _ _ _ => ⟨hvc', hd', rfl, View.call_ne_snapshot hc hH'.call⟩⟩
  have hrest : View.Ends m { v'' with copying := true, copied := true } (do
        let released ← result releaseBarrier
        ofResult released
        perform .cpuidHash kvmError
        writeSnapshotMetadata) :=
    safe_released hH'.pausing (fun _ => safe_finishInPlace hdone)
  exact safe_bind (safe_result_cases (safe_setDirtyLogging hrest (fun _ => hrest)))

theorem safe_branch (hv : v.Idle c) (hc : c ≠ .snapshot) :
    View.Ends m v (branch m) := by
  refine safe_bind (safe_perform trivial ?_ hv.rest)
  refine safe_bind (safe_quiesceAtBarrier hv (fun v' hH hvc hd hcopy => ?_) (fun v' h => h.rest))
  have hI : v'.freed.Idle c := ⟨hH.call, View.freed_rest _, hH.pausing, hvc, hd, hcopy⟩
  refine safe_bind (safe_result_cases (safe_bind (safe_setDirtyLogging
    (safe_collectDirtyPages ?_ (safe_abandonBranch hH)) (safe_abandonBranch hH))))
  refine safe_bind (safe_releaseBarrier hH.pausing ?_ (View.freed_rest _))
  have hfail : ∀ e, View.Ends m v'.freed (do quiesceAtBarrier m true; abandonBranch m e) := fun e =>
    safe_bind (safe_quiesceAtBarrier hI (fun v'' hH' _ _ _ => safe_abandonBranch hH' e) (fun v'' h => h.rest))
  exact safe_bind (safe_result_cases (safe_bind (safe_perform trivial
    (safe_perform trivial (safe_finishBranch hI hc) hfail) hfail)))

theorem safe_joinVcpus (n : Nat) :
    ∀ {Q : View → Bool → Prop} (i : Nat) (v : View), v.pausing = true → v.joined = i →
      i + n = m.nVcpu → (∀ b, Q { v with joined := m.nVcpu } b) →
      View.Keeps m Q E v (joinVcpus (List.range' i n)) := by
  induction n with
  | zero =>
    intro Q i v _ hi hn hQ
    have hv : v = { v with joined := m.nVcpu } := by
      rw [← hn, ← hi]
      rfl
    refine safe_pure ?_
    rw [hv]
    exact hQ true
  | succ n ih =>
    intro Q i v hp hi hn hQ
    rw [List.range'_succ]
    refine safe_bind (safe_test ⟨by omega, hp, hi⟩ (fun ok => ?_))
    refine safe_bind (ih (i + 1) { v with joined := i + 1 } hp rfl (by omega) (fun b => ?_))
    exact safe_pure (hQ _)

theorem safe_pauseAndCaptureVcpus (hv : v.Idle .snapshot)
    (hQ : ∀ v', v'.call = some .snapshot → v'.Rest → v'.Frozen m → v'.vcpus = m.nVcpu →
      v'.devs = 0 → v'.copying = false → Q v' ())
    (hE : ∀ v', v'.Rest → E v') :
    View.Keeps m Q E v (pauseAndCaptureVcpus m) := by
  refine safe_bind (safe_act
    ⟨hv.call, hv.rest.held, hv.pausing, hv.vcpus, hv.devs, hv.copying⟩ (fun _ => ?_))
  rw [List.range_eq_range']
  refine safe_bind (safe_joinVcpus m.nVcpu 0 _ rfl rfl (Nat.zero_add _) (fun joined => ?_))
  cases joined with
  | false => exact safe_fail (hE _ ⟨hv.rest.held, hv.rest.cycle⟩)
  | true =>
    rw [← List.range_eq_range']
    exact safe_takeVcpus hv.vcpus hv.copying (Or.inr ⟨rfl, rfl⟩)
      (fun f => hQ _ hv.call ⟨hv.rest.held, hv.rest.cycle⟩ ⟨rfl, rfl⟩ rfl hv.devs hv.copying)
      (fun i f => hE _ ⟨hv.rest.held, hv.rest.cycle⟩)

theorem safe_pauseDevices (hcall : v.call = some .snapshot)
    (hf : v.Frozen m) (hcycle : v.cycle ≠ some false) (h0 : v.devs = 0) (hcopy : v.copying = false)
    (hQ : ∀ f, Q { v with devs := m.nDev, fresh := f } ())
    (hE : ∀ d f, E { v with devs := d, fresh := f }) :
    View.Keeps m Q E v (pauseDevices m) := by
  refine safe_forEach_range (fun d v' => ∃ f, v' = { v with devs := d, fresh := f }) _
    ⟨v.fresh, by rw [← h0]⟩ (fun d v' hd hv => ?_) ?_
  · obtain ⟨f, rfl⟩ := hv
    refine safe_bind (safe_perform ⟨hd, Or.inr ⟨hcall, hf, hcycle⟩⟩ ?_ (hE d f))
    exact safe_perform ⟨hd, rfl, hcopy, hf⟩ ⟨false, rfl⟩ (hE d f)
  · rintro _ ⟨f, rfl⟩
    exact hQ f

theorem safe_snapshot (hv : v.Idle .snapshot) :
    View.Ends m v (snapshot m) := by
  refine safe_bind (safe_perform trivial ?_ hv.rest)
  refine safe_bind (safe_pauseAndCaptureVcpus hv
    (fun v' hcall hrest hf hvc hd hcopy => ?_) (fun v' h => h))
  have hsame : ∀ {v'' : View}, v''.held = v'.held → v''.cycle = v'.cycle → v''.Rest := fun hh hc =>
    ⟨hh.trans hrest.held, hc ▸ hrest.cycle⟩
  refine safe_bind (safe_pauseDevices hcall hf hrest.cycle hd hcopy (fun f => ?_) (fun d f => hsame rfl rfl))
  refine safe_bind (safe_perform trivial ?_ (hsame rfl rfl))
  refine safe_bind (safe_perform trivial ?_ (hsame rfl rfl))
  refine safe_bind (safe_dumpGuestMemory hvc rfl (Or.inr hf) ?_ (hsame rfl rfl) (hsame rfl rfl))
  refine safe_bind (safe_perform trivial ?_ (hsame rfl rfl))
  exact safe_writeSnapshotMetadata
    ⟨hsame rfl rfl, fun _ _ _ => ⟨hvc, rfl, rfl, fun _ => hf⟩⟩ (hsame rfl rfl)

/-- **Every call keeps to its view**, whatever the calls before it have left behind. -/
theorem Call.safe (c : Call) (hrest : v.Rest) :
    Script.Safe (View.pre m) View.next (View.post m) (v.enter c) (c.script m) := by
  have hv := View.enter_idle c hrest
  have hsafe : View.Ends m (v.enter c) (c.script m) := by
    cases c with
    | checkpointInPlace => exact safe_checkpointInPlace hv rfl
    | checkpointFullInPlace => exact safe_checkpointFullInPlace hv rfl
    | snapshotInPlace => exact safe_snapshotInPlace hv (by decide)
    | branch => exact safe_branch hv (by decide)
    | snapshot => exact safe_snapshot hv
  refine Script.Safe.mono ?_ hsafe
  rintro v' (e | u) h
  · exact ⟨h, fun hr => by cases hr⟩
  · exact ⟨h.1, fun _ => h.2⟩

end Safe

/-! ## What an operation can do -/

/-- The operations that end, with success (`true`) or failure. Most of them change nothing. -/
inductive OpStep (cfg : Cfg) (s : Sys) : Op → Bool → Sys → Prop
  | quiet (o : Op) (ok : Bool) (hnext : ∀ v, View.next o ok v = v) : OpStep cfg s o ok s
  | clearReleased : OpStep cfg s .clearReleased true { s with released := false }
  | setRequested (devices : Bool) :
      OpStep cfg s (.setRequested devices) true { s with requested := true, gen := s.gen + 1 }
  | wakeDevice (d : Nat) : OpStep cfg s (.wakeDevice d) true (s.wakeDevice d)
  | parked (devices : Bool) (h : cfg.total devices ≤ s.parked) :
      OpStep cfg s (.waitUntilParked devices) true
        { s with held := some devices, barrierRam := s.ram }
  | clearRequested :
      OpStep cfg s .clearRequested true { s with requested := false, held := none }
  | setReleased : OpStep cfg s .setReleased true { s with released := true }
  | takeVcpu (i : Nat) (st : VcpuState) (h : (s.vcpus i).slot = some st) :
      OpStep cfg s (.takeVcpu i) true (s.takeVcpu i st)
  | takeDevice (d : Nat) (cap : QueueCapture) (h : (s.workers d).slot = some cap) :
      OpStep cfg s (.takeDevice d) true (s.takeDevice d cap)
  | waitForCapture (d : Nat) (cap : QueueCapture) (h : (s.workers d).slot = some cap) :
      OpStep cfg s (.waitForCapture d) true (s.takeDevice d cap)
  | newImage (o : Op) (ho : o = .createMemoryFile ∨ o = .openForRecopy) :
      OpStep cfg s o true { s with saved := { s.saved with copied := 0 } }
  | imageDone (o : Op) (ho : o = .dumpGuestMemory ∨ o = .recopyBranchPages)
      (h : s.saved.copied = cfg.nChunks) : OpStep cfg s o true s
  | setVcpuPause : OpStep cfg s .setVcpuPause true { s with pause := true }
  | join (i : Nat) (ok : Bool) (h : (s.vcpus i).handle = true → ∃ r, (s.vcpus i).pc = .returned r) :
      OpStep cfg s (.joinVcpu i) ok (s.setVcpu i { s.vcpus i with handle := false })

section OpCases

variable {cfg : Cfg} {s s' : Sys} {o : Op}

/-- Joining a thread whose handle is gone. -/
theorem OpStep.join_gone {i : Nat} (ok : Bool) (h : (s.vcpus i).handle = false) :
    OpStep cfg s (.joinVcpu i) ok s := by
  have hs : s.setVcpu i { s.vcpus i with handle := false } = s := by
    have hv : ({ s.vcpus i with handle := false } : Vcpu) = s.vcpus i := by rw [← h]
    rw [hv, Sys.setVcpu, Function.update_eq_self]
  have hjoin := @OpStep.join cfg s i ok (fun ht => by rw [h] at ht; cases ht)
  rwa [hs] at hjoin

theorem Sys.op_ok_cases (h : Sys.op cfg o .ok s = some s') : OpStep cfg s o true s' := by
  cases o <;> simp only [Sys.op] at h
  case clearReleased => cases h; exact .clearReleased
  case setRequested devices => cases h; exact .setRequested devices
  case wakeDevice d => cases h; exact .wakeDevice d
  case waitUntilParked devices =>
      split at h
      next hp => cases h; exact .parked devices hp
      next => cases h
  case clearRequested => cases h; exact .clearRequested
  case setReleased => cases h; exact .setReleased
  case waitUntilResumed =>
      split at h
      next => cases h; exact .quiet _ _ (fun _ => rfl)
      next => cases h
  case takeVcpu i =>
      obtain ⟨st, hst, rfl⟩ := Option.map_eq_some_iff.mp h
      exact .takeVcpu i st hst
  case takeDevice d =>
      obtain ⟨cap, hcap, rfl⟩ := Option.map_eq_some_iff.mp h
      exact .takeDevice d cap hcap
  case waitForCapture d =>
      obtain ⟨cap, hcap, rfl⟩ := Option.map_eq_some_iff.mp h
      exact .waitForCapture d cap hcap
  case createMemoryFile => cases h; exact .newImage _ (Or.inl rfl)
  case openForRecopy => cases h; exact .newImage _ (Or.inr rfl)
  case dumpGuestMemory =>
      split at h
      next hc => cases h; exact .imageDone _ (Or.inl rfl) hc
      next => cases h
  case recopyBranchPages =>
      split at h
      next hc => cases h; exact .imageDone _ (Or.inr rfl) hc
      next => cases h
  case setVcpuPause => cases h; exact .setVcpuPause
  case joinVcpu i =>
      split at h
      next hgone => cases h; exact .join_gone true hgone
      next =>
          split at h
          next => cases h
          next r _ hpc => cases h; exact .join i true (fun _ => ⟨r, hpc⟩)
          next => cases h
  all_goals
    cases h
    exact .quiet _ _ (fun _ => rfl)

theorem Sys.op_err_cases (h : Sys.op cfg o .err s = some s') : OpStep cfg s o false s' := by
  cases o <;> simp only [Sys.op] at h
  case clearReleased => cases h
  case setRequested => cases h
  case clearRequested => cases h
  case setReleased => cases h
  case setVcpuPause => cases h
  case takeVcpu i =>
      split at h
      next => cases h; exact .quiet _ _ (fun _ => rfl)
      next => cases h
  case takeDevice d =>
      split at h
      next => cases h; exact .quiet _ _ (fun _ => rfl)
      next => cases h
  case joinVcpu i =>
      split at h
      next hj => cases h; exact .join i false (fun _ => ⟨_, hj.2⟩)
      next => cases h
  all_goals
    cases h
    exact .quiet _ _ (fun _ => rfl)

/-- **What an operation that ends can do.** -/
theorem Sys.op_cases {ok : Bool} (h : Sys.op cfg o (if ok then .ok else .err) s = some s') :
    OpStep cfg s o ok s' := by
  cases ok with
  | true => exact Sys.op_ok_cases h
  | false => exact Sys.op_err_cases h

/-- What an operation that goes on can do: it copies a chunk, or nothing. -/
theorem Sys.progress_cases {n : Nat} (h : Sys.op cfg o (.progress n) s = some s') :
    s' = s ∨
    ((o = .dumpGuestMemory ∨ o = .recopyBranchPages) ∧ s.saved.copied < cfg.nChunks ∧
      ∃ src, s' = s.copyChunk cfg src ∧
        (src = s.ram ∨ (o = .recopyBranchPages ∧ src = s.barrierRam))) := by
  cases o <;> simp only [Sys.op] at h
  case dumpGuestMemory =>
      split at h
      next hlt => cases h; exact Or.inr ⟨Or.inl rfl, hlt, _, rfl, Or.inl rfl⟩
      next => cases h
  case recopyBranchPages =>
      split at h
      next hlt =>
          cases h
          refine Or.inr ⟨Or.inr rfl, hlt, _, rfl, ?_⟩
          by_cases hn : n = 0
          · exact Or.inl (if_pos hn)
          · exact Or.inr ⟨rfl, if_neg hn⟩
      next => cases h
  case writeBranchImage => cases h; exact Or.inl rfl
  all_goals cases h

end OpCases

end MicroMachines.Vmm
