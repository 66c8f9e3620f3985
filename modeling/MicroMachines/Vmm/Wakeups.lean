import MicroMachines.Vmm.Quiesce

set_option autoImplicit false

/-! # Wakeups that come too late

A worker that reads its pause eventfd parks if a checkpoint is requested, and otherwise takes the
wakeup for a freeze and leaves its serving loop. It looks at the flag some time after the eventfd
was written.

* `device_killed`: a checkpoint made before the guest has activated a device leaves the eventfd
  written; the worker reads it when it starts, finds no request, and exits.
* `worker_survives`: workers exit only for `pause_devices` or a failed descriptor in every run in
  which a request is withdrawn only when no worker is still to answer its eventfd.
-/

namespace MicroMachines.Vmm

open MicroMachines.Lib

/-- The worker has a wakeup to answer: it will look at the request flag. -/
def Worker.answering (w : Worker) : Bool :=
  match w.pc with
  | .exited _ => false
  | .check _ => true
  | _ => w.pausing

def Op.isClearRequested : Op → Bool
  | .clearRequested => true
  | _ => false

/-- Requests are withdrawn only when every wakeup has been answered. -/
def AnsweredWakeups (cfg : Cfg) (c : SysConfig) (a : SysAction) : Prop :=
  (completes c a).any Op.isClearRequested = true →
    ∀ d < cfg.nDev, (c.state.workers d).answering = false

instance (cfg : Cfg) (c : SysConfig) (a : SysAction) : Decidable (AnsweredWakeups cfg c a) :=
  inferInstanceAs (Decidable (_ → _))

/-- The worker answers only while a checkpoint is requested, and has not been told to freeze. -/
structure Worker.Alive (requested : Bool) (w : Worker) : Prop where
  answering : w.answering = true → requested = true
  stop : w.stop ≠ some .frozen
  pc : w.pc ≠ .exited .frozen

section Alive

variable {k : Kind} {requested released : Bool} {gen : Nat} {avail : Nat → Nat} {w w' : Worker}
  {act : WorkerAct} {e : Effect}

theorem Worker.answering_of_pausing (hpc : ∀ r, w.pc ≠ .exited r) (hp : w.pausing = true) :
    w.answering = true := by
  unfold Worker.answering
  cases h : w.pc with
  | exited r => exact absurd h (hpc r)
  | check g => rfl
  | serving | park p g => exact hp

/-- In the loop the reason to stop is never a freeze. -/
theorem Worker.alive_serve (hpc : w.pc = .serving) (hA : w.Alive requested)
    (h : ServeStep k gen avail w act w' e) : w'.Alive requested := by
  have hserving : w'.pc = .serving → w'.answering = true → requested = true := by
    intro hpc' ha
    refine hA.answering (Worker.answering_of_pausing (fun r => by rw [hpc]; simp) (h.pausing ?_))
    unfold Worker.answering at ha
    rwa [hpc'] at ha
  cases h with
  | pollFails => exact ⟨nofun, hA.stop, by simp⟩
  | readFails q rest htodo =>
    cases k with
    | net => exact ⟨hserving hpc, hA.stop, hA.pc⟩
    | vsock => exact ⟨hserving hpc, by simp [Worker.readFails], hA.pc⟩
    | _ => exact ⟨nofun, hA.stop, by simp [Worker.readFails]⟩
  | stopped r rest htodo hstop =>
    refine ⟨nofun, hA.stop, fun hr => hA.stop ?_⟩
    rw [hstop, WorkerPc.exited.inj hr]
  | fillSlot rest htodo =>
    refine ⟨fun _ => hA.answering ?_, hA.stop, by simp⟩
    exact Worker.answering_of_pausing (fun r => by rw [hpc]; simp)
      (Worker.pausing_of_fillSlot htodo)
  | _ => exact ⟨hserving hpc, hA.stop, hA.pc⟩

theorem Worker.alive_step (hA : w.Alive requested)
    (h : WorkerStep k requested released gen avail w act w' e) : w'.Alive requested := by
  have hpark : ∀ {p : Park} {g : Nat}, w.pc = .park p g → w.pausing = true → requested = true :=
    fun hpc hp => hA.answering (Worker.answering_of_pausing (fun r => by rw [hpc]; simp) hp)
  have hcheck : ∀ {g : Nat}, w.pc = .check g → requested = true := by
    intro g hpc
    refine hA.answering ?_
    unfold Worker.answering
    rw [hpc]
  cases h with
  | serve _ _ _ hpc _ hs => exact Worker.alive_serve hpc hA hs
  | toPark g hpc hreq => exact ⟨fun _ => hreq, hA.stop, by simp⟩
  | freeze g hpc hreq => cases hreq.symm.trans (hcheck hpc)
  | enter g hpc | see g hpc | leave g hpc => exact ⟨hpark hpc, hA.stop, by simp⟩

end Alive

/-- Unless the machine has been frozen, all its snapshottable workers are alive. -/
def AliveInv (cfg : Cfg) (s : Sys) : Prop :=
  s.pausedDevices = false → ∀ d, d < cfg.nDev → (s.workers d).Alive s.requested

section AliveInv

variable {cfg : Cfg} {v : View} {s s' : Sys} {t : SysAct} {o : Op} {ok : Bool}

theorem AliveInv.env (hI : AliveInv cfg s) (h : s.env cfg t = some s') : AliveInv cfg s' := by
  intro hp
  have hf := Sys.env_frame h
  rw [hf.pausedDevices] at hp
  rw [hf.requested]
  refine Sys.env_forall_worker (P := fun d x => d < cfg.nDev → x.Alive s.requested) h ?_ ?_ (hI hp)
  · exact fun d x a n hx hd => ⟨(hx hd).answering, (hx hd).stop, (hx hd).pc⟩
  · exact fun d k act x e _ _ hx hA hd => Worker.alive_step (hA hd) hx

/-- A worker whose slot has been emptied is as alive as before. -/
theorem AliveInv.takeDevice (hI : AliveInv cfg s) (d : Nat) (cap : QueueCapture) :
    AliveInv cfg (s.takeDevice d cap) := by
  intro hp
  refine (Function.forall_update_iff s.workers
    (p := fun w x => w < cfg.nDev → x.Alive s.requested)).mpr ⟨fun hd => ?_, fun w _ => hI hp w⟩
  exact ⟨(hI hp d hd).answering, (hI hp d hd).stop, (hI hp d hd).pc⟩

theorem AliveInv.op (hR : Rel cfg v s) (hI : AliveInv cfg s) (hpre : View.pre cfg.shape o v)
    (hanswered : ok = true → o.isClearRequested = true →
      ∀ d < cfg.nDev, (s.workers d).answering = false)
    (h : OpStep cfg s o ok s') : AliveInv cfg s' := by
  cases h with
  | quiet | clearReleased | parked | setReleased | takeVcpu | newImage | imageDone
  | setVcpuPause | join => exact hI
  | setRequested devices =>
    intro hp d hd
    exact ⟨fun _ => rfl, (hI hp d hd).stop, (hI hp d hd).pc⟩
  | wakeDevice d =>
    intro hp
    obtain ⟨hp', hcall⟩ := Bool.or_eq_false_iff.mp hp
    have hreq : s.requested = true := by
      rcases hpre.2 with ⟨hcycle, -⟩ | ⟨hsnap, -⟩
      · rw [hR.requested, hcycle]
        rfl
      · exact absurd (hR.call.trans hsnap) (of_decide_eq_false hcall)
    refine (Function.forall_update_iff s.workers
      (p := fun w x => w < cfg.nDev → x.Alive s.requested)).mpr ⟨fun hd => ?_, fun w _ => hI hp' w⟩
    exact ⟨fun _ => hreq, (hI hp' d hd).stop, (hI hp' d hd).pc⟩
  | clearRequested =>
    intro hp d hd
    refine ⟨fun ha => ?_, (hI hp d hd).stop, (hI hp d hd).pc⟩
    cases (hanswered rfl rfl d hd).symm.trans ha
  | takeDevice d cap | waitForCapture d cap => exact hI.takeDevice d cap

end AliveInv

/-- **A checkpoint never kills a device** in runs in which requests are withdrawn only when every
wakeup has been answered: a worker that has left its loop, but not for a failed descriptor, was
told to by `pause_devices`. -/
theorem worker_survives (cfg : Cfg) (start : Start) (as : List SysAction) (c : SysConfig)
    (hP : Meets (sysMachine cfg).step (AnsweredWakeups cfg) start.config as)
    (hrun : run (sysMachine cfg).step start.config as = some c) (d : Nat) (hd : d < cfg.nDev)
    (r : WorkerExit) (hpc : (c.state.workers d).pc = .exited r) :
    r = .fdFailed ∨ c.state.pausedDevices = true := by
  obtain ⟨v, ⟨-, hI⟩, -⟩ := run_rel (fun _ => AliveInv cfg) (AnsweredWakeups cfg)
    (fun v c t s' _ hI _ hs => hI.env hs)
    (fun v c o k n src _ hI _ _ _ _ _ => hI)
    (fun v c o k ok s' hR hI hk hpre hP hs =>
      hI.op hR hpre (fun hok ho => hP (any_completes hk hok ho)) hs)
    (fun v s call _ hI _ => hI)
    start (fun _ _ _ => ⟨nofun, nofun, nofun⟩) as c hP hrun
  cases r with
  | fdFailed => exact Or.inl rfl
  | frozen =>
    right
    rw [← Bool.not_eq_false]
    exact fun hp => (hI hp d hd).pc hpc

/-- A checkpoint with devices that succeeds, and then a snapshot that freezes the machine. -/
def freezeRun : List SysAction :=
  Act.enterGuest ++ [.call .checkpointFullInPlace] ++ List.replicate 4 Act.ok ++ Act.parkDevices ++
  Act.parkVcpu ++ List.replicate 8 Act.ok ++ Act.resume ++ [Act.ok] ++
  [.call .snapshot, Act.ok, Act.ok] ++ List.replicate 4 (Act.vcpu .go) ++ List.replicate 3 Act.ok ++
  [Act.worker 0 (.poll [.pause])] ++ List.replicate 5 (Act.worker 0 .go)

theorem worker_survives_freezeRun :
    ∃ c, run (sysMachine oneVcpu).step (blank true).config freezeRun = some c ∧
      (c.state.workers 0).pc = .exited .frozen ∧
      (WorkerExit.frozen = .fdFailed ∨ c.state.pausedDevices = true) := by
  obtain ⟨c, hrun, hpc⟩ : ∃ c, run (sysMachine oneVcpu).step (blank true).config freezeRun = some c ∧
      (c.state.workers 0).pc = .exited .frozen := exists_of_any (by decide +kernel)
  exact ⟨c, hrun, hpc, worker_survives oneVcpu (blank true) freezeRun c (by decide +kernel) hrun 0
    (by decide) .frozen hpc⟩

/-- The worker of the late device reads its eventfd when no checkpoint is requested. -/
def killedRun : List SysAction :=
  Act.missedCheckpoint ++ [Act.worker 0 (.poll [.pause])] ++ List.replicate 5 (Act.worker 0 .go)

/-- **A checkpoint kills a device**: the block worker has left its loop although
`pause_devices` has never been called. -/
theorem device_killed : ∃ c, run (sysMachine oneVcpu).step (blank false).config killedRun = some c ∧
      oneVcpu.captures[0]? = some .block ∧ (c.state.workers 0).pc = .exited .frozen ∧
      c.state.pausedDevices = false :=
  exists_of_any (by decide +kernel)

end MicroMachines.Vmm
