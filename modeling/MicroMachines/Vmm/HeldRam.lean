import MicroMachines.Vmm.Captures

set_option autoImplicit false

/-! # Guest RAM while the barrier is held

The vCPUs and the workers with a pause handle stand still while `quiesce_at_barrier` holds them.
The two threads of a balloon have no pause handle: they take no part in the barrier and go on
serving what the guest has asked for, which gives pages back and writes used entries.

* `balloon_reclaims`: a page is zeroed while the barrier is held.
* `ram_frozen`: in clean runs in which the balloon threads have nothing to do whenever the
  barrier is reached, guest RAM does not change while it is held, and a snapshot in place is the
  machine at that moment.
-/

namespace MicroMachines.Vmm

open MicroMachines.Lib

/-- The worker has nothing left to do and has not been notified. -/
def Worker.Idle (w : Worker) : Prop := w.pc = .serving → w.todo = [] ∧ w.notify 0 = false

instance (w : Worker) : Decidable w.Idle := inferInstanceAs (Decidable (_ → _))

def Op.isParkedWithDevices : Op → Bool
  | .waitUntilParked devices => devices
  | _ => false

/-- When the barrier is reached, the workers that take no part in it are idle. -/
def IdleBalloons (cfg : Cfg) (c : SysConfig) (a : SysAction) : Prop :=
  (completes c a).any Op.isParkedWithDevices = true →
    ∀ w < cfg.workers.length, cfg.nDev ≤ w → (c.state.workers w).Idle

instance (cfg : Cfg) (c : SysConfig) (a : SysAction) : Decidable (IdleBalloons cfg c a) :=
  inferInstanceAs (Decidable (_ → _))

/-- The threads of a balloon accept notifications only. -/
theorem Kind.accepts_notify {k : Kind} (hk : k.pausable = false) {srcs : List Source}
    (h : k.accepts srcs = true) : .notify 0 ∈ srcs := by
  cases k with
  | inflate | deflate => rw [beq_iff_eq.mp h]; exact List.mem_singleton.mpr rfl
  | _ => cases hk

/-- An idle balloon thread stays idle and writes nothing until it is notified. -/
theorem Worker.idle_step {k : Kind} {requested released : Bool} {gen : Nat} {avail : Nat → Nat}
    {w w' : Worker} {act : WorkerAct} {e : Effect} (hk : k.pausable = false)
    (hout : w.phase = .out) (hidle : w.Idle)
    (h : WorkerStep k requested released gen avail w act w' e) : e = .none ∧ w'.Idle := by
  have hcap := Worker.captured_of_phase (Or.inl hout)
  cases h with
  | serve _ _ _ hpc _ hs =>
    obtain ⟨htodo, hnotify⟩ := hidle hpc
    cases hs with
    | poll srcs _ hacc hready =>
      cases hnotify.symm.trans (hready _ (Kind.accepts_notify hk hacc))
    | pollFails => exact ⟨rfl, nofun⟩
    | abort _ _ hop =>
      obtain ⟨op, rest, hop, -⟩ := hop
      cases htodo.symm.trans hop
    | _ => cases htodo.symm.trans (by assumption)
  | toPark g hpc | freeze g hpc | enter g hpc | see g hpc | leave g hpc => rw [hpc] at hcap; cases hcap

/-- Guest RAM at a held barrier, and what has been saved since it was reached. The saved part is
about calls that do not freeze the machine. -/
structure HeldInv (cfg : Cfg) (v : View) (s : Sys) : Prop where
  slots : SlotInv cfg v s
  ram : v.held = true → v.cycle = some true → s.ram = s.barrierRam
  idle : v.held = true → v.cycle = some true →
    ∀ w < cfg.workers.length, cfg.nDev ≤ w → (s.workers w).Idle
  image : v.pausing = false →
    ∀ cell, cfg.chunkOf cell < s.saved.copied → s.saved.ram cell = s.barrierRam cell
  vcpus : v.pausing = false → ∀ i st, s.saved.vcpus i = some st → st.gen = s.gen
  devs : v.pausing = false → ∀ d cap, s.saved.devs d = some cap → cap.gen = s.gen

section HeldInv

variable {cfg : Cfg} {v : View} {s s' : Sys} {t : SysAct} {o : Op} {ok : Bool}

theorem HeldInv.env (hB : Base cfg v s) (hI : HeldInv cfg v s) (h : s.env cfg t = some s') :
    HeldInv cfg v s' := by
  have hf := Sys.env_frame h
  have hheld : v.held = true → v.cycle = some true →
      s'.ram = s.ram ∧ ∀ w < cfg.workers.length, cfg.nDev ≤ w → (s'.workers w).Idle := by
    intro hh hc
    obtain ⟨w, k, act, x, e, hw, hk, hx, rfl⟩ := hB.barrier.held_env hh hc h
    have hlt := (List.getElem?_eq_some_iff.mp hk).1
    have hdet := hw rfl
    have hpaus : k.pausable = false := by
      rw [← Bool.not_eq_true, Cfg.pausable_iff hk]
      exact Nat.not_lt.mpr hdet
    obtain ⟨rfl, hidle⟩ :=
      Worker.idle_step hpaus (hB.barrier.detached w hdet) (hI.idle hh hc w hlt hdet) hx
    refine ⟨rfl, (Function.forall_update_iff s.workers
      (p := fun w x => w < cfg.workers.length → cfg.nDev ≤ w → x.Idle)).mpr
        ⟨fun _ _ => hidle, fun w' _ => hI.idle hh hc w'⟩⟩
  refine ⟨hI.slots.env h, fun hh hc => ?_, fun hh hc => (hheld hh hc).2, ?_, ?_, ?_⟩
  · rw [(hheld hh hc).1, hf.barrierRam]
    exact hI.ram hh hc
  · rw [hf.saved, hf.barrierRam]
    exact hI.image
  · rw [hf.saved, hf.gen]
    exact hI.vcpus
  · rw [hf.saved, hf.gen]
    exact hI.devs

/-- A chunk of the image is copied while the barrier is held, so it is RAM at the barrier. -/
theorem HeldInv.copy (hI : HeldInv cfg v s) (hpre : View.pre cfg.shape o v)
    (ho : o = .dumpGuestMemory ∨ o = .recopyBranchPages) {src : Cell → Nat}
    (hsrc : src = s.ram ∨ (o = .recopyBranchPages ∧ src = s.barrierRam)) :
    HeldInv cfg v (s.copyChunk cfg src) := by
  refine { hI with slots := ⟨hI.slots.vcpus, hI.slots.devs⟩, image := fun hp cell hlt => ?_ }
  have hstill : v.held = true ∧ v.cycle = some true := by
    rcases ho with rfl | rfl
    · exact hpre.2.2.2.resolve_right (fun hf => by cases hp.symm.trans hf.1)
    · exact hpre.2.2.2
  have heq : src = s.barrierRam := by
    rcases hsrc with rfl | ⟨-, rfl⟩
    · exact hI.ram hstill.1 hstill.2
    · rfl
  have hlt' : cfg.chunkOf cell < s.saved.copied + 1 := hlt
  show (if cfg.chunkOf cell = s.saved.copied then src cell else s.saved.ram cell) = _
  by_cases hc : cfg.chunkOf cell = s.saved.copied
  · rw [if_pos hc, heq]
    rfl
  · rw [if_neg hc]
    exact hI.image hp cell (by omega)

/-- Updating the saved states with one of this request. -/
theorem forall_saved_update {α : Type} {f : Nat → Option α} {gen : α → Nat} {g i : Nat} {a : α}
    (h : ∀ j b, f j = some b → gen b = g) (ha : gen a = g) :
    ∀ j b, Function.update f i (some a) j = some b → gen b = g :=
  (Function.forall_update_iff f (p := fun _ x => ∀ b, x = some b → gen b = g)).mpr
    ⟨fun b hb => by cases hb; exact ha, fun j _ => h j⟩

theorem HeldInv.takeVcpu (hB : Base cfg v s) (hI : HeldInv cfg v s) {i : Nat} {st : VcpuState}
    (hslot : (s.vcpus i).slot = some st) (hi : i < cfg.nVcpu)
    (hstill : v.held = true ∨ v.Frozen cfg.shape)
    (hslots : SlotInv cfg { v with vcpus := i + 1, fresh := false } (s.takeVcpu i st)) :
    HeldInv cfg { v with vcpus := i + 1, fresh := false } (s.takeVcpu i st) := by
  refine ⟨hslots, hI.ram, hI.idle, hI.image, fun hp => ?_, hI.devs⟩
  refine forall_saved_update (hI.vcpus hp) ?_
  have hheld := hstill.resolve_right (fun hf => by cases hp.symm.trans hf.1)
  obtain ⟨devices, hcycle⟩ := Option.ne_none_iff_exists'.mp (hB.rel.cycle hheld)
  have hwait := hB.barrier.waiting hheld devices hcycle (.inl ⟨i, hi⟩)
    (Cfg.mem_participants.mpr (Or.inl rfl))
  rcases hI.slots.vcpu_gen hi hwait with hgen | ⟨hnone, -⟩
  · rw [hslot] at hgen
    exact Option.some.inj hgen
  · rw [hslot] at hnone
    cases hnone

theorem HeldInv.takeDevice (hB : Base cfg v s) (hI : HeldInv cfg v s) {d : Nat}
    {cap : QueueCapture} (hslot : (s.workers d).slot = some cap) (hd : d < cfg.nDev)
    (hstill : (v.held = true ∧ v.cycle = some true) ∨ v.Frozen cfg.shape) :
    HeldInv cfg { v with devs := d + 1, fresh := false } (s.takeDevice d cap) := by
  refine ⟨hI.slots.takeDevice d cap, hI.ram, fun hh hc => ?_, hI.image, hI.vcpus, fun hp => ?_⟩
  · refine (Function.forall_update_iff s.workers
      (p := fun w x => w < cfg.workers.length → cfg.nDev ≤ w → x.Idle)).mpr
        ⟨fun _ hw => absurd hd (Nat.not_lt.mpr hw), fun w _ => hI.idle hh hc w⟩
  · refine forall_saved_update (hI.devs hp) ?_
    obtain ⟨hheld, hcycle⟩ := hstill.resolve_right (fun hf => by cases hp.symm.trans hf.1)
    have hwait := hB.barrier.waiting hheld true hcycle (.inr ⟨d, hd⟩)
      (Cfg.mem_participants.mpr (Or.inr rfl))
    rcases hI.slots.dev_gen hd hwait with hgen | ⟨hnone, -⟩
    · rw [hslot] at hgen
      exact Option.some.inj hgen
    · rw [hslot] at hnone
      cases hnone

theorem HeldInv.op (hB : Base cfg v s) (hI : HeldInv cfg v s) (hpre : View.pre cfg.shape o v)
    (hidle : ok = true → o.isParkedWithDevices = true →
      ∀ w < cfg.workers.length, cfg.nDev ≤ w → (s.workers w).Idle)
    (hout : o.isRequest = true → AllOut cfg s) (h : OpStep cfg s o ok s') :
    HeldInv cfg (View.next o ok v) s' := by
  have hslots := hI.slots.op hout h
  cases h with
  | quiet _ _ hnext => rw [hnext]; exact hI
  | clearReleased | setReleased | join i _ _ => exact ⟨hslots, hI.ram, hI.idle, hI.image, hI.vcpus, hI.devs⟩
  | setRequested devices =>
    obtain ⟨-, hheld, -, hvcpus, hdevs, -⟩ := hpre
    -- nothing has been saved for the new request yet
    have hnone : ∀ i, s.saved.vcpus i = none := by
      intro i
      rw [← Option.not_isSome_iff_eq_none, hB.rel.vcpus i, hvcpus]
      exact Nat.not_lt_zero i
    have hnone' : ∀ d, s.saved.devs d = none := by
      intro d
      rw [← Option.not_isSome_iff_eq_none, hB.rel.devs d, hdevs]
      exact Nat.not_lt_zero d
    refine ⟨hslots, fun hh => ?_, fun hh => ?_, hI.image, fun _ i st hst => ?_,
      fun _ d cap hcap => ?_⟩
    · cases hheld.symm.trans hh
    · cases hheld.symm.trans hh
    · cases (hnone i).symm.trans hst
    · cases (hnone' d).symm.trans hcap
  | wakeDevice d =>
    refine ⟨hslots, hI.ram, fun hh hc => ?_, hI.image, hI.vcpus, hI.devs⟩
    refine (Function.forall_update_iff s.workers
      (p := fun w x => w < cfg.workers.length → cfg.nDev ≤ w → x.Idle)).mpr
        ⟨fun _ hw => absurd hpre.1 (Nat.not_lt.mpr hw), fun w _ => hI.idle hh hc w⟩
  | parked devices _ =>
    obtain ⟨hcycle, -, -, hcopy, -, -⟩ := hpre
    refine ⟨hslots, fun _ _ => rfl, fun _ hc => ?_, fun _ cell hlt => ?_, hI.vcpus, hI.devs⟩
    · exact hidle rfl (Option.some.inj (hcycle.symm.trans hc))
    · have hlt' : cfg.chunkOf cell < s.saved.copied := hlt
      rw [hB.rel.copying hcopy] at hlt'
      exact absurd hlt' (Nat.not_lt_zero _)
  | clearRequested => exact ⟨hslots, nofun, nofun, hI.image, hI.vcpus, hI.devs⟩
  | takeVcpu i st hslot => exact hI.takeVcpu hB hslot hpre.1 hpre.2.2.2 hslots
  | takeDevice d cap hslot => exact hI.takeDevice hB hslot hpre.1 (Or.inl hpre.2.2.2)
  | waitForCapture d cap hslot => exact hI.takeDevice hB hslot hpre.1 (Or.inr hpre.2.2.2)
  | newImage _ ho =>
    have himage : ∀ cell, cfg.chunkOf cell < 0 → s.saved.ram cell = s.barrierRam cell :=
      fun _ h => absurd h (Nat.not_lt_zero _)
    rcases ho with rfl | rfl <;> exact ⟨hslots, hI.ram, hI.idle, fun _ => himage, hI.vcpus, hI.devs⟩
  | imageDone _ ho _ =>
    rcases ho with rfl | rfl <;> exact ⟨hslots, hI.ram, hI.idle, hI.image, hI.vcpus, hI.devs⟩
  | setVcpuPause => exact ⟨hslots, hI.ram, hI.idle, nofun, nofun, nofun⟩

theorem HeldInv.enter (hI : HeldInv cfg v s) (call : Call) :
    HeldInv cfg (v.enter call) { s with saved := {}, call := some call } :=
  ⟨⟨hI.slots.vcpus, hI.slots.devs⟩, hI.ram, hI.idle, fun _ _ h => absurd h (Nat.not_lt_zero _),
    nofun, nofun⟩

theorem HeldInv.start (start : Start) : HeldInv cfg {} start.state :=
  ⟨SlotInv.start start, nofun, nofun, fun _ _ h => absurd h (Nat.not_lt_zero _), nofun, nofun⟩

end HeldInv

/-- What was saved is the machine as it was when the barrier was reached. -/
structure PointInTime (cfg : Cfg) (s : Sys) : Prop where
  ram : s.saved.ram = s.barrierRam
  vcpus : ∀ i < cfg.nVcpu, ∃ st, s.saved.vcpus i = some st ∧ st.gen = s.gen
  devs : ∀ d < cfg.nDev, ∃ cap, s.saved.devs d = some cap ∧ cap.gen = s.gen

/-- **Guest RAM is frozen while the barrier is held** in clean runs with idle balloons, and the
image that `snapshot_in_place` or `branch` returns is of that moment. -/
theorem ram_frozen (cfg : Cfg) (start : Start) (as : List SysAction) (c : SysConfig)
    (hP : Meets (sysMachine cfg).step (fun c a => CleanRequests cfg c a ∧ IdleBalloons cfg c a)
      start.config as) (hrun : run (sysMachine cfg).step start.config as = some c) :
    (c.state.held = some true → c.state.ram = c.state.barrierRam) ∧ (c.script = .done (.ok ()) →
      c.state.call = some .snapshotInPlace ∨ c.state.call = some .branch →
      PointInTime cfg c.state) := by
  obtain ⟨v, ⟨hB, hI⟩, hsafe⟩ := run_base (HeldInv cfg) _ (fun _ _ h => h.1)
    (fun v c t s' hB hI _ hs => hI.env hB hs)
    (fun v c o k n src _ hI _ hpre _ ho hsrc => hI.copy hpre ho hsrc)
    (fun v c o k ok s' hB hI hk hpre hP hout hs _ =>
      hI.op hB hpre (fun hok ho => hP.2 (any_completes hk hok ho)) hout hs)
    (fun v s call _ hI _ => hI.enter call)
    start (HeldInv.start start) as c hP hrun
  refine ⟨fun hheld => ?_, fun hdone hcall => ?_⟩
  · rw [hB.rel.held] at hheld
    split at hheld
    next hv => exact hI.ram hv hheld
    next => cases hheld
  · rw [hdone] at hsafe
    have hsaves : ∃ call, v.call = some call ∧ call.saves = true ∧ call ≠ .snapshot := by
      rw [← hB.rel.call]
      rcases hcall with h | h <;> exact ⟨_, h, rfl, by decide⟩
    obtain ⟨call, hcall, hsaves, hne⟩ := hsaves
    obtain ⟨hvcpus, hdevs, hcopied, -⟩ := hsafe.2 rfl call hcall hsaves
    have hp : v.pausing = false := by
      rw [← Bool.not_eq_true]
      intro hp
      exact hne (Option.some.inj (hcall.symm.trans (hB.rel.pausing hp).1))
    refine ⟨funext (fun cell => hI.image hp cell ?_), fun i hi => ?_, fun d hd => ?_⟩
    · rw [hB.rel.copied hcopied]
      exact cfg.chunkOf_lt cell
    · obtain ⟨st, hst⟩ := Option.isSome_iff_exists.mp
        ((hB.rel.vcpus i).mpr (by rw [hvcpus]; exact hi))
      exact ⟨st, hst, hI.vcpus hp i st hst⟩
    · obtain ⟨cap, hcap⟩ := Option.isSome_iff_exists.mp
        ((hB.rel.devs d).mpr (by rw [hdevs]; exact hd))
      exact ⟨cap, hcap, hI.devs hp d cap hcap⟩

/-- One vCPU, block, vsock and a balloon. -/
def oneBalloon : Cfg := ⟨1, [.balloon 64], 1, 1, fun _ => 0, fun _ => Nat.zero_lt_one⟩

/-- All devices are active, and one page is not zero. -/
def onePage : Start := { blank true with ram := fun c => if c = .data 7 then 1 else 0 }

/-- A snapshot in place up to the barrier. -/
def quiesceRun : List SysAction :=
  [.call .snapshotInPlace] ++ List.replicate 5 Act.ok ++ Act.parkDevices ++ Act.parkVcpu ++ [Act.ok]

/-- The rest of it, with an image of one chunk. -/
def saveRun : List SysAction :=
  List.replicate 6 Act.ok ++ [.op (.progress 0)] ++ List.replicate 3 Act.ok ++ Act.resume ++
  List.replicate 4 Act.ok

def snapshotRun : List SysAction := Act.enterGuest ++ quiesceRun ++ saveRun

/-- The call has returned `Ok`. -/
def returnedOk (c : SysConfig) : Bool :=
  match c.script with
  | .done (.ok _) => true
  | _ => false

theorem script_of_returnedOk {c : SysConfig} (h : returnedOk c = true) :
    c.script = .done (.ok ()) := by
  unfold returnedOk at h
  split at h
  next hs => exact hs
  next => cases h

theorem ram_frozen_snapshotRun :
    ∃ c, run (sysMachine oneBalloon).step onePage.config snapshotRun = some c ∧
      PointInTime oneBalloon c.state := by
  obtain ⟨c, hrun, hdone, hcall⟩ : ∃ c, run (sysMachine oneBalloon).step onePage.config snapshotRun = some c ∧
      returnedOk c ∧ c.state.call = some .snapshotInPlace := exists_of_any (by decide +kernel)
  exact ⟨c, hrun, (ram_frozen oneBalloon onePage snapshotRun c (by decide +kernel) hrun).2
    (script_of_returnedOk hdone) (Or.inl hcall)⟩

/-- The guest has offered a page to the balloon and the barrier is reached before the inflating
thread has taken it. -/
def reclaimRun : List SysAction :=
  Act.enterGuest ++ [Act.vcpu (.publish 2 0)] ++ Act.mmioWrite (.notify 2 0) ++ Act.enterGuest ++
  quiesceRun ++
  [Act.worker 2 (.poll [.notify 0]), Act.worker 2 .go, Act.worker 2 .go, Act.worker 2 (.dma 7 0)]

/-- **The balloon changes guest RAM while the barrier is held.** -/
theorem balloon_reclaims :
    ∃ c, run (sysMachine oneBalloon).step onePage.config reclaimRun = some c ∧
      c.state.held = some true ∧ c.state.ram (.data 7) = 0 ∧ c.state.barrierRam (.data 7) = 1 :=
  exists_of_any (by decide +kernel)

end MicroMachines.Vmm
