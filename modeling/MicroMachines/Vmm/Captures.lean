import MicroMachines.Vmm.Quiesce

set_option autoImplicit false

/-! # All parked, all captured

`quiesce_at_barrier` returns when its counter says that everybody is parked, and its callers
then empty the capture slots. Every capture is stamped with the number of requests made before
it, so a capture made for this request is one with the current number.

* `SlotInv`: a thread in the barrier has its capture in its slot until slots are emptied.
* `all_captured`: in clean runs all parked is all captured, for this request.
* `running_vcpu_counted`: after a cycle that ran into its deadline, a device worker that is late
  is counted in the next cycle in the place of a vCPU, which is still running.
-/

namespace MicroMachines.Vmm

open MicroMachines.Lib

/-- The number of the capture a vCPU in the barrier has made. -/
def VcpuPc.captured : VcpuPc → Option Nat
  | .park _ g => some g
  | _ => none

def WorkerPc.captured : WorkerPc → Option Nat
  | .check g => some g
  | .park _ g => some g
  | _ => none

/-- A capture that has been made is in the slot, unless slots have been emptied. -/
def Stamped (fresh : Bool) (captured slot : Option Nat) : Prop :=
  ∀ g, captured = some g → slot = some g ∨ (slot = none ∧ fresh = false)

def Vcpu.Stamped (fresh : Bool) (v : Vcpu) : Prop :=
  Vmm.Stamped fresh v.pc.captured (v.slot.map VcpuState.gen)

def Worker.Stamped (fresh : Bool) (w : Worker) : Prop :=
  Vmm.Stamped fresh w.pc.captured (w.slot.map QueueCapture.gen)

section Stamped

variable {fresh : Bool} {captured slot : Option Nat}

theorem Stamped.stale (h : Stamped fresh captured slot) : Stamped false captured slot :=
  fun g hg => (h g hg).imp_right (fun hs => ⟨hs.1, rfl⟩)

theorem Stamped.emptied : Stamped false captured none := fun _ _ => Or.inr ⟨rfl, rfl⟩

theorem Stamped.of_none (h : captured = none) : Stamped fresh captured slot := by
  intro g hg
  rw [h] at hg
  cases hg

theorem Stamped.same {g : Nat} : Stamped fresh (some g) (some g) := fun _ hg => Or.inl hg

theorem VcpuPc.captured_of_out {p : VcpuPc} (h : p.phase = .out) : p.captured = none := by
  cases p with
  | park p g => cases p <;> cases h
  | _ => rfl

theorem Worker.captured_of_phase {w : Worker} (h : w.phase = .out ∨ w.phase = .called) :
    w.pc.captured = none := by
  unfold Worker.phase at h
  cases hpc : w.pc with
  | serving | exited r => rfl
  | check g => rw [hpc] at h; simp at h
  | park p g => rw [hpc] at h; cases p <;> simp at h

theorem Vcpu.stamped_step {f : Flags} {gen : Nat} {v v' : Vcpu} {act : VcpuAct} {e : Effect}
    (h : VcpuStep f gen v act v' e) (hS : v.Stamped fresh) : v'.Stamped fresh := by
  unfold Vcpu.Stamped at hS ⊢
  cases h with
  | loop _ p io _ hp =>
    refine Stamped.of_none (VcpuPc.captured_of_out ?_)
    rcases hp with hp | ⟨r, rfl, -⟩
    · exact VcpuPc.phase_of_running hp
    · rfl
  | write | publish | takeIrq => exact hS
  | dispatch | pause | notice | capture | captureFails | freeze | leave => exact Stamped.of_none rfl
  | store st => exact Stamped.same
  | enter g hpc | see g hpc => rw [hpc] at hS; exact hS

theorem Worker.stamped_step {k : Kind} {requested released : Bool} {gen : Nat} {avail : Nat → Nat}
    {w w' : Worker} {act : WorkerAct} {e : Effect}
    (h : WorkerStep k requested released gen avail w act w' e) (hS : w.Stamped fresh) :
    w'.Stamped fresh := by
  unfold Worker.Stamped at hS ⊢
  cases h with
  | serve _ _ _ hpc _ hs =>
    rcases hs.slot_cases hpc with ⟨-, hserving | ⟨r, hexited⟩⟩ | ⟨rest, -, -, -, rfl⟩
    · exact Stamped.of_none (by rw [hserving]; rfl)
    · exact Stamped.of_none (by rw [hexited]; rfl)
    · exact Stamped.same
  | toPark g hpc | enter g hpc | see g hpc => rw [hpc] at hS; exact hS
  | freeze g hpc => exact Stamped.of_none (Worker.captured_of_phase Worker.phase_freeze)
  | leave => exact Stamped.of_none rfl

end Stamped

/-- Every thread in the barrier has its capture in its slot. -/
structure SlotInv (cfg : Cfg) (v : View) (s : Sys) : Prop where
  vcpus : ∀ i, i < cfg.nVcpu → (s.vcpus i).Stamped v.fresh
  devs : ∀ d, d < cfg.nDev → (s.workers d).Stamped v.fresh

section SlotInv

variable {cfg : Cfg} {v : View} {s s' : Sys} {t : SysAct} {o : Op} {ok : Bool}

theorem SlotInv.env (hI : SlotInv cfg v s) (h : s.env cfg t = some s') : SlotInv cfg v s' := by
  constructor
  · refine Sys.env_forall_vcpu (P := fun i x => i < cfg.nVcpu → x.Stamped v.fresh) h ?_ ?_ hI.vcpus
    · exact fun i x l hx => hx
    · exact fun i act x e _ hstep hx hi => Vcpu.stamped_step hstep (hx hi)
  · refine Sys.env_forall_worker (P := fun d x => d < cfg.nDev → x.Stamped v.fresh) h ?_ ?_ hI.devs
    · exact fun w x a n hx => hx
    · exact fun w k act x e _ _ hstep hx hw => Worker.stamped_step hstep (hx hw)

/-- Emptying a slot. -/
theorem SlotInv.takeDevice (hI : SlotInv cfg v s) (d : Nat) (cap : QueueCapture) :
    SlotInv cfg { v with devs := d + 1, fresh := false } (s.takeDevice d cap) := by
  refine ⟨fun i hi => (hI.vcpus i hi).stale, ?_⟩
  refine (Function.forall_update_iff s.workers
    (p := fun w x => w < cfg.nDev → x.Stamped false)).mpr ⟨fun _ => ?_, fun w _ hw => ?_⟩
  · exact Stamped.emptied
  · exact (hI.devs w hw).stale

theorem SlotInv.op (hI : SlotInv cfg v s) (hclean : o.isRequest = true → AllOut cfg s)
    (h : OpStep cfg s o ok s') : SlotInv cfg (View.next o ok v) s' := by
  cases h with
  | quiet _ _ hnext => rw [hnext]; exact hI
  | clearReleased | parked devices _ | clearRequested | setReleased | setVcpuPause => exact ⟨hI.vcpus, hI.devs⟩
  | setRequested devices =>
    -- nobody is in the barrier
    obtain ⟨hvcpus, hdevs⟩ := hclean rfl
    refine ⟨fun i hi => Stamped.of_none (VcpuPc.captured_of_out (hvcpus i hi)), fun d hd => ?_⟩
    exact Stamped.of_none (Worker.captured_of_phase (Or.inl (hdevs d hd)))
  | wakeDevice d =>
    refine ⟨hI.vcpus, ?_⟩
    refine (Function.forall_update_iff s.workers
      (p := fun w x => w < cfg.nDev → x.Stamped v.fresh)).mpr ⟨hI.devs d, fun w _ => hI.devs w⟩
  | takeVcpu i st _ =>
    refine ⟨?_, fun d hd => (hI.devs d hd).stale⟩
    refine (Function.forall_update_iff s.vcpus
      (p := fun i x => i < cfg.nVcpu → x.Stamped false)).mpr ⟨fun _ => ?_, fun j _ hj => ?_⟩
    · exact Stamped.emptied
    · exact (hI.vcpus j hj).stale
  | takeDevice d cap _ | waitForCapture d cap _ => exact hI.takeDevice d cap
  | newImage _ ho | imageDone _ ho _ => rcases ho with rfl | rfl <;> exact ⟨hI.vcpus, hI.devs⟩
  | join i _ _ =>
    refine ⟨?_, hI.devs⟩
    exact (Function.forall_update_iff s.vcpus
      (p := fun i x => i < cfg.nVcpu → x.Stamped v.fresh)).mpr
        ⟨hI.vcpus i, fun j _ => hI.vcpus j⟩

theorem SlotInv.start (start : Start) : SlotInv cfg {} start.state :=
  ⟨fun _ _ => Stamped.of_none rfl, fun _ _ => Stamped.of_none rfl⟩

/-- While the barrier is held, what is in the slots was captured for this request. -/
theorem SlotInv.vcpu_gen (hI : SlotInv cfg v s) {i : Nat} (hi : i < cfg.nVcpu)
    (hwait : (s.vcpus i).phase = .waiting s.gen) :
    ((s.vcpus i).slot.map VcpuState.gen) = some s.gen ∨
      ((s.vcpus i).slot.map VcpuState.gen = none ∧ v.fresh = false) := by
  refine hI.vcpus i hi s.gen ?_
  rw [Vcpu.pc_of_waiting hwait]
  rfl

theorem SlotInv.dev_gen (hI : SlotInv cfg v s) {d : Nat} (hd : d < cfg.nDev)
    (hwait : (s.workers d).phase = .waiting s.gen) :
    ((s.workers d).slot.map QueueCapture.gen) = some s.gen ∨
      ((s.workers d).slot.map QueueCapture.gen = none ∧ v.fresh = false) := by
  refine hI.devs d hd s.gen ?_
  rw [Worker.pc_of_waiting hwait]
  rfl

end SlotInv

/-- Every vCPU, and with devices every snapshottable worker, is blocked in `park`, and its slot
holds a state captured after the request. -/
structure Captured (cfg : Cfg) (devices : Bool) (s : Sys) : Prop where
  vcpus : ∀ i < cfg.nVcpu, (s.vcpus i).pc = .park .wait s.gen ∧
    ∃ st, (s.vcpus i).slot = some st ∧ st.gen = s.gen
  devs : devices = true → ∀ d < cfg.nDev, (s.workers d).pc = .park .wait s.gen ∧
    ∃ cap, (s.workers d).slot = some cap ∧ cap.gen = s.gen

/-- A barrier that is held and whose slots nobody has emptied. -/
theorem Captured.of_held {cfg : Cfg} {v : View} {s : Sys} {devices : Bool}
    (hB : BarrierInv cfg v s) (hI : SlotInv cfg v s) (hheld : v.held = true)
    (hcycle : v.cycle = some devices) (hfresh : v.fresh = true) : Captured cfg devices s := by
  have hwait := hB.waiting hheld devices hcycle
  constructor
  · intro i hi
    have hp := hwait (.inl ⟨i, hi⟩) (Cfg.mem_participants.mpr (Or.inl rfl))
    refine ⟨Vcpu.pc_of_waiting hp, ?_⟩
    rcases hI.vcpu_gen hi hp with hslot | ⟨-, hstale⟩
    · exact Option.map_eq_some_iff.mp hslot
    · rw [hfresh] at hstale
      cases hstale
  · intro hdev d hd
    have hp := hwait (.inr ⟨d, hd⟩) (Cfg.mem_participants.mpr (Or.inr hdev))
    refine ⟨Worker.pc_of_waiting hp, ?_⟩
    rcases hI.dev_gen hd hp with hslot | ⟨-, hstale⟩
    · exact Option.map_eq_some_iff.mp hslot
    · rw [hfresh] at hstale
      cases hstale

/-- What `completes` says about the script and the step. -/
theorem completes_cases {cfg : Cfg} {c c' : SysConfig} {o : Op}
    (h : completes c (.op .ok) = some o) (hstep : (sysMachine cfg).step c (.op .ok) = some c') :
    ∃ k s', c.script = .op o k ∧ OpStep cfg c.state o true s' ∧ c' = ⟨s', k true⟩ := by
  obtain ⟨s, script⟩ := c
  cases script with
  | done r => cases h
  | op o' k =>
    cases h
    obtain ⟨s', hs, rfl⟩ := Option.map_eq_some_iff.mp hstep
    exact ⟨k, s', rfl, Sys.op_ok_cases hs, rfl⟩

/-- **All parked is all captured** in every run in which requests are made only when everyone is
out of the barrier: when `quiesce_at_barrier` returns, all its participants are blocked in `park`
with a capture made for this request. -/
theorem all_captured (cfg : Cfg) (start : Start) (as : List SysAction) (c c' : SysConfig)
    (hclean : Meets (sysMachine cfg).step (CleanRequests cfg) start.config as)
    (hrun : run (sysMachine cfg).step start.config as = some c) (devices : Bool)
    (hwait : completes c (.op .ok) = some (.waitUntilParked devices))
    (hstep : (sysMachine cfg).step c (.op .ok) = some c') : Captured cfg devices c'.state := by
  obtain ⟨v, ⟨hbase, hI⟩, hsafe⟩ := run_base (SlotInv cfg) (CleanRequests cfg) (fun _ _ h => h)
    (fun v c t s' _ hI _ hs => hI.env hs)
    (fun v c o k n src _ hI _ _ _ _ _ => ⟨hI.vcpus, hI.devs⟩)
    (fun v c o k ok s' _ hI _ _ _ hout hs _ => hI.op hout hs)
    (fun v s call _ hI _ => ⟨hI.vcpus, hI.devs⟩)
    start (SlotInv.start start) as c hclean hrun
  obtain ⟨k, s', hk, hop, rfl⟩ := completes_cases hwait hstep
  rw [hk] at hsafe
  obtain ⟨hcycle, hfresh, -, -⟩ := hsafe.1
  cases hop with
  | quiet _ _ hnext => cases congrArg View.held (hnext {})
  | parked _ hn =>
    exact Captured.of_held (hbase.barrier.parked hcycle hn) ⟨hI.vcpus, hI.devs⟩ rfl hcycle hfresh
  | newImage _ ho | imageDone _ ho => rcases ho with ho | ho <;> cases ho

/-- A checkpoint of a machine with its devices, up to the barrier. -/
def checkpointRun : List SysAction :=
  Act.enterGuest ++ [.call .checkpointFullInPlace] ++ List.replicate 4 Act.ok ++ Act.parkDevices ++
  Act.parkVcpu

theorem all_captured_checkpointRun :
    ∃ c c', run (sysMachine oneVcpu).step (blank true).config checkpointRun = some c ∧
      (sysMachine oneVcpu).step c (.op .ok) = some c' ∧ Captured oneVcpu true c'.state := by
  obtain ⟨c, hrun, hwait, hsome⟩ : ∃ c, run (sysMachine oneVcpu).step (blank true).config checkpointRun = some c ∧
      completes c (.op .ok) = some (.waitUntilParked true) ∧
        ((sysMachine oneVcpu).step c (.op .ok)).isSome := exists_of_any (by decide +kernel)
  obtain ⟨c', hstep⟩ := Option.isSome_iff_exists.mp hsome
  exact ⟨c, c', hrun, hstep, all_captured oneVcpu (blank true) checkpointRun c c'
    (by decide +kernel) hrun true hwait hstep⟩

/-- After a checkpoint that ran into its deadline, the worker of the block device finds its
eventfd written. In the next checkpoint, one without devices, it parks while the vCPU runs. -/
def lateRun : List SysAction :=
  Act.missedCheckpoint ++ Act.enterGuest ++ [.call .checkpointInPlace, Act.ok, Act.ok] ++
  [Act.worker 0 (.poll [.pause])] ++ List.replicate 6 (Act.worker 0 .go)

/-- **A running vCPU is counted as parked**: `quiesce_at_barrier` returns while the only vCPU is
in the guest. -/
theorem running_vcpu_counted :
    ∃ c c', run (sysMachine oneVcpu).step (blank false).config lateRun = some c ∧
      completes c (.op .ok) = some (.waitUntilParked false) ∧
      (sysMachine oneVcpu).step c (.op .ok) = some c' ∧ (c'.state.vcpus 0).pc = .guest ∧
      (c'.state.vcpus 0).slot = none := by
  obtain ⟨c, hrun, hwait, hnext⟩ : ∃ c, run (sysMachine oneVcpu).step (blank false).config lateRun = some c ∧
      completes c (.op .ok) = some (.waitUntilParked false) ∧
        ((sysMachine oneVcpu).step c (.op .ok)).any (fun c' =>
          (c'.state.vcpus 0).pc = .guest ∧ (c'.state.vcpus 0).slot = none) :=
    exists_of_any (by decide +kernel)
  obtain ⟨c', hstep, hc'⟩ := (Option.any_eq_true _ _).mp hnext
  exact ⟨c, c', hrun, hwait, hstep, of_decide_eq_true hc'⟩

end MicroMachines.Vmm
