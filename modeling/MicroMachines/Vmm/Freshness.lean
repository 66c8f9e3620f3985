import MicroMachines.Vmm.Requests

set_option autoImplicit false

/-! # When the state of a freezing snapshot was captured

The capture slots are shared by all calls and emptied only when they are collected. A call that
fails after its participants have captured, and the first barrier of every `branch`, leave them
filled. `pause_devices` then finds a cursor in the slot before the worker has answered, and a
vCPU that halted in the meantime is saved with the state it had at the earlier barrier.

A clock observes the machine (`Clock.tick`): it notes when calls begin, flags are set, eventfds
are written, and when the state in each slot, and each state saved, was captured.

* `stale_cursor`: a snapshot with a cursor captured in an earlier checkpoint.
* `frozen_state_fresh`: everything in a freezing snapshot was captured for it, if slots are empty
  when it begins and when it wakes a device.
-/

namespace MicroMachines.Vmm

open MicroMachines.Lib Task

/-! ## The clock -/

/-- When a vCPU captured its state last, and when the state in its slot was captured. -/
structure VcpuStamp where
  captured : Nat := 0
  slot : Nat := 0

/-- The capture is made, but not yet in the slot. -/
def VcpuPc.storing : VcpuPc → Bool
  | .store _ _ => true
  | _ => false

def Vcpu.stamp (x : Vcpu) (act : VcpuAct) (now : Nat) (st : VcpuStamp) : VcpuStamp :=
  match x.pc, act with
  | .capture _, .go => { st with captured := now }
  | .store _ _, .go => { st with slot := st.captured }
  | _, _ => st

/-- A worker captures its cursors and fills its slot in one step. -/
def Worker.stamp (x : Worker) (act : WorkerAct) (now slot : Nat) : Nat :=
  if x.pc = .serving ∧ x.todo.head? = some .fillSlot ∧ act = .go then now else slot

structure Clock where
  now : Nat := 0
  /-- When the call began, set the pause flag, and wrote each pause eventfd. -/
  called : Nat := 0
  paused : Nat := 0
  woken : Nat → Nat := fun _ => 0
  /-- When the states in the slots were captured. -/
  vcpus : Nat → VcpuStamp := fun _ => {}
  devs : Nat → Nat := fun _ => 0
  /-- When the saved states were captured. -/
  savedVcpus : Nat → Nat := fun _ => 0
  savedDevs : Nat → Nat := fun _ => 0

namespace Clock

/-- A step of a thread. -/
def env (s : Sys) (clk : Clock) : SysAct → Clock
  | .vcpu i act =>
    { clk with
      vcpus := Function.update clk.vcpus i ((s.vcpus i).stamp act clk.now (clk.vcpus i)) }
  | .worker w act =>
    { clk with
      devs := Function.update clk.devs w ((s.workers w).stamp act clk.now (clk.devs w)) }

/-- An operation that succeeds. -/
def op (clk : Clock) : Op → Clock
  | .setVcpuPause => { clk with paused := clk.now }
  | .wakeDevice d => { clk with woken := Function.update clk.woken d clk.now }
  | .takeVcpu i =>
    { clk with savedVcpus := Function.update clk.savedVcpus i (clk.vcpus i).slot }
  | .takeDevice d => { clk with savedDevs := Function.update clk.savedDevs d (clk.devs d) }
  | .waitForCapture d => { clk with savedDevs := Function.update clk.savedDevs d (clk.devs d) }
  | _ => clk

def pass (clk : Clock) : Clock := { clk with now := clk.now + 1 }

/-- One step of the machine takes one unit of time. -/
def tick (c : SysConfig) (a : SysAction) (clk : Clock) : Clock :=
  match a with
  | .env t => (clk.env c.state t).pass
  | .op out => ((completes c (.op out)).elim clk clk.op).pass
  | .call _ => { clk with called := clk.now }.pass

end Clock

/-- Everything that was saved was captured after this call had set the pause flag, or written the
eventfd of the device. -/
structure Clock.Fresh (cfg : Cfg) (clk : Clock) : Prop where
  paused : clk.called < clk.paused
  vcpus : ∀ i < cfg.nVcpu, clk.paused < clk.savedVcpus i
  devs : ∀ d < cfg.nDev, clk.called < clk.woken d ∧ clk.woken d < clk.savedDevs d

/-! ## One thread -/

/-- What is in the slot, or about to be stored there, was captured after `t`. -/
def Vcpu.Since (t : Nat) (st : VcpuStamp) (x : Vcpu) : Prop :=
  (x.slot.isSome = true → t < st.slot) ∧ (x.pc.storing = true → t < st.captured)

theorem Vcpu.stamp_of_pc {x : Vcpu} {p : VcpuPc} {act : VcpuAct} {now : Nat} {st : VcpuStamp}
    (h : x.pc = p) : x.stamp act now st = ({ x with pc := p } : Vcpu).stamp act now st := by
  rw [← h]

theorem Vcpu.since_step {f : Flags} {gen t now : Nat} {st : VcpuStamp} {x x' : Vcpu}
    {act : VcpuAct} {e : Effect} (hS : x.Since t st) (hnow : t < now)
    (h : VcpuStep f gen x act x' e) : x'.Since t (x.stamp act now st) := by
  -- most steps leave the slot and the stamps alone and do not store
  have hsame : ∀ {y : Vcpu}, y.slot = x.slot → y.pc.storing = false → x.stamp act now st = st →
      y.Since t (x.stamp act now st) := by
    intro y hslot hpc hst
    rw [hst]
    refine ⟨fun hy => hS.1 (by rw [← hslot]; exact hy), fun hy => ?_⟩
    cases hpc.symm.trans hy
  have hrunning : x.pc.running = true → x.stamp act now st = st := by
    intro hrun
    cases hpc : x.pc with
    | capture | store => rw [hpc] at hrun; cases hrun
    | _ => rw [Vcpu.stamp_of_pc hpc]; rfl
  cases h with
  | loop _ p io hrun hp =>
    refine hsame rfl ?_ (hrunning hrun)
    rcases hp with hp | ⟨r, rfl, -⟩
    · cases p <;> cases hp <;> rfl
    · rfl
  | write a y hpc | publish w q hpc => exact hsame rfl (by rw [hpc]; rfl) (hrunning (by rw [hpc]; rfl))
  | takeIrq line hpc =>
    exact hsame rfl (show x.pc.storing = false by rw [hpc]; rfl) (hrunning (by rw [hpc]; rfl))
  | dispatch a hpc => exact hsame rfl rfl (hrunning (by rw [hpc]; rfl))
  | pause hrun | notice hrun => exact hsame rfl rfl (hrunning hrun)
  | capture freeze hpc =>
    rw [Vcpu.stamp_of_pc hpc]
    exact ⟨hS.1, fun _ => hnow⟩
  | captureFails freeze hpc | enter g hpc | see g hpc | leave g hpc => exact hsame rfl rfl (by rw [Vcpu.stamp_of_pc hpc]; rfl)
  | freeze st' hpc | store st' hpc =>
    rw [Vcpu.stamp_of_pc hpc]
    exact ⟨fun _ => hS.2 (by rw [hpc]; rfl), nofun⟩

theorem Worker.since_step {k : Kind} {requested released : Bool} {gen t now slot : Nat}
    {avail : Nat → Nat} {x x' : Worker} {act : WorkerAct} {e : Effect}
    (hS : x.slot.isSome = true → t < slot) (hnow : t < now)
    (h : WorkerStep k requested released gen avail x act x' e) (hx : x'.slot.isSome = true) :
    t < x.stamp act now slot := by
  unfold Worker.stamp
  split_ifs with hfill
  · exact hnow
  · have hslot : x'.slot = x.slot := by
      cases h with
      | serve _ _ _ hpc _ hs =>
        rcases hs.slot_cases hpc with ⟨hslot, -⟩ | ⟨rest, htodo, rfl, -, -⟩
        · exact hslot
        · exact absurd ⟨hpc, by rw [htodo]; rfl, rfl⟩ hfill
      | freeze => cases k <;> rfl
      | _ => rfl
    exact hS (by rw [← hslot]; exact hx)

/-! ## The script of the freezing snapshot -/

/-- What the freezing snapshot has done: set the pause flag, collected so many vCPU states and
cursors, and written the eventfd of the device that is next. -/
structure Freezing where
  call : Option Call := none
  paused : Bool := false
  vcpus : Nat := 0
  devs : Nat := 0
  woken : Bool := false

namespace Freezing

def next (o : Op) (ok : Bool) (v : Freezing) : Freezing :=
  match o, ok with
  | .setVcpuPause, _ => { v with paused := true }
  | .takeVcpu i, true => { v with vcpus := i + 1 }
  | .wakeDevice _, true => { v with woken := true }
  | .waitForCapture d, true => { v with devs := d + 1, woken := false }
  | _, _ => v

/-- What an operation of the freezing snapshot relies on. -/
def needs (m : Shape) (v : Freezing) : Op → Prop
  | .setVcpuPause => v.vcpus = 0
  | .takeVcpu i => i < m.nVcpu ∧ i = v.vcpus ∧ v.paused = true
  | .wakeDevice d => d < m.nDev ∧ d = v.devs
  | .waitForCapture d => d < m.nDev ∧ d = v.devs ∧ v.woken = true
  | .takeDevice _ => False
  | _ => True

def pre (m : Shape) (o : Op) (v : Freezing) : Prop := v.call = some .snapshot → v.needs m o

def post (m : Shape) (v : Freezing) (r : Except VmmError Unit) : Prop :=
  v.call = some .snapshot → r = .ok () → v.paused = true ∧ v.vcpus = m.nVcpu ∧ v.devs = m.nDev

end Freezing

section Safe

variable {m : Shape} {v : Freezing} {E : Freezing → Prop}

theorem Freezing.next_call (o : Op) (ok : Bool) (v : Freezing) : (v.next o ok).call = v.call := by
  unfold Freezing.next
  split <;> rfl

/-- The other calls have no obligations. -/
theorem Freezing.safe_other (p : Script Op (Except VmmError Unit)) (v : Freezing)
    (h : v.call ≠ some .snapshot) :
    Script.Safe (Freezing.pre m) Freezing.next (Freezing.post m) v p := by
  induction p generalizing v with
  | done r => exact fun hc => absurd hc h
  | op o k ih =>
    refine ⟨fun hc => absurd hc h, fun b => ih b _ ?_⟩
    rw [Freezing.next_call]
    exact h

theorem Freezing.safe_joinVcpus {Q : Freezing → Bool → Prop} (is : List Nat) (hQ : ∀ b, Q v b) :
    Task.Safe (Freezing.pre m) Freezing.next Q E v (joinVcpus is) := by
  induction is generalizing Q with
  | nil => exact safe_pure (hQ true)
  | cons i is ih =>
    refine safe_bind (safe_test (fun _ => trivial) (fun ok => ?_))
    exact safe_bind (ih (fun rest => safe_pure (hQ _)))

theorem Freezing.safe_pauseAndCaptureVcpus {Q : Freezing → Unit → Prop} (h0 : v.vcpus = 0)
    (hQ : Q { v with paused := true, vcpus := m.nVcpu } ()) :
    Task.Safe (Freezing.pre m) Freezing.next Q (fun _ => True) v (pauseAndCaptureVcpus m) := by
  refine safe_bind (safe_act (fun _ => h0) (fun _ => ?_))
  refine safe_bind (Freezing.safe_joinVcpus _ (fun joined => ?_))
  cases joined with
  | false => exact safe_fail trivial
  | true =>
    refine safe_forEach_range (fun i v' => v' = { v with paused := true, vcpus := i }) _ ?_
      (fun i v' hi hv => ?_) ?_
    · show ({ v with paused := true } : Freezing) = { v with paused := true, vcpus := 0 }
      rw [← h0]
    · subst hv
      exact safe_perform (fun _ => ⟨hi, rfl, rfl⟩) rfl trivial
    · rintro _ rfl
      exact hQ

theorem Freezing.safe_pauseDevices {Q : Freezing → Unit → Prop} (h0 : v.devs = 0)
    (hw : v.woken = false) (hQ : Q { v with devs := m.nDev } ()) :
    Task.Safe (Freezing.pre m) Freezing.next Q (fun _ => True) v (pauseDevices m) := by
  refine safe_forEach_range (fun d v' => v' = { v with devs := d }) _ ?_ (fun d v' hd hv => ?_) ?_
  · rw [← h0]
  · subst hv
    refine safe_bind (safe_perform (fun _ => ⟨hd, rfl⟩) ?_ trivial)
    refine safe_perform (fun _ => ⟨hd, rfl, rfl⟩) ?_ trivial
    show ({ v with devs := d + 1, woken := false } : Freezing) = { v with devs := d + 1 }
    rw [← hw]
  · rintro _ rfl
    exact hQ

theorem Freezing.safe_snapshot (h0 : v.vcpus = 0) (h1 : v.devs = 0) (hw : v.woken = false) :
    Task.Safe (Freezing.pre m) Freezing.next
      (fun v _ => v.paused = true ∧ v.vcpus = m.nVcpu ∧ v.devs = m.nDev) (fun _ => True) v
      (snapshot m) := by
  have hperform : ∀ {w : Freezing} {Q : Freezing → Unit → Prop} {o : Op} {e : VmmError},
      (∀ w : Freezing, w.needs m o) → Freezing.next o true w = w → Q w () →
      Task.Safe (Freezing.pre m) Freezing.next Q (fun _ => True) w (perform o e) := by
    intro w Q o e hneeds hnext hQ
    refine safe_perform (fun _ => hneeds w) ?_ trivial
    rw [hnext]
    exact hQ
  refine safe_bind (hperform (fun _ => trivial) rfl ?_)
  refine safe_bind (Freezing.safe_pauseAndCaptureVcpus h0 ?_)
  refine safe_bind (Freezing.safe_pauseDevices h1 hw ?_)
  refine safe_bind (hperform (fun _ => trivial) rfl ?_)
  refine safe_bind (hperform (fun _ => trivial) rfl ?_)
  refine safe_bind (safe_bind (hperform (fun _ => trivial) rfl ?_))
  refine hperform (fun _ => trivial) rfl ?_
  refine safe_bind (hperform (fun _ => trivial) rfl ?_)
  refine safe_bind (hperform (fun _ => trivial) rfl ?_)
  exact hperform (fun _ => trivial) rfl ⟨rfl, rfl, rfl⟩

/-- Every call, from its beginning. -/
theorem Freezing.safe_call (call : Call) :
    Script.Safe (Freezing.pre m) Freezing.next (Freezing.post m) { call := some call }
      (call.script m) := by
  by_cases hc : call = .snapshot
  · subst hc
    refine Script.Safe.mono ?_ (Freezing.safe_snapshot rfl rfl rfl)
    rintro v (e | u) h
    · exact fun _ hr => by cases hr
    · exact fun _ _ => h
  · exact Freezing.safe_other _ _ (fun h => hc (Option.some.inj h))

end Safe

/-! ## Fresh slots -/

def Op.wakes : Op → Option Nat
  | .wakeDevice d => some d
  | _ => none

/-- A freeze begins with empty vCPU slots and nothing about to be stored there, and it wakes only
devices whose slot is empty. -/
def FreshSlots (cfg : Cfg) (c : SysConfig) (a : SysAction) : Prop :=
  ((completes c a).any Op.isFreeze = true → ∀ i < cfg.nVcpu,
    (c.state.vcpus i).slot.isSome = false ∧ (c.state.vcpus i).pc.storing = false) ∧
  (c.state.call = some .snapshot → ∀ d ∈ (completes c a).bind Op.wakes,
    (c.state.workers d).slot.isSome = false)

instance (cfg : Cfg) (c : SysConfig) (a : SysAction) : Decidable (FreshSlots cfg c a) :=
  inferInstanceAs (Decidable ((_ → _) ∧ (_ → ∀ d ∈ (completes c a).bind Op.wakes, _)))

/-- The times noted during a freezing snapshot. -/
structure FreezeTimes (cfg : Cfg) (v : Freezing) (s : Sys) (clk : Clock) : Prop where
  called : clk.called < clk.now
  paused : v.paused = true → clk.called < clk.paused ∧ clk.paused < clk.now ∧
    ∀ i < cfg.nVcpu, (s.vcpus i).Since clk.paused (clk.vcpus i)
  woken : v.woken = true → clk.called < clk.woken v.devs ∧ clk.woken v.devs < clk.now ∧
    ((s.workers v.devs).slot.isSome = true → clk.woken v.devs < clk.devs v.devs)
  vcpus : ∀ i < v.vcpus, clk.paused < clk.savedVcpus i
  devs : ∀ d < v.devs, clk.called < clk.woken d ∧ clk.woken d < clk.savedDevs d

/-- Operations fill no slot and move no vCPU. -/
structure Sys.Empties (s s' : Sys) : Prop where
  call : s'.call = s.call
  pc : ∀ i, (s'.vcpus i).pc = (s.vcpus i).pc
  vcpus : ∀ i, (s'.vcpus i).slot.isSome = true → (s.vcpus i).slot.isSome = true
  devs : ∀ w, (s'.workers w).slot.isSome = true → (s.workers w).slot.isSome = true

section FreezeTimes

variable {cfg : Cfg} {v : Freezing} {s s' : Sys} {t : SysAct} {clk : Clock} {o : Op} {ok : Bool}

theorem Sys.Empties.rfl : s.Empties s := ⟨.refl _, fun _ => .refl _, fun _ => id, fun _ => id⟩

theorem Sys.Empties.setVcpu {i : Nat} {x : Vcpu} (hpc : x.pc = (s.vcpus i).pc)
    (hslot : x.slot.isSome = true → (s.vcpus i).slot.isSome = true) :
    s.Empties (s.setVcpu i x) := by
  refine ⟨.refl _, ?_, ?_, fun _ => id⟩
  · exact (Function.forall_update_iff s.vcpus (p := fun j x => x.pc = (s.vcpus j).pc)).mpr
      ⟨hpc, fun _ _ => .refl _⟩
  · exact (Function.forall_update_iff s.vcpus
      (p := fun j x => x.slot.isSome = true → (s.vcpus j).slot.isSome = true)).mpr
        ⟨hslot, fun _ _ => id⟩

theorem Sys.Empties.setWorker {w : Nat} {x : Worker}
    (hslot : x.slot.isSome = true → (s.workers w).slot.isSome = true) :
    s.Empties (s.setWorker w x) := by
  refine ⟨.refl _, fun _ => .refl _, fun _ => id, ?_⟩
  exact (Function.forall_update_iff s.workers
    (p := fun j x => x.slot.isSome = true → (s.workers j).slot.isSome = true)).mpr
      ⟨hslot, fun _ _ => id⟩

theorem OpStep.empties (h : OpStep cfg s o ok s') : s.Empties s' := by
  cases h with
  | takeVcpu i st _ =>
    obtain ⟨-, hpc, hv, hd⟩ :=
      Sys.Empties.setVcpu (s := s) (i := i) (x := { s.vcpus i with slot := none }) (.refl _) nofun
    exact ⟨.refl _, hpc, hv, hd⟩
  | takeDevice d cap _ | waitForCapture d cap _ =>
    obtain ⟨-, hpc, hv, hd⟩ :=
      Sys.Empties.setWorker (s := s) (w := d) (x := { s.workers d with slot := none }) nofun
    exact ⟨.refl _, hpc, hv, hd⟩
  | wakeDevice d =>
    obtain ⟨-, hpc, hv, hd⟩ :=
      Sys.Empties.setWorker (s := s) (w := d) (x := { s.workers d with pauseEvt := true }) id
    exact ⟨.refl _, hpc, hv, hd⟩
  | join i => exact Sys.Empties.setVcpu (.refl _) id
  | _ => exact ⟨.refl _, fun _ => .refl _, fun _ => id, fun _ => id⟩

theorem Vcpu.Since.empties {i t : Nat} {st : VcpuStamp} (hE : s.Empties s')
    (h : (s.vcpus i).Since t st) : (s'.vcpus i).Since t st := by
  refine ⟨fun hs => h.1 (hE.vcpus i hs), fun hp => h.2 ?_⟩
  rw [← hE.pc i]
  exact hp

/-- Time passes, and slots may have been emptied. -/
theorem FreezeTimes.pass (hT : FreezeTimes cfg v s clk) (hE : s.Empties s') :
    FreezeTimes cfg v s' clk.pass := by
  refine ⟨Nat.lt_succ_of_lt hT.called, fun hp => ?_, fun hw => ?_, hT.vcpus, hT.devs⟩
  · obtain ⟨h1, h2, h3⟩ := hT.paused hp
    exact ⟨h1, Nat.lt_succ_of_lt h2, fun i hi => (h3 i hi).empties hE⟩
  · obtain ⟨h1, h2, h3⟩ := hT.woken hw
    exact ⟨h1, Nat.lt_succ_of_lt h2, fun hs => h3 (hE.devs _ hs)⟩

theorem FreezeTimes.env (hT : FreezeTimes cfg v s clk) (h : s.env cfg t = some s') :
    FreezeTimes cfg v s' (clk.env s t).pass := by
  have hframe : (clk.env s t).called = clk.called ∧ (clk.env s t).paused = clk.paused ∧
      (clk.env s t).woken = clk.woken ∧ (clk.env s t).savedVcpus = clk.savedVcpus ∧
      (clk.env s t).savedDevs = clk.savedDevs ∧ (clk.env s t).now = clk.now := by
    cases t <;> exact ⟨rfl, rfl, rfl, rfl, rfl, rfl⟩
  obtain ⟨hcalled, hpaused, hwoken, hsavedV, hsavedD, hnow⟩ := hframe
  refine ⟨?_, fun hp => ?_, fun hw => ?_, ?_, ?_⟩
  · show (clk.env s t).called < (clk.env s t).now + 1
    rw [hcalled, hnow]
    exact Nat.lt_succ_of_lt hT.called
  · show (clk.env s t).called < (clk.env s t).paused ∧ (clk.env s t).paused < (clk.env s t).now + 1 ∧
      ∀ i < cfg.nVcpu, (s'.vcpus i).Since (clk.env s t).paused ((clk.env s t).vcpus i)
    rw [hcalled, hpaused, hnow]
    obtain ⟨h1, h2, h3⟩ := hT.paused hp
    refine ⟨h1, Nat.lt_succ_of_lt h2, fun i hi => ?_⟩
    rcases Sys.env_vcpu_cases h i with ⟨l, hx, ht⟩ | ⟨act, x, e, l, rfl, hstep, hx⟩
    · have hsame : (clk.env s t).vcpus i = clk.vcpus i := by
        cases t with
        | worker => rfl
        | vcpu j act => exact Function.update_of_ne (fun hij => ht act (by rw [hij])) _ _
      rw [hx, hsame]
      exact h3 i hi
    · rw [hx]
      show Vcpu.Since clk.paused (Function.update clk.vcpus i _ i) _
      rw [Function.update_self]
      have hsince := Vcpu.since_step (h3 i hi) h2 hstep
      exact hsince
  · show (clk.env s t).called < (clk.env s t).woken v.devs ∧
      (clk.env s t).woken v.devs < (clk.env s t).now + 1 ∧
      ((s'.workers v.devs).slot.isSome = true →
        (clk.env s t).woken v.devs < (clk.env s t).devs v.devs)
    rw [hcalled, hwoken, hnow]
    obtain ⟨h1, h2, h3⟩ := hT.woken hw
    refine ⟨h1, Nat.lt_succ_of_lt h2, fun hs => ?_⟩
    rcases Sys.env_worker_cases h v.devs with ⟨a, n, hx, ht⟩ | ⟨k, act, x, e, a, n, rfl, -, hstep, hx⟩
    · have hsame : (clk.env s t).devs v.devs = clk.devs v.devs := by
        cases t with
        | vcpu => rfl
        | worker j act => exact Function.update_of_ne (fun hij => ht act (by rw [hij])) _ _
      rw [hsame]
      rw [hx] at hs
      exact h3 hs
    · rw [hx] at hs
      show clk.woken v.devs < Function.update clk.devs v.devs _ v.devs
      rw [Function.update_self]
      exact Worker.since_step h3 h2 hstep hs
  · show ∀ i < v.vcpus, (clk.env s t).paused < (clk.env s t).savedVcpus i
    rw [hpaused, hsavedV]
    exact hT.vcpus
  · show ∀ d < v.devs, (clk.env s t).called < (clk.env s t).woken d ∧
      (clk.env s t).woken d < (clk.env s t).savedDevs d
    rw [hcalled, hwoken, hsavedD]
    exact hT.devs

/-- An operation that succeeds. -/
theorem FreezeTimes.op_ok (hT : FreezeTimes cfg v s clk) (hneeds : v.needs cfg.shape o)
    (hpause : o.isFreeze = true → ∀ i < cfg.nVcpu,
      (s.vcpus i).slot.isSome = false ∧ (s.vcpus i).pc.storing = false)
    (hwake : ∀ d ∈ o.wakes, (s.workers d).slot.isSome = false) (h : Sys.op cfg o .ok s = some s') :
    FreezeTimes cfg (Freezing.next o true v) s' (clk.op o).pass := by
  have hE := OpStep.empties (Sys.op_ok_cases h)
  cases o with
  | setVcpuPause =>
    refine ⟨Nat.lt_succ_of_lt hT.called, fun _ => ?_, fun hw => ?_, fun i hi => ?_, hT.devs⟩
    · refine ⟨hT.called, Nat.lt_succ_self _, fun i hi => Vcpu.Since.empties hE ?_⟩
      obtain ⟨hslot, hpc⟩ := hpause rfl i hi
      refine ⟨fun hs => ?_, fun hp => ?_⟩
      · cases hslot.symm.trans hs
      · cases hpc.symm.trans hp
    · exact (hT.pass hE).woken hw
    · have h0 : v.vcpus = 0 := hneeds
      have hi' : i < v.vcpus := hi
      omega
  | takeVcpu i =>
    obtain ⟨hi, rfl, hp⟩ := hneeds
    have hslot : (s.vcpus v.vcpus).slot.isSome = true := by
      obtain ⟨st, hst, -⟩ := Option.map_eq_some_iff.mp h
      rw [hst]
      rfl
    refine ⟨(hT.pass hE).called, (hT.pass hE).paused, (hT.pass hE).woken, fun j hj => ?_, hT.devs⟩
    show clk.paused < Function.update clk.savedVcpus v.vcpus _ j
    by_cases hjv : j = v.vcpus
    · subst hjv
      rw [Function.update_self]
      exact ((hT.paused hp).2.2 _ hi).1 hslot
    · rw [Function.update_of_ne hjv]
      have hj' : j < v.vcpus + 1 := hj
      exact hT.vcpus j (by omega)
  | wakeDevice d =>
    obtain ⟨-, rfl⟩ := hneeds
    have hnone := hwake v.devs rfl
    refine ⟨(hT.pass hE).called, (hT.pass hE).paused, fun _ => ?_, hT.vcpus, fun d hd => ?_⟩
    · show clk.called < Function.update clk.woken v.devs clk.now v.devs ∧
        Function.update clk.woken v.devs clk.now v.devs < clk.now + 1 ∧ _
      rw [Function.update_self]
      refine ⟨hT.called, Nat.lt_succ_self _, fun hs => ?_⟩
      cases hnone.symm.trans (hE.devs _ hs)
    · have hd' : d < v.devs := hd
      show clk.called < Function.update clk.woken v.devs clk.now d ∧
        Function.update clk.woken v.devs clk.now d < clk.savedDevs d
      rw [Function.update_of_ne (Nat.ne_of_lt hd')]
      exact hT.devs d hd
  | waitForCapture d =>
    obtain ⟨-, rfl, hw⟩ := hneeds
    have hslot : (s.workers v.devs).slot.isSome = true := by
      obtain ⟨cap, hcap, -⟩ := Option.map_eq_some_iff.mp h
      rw [hcap]
      rfl
    obtain ⟨h1, h2, h3⟩ := hT.woken hw
    refine ⟨(hT.pass hE).called, (hT.pass hE).paused, nofun, hT.vcpus, fun d hd => ?_⟩
    show clk.called < clk.woken d ∧ clk.woken d < Function.update clk.savedDevs v.devs _ d
    by_cases hdv : d = v.devs
    · subst hdv
      rw [Function.update_self]
      exact ⟨h1, h3 hslot⟩
    · rw [Function.update_of_ne hdv]
      have hd' : d < v.devs + 1 := hd
      exact hT.devs d (by omega)
  | takeDevice d => exact hneeds.elim
  | _ => exact hT.pass hE

/-- One that fails changes nothing, and the pause flag can always be set. -/
theorem FreezeTimes.op_err (hT : FreezeTimes cfg v s clk) (h : Sys.op cfg o .err s = some s') :
    FreezeTimes cfg (Freezing.next o false v) s' clk.pass := by
  have hE := OpStep.empties (Sys.op_err_cases h)
  cases o with
  | setVcpuPause => cases h
  | _ => exact hT.pass hE

end FreezeTimes

/-- The view is right about the call, and during a freezing snapshot about the times. -/
structure FreezeInv (cfg : Cfg) (v : Freezing) (s : Sys) (clk : Clock) : Prop where
  call : s.call = v.call
  times : v.call = some .snapshot → FreezeTimes cfg v s clk

section FreezeInv

variable {cfg : Cfg} {v : Freezing} {c : SysConfig} {s' : Sys} {clk : Clock} {o : Op}
  {k : Bool → Script Op (Except VmmError Unit)}

theorem FreezeInv.env {t : SysAct} (hI : FreezeInv cfg v c.state clk)
    (hs : c.state.env cfg t = some s') : FreezeInv cfg v s' (clk.tick c (.env t)) := by
  refine ⟨?_, fun hv => (hI.times hv).env hs⟩
  rw [(Sys.env_frame hs).call]
  exact hI.call

theorem FreezeInv.progress {n : Nat} (hI : FreezeInv cfg v c.state clk)
    (hs : Sys.op cfg o (.progress n) c.state = some s') :
    FreezeInv cfg v s' (clk.tick c (.op (.progress n))) := by
  have hE : c.state.Empties s' := by
    rcases Sys.progress_cases hs with rfl | ⟨-, -, src, rfl, -⟩
    · exact .rfl
    · exact ⟨rfl, fun _ => rfl, fun _ => id, fun _ => id⟩
  exact ⟨hE.call.trans hI.call, fun hv => (hI.times hv).pass hE⟩

theorem FreezeInv.op (ok : Bool) (hI : FreezeInv cfg v c.state clk) (hk : c.script = .op o k)
    (hpre : Freezing.pre cfg.shape o v) (hP : FreshSlots cfg c (.op (if ok then .ok else .err)))
    (hs : Sys.op cfg o (if ok then .ok else .err) c.state = some s') :
    FreezeInv cfg (Freezing.next o ok v) s' (clk.tick c (.op (if ok then .ok else .err))) := by
  have hE := OpStep.empties (Sys.op_cases hs)
  refine ⟨?_, fun hv => ?_⟩
  · rw [Freezing.next_call]
    exact hE.call.trans hI.call
  · rw [Freezing.next_call] at hv
    have hT := hI.times hv
    cases ok with
    | false => exact hT.op_err hs
    | true =>
      have hcomp : completes c (.op .ok) = some o := by
        unfold completes
        rw [hk]
      have htick : clk.tick c (.op .ok) = (clk.op o).pass := by
        show ((completes c (.op .ok)).elim clk clk.op).pass = _
        rw [hcomp]
        rfl
      have hP' : FreshSlots cfg c (.op .ok) := hP
      unfold FreshSlots at hP'
      rw [hcomp] at hP'
      rw [if_pos rfl, htick]
      exact hT.op_ok (hpre hv) hP'.1 (hP'.2 (hI.call.trans hv)) hs

theorem FreezeInv.enter (s : Sys) (clk : Clock) (call : Call) :
    FreezeInv cfg { call := some call } { s with saved := {}, call := some call }
      (clk.tick c (.call call)) :=
  ⟨rfl, fun _ => ⟨Nat.lt_succ_self _, nofun, nofun, nofun, nofun⟩⟩

end FreezeInv

/-- The end of a freezing snapshot, with an image of one chunk. -/
def dumpRun : List SysAction :=
  List.replicate 3 Act.ok ++ [.op (.progress 0)] ++ List.replicate 4 Act.ok

/-- A freezing snapshot of a machine that has never been asked for one. -/
def firstFreezeRun : List SysAction :=
  Act.enterGuest ++ [.call .snapshot, Act.ok, Act.ok, Act.vcpu (.exit .eintr)] ++
  List.replicate 4 (Act.vcpu .go) ++ List.replicate 3 Act.ok ++
  [Act.worker 0 (.poll [.pause])] ++ List.replicate 5 (Act.worker 0 .go) ++ [Act.ok, Act.ok] ++
  [Act.worker 1 (.poll [.pause])] ++ List.replicate 3 (Act.worker 1 .go) ++ [Act.ok] ++ dumpRun

/-- A checkpoint in place runs into its deadline after the devices have parked; then the machine
is frozen, and the devices are found to have captured at once. -/
def staleRun : List SysAction :=
  Act.enterGuest ++ [.call .checkpointFullInPlace] ++ List.replicate 4 Act.ok ++ Act.parkDevices ++
  [Act.err, Act.ok, Act.ok] ++ List.replicate 2 (Act.worker 0 .go) ++
  List.replicate 2 (Act.worker 1 .go) ++ [Act.ok] ++
  [.call .snapshot, Act.ok, Act.ok, Act.vcpu (.exit .eintr)] ++ List.replicate 4 (Act.vcpu .go) ++
  List.replicate 6 Act.ok ++ dumpRun

end MicroMachines.Vmm
