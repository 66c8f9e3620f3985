import MicroMachines.Vmm.View

set_option autoImplicit false

/-! # The machine and its checkpoint barrier

`Checkpoint` counts the parked threads and knows neither who they are nor which request they
answer. The machine refines the counting barrier of `Lib/Barrier.lean`, with the vCPUs and the
snapshottable workers as participants, as long as every request is made when none of them is
still in the barrier (`CleanRequests`): the code does not wait for that after a cycle that ran
into its deadline.

* `Sys.env_barrier`, `BarrierInv.op`: every step of the machine is a step of that barrier.
* `run_rel`: the rule all properties of the machine's runs are proved with.
* `run_base`: the same for clean runs, with the barrier at hand.
-/

namespace MicroMachines.Vmm

open MicroMachines.Lib

/-! ## The abstraction -/

/-- The threads that can park. -/
abbrev Participant (cfg : Cfg) : Type := Fin cfg.nVcpu ⊕ Fin cfg.nDev

/-- The participants of a cycle with or without devices. -/
def Cfg.participants (cfg : Cfg) (devices : Bool) : Finset (Participant cfg) :=
  Finset.univ.filter (fun p => (p.isLeft || devices) = true)

variable {cfg : Cfg}

theorem Cfg.mem_participants {devices : Bool} {p : Participant cfg} :
    p ∈ cfg.participants devices ↔ p.isLeft = true ∨ devices = true := by
  simp [Cfg.participants]

theorem Cfg.participants_subset (cfg : Cfg) (devices : Bool) :
    cfg.participants false ⊆ cfg.participants devices := by
  intro p hp
  rw [Cfg.mem_participants] at hp ⊢
  exact Or.inl (hp.resolve_right (by simp))

/-- `quiesce_at_barrier` waits for as many threads as there are participants. -/
theorem Cfg.card_participants (cfg : Cfg) (devices : Bool) :
    (cfg.participants devices).card = cfg.total devices := by
  cases devices with
  | true =>
    have huniv : cfg.participants true = Finset.univ := by
      ext p
      simp [Cfg.mem_participants]
    rw [huniv, Finset.card_univ, Fintype.card_sum, Fintype.card_fin, Fintype.card_fin]
    rfl
  | false =>
    have hleft : cfg.participants false = Finset.univ.map Function.Embedding.inl := by
      ext p
      rw [Cfg.mem_participants]
      cases p <;> simp
    rw [hleft, Finset.card_map, Finset.card_univ, Fintype.card_fin]
    rfl

namespace Sys

def phase (cfg : Cfg) (s : Sys) : Participant cfg → Phase
  | .inl i => (s.vcpus i).phase
  | .inr d => (s.workers d).phase

/-- The barrier of a machine in which the request `cycle` stands. -/
def barrier (cfg : Cfg) (cycle : Option Bool) (s : Sys) : Barrier (Participant cfg) where
  requested := s.requested
  released := s.released
  parked := s.parked
  gen := s.gen
  cycle := cycle.map cfg.participants
  phase := s.phase cfg

end Sys

section Abstraction

variable {cfg : Cfg} {s s' : Sys} {t : SysAct} {cycle : Option Bool}

theorem Sys.barrier_congr (hreq : s'.requested = s.requested) (hrel : s'.released = s.released)
    (hparked : s'.parked = s.parked) (hgen : s'.gen = s.gen)
    (hphase : s'.phase cfg = s.phase cfg) : s'.barrier cfg cycle = s.barrier cfg cycle := by
  rw [Sys.barrier, Sys.barrier, hreq, hrel, hparked, hgen, hphase]

/-- What other threads do to a vCPU or a worker does not move it. -/
theorem Sys.effect_phase (cfg : Cfg) (s : Sys) (w : Nat) (e : Effect) :
    (s.effect cfg w e).phase cfg = s.phase cfg := by
  funext p
  cases p with
  | inl i =>
    obtain ⟨l, hl⟩ := s.effect_vcpu cfg w e i
    show ((s.effect cfg w e).vcpus i).phase = _
    rw [hl]
    rfl
  | inr d =>
    obtain ⟨a, n, hd⟩ := s.effect_worker cfg w e d
    show ((s.effect cfg w e).workers d).phase = _
    rw [hd]
    rfl

theorem Sys.setVcpu_phase {i : Nat} (hi : i < cfg.nVcpu) (v : Vcpu) :
    (s.setVcpu i v).phase cfg = Function.update (s.phase cfg) (.inl ⟨i, hi⟩) v.phase := by
  funext p
  cases p with
  | inl j =>
    by_cases hj : j = ⟨i, hi⟩
    · subst hj
      rw [Function.update_self]
      show ((s.setVcpu i v).vcpus i).phase = v.phase
      rw [Sys.setVcpu_self]
    · rw [Function.update_of_ne (by simpa using hj)]
      show ((s.setVcpu i v).vcpus j).phase = _
      rw [Sys.setVcpu_ne (fun h => hj (Fin.ext h))]
      rfl
  | inr d => rw [Function.update_of_ne (by simp)]; rfl

theorem Sys.setWorker_phase {w : Nat} (hw : w < cfg.nDev) (x : Worker) :
    (s.setWorker w x).phase cfg = Function.update (s.phase cfg) (.inr ⟨w, hw⟩) x.phase := by
  funext p
  cases p with
  | inl i => rw [Function.update_of_ne (by simp)]; rfl
  | inr d =>
    by_cases hd : d = ⟨w, hw⟩
    · subst hd
      rw [Function.update_self]
      show ((s.setWorker w x).workers w).phase = x.phase
      rw [Sys.setWorker_self]
    · rw [Function.update_of_ne (by simpa using hd)]
      show ((s.setWorker w x).workers d).phase = _
      rw [Sys.setWorker_ne (fun h => hd (Fin.ext h))]
      rfl

/-- A worker without a pause handle is not a participant. -/
theorem Sys.setWorker_phase_detached {w : Nat} (hw : cfg.nDev ≤ w) (x : Worker) :
    (s.setWorker w x).phase cfg = s.phase cfg := by
  funext p
  cases p with
  | inl i => rfl
  | inr d =>
    show ((s.setWorker w x).workers d).phase = _
    rw [Sys.setWorker_ne (by have := d.isLt; omega)]
    rfl

/-- **The machine refines the barrier**: a step of a vCPU or of a worker is a move of one
participant, or none. -/
theorem Sys.env_barrier (h : s.env cfg t = some s')
    (hdetached : ∀ w, cfg.nDev ≤ w → (s.workers w).phase = .out) :
    Barrier.Step (cfg.participants false) (s.barrier cfg cycle) (s'.barrier cfg cycle) ∨
      s'.barrier cfg cycle = s.barrier cfg cycle := by
  have hframe := Sys.env_frame h
  rcases Sys.env_cases h with ⟨i, act, v, e, -, hi, hv, rfl⟩ | ⟨w, k, act, x, e, -, hk, -, hx, rfl⟩
  · left
    have heq : ((s.setVcpu i v).effect cfg 0 e).barrier cfg cycle =
        (s.barrier cfg cycle).move (.inl ⟨i, hi⟩) v.phase e.count := by
      rw [Sys.barrier, hframe.requested, hframe.released, hframe.gen, Sys.effect_parked,
        Sys.effect_phase, Sys.setVcpu_phase hi]
      rfl
    rw [heq]
    refine .move _ _ _ ?_
    have hfree : decide ((.inl ⟨i, hi⟩ : Participant cfg) ∈ cfg.participants false) = true := by
      rw [decide_eq_true_iff, Cfg.mem_participants]
      exact Or.inl rfl
    rw [hfree]
    exact Vcpu.step_move hv
  · have hmove := Worker.step_move hx
    by_cases hw : w < cfg.nDev
    · left
      have heq : ((s.setWorker w x).effect cfg w e).barrier cfg cycle =
          (s.barrier cfg cycle).move (.inr ⟨w, hw⟩) x.phase e.count := by
        rw [Sys.barrier, hframe.requested, hframe.released, hframe.gen, Sys.effect_parked,
          Sys.effect_phase, Sys.setWorker_phase hw]
        rfl
      rw [heq]
      refine .move _ _ _ ?_
      have hfree : decide ((.inr ⟨w, hw⟩ : Participant cfg) ∈ cfg.participants false) = false := by
        rw [decide_eq_false_iff_not, Cfg.mem_participants]
        simp
      rw [hfree]
      exact hmove
    · right
      rw [hdetached w (Nat.le_of_not_lt hw)] at hmove
      refine Sys.barrier_congr hframe.requested hframe.released ?_ hframe.gen ?_
      · rw [Sys.effect_parked, hmove.of_out.2]
        rfl
      · rw [Sys.effect_phase, Sys.setWorker_phase_detached (Nat.le_of_not_lt hw)]

end Abstraction

/-! ## The view and the machine -/

/-- The view is right about the machine. -/
structure Rel (cfg : Cfg) (v : View) (s : Sys) : Prop where
  call : s.call = v.call
  requested : s.requested = v.cycle.isSome
  released : s.released = v.released
  held : s.held = if v.held then v.cycle else none
  cycle : v.held = true → v.cycle ≠ none
  vcpus : ∀ i, (s.saved.vcpus i).isSome = true ↔ i < v.vcpus
  devs : ∀ d, (s.saved.devs d).isSome = true ↔ d < v.devs
  copying : v.copying = false → s.saved.copied = 0
  copied : v.copied = true → s.saved.copied = cfg.nChunks
  pausing : v.pausing = true → v.call = some .snapshot ∧ v.held = false
  handle : ∀ i, (s.vcpus i).handle = false → ∃ r, (s.vcpus i).pc = .returned r
  joined : v.pausing = true → ∀ i < v.joined, (s.vcpus i).handle = false

section Rel

variable {cfg : Cfg} {v : View} {s s' : Sys} {t : SysAct} {o : Op} {ok : Bool}

theorem Rel.env (hR : Rel cfg v s) (h : s.env cfg t = some s') : Rel cfg v s' := by
  have hf := Sys.env_frame h
  refine ⟨?_, ?_, ?_, ?_, hR.cycle, ?_, ?_, ?_, ?_, hR.pausing, ?_, fun hp i hi => ?_⟩
  · rw [hf.call]; exact hR.call
  · rw [hf.requested]; exact hR.requested
  · rw [hf.released]; exact hR.released
  · rw [hf.held]; exact hR.held
  · rw [hf.saved]; exact hR.vcpus
  · rw [hf.saved]; exact hR.devs
  · rw [hf.saved]; exact hR.copying
  · rw [hf.saved]; exact hR.copied
  · refine Sys.env_forall_vcpu
      (P := fun _ x => x.handle = false → ∃ r, x.pc = .returned r) h ?_ ?_ hR.handle
    · exact fun i x l hx => hx
    · intro i act x e _ hx hret hh
      obtain ⟨r, hr⟩ := hret (by rw [← hx.handle_eq]; exact hh)
      exact absurd hr hx.not_returned
  · refine Sys.env_forall_vcpu (P := fun i x => i < v.joined → x.handle = false) h ?_ ?_
      (hR.joined hp) i hi
    · exact fun i x l hx => hx
    · exact fun i act x e _ hx hh hi => by rw [hx.handle_eq]; exact hh hi

/-- Taking the next element in turn. -/
theorem isSome_update_iff {α : Type} {f : Nat → Option α} {n : Nat}
    (h : ∀ i, (f i).isSome = true ↔ i < n) (a : α) (i : Nat) :
    (Function.update f n (some a) i).isSome = true ↔ i < n + 1 := by
  by_cases hi : i = n
  · subst hi
    simp
  · rw [Function.update_of_ne hi, h]
    omega

/-- The vCPU slots do not matter for the threads. -/
theorem Rel.takeVcpu (hR : Rel cfg v s) (i : Nat) (st : VcpuState) (hi : i = v.vcpus) :
    Rel cfg { v with vcpus := i + 1, fresh := false } (s.takeVcpu i st) := by
  subst hi
  refine { hR with vcpus := isSome_update_iff hR.vcpus st, handle := ?_, joined := fun hp => ?_ }
  · exact (Function.forall_update_iff s.vcpus
      (p := fun _ x => x.handle = false → ∃ r, x.pc = .returned r)).mpr
        ⟨hR.handle _, fun j _ => hR.handle j⟩
  · exact (Function.forall_update_iff s.vcpus
      (p := fun j x => j < v.joined → x.handle = false)).mpr
        ⟨hR.joined hp _, fun j _ => hR.joined hp j⟩

theorem Rel.join (hR : Rel cfg v s) (i : Nat) (hi : v.joined = i)
    (h : (s.vcpus i).handle = true → ∃ r, (s.vcpus i).pc = .returned r) :
    Rel cfg { v with joined := i + 1 } (s.setVcpu i { s.vcpus i with handle := false }) := by
  refine { hR with handle := ?_, joined := fun hp => ?_ }
  · refine (Function.forall_update_iff s.vcpus
      (p := fun _ x => x.handle = false → ∃ r, x.pc = .returned r)).mpr
        ⟨fun _ => ?_, fun j _ => hR.handle j⟩
    cases hh : (s.vcpus i).handle with
    | true => exact h hh
    | false => exact hR.handle i hh
  · refine (Function.forall_update_iff s.vcpus
      (p := fun j x => j < i + 1 → x.handle = false)).mpr ⟨fun _ => rfl, fun j hj hlt => ?_⟩
    exact hR.joined hp j (by omega)

theorem Rel.op (hR : Rel cfg v s) (hpre : View.pre cfg.shape o v) (h : OpStep cfg s o ok s') :
    Rel cfg (View.next o ok v) s' := by
  cases h with
  | quiet _ _ hnext => rw [hnext]; exact hR
  | clearReleased | setReleased => exact { hR with released := rfl }
  | setRequested devices =>
    refine { hR with requested := rfl, held := ?_, cycle := ?_ }
    · show s.held = if v.held then some devices else none
      rw [hR.held, hpre.2.1]
      rfl
    · exact fun _ h => by cases h
  | wakeDevice d => exact { hR with }
  | parked devices _ =>
    refine { hR with held := hpre.1.symm, cycle := fun _ => ?_, pausing := fun hp => ?_ }
    · show v.cycle ≠ none
      rw [hpre.1]
      simp
    · cases hpre.2.2.1.symm.trans hp
  | clearRequested =>
    exact { hR with
      requested := rfl
      held := rfl
      cycle := nofun
      pausing := fun hp => ⟨(hR.pausing hp).1, rfl⟩ }
  | takeVcpu i st _ => exact hR.takeVcpu i st hpre.2.1
  | takeDevice d cap _ | waitForCapture d cap _ =>
    obtain ⟨-, rfl, hcopy, -⟩ := hpre
    exact { hR with devs := isSome_update_iff hR.devs cap }
  | newImage _ ho =>
    rcases ho with rfl | rfl <;> exact { hR with copying := fun _ => rfl, copied := nofun }
  | imageDone _ ho hc =>
    rcases ho with rfl | rfl <;> exact { hR with copied := fun _ => hc }
  | setVcpuPause =>
    exact { hR with
      pausing := fun _ => ⟨hpre.1, hpre.2.1⟩
      joined := fun _ i hi => absurd hi (Nat.not_lt_zero i) }
  | join i _ h => exact hR.join i hpre.2.2 h

theorem Rel.copy (hR : Rel cfg v s) (hlt : s.saved.copied < cfg.nChunks)
    (hcopying : v.copying = true) (src : Cell → Nat) : Rel cfg v (s.copyChunk cfg src) := by
  refine { hR with copying := fun h => ?_, copied := fun h => ?_ }
  · rw [hcopying] at h
    cases h
  · have := hR.copied h
    omega

theorem Rel.enter (hR : Rel cfg v s) (call : Call) :
    Rel cfg (v.enter call) { s with saved := {}, call := some call } := by
  refine ⟨rfl, hR.requested, hR.released, hR.held, hR.cycle, fun i => ?_, fun d => ?_,
    fun _ => rfl, nofun, nofun, hR.handle, nofun⟩
  · show (none : Option VcpuState).isSome = true ↔ i < 0
    simp
  · show (none : Option QueueCapture).isSome = true ↔ d < 0
    simp

theorem Rel.start (start : Start) : Rel cfg {} start.state := by
  refine ⟨rfl, rfl, rfl, rfl, nofun, fun i => ?_, fun d => ?_, fun _ => rfl, nofun, nofun, nofun,
    nofun⟩
  · show (none : Option VcpuState).isSome = true ↔ i < 0
    simp
  · show (none : Option QueueCapture).isSome = true ↔ d < 0
    simp

/-- Once the machine is frozen no vCPU takes a step. -/
theorem Rel.frozen_env (hR : Rel cfg v s) (hf : v.Frozen cfg.shape) (h : s.env cfg t = some s') :
    ∃ w k act x e, t = .worker w act ∧ cfg.workers[w]? = some k ∧ act.targets cfg.nVcpu = true ∧
      WorkerStep k s.requested s.released s.gen (fun q => s.ram (.avail w q)) (s.workers w) act x e ∧
      s' = (s.setWorker w x).effect cfg w e := by
  rcases Sys.env_cases h with ⟨i, act, x, e, -, hi, hx, -⟩ | hw
  · obtain ⟨r, hr⟩ := hR.handle i (hR.joined hf.1 i (by rw [hf.2]; exact hi))
    exact absurd hr hx.not_returned
  · exact hw

end Rel

/-- **The rule for runs of the machine.** `Own` is a property of the state that may depend on
where the call is; it holds at the end of every run whose steps meet `P` if the steps of the
threads, the operations, the copies and the beginning of a call keep it. -/
theorem run_rel (Own : View → Sys → Prop) (P : SysConfig → SysAction → Prop)
    (henv : ∀ v c t s', Rel cfg v c.state → Own v c.state → P c (.env t) →
      c.state.env cfg t = some s' → Own v s')
    (hcopy : ∀ v c o k n src, Rel cfg v c.state → Own v c.state → c.script = .op o k →
      View.pre cfg.shape o v → P c (.op (.progress n)) →
      (o = .dumpGuestMemory ∨ o = .recopyBranchPages) →
      (src = c.state.ram ∨ (o = .recopyBranchPages ∧ src = c.state.barrierRam)) →
      Own v (c.state.copyChunk cfg src))
    (hop : ∀ v c o k ok s', Rel cfg v c.state → Own v c.state → c.script = .op o k →
      View.pre cfg.shape o v → P c (.op (if ok then .ok else .err)) →
      OpStep cfg c.state o ok s' → Own (View.next o ok v) s')
    (henter : ∀ v s call, Rel cfg v s → Own v s → v.Rest →
      Own (v.enter call) { s with saved := {}, call := some call })
    (start : Start) (hstart : Own {} start.state) (as : List SysAction) (c : SysConfig)
    (hP : Meets (sysMachine cfg).step P start.config as)
    (hrun : run (sysMachine cfg).step start.config as = some c) :
    ∃ v, (Rel cfg v c.state ∧ Own v c.state) ∧
      Script.Safe (View.pre cfg.shape) View.next (View.post cfg.shape) v c.script := by
  refine Machine.run_safe (sysMachine cfg) P (View.pre cfg.shape) View.next
    (View.post cfg.shape) (fun v s => Rel cfg v s ∧ Own v s) ?_ ?_ ?_ ?_ as start.config c
    ⟨{}, ⟨Rel.start start, hstart⟩, ⟨rfl, nofun⟩, fun _ _ => nofun⟩ hP hrun
  · intro v c t s' hI hPc hs
    exact ⟨hI.1.env hs, henv v c t s' hI.1 hI.2 hPc hs⟩
  · intro v c o k n s' hI hk hpre hPc hs
    rcases Sys.progress_cases hs with rfl | ⟨ho, hlt, src, rfl, hsrc⟩
    · exact hI
    · have hcopying : v.copying = true := by
        rcases ho with rfl | rfl <;> exact hpre.1
      exact ⟨hI.1.copy hlt hcopying src, hcopy v c o k n src hI.1 hI.2 hk hpre hPc ho hsrc⟩
  · intro v c o k ok s' hI hk hpre hPc hs
    have hstep := Sys.op_cases hs
    exact ⟨hI.1.op hpre hstep, hop v c o k ok s' hI.1 hI.2 hk hpre hPc hstep⟩
  · intro v s r call hI hpost
    exact ⟨v.enter call, ⟨hI.1.enter call, henter v s call hI.1 hI.2 hpost.1⟩,
      call.safe hpost.1⟩

/-! ## Clean requests -/

/-- No vCPU and no worker is in the barrier or on its way there. -/
def AllOut (cfg : Cfg) (s : Sys) : Prop :=
  (∀ i < cfg.nVcpu, (s.vcpus i).phase = .out) ∧ ∀ d < cfg.nDev, (s.workers d).phase = .out

instance (cfg : Cfg) (s : Sys) : Decidable (AllOut cfg s) := inferInstanceAs (Decidable (_ ∧ _))

/-- The operation that a step completes with success. -/
def completes (c : SysConfig) : SysAction → Option Op
  | .op .ok =>
    match c.script with
    | .op o _ => some o
    | .done _ => none
  | _ => none

def Op.isRequest : Op → Bool
  | .setRequested _ => true
  | _ => false

/-- Requests are made only when everyone is out. -/
def CleanRequests (cfg : Cfg) (c : SysConfig) (a : SysAction) : Prop :=
  (completes c a).any Op.isRequest = true → AllOut cfg c.state

instance (cfg : Cfg) (c : SysConfig) (a : SysAction) : Decidable (CleanRequests cfg c a) :=
  inferInstanceAs (Decidable (_ → _))

theorem any_completes {c : SysConfig} {o : Op} {k : Bool → Script Op (Except VmmError Unit)}
    {ok : Bool} {p : Op → Bool} (h : c.script = .op o k) (hok : ok = true) (hp : p o = true) :
    (completes c (.op (if ok then .ok else .err))).any p = true := by
  subst hok
  unfold completes
  rw [if_pos rfl, h]
  exact hp

/-- The machine as a barrier: the abstract invariant, the workers that take no part, and what a
held barrier means. -/
structure BarrierInv (cfg : Cfg) (v : View) (s : Sys) : Prop where
  barrier : (s.barrier cfg v.cycle).Inv (cfg.participants false)
  detached : ∀ w, cfg.nDev ≤ w → (s.workers w).phase = .out
  waiting : v.held = true → ∀ devices, v.cycle = some devices →
    ∀ p ∈ cfg.participants devices, s.phase cfg p = .waiting s.gen

section BarrierInv

variable {cfg : Cfg} {v : View} {s s' : Sys} {t : SysAct} {o : Op} {ok : Bool}

variable {v' : View} {d : Nat}

/-- A step of the barrier that does not begin or end a cycle. -/
theorem BarrierInv.step (hI : BarrierInv cfg v s)
    (h : Barrier.Step (cfg.participants false) (s.barrier cfg v.cycle) (s'.barrier cfg v.cycle) ∨
      s'.barrier cfg v.cycle = s.barrier cfg v.cycle)
    (hgen : s'.gen = s.gen) (hdetached : ∀ w, cfg.nDev ≤ w → (s'.workers w).phase = .out)
    (hcycle : v'.cycle = v.cycle) (hheld : v'.held = v.held) : BarrierInv cfg v' s' := by
  rcases h with h | h
  · refine ⟨?_, hdetached, fun hh devices hc => ?_⟩
    · rw [hcycle]
      exact hI.barrier.step h
    · rw [hheld] at hh
      rw [hcycle] at hc
      have hS : ∀ s : Sys, (s.barrier cfg v.cycle).cycle = some (cfg.participants devices) := by
        intro s
        rw [hc]
        rfl
      exact hI.barrier.waiting_step (hS s) h (hS s') hgen (hI.waiting hh devices hc)
  · have hphase : s'.phase cfg = s.phase cfg := congrArg Barrier.phase h
    refine ⟨?_, hdetached, ?_⟩
    · rw [hcycle, h]
      exact hI.barrier
    · rw [hphase, hgen, hcycle, hheld]
      exact hI.waiting

theorem BarrierInv.env (hI : BarrierInv cfg v s) (h : s.env cfg t = some s') :
    BarrierInv cfg v s' := by
  refine hI.step (Sys.env_barrier h hI.detached) (Sys.env_frame h).gen ?_ rfl rfl
  refine Sys.env_forall_worker (P := fun w x => cfg.nDev ≤ w → x.phase = .out) h ?_ ?_ hI.detached
  · exact fun w x a n hx => hx
  · intro w k act x e _ _ hx hout hw
    have hmove := Worker.step_move hx
    rw [hout hw] at hmove
    exact hmove.of_out.1

theorem Sys.wakeDevice_phase (hd : d < cfg.nDev) :
    (s.wakeDevice d).phase cfg = Function.update (s.phase cfg) (.inr ⟨d, hd⟩)
      ({ s.workers d with pauseEvt := true } : Worker).phase :=
  Sys.setWorker_phase (s := s) hd _

/-- Waking a worker calls it to the barrier, unless it is there or has been called already. -/
theorem Sys.wakeDevice_barrier (hd : d < cfg.nDev) {cycle : Option Bool}
    (hcycle : ∀ devices, cycle = some devices → devices = true) :
    Barrier.Step (cfg.participants false) (s.barrier cfg cycle)
        ((s.wakeDevice d).barrier cfg cycle) ∨
      (s.wakeDevice d).barrier cfg cycle = s.barrier cfg cycle := by
  rcases (s.workers d).phase_wake with ⟨hout, hcalled⟩ | hsame
  · left
    have hS : ∀ S, (s.barrier cfg cycle).cycle = some S → (.inr ⟨d, hd⟩ : Participant cfg) ∈ S := by
      intro S hS
      obtain ⟨devices, hc, rfl⟩ := Option.map_eq_some_iff.mp hS
      rw [Cfg.mem_participants]
      exact Or.inr (hcycle devices hc)
    have heq : (s.wakeDevice d).barrier cfg cycle =
        (s.barrier cfg cycle).move (.inr ⟨d, hd⟩) .called .same := by
      rw [Sys.barrier, Sys.wakeDevice_phase hd, hcalled]
      rfl
    rw [heq]
    exact .wake _ hS hout
  · right
    refine Sys.barrier_congr rfl rfl rfl rfl ?_
    rw [Sys.wakeDevice_phase hd, hsame]
    exact Function.update_eq_self (.inr ⟨d, hd⟩ : Participant cfg) (s.phase cfg)

/-- Operations that do not touch the barrier. -/
theorem BarrierInv.same (hI : BarrierInv cfg v s)
    (hbarrier : ∀ cycle, s'.barrier cfg cycle = s.barrier cfg cycle)
    (hworkers : ∀ w, cfg.nDev ≤ w → s'.workers w = s.workers w)
    (hcycle : v'.cycle = v.cycle) (hheld : v'.held = v.held) : BarrierInv cfg v' s' := by
  have hgen : s'.gen = s.gen := congrArg Barrier.gen (hbarrier none)
  refine hI.step (Or.inr (hbarrier _)) hgen (fun w hw => ?_) hcycle hheld
  rw [hworkers w hw]
  exact hI.detached w hw

/-- Emptying a slot, or dropping the handle of a vCPU, moves nobody. -/
theorem Sys.setVcpu_barrier {i : Nat} (hi : i < cfg.nVcpu) {x : Vcpu}
    (hx : x.phase = (s.vcpus i).phase) (cycle : Option Bool) :
    (s.setVcpu i x).barrier cfg cycle = s.barrier cfg cycle := by
  refine Sys.barrier_congr rfl rfl rfl rfl ?_
  rw [Sys.setVcpu_phase hi, hx]
  exact Function.update_eq_self (.inl ⟨i, hi⟩ : Participant cfg) (s.phase cfg)

theorem Sys.setWorker_barrier (hd : d < cfg.nDev) {x : Worker}
    (hx : x.phase = (s.workers d).phase) (cycle : Option Bool) :
    (s.setWorker d x).barrier cfg cycle = s.barrier cfg cycle := by
  refine Sys.barrier_congr rfl rfl rfl rfl ?_
  rw [Sys.setWorker_phase hd, hx]
  exact Function.update_eq_self (.inr ⟨d, hd⟩ : Participant cfg) (s.phase cfg)

theorem BarrierInv.takeDevice (hI : BarrierInv cfg v s)
    (hd : d < cfg.nDev) (cap : QueueCapture) (hcycle : v'.cycle = v.cycle)
    (hheld : v'.held = v.held) : BarrierInv cfg v' (s.takeDevice d cap) :=
  hI.same (Sys.setWorker_barrier (x := { s.workers d with slot := none }) hd rfl)
    (fun w hw => Sys.setWorker_ne (s := s) (by omega) _) hcycle hheld

/-- The machine before a request refines the request step of the barrier. -/
theorem BarrierInv.request (hR : Rel cfg v s) (hI : BarrierInv cfg v s) (devices : Bool)
    (hout : AllOut cfg s) (hpre : View.pre cfg.shape (.setRequested devices) v) :
    BarrierInv cfg { v with cycle := some devices, fresh := true }
      { s with requested := true, gen := s.gen + 1 } := by
  obtain ⟨hrel, hheld, -⟩ := hpre
  have hstep : Barrier.Step (cfg.participants false) (s.barrier cfg v.cycle) _ :=
    .request (cfg.participants devices) (cfg.participants_subset devices)
      (by rw [← hrel]; exact hR.released) (fun p => by
        cases p with
        | inl i => exact hout.1 i i.isLt
        | inr d => exact hout.2 d d.isLt)
  refine ⟨hI.barrier.step hstep, hI.detached, fun hh => ?_⟩
  have hh' : v.held = true := hh
  rw [hheld] at hh'
  cases hh'

/-- **All parked is all waiting.** -/
theorem BarrierInv.parked (hI : BarrierInv cfg v s) {devices : Bool}
    (hcycle : v.cycle = some devices) (h : cfg.total devices ≤ s.parked) :
    BarrierInv cfg { v with held := true } { s with held := some devices, barrierRam := s.ram } := by
  refine ⟨hI.barrier, hI.detached, fun _ devices' hc => ?_⟩
  have hcycle' : v.cycle = some devices' := hc
  obtain rfl : devices' = devices := Option.some.inj (hcycle'.symm.trans hcycle)
  refine hI.barrier.all_waiting (S := cfg.participants devices') ?_ ?_
  · rw [hcycle]
    rfl
  · rw [Cfg.card_participants]
    exact h

theorem BarrierInv.op (hR : Rel cfg v s) (hI : BarrierInv cfg v s)
    (hclean : o.isRequest = true → AllOut cfg s) (hpre : View.pre cfg.shape o v)
    (h : OpStep cfg s o ok s') : BarrierInv cfg (View.next o ok v) s' := by
  cases h with
  | quiet _ _ hnext => rw [hnext]; exact hI
  | clearReleased => exact hI.step (Or.inl .clearReleased) rfl hI.detached rfl rfl
  | setRequested devices => exact hI.request hR devices (hclean rfl) hpre
  | wakeDevice d =>
    obtain ⟨hd, hcycle⟩ := hpre
    refine hI.step (Sys.wakeDevice_barrier hd (fun devices hc => ?_)) rfl (fun w hw => ?_) rfl rfl
    · rcases hcycle with ⟨htrue, -⟩ | ⟨-, -, hne⟩
      · exact Option.some.inj (hc.symm.trans htrue)
      · cases devices with
        | true => rfl
        | false => exact absurd hc hne
    · show (Function.update s.workers d _ w).phase = .out
      rw [Function.update_of_ne (by have : d < cfg.nDev := hd; omega)]
      exact hI.detached w hw
  | parked devices hn => exact hI.parked hpre.1 hn
  | clearRequested => exact ⟨hI.barrier.step .clearRequested, hI.detached, nofun⟩
  | setReleased =>
    refine hI.step (Or.inl (.setReleased ?_)) rfl hI.detached rfl rfl
    rw [show v.cycle = none from hpre]
    rfl
  | takeVcpu i st _ =>
    exact hI.same (Sys.setVcpu_barrier (x := { s.vcpus i with slot := none }) hpre.1 rfl)
      (fun _ _ => rfl) rfl rfl
  | takeDevice d cap _ | waitForCapture d cap _ => exact hI.takeDevice hpre.1 cap rfl rfl
  | newImage _ ho | imageDone _ ho hc =>
    rcases ho with rfl | rfl <;> exact hI.same (fun _ => rfl) (fun _ _ => rfl) rfl rfl
  | setVcpuPause => exact hI.same (fun _ => rfl) (fun _ _ => rfl) rfl rfl
  | join i _ _ => exact hI.same (Sys.setVcpu_barrier hpre.1 rfl) (fun _ _ => rfl) rfl rfl

/-- While the barrier is held only workers that take no part in it can move. -/
theorem BarrierInv.held_env (hI : BarrierInv cfg v s) (hheld : v.held = true)
    {devices : Bool} (hcycle : v.cycle = some devices) (h : s.env cfg t = some s') :
    ∃ w k act x e, (devices = true → cfg.nDev ≤ w) ∧ cfg.workers[w]? = some k ∧
      WorkerStep k s.requested s.released s.gen (fun q => s.ram (.avail w q)) (s.workers w) act x e ∧
      s' = (s.setWorker w x).effect cfg w e := by
  have hwait := hI.waiting hheld devices hcycle
  have hrel : s.released = false := by
    refine (hI.barrier.within (cfg.participants devices) ?_).1
    rw [hcycle]
    rfl
  rcases Sys.env_cases h with ⟨i, act, x, e, -, hi, hx, -⟩ | ⟨w, k, act, x, e, -, hk, -, hx, rfl⟩
  · have hp := hwait (.inl ⟨i, hi⟩) (Cfg.mem_participants.mpr (Or.inl rfl))
    cases hrel.symm.trans (hx.of_waiting (Vcpu.pc_of_waiting hp))
  · refine ⟨w, k, act, x, e, fun hdev => ?_, hk, hx, rfl⟩
    by_contra hw
    have hp := hwait (.inr ⟨w, Nat.lt_of_not_le hw⟩) (Cfg.mem_participants.mpr (Or.inr hdev))
    cases hrel.symm.trans (hx.of_waiting (Worker.pc_of_waiting hp))

theorem BarrierInv.enter (hI : BarrierInv cfg v s) (call : Call) :
    BarrierInv cfg (v.enter call) { s with saved := {}, call := some call } :=
  hI.same (fun _ => rfl) (fun _ _ => rfl) rfl rfl

theorem BarrierInv.start (start : Start) : BarrierInv cfg {} start.state := by
  refine ⟨⟨?_, nofun⟩, fun _ _ => rfl, nofun⟩
  have hnone : ∀ p : Participant cfg, start.state.phase cfg p = .out := by
    intro p
    cases p <;> rfl
  show 0 = (Finset.univ.filter (fun p => (start.state.phase cfg p).counted = true)).card
  simp [hnone, Phase.counted]

end BarrierInv

/-- What holds in clean runs. -/
structure Base (cfg : Cfg) (v : View) (s : Sys) : Prop where
  rel : Rel cfg v s
  barrier : BarrierInv cfg v s

/-- **The rule for clean runs**: `run_rel`, with the barrier at hand. -/
theorem run_base (Own : View → Sys → Prop) (P : SysConfig → SysAction → Prop)
    (hclean : ∀ c a, P c a → CleanRequests cfg c a)
    (henv : ∀ v c t s', Base cfg v c.state → Own v c.state → P c (.env t) →
      c.state.env cfg t = some s' → Own v s')
    (hcopy : ∀ v c o k n src, Base cfg v c.state → Own v c.state → c.script = .op o k →
      View.pre cfg.shape o v → P c (.op (.progress n)) →
      (o = .dumpGuestMemory ∨ o = .recopyBranchPages) →
      (src = c.state.ram ∨ (o = .recopyBranchPages ∧ src = c.state.barrierRam)) →
      Own v (c.state.copyChunk cfg src))
    (hop : ∀ v c o k ok s', Base cfg v c.state → Own v c.state → c.script = .op o k →
      View.pre cfg.shape o v → P c (.op (if ok then .ok else .err)) →
      (o.isRequest = true → AllOut cfg c.state) → OpStep cfg c.state o ok s' →
      Base cfg (View.next o ok v) s' → Own (View.next o ok v) s')
    (henter : ∀ v s call, Base cfg v s → Own v s → v.Rest →
      Own (v.enter call) { s with saved := {}, call := some call })
    (start : Start) (hstart : Own {} start.state) (as : List SysAction) (c : SysConfig)
    (hP : Meets (sysMachine cfg).step P start.config as)
    (hrun : run (sysMachine cfg).step start.config as = some c) :
    ∃ v, (Base cfg v c.state ∧ Own v c.state) ∧
      Script.Safe (View.pre cfg.shape) View.next (View.post cfg.shape) v c.script := by
  have hbase : ∀ {v : View} {s : Sys}, (Rel cfg v s ∧ BarrierInv cfg v s ∧ Own v s) →
      Base cfg v s ∧ Own v s := fun h => ⟨⟨h.1, h.2.1⟩, h.2.2⟩
  refine (run_rel (fun v s => BarrierInv cfg v s ∧ Own v s) P ?_ ?_ ?_ ?_ start
    ⟨BarrierInv.start start, hstart⟩ as c hP hrun).imp (fun v h => ⟨hbase h.1, h.2⟩)
  · intro v c t s' hR hI hPc hs
    exact ⟨hI.1.env hs, henv v c t s' ⟨hR, hI.1⟩ hI.2 hPc hs⟩
  · intro v c o k n src hR hI hk hpre hPc ho hsrc
    refine ⟨?_, hcopy v c o k n src ⟨hR, hI.1⟩ hI.2 hk hpre hPc ho hsrc⟩
    exact hI.1.same (fun _ => rfl) (fun _ _ => rfl) rfl rfl
  · intro v c o k ok s' hR hI hk hpre hPc hs
    have hout : o.isRequest = true → AllOut cfg c.state := by
      intro ho
      cases ok with
      | true => exact hclean c _ hPc (any_completes hk rfl ho)
      | false =>
        -- a request is a store and cannot fail
        cases o <;> cases ho
        cases hs
        rename_i hnext
        cases congrArg View.fresh (hnext {})
    have hB := BarrierInv.op hR hI.1 hout hpre hs
    exact ⟨hB, hop v c o k ok s' ⟨hR, hI.1⟩ hI.2 hk hpre hPc hout hs ⟨hR.op hpre hs, hB⟩⟩
  · intro v s call hR hI hrest
    exact ⟨hI.1.enter call, henter v s call ⟨hR, hI.1⟩ hI.2 hrest⟩

end MicroMachines.Vmm
