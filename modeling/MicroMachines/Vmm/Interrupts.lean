import MicroMachines.Vmm.Requests

set_option autoImplicit false

/-! # Interrupts at a snapshot

A snapshot saves the LAPIC of each vCPU as it was when that vCPU captured its state, and guest RAM
with the used indices at the time of the copy. The saved device states are queue cursors, from
which a restore raises nothing. A used entry for which the guest has not taken the interrupt
must therefore be matched by a bit in a saved LAPIC.

The freezing snapshot captures the vCPUs first; the workers that drain their queues after that
raise interrupts that no saved LAPIC has. In place a worker may be ahead of the vCPUs or behind
them, and vsock raises its interrupt only after it has been parked.

* `IrqStep`: what a step of a thread does to used indices, LAPICs and interrupts.
* `Vcpu.Latched`: a vCPU between its capture and the collection of its state.
* `interrupt_lost`: a freezing snapshot without the interrupt of a used entry it has.
* `interrupts_saved`: no interrupt is lost in runs in which interrupts come in time.
-/

namespace MicroMachines.Vmm

open MicroMachines.Lib

/-! ## What a step does to interrupts -/

/-- The guest takes an interrupt, a worker raises one, or neither. -/
inductive IrqStep (cfg : Cfg) (s s' : Sys) : SysAct → Prop
  | take (i line : Nat) (hi : i < cfg.nVcpu)
      (hvcpus : s'.vcpus = Function.update s.vcpus i
        { s.vcpus i with lapic := (s.vcpus i).lapic.filter (fun l => l ≠ line) })
      (hram : s'.ram = s.ram) (hsignalled : s'.signalled = s.signalled)
      (htaken : s'.taken = fun w q =>
        if cfg.line w = line then s.signalled w q else s.taken w q) :
      IrqStep cfg s s' (.vcpu i (.takeIrq line))
  | raise (w i : Nat) (hi : i < cfg.nVcpu)
      (hvcpus : s'.vcpus = Function.update s.vcpus i
        { s.vcpus i with lapic := (s.vcpus i).lapic.insert (cfg.line w) })
      (hram : s'.ram = s.ram)
      (hsignalled : s'.signalled = fun w' q =>
        if cfg.line w' = cfg.line w then s.ram (.used w' q) else s.signalled w' q)
      (htaken : s'.taken = s.taken) : IrqStep cfg s s' (.worker w (.signal i))
  | other (t : SysAct) (hlapic : ∀ i, (s'.vcpus i).lapic = (s.vcpus i).lapic)
      (hused : ∀ w q, s.ram (.used w q) ≤ s'.ram (.used w q))
      (hsignalled : s'.signalled = s.signalled) (htaken : s'.taken = s.taken) :
      IrqStep cfg s s' t

/-- The effect takes or raises an interrupt. -/
def Effect.isIrq : Effect → Bool
  | .takeIrq _ => true
  | .raise _ => true
  | _ => false

section IrqStep

variable {cfg : Cfg} {s s' : Sys} {t : SysAct}

theorem VcpuStep.irq_cases {f : Flags} {gen : Nat} {v v' : Vcpu} {act : VcpuAct} {e : Effect}
    (h : VcpuStep f gen v act v' e) : (e.isIrq = false ∧ v'.lapic = v.lapic) ∨
    ∃ line, act = .takeIrq line ∧ e = .takeIrq line ∧
      v' = { v with lapic := v.lapic.filter (fun l => l ≠ line) } := by
  cases h with
  | takeIrq line => exact Or.inr ⟨line, rfl, rfl, rfl⟩
  | dispatch a => exact Or.inl ⟨by cases a <;> rfl, rfl⟩
  | _ => exact Or.inl ⟨rfl, rfl⟩

theorem WorkerStep.irq_cases {k : Kind} {requested released : Bool} {gen : Nat}
    {avail : Nat → Nat} {w w' : Worker} {act : WorkerAct} {e : Effect}
    (h : WorkerStep k requested released gen avail w act w' e) :
    e.isIrq = false ∨ ∃ i, act = .signal i ∧ e = .raise i := by
  cases h with
  | serve _ _ _ _ _ hs =>
    cases hs with
    | signal i => exact Or.inr ⟨i, rfl, rfl⟩
    | _ => exact Or.inl rfl
  | _ => exact Or.inl rfl

/-- Used indices only grow. -/
theorem Sys.effect_used (cfg : Cfg) (s : Sys) (w : Nat) (e : Effect) (w' q : Nat) :
    s.ram (.used w' q) ≤ (s.effect cfg w e).ram (.used w' q) := by
  have hupdate : ∀ (cell : Cell) (n : Nat), (cell = .used w' q → s.ram cell ≤ n) →
      s.ram (.used w' q) ≤ Function.update s.ram cell n (.used w' q) := by
    intro cell n hn
    by_cases hc : cell = .used w' q
    · subst hc
      rw [Function.update_self]
      exact hn rfl
    · rw [Function.update_of_ne (Ne.symm hc)]
  cases e with
  | write a x => exact hupdate (.data a) x nofun
  | publish d p => exact hupdate (.avail d p) (s.ram (.avail d p) + 1) nofun
  | addUsed p => exact hupdate (.used w p) (s.ram (.used w p) + 1) (fun _ => Nat.le_succ _)
  | _ => exact Nat.le_refl _

theorem Sys.effect_quiet {w : Nat} {e : Effect} (he : e.isIrq = false) :
    (s.effect cfg w e).vcpus = s.vcpus ∧ (s.effect cfg w e).signalled = s.signalled ∧
      (s.effect cfg w e).taken = s.taken := by
  cases e with
  | takeIrq | raise => cases he
  | _ => exact ⟨rfl, rfl, rfl⟩

/-- **What a step of a thread does to interrupts.** -/
theorem Sys.env_irq (h : s.env cfg t = some s') : IrqStep cfg s s' t := by
  rcases Sys.env_cases h with ⟨i, act, v, e, rfl, hi, hv, rfl⟩ | ⟨w, k, act, x, e, rfl, -, ht, hx, rfl⟩
  · rcases hv.irq_cases with ⟨he, hlapic⟩ | ⟨line, rfl, rfl, rfl⟩
    · obtain ⟨hvcpus, hsig, htaken⟩ := Sys.effect_quiet (s := s.setVcpu i v) (w := 0) he
      refine .other _ (fun j => ?_) (Sys.effect_used cfg (s.setVcpu i v) 0 e) hsig htaken
      rw [hvcpus]
      by_cases hj : j = i
      · subst hj
        rw [Sys.setVcpu_self]
        exact hlapic
      · rw [Sys.setVcpu_ne hj]
    · exact .take i line hi rfl rfl rfl rfl
  · rcases hx.irq_cases with he | ⟨i, rfl, rfl⟩
    · obtain ⟨hvcpus, hsig, htaken⟩ := @Sys.effect_quiet cfg (s.setWorker w x) w e he
      refine .other _ (fun j => ?_) (Sys.effect_used cfg (s.setWorker w x) w e) hsig htaken
      rw [hvcpus]
      rfl
    · exact .raise w i (of_decide_eq_true ht) rfl rfl rfl rfl

/-- A property of the vCPUs that their steps and interrupts keep. -/
theorem Sys.env_forall_lapic {P : Nat → Vcpu → Prop} (h : s.env cfg t = some s')
    (hstep : ∀ i act x e, VcpuStep s.flags s.gen (s.vcpus i) act x e → P i (s.vcpus i) → P i x)
    (hraise : ∀ w i l, t = .worker w (.signal i) → P i (s.vcpus i) →
      P i { s.vcpus i with lapic := l })
    (hP : ∀ i, P i (s.vcpus i)) (i : Nat) : P i (s'.vcpus i) := by
  rcases Sys.env_cases h with ⟨j, act, x, e, -, -, hx, rfl⟩ | ⟨w, k, act, x, e, rfl, -, -, hx, rfl⟩
  · have hvcpus : ((s.setVcpu j x).effect cfg 0 e).vcpus = Function.update s.vcpus j x := by
      rcases hx.irq_cases with ⟨he, -⟩ | ⟨line, -, rfl, -⟩
      · exact (Sys.effect_quiet (s := s.setVcpu j x) (w := 0) he).1
      · rfl
    rw [hvcpus]
    exact (Function.forall_update_iff s.vcpus (p := P)).mpr
      ⟨hstep j act x e hx (hP j), fun k _ => hP k⟩ i
  · rcases hx.irq_cases with he | ⟨j, rfl, rfl⟩
    · rw [(Sys.effect_quiet (s := s.setWorker w x) (w := w) he).1]
      exact hP i
    · exact (Function.forall_update_iff s.vcpus (p := P)).mpr
        ⟨hraise w j _ rfl (hP j), fun k _ => hP k⟩ i

end IrqStep

/-! ## A vCPU that has captured -/

/-- The capture has been made. -/
def VcpuPc.settled : VcpuPc → Bool
  | .store _ _ => true
  | .park _ _ => true
  | .returned _ => true
  | _ => false

/-- The capture has been made, and the thread is not about to run again. -/
def VcpuPc.latched : VcpuPc → Bool
  | .park .add _ => true
  | .park .wait _ => true
  | .returned _ => true
  | _ => false

/-- The thread has seen the pause flag. -/
def VcpuPc.freezing : VcpuPc → Bool
  | .capture freeze => freeze
  | .store freeze _ => freeze
  | _ => false

theorem VcpuPc.settled_of_latched {p : VcpuPc} (h : p.latched = true) : p.settled = true := by
  cases p with
  | park | returned => rfl
  | _ => cases h

theorem VcpuPc.not_latched_of_running {p : VcpuPc} (h : p.running = true) : p.latched = false := by
  cases p with
  | park | returned => cases h
  | _ => rfl

theorem VcpuPc.freezing_of_running {p : VcpuPc} (h : p.running = true) : p.freezing = false := by
  cases p with
  | capture | store => cases h
  | _ => rfl

/-- A captured state that is still to be collected has the LAPIC as it is now. `cyc` says that a
request stands, `paus` that a freezing snapshot has set the pause flag. -/
structure Vcpu.Latched (pause : Bool) (gen : Nat) (cyc paus : Bool) (x : Vcpu) : Prop where
  freezing : x.pc.freezing = true → pause = true
  stamp : ∀ st, (x.slot = some st ∨ ∃ f, x.pc = .store f st) → st.gen ≤ gen
  store : cyc = true ∨ pause = true → ∀ f st, x.pc = .store f st → st.lapic = x.lapic
  slot : ∀ st, x.slot = some st → (cyc = true ∧ st.gen = gen) ∨ paus = true →
    x.pc.latched = true ∧ st.lapic = x.lapic
  calm : paus = true → cyc = false → x.phase = .out

section Latched

variable {f : Flags} {gen : Nat} {x x' : Vcpu} {act : VcpuAct} {e : Effect} {cyc paus : Bool}

/-- A thread with a capture stays where it is, unless it is released. -/
theorem VcpuStep.latched (h : VcpuStep f gen x act x' e) (hl : x.pc.latched = true)
    (hrel : f.released = true → ∀ g, x.pc ≠ .park .wait g) :
    x'.pc.latched = true ∧ x'.lapic = x.lapic := by
  cases h with
  | enter g hpc => exact ⟨rfl, rfl⟩
  | see g hpc hr => exact absurd hpc (hrel hr g)
  | loop _ _ _ hrun | pause hrun | notice hrun => cases (VcpuPc.not_latched_of_running hrun).symm.trans hl
  | leave g hpc | write _ _ hpc | publish _ _ hpc | takeIrq _ hpc | dispatch _ hpc
  | capture _ hpc | captureFails _ hpc | freeze _ hpc | store _ hpc => rw [hpc] at hl; cases hl

/-- A step stores the capture in the slot, or leaves the slot alone. -/
theorem VcpuStep.slot_cases (h : VcpuStep f gen x act x' e) : x'.slot = x.slot ∨
    ∃ freeze st, x.pc = .store freeze st ∧ x'.slot = some st ∧ x'.pc.latched = true ∧
      x'.lapic = x.lapic := by
  cases h with
  | freeze st hpc => exact Or.inr ⟨true, st, hpc, rfl, rfl, rfl⟩
  | store st hpc => exact Or.inr ⟨false, st, hpc, rfl, rfl, rfl⟩
  | _ => exact Or.inl rfl

/-- A state about to be stored has just been captured. -/
theorem VcpuStep.store_cases {freeze : Bool} {st : VcpuState} (h : VcpuStep f gen x act x' e)
    (hpc : x'.pc = .store freeze st) : st = ⟨x.lapic, gen⟩ ∧ x'.lapic = x.lapic := by
  cases h with
  | capture fr hc => cases hpc; exact ⟨rfl, rfl⟩
  | loop _ p io hrun hp =>
    have hp' : p = .store freeze st := hpc
    subst hp'
    rcases hp with hp | ⟨r, hr, -⟩
    · cases hp
    · cases hr
  | write _ _ hg | publish _ _ hg | takeIrq _ hg => cases hg.symm.trans hpc
  | _ => cases hpc

theorem VcpuStep.freezing (h : VcpuStep f gen x act x' e) (hf : x'.pc.freezing = true) :
    x.pc.freezing = true ∨ f.pause = true := by
  cases h with
  | pause _ hp => exact Or.inr hp
  | capture fr hpc =>
    left
    rw [hpc]
    exact hf
  | loop _ p io _ hp =>
    have hf' : p.freezing = true := hf
    rcases hp with hp | ⟨r, rfl, -⟩
    · cases (VcpuPc.freezing_of_running hp).symm.trans hf'
    · cases hf'
  | write | publish | takeIrq => exact Or.inl hf
  | _ => cases hf

/-- A vCPU that is out of the barrier stays out if nothing is requested. -/
theorem VcpuStep.out (h : VcpuStep f gen x act x' e) (hout : x.phase = .out)
    (hreq : f.requested = false) : x'.phase = .out := by
  have hmove := Vcpu.step_move h
  rw [hout] at hmove
  generalize x'.phase = p, e.count = n at hmove
  cases hmove with
  | stay => rfl
  | notice _ hr => cases hreq.symm.trans hr

theorem Vcpu.latched_step (hL : x.Latched f.pause gen cyc paus) (hreq : f.requested = cyc)
    (hpaus : paus = true → f.pause = true)
    (hrel : cyc = true → f.released = false) (h : VcpuStep f gen x act x' e) :
    x'.Latched f.pause gen cyc paus := by
  -- in a cycle the release flag is down; in a freeze without one nobody is in the barrier
  have hwait : cyc = true ∨ paus = true → f.released = true → ∀ g, x.pc ≠ .park .wait g := by
    intro hst hr g hpc
    by_cases hc : cyc = true
    · cases (hrel hc).symm.trans hr
    · have hout := hL.calm (hst.resolve_left hc) (by simpa using hc)
      unfold Vcpu.phase at hout
      rw [hpc] at hout
      cases hout
  refine ⟨fun hf => ?_, fun st hst => ?_, fun hst freeze st hpc => ?_, fun st hslot hst => ?_,
    fun hp hc => ?_⟩
  · exact (h.freezing hf).elim hL.freezing id
  · rcases hst with hslot | ⟨freeze, hpc⟩
    · rcases h.slot_cases with hs | ⟨freeze, st', hpc, hs, -, -⟩
      · exact hL.stamp st (Or.inl (by rw [← hs]; exact hslot))
      · obtain rfl : st' = st := Option.some.inj (hs.symm.trans hslot)
        exact hL.stamp st' (Or.inr ⟨freeze, hpc⟩)
    · rw [(h.store_cases hpc).1]
  · obtain ⟨rfl, hl⟩ := h.store_cases hpc
    exact hl.symm
  · rcases h.slot_cases with hs | ⟨freeze, st', hpc, hs, hlatched, hlapic⟩
    · obtain ⟨hlatched, hlapic⟩ := hL.slot st (by rw [← hs]; exact hslot) hst
      obtain ⟨hl, hl'⟩ := h.latched hlatched (hwait (hst.imp_left And.left))
      exact ⟨hl, hlapic.trans hl'.symm⟩
    · obtain rfl : st' = st := Option.some.inj (hs.symm.trans hslot)
      refine ⟨hlatched, ?_⟩
      rw [hlapic]
      exact hL.store (hst.imp And.left hpaus) freeze st' hpc
  · exact h.out (hL.calm hp hc) (hreq.trans hc)

/-- An interrupt for a vCPU that has not captured yet. -/
theorem Vcpu.Latched.raise {pause : Bool} (hL : x.Latched pause gen cyc paus) (l : List Nat)
    (hpaus : paus = true → pause = true)
    (htimely : cyc = true ∨ pause = true → x.pc.settled = false) :
    ({ x with lapic := l } : Vcpu).Latched pause gen cyc paus := by
  refine ⟨hL.freezing, hL.stamp, fun hst freeze st hpc => ?_, fun st hslot hst => ?_, hL.calm⟩
  · have hpc' : x.pc = .store freeze st := hpc
    have hno := htimely hst
    rw [hpc'] at hno
    cases hno
  · have hlatched := (hL.slot st hslot hst).1
    cases (htimely (hst.imp And.left hpaus)).symm.trans (VcpuPc.settled_of_latched hlatched)

/-- A request or a freeze that finds the vCPU out of the barrier. -/
theorem Vcpu.Latched.begin {pause pause' : Bool} (hL : x.Latched pause gen cyc paus)
    (hout : x.phase = .out) (hpause : pause = true → pause' = true) {gen' : Nat} {cyc' paus' : Bool}
    (hgen : gen ≤ gen') (hc : cyc' = true → gen < gen' ∨ cyc = true ∧ gen' = gen)
    (hp : paus' = true → x.slot = none) : x.Latched pause' gen' cyc' paus' := by
  refine ⟨fun hf => hpause (hL.freezing hf), fun st hst => Nat.le_trans (hL.stamp st hst) hgen,
    fun _ freeze st hpc => ?_, fun st hslot hst => ?_, fun _ _ => hout⟩
  · cases freeze with
    | true =>
      have hpaused : pause = true := hL.freezing (by rw [hpc]; rfl)
      exact hL.store (Or.inr hpaused) true st hpc
    | false =>
      unfold Vcpu.phase at hout
      rw [hpc] at hout
      cases hout
  · rcases hst with ⟨hcyc', hg⟩ | hpaus'
    · rcases hc hcyc' with hlt | ⟨hcyc, rfl⟩
      · have := hL.stamp st (Or.inl hslot)
        omega
      · exact hL.slot st hslot (Or.inl ⟨hcyc, hg⟩)
    · cases (hp hpaus').symm.trans hslot

end Latched

/-! ## Interrupts in time -/

/-- The vCPU for which a worker raises an interrupt in this step. -/
def raises : SysAction → Option Nat
  | .env (.worker _ (.signal i)) => some i
  | _ => none

/-- The step copies a chunk of guest RAM. -/
def copies (c : SysConfig) : SysAction → Bool
  | .op (.progress _) =>
    match c.script with
    | .op .dumpGuestMemory _ => true
    | .op .recopyBranchPages _ => true
    | _ => false
  | _ => false

/-- During a checkpoint or a freeze interrupts are raised only for vCPUs that have not captured
their state yet. -/
def TimelyRaise (c : SysConfig) (a : SysAction) : Prop :=
  c.state.requested = true ∨ c.state.pause = true →
    ∀ i ∈ raises a, (c.state.vcpus i).pc.settled = false

/-- A freeze begins when no vCPU is in the barrier and no state of an earlier call is left. -/
def CalmVcpus (cfg : Cfg) (c : SysConfig) (a : SysAction) : Prop :=
  (completes c a).any Op.isFreeze = true →
    ∀ i < cfg.nVcpu, (c.state.vcpus i).phase = .out ∧ (c.state.vcpus i).slot.isNone = true

/-- For all used entries in a chunk that is copied, the interrupt has been raised. -/
def RaisedBeforeCopy (cfg : Cfg) (c : SysConfig) (a : SysAction) : Prop :=
  copies c a = true → ∀ w < cfg.workers.length, ∀ q < 2,
    cfg.chunkOf (.used w q) = c.state.saved.copied →
    c.state.signalled w q = c.state.ram (.used w q)

instance (c : SysConfig) (a : SysAction) : Decidable (TimelyRaise c a) :=
  inferInstanceAs (Decidable (_ → ∀ i ∈ raises a, _))

instance (cfg : Cfg) (c : SysConfig) (a : SysAction) : Decidable (CalmVcpus cfg c a) :=
  inferInstanceAs (Decidable (_ → _))

instance (cfg : Cfg) (c : SysConfig) (a : SysAction) : Decidable (RaisedBeforeCopy cfg c a) :=
  inferInstanceAs (Decidable (_ → _))

/-- Interrupts come in time. -/
def IrqInTime (cfg : Cfg) (c : SysConfig) (a : SysAction) : Prop :=
  CleanRequests cfg c a ∧ CalmVcpus cfg c a ∧ TimelyRaise c a ∧ RaisedBeforeCopy cfg c a

instance (cfg : Cfg) (c : SysConfig) (a : SysAction) : Decidable (IrqInTime cfg c a) :=
  inferInstanceAs (Decidable (_ ∧ _))

theorem copies_of_progress {c : SysConfig} {o : Op} {k : Bool → Script Op (Except VmmError Unit)}
    {n : Nat} (h : c.script = .op o k) (ho : o = .dumpGuestMemory ∨ o = .recopyBranchPages) :
    copies c (.op (.progress n)) = true := by
  unfold copies
  rw [h]
  rcases ho with rfl | rfl <;> rfl

/-- The interrupt of worker `w` is pending in a saved LAPIC. -/
def SavedPending (cfg : Cfg) (saved : Saved) (w : Nat) : Prop :=
  ∃ i < cfg.nVcpu, ∃ st, saved.vcpus i = some st ∧ cfg.line w ∈ st.lapic

/-- Where the interrupts are: an entry that was signalled and not taken is pending in a LAPIC,
and the LAPICs that have been saved are still those of the vCPUs. -/
structure InterruptInv (cfg : Cfg) (v : View) (s : Sys) : Prop where
  slots : SlotInv cfg v s
  pause : v.pausing = true → s.pause = true
  latched : ∀ i, i < cfg.nVcpu → (s.vcpus i).Latched s.pause s.gen v.cycle.isSome v.pausing
  pending : ∀ w q, s.taken w q < s.signalled w q →
    ∃ i < cfg.nVcpu, cfg.line w ∈ (s.vcpus i).lapic
  barrier : v.held = true → ∀ w q, s.barrierRam (.used w q) ≤ s.ram (.used w q)
  collected : v.held = true ∨ v.pausing = true → ∀ i, i < cfg.nVcpu →
    ∀ st, s.saved.vcpus i = some st →
      (s.vcpus i).pc.latched = true ∧ st.lapic = (s.vcpus i).lapic
  image : ∀ w < cfg.workers.length, ∀ q < 2, cfg.chunkOf (.used w q) < s.saved.copied →
    s.saved.taken w q < s.saved.ram (.used w q) → SavedPending cfg s.saved w

section InterruptInv

variable {cfg : Cfg} {v : View} {c : SysConfig} {s s' : Sys} {t : SysAct} {o : Op} {ok : Bool}

/-- A request stands, or the pause flag is set, while states are being collected. -/
theorem InterruptInv.stage (hB : Base cfg v s) (hI : InterruptInv cfg v s)
    (h : v.held = true ∨ v.pausing = true) : v.cycle.isSome = true ∨ s.pause = true := by
  rcases h with hh | hp
  · exact Or.inl (Option.isSome_iff_ne_none.mpr (hB.rel.cycle hh))
  · exact Or.inr (hI.pause hp)

/-- While states are being collected no vCPU leaves the barrier. -/
theorem InterruptInv.not_released (hB : Base cfg v s) (hI : InterruptInv cfg v s)
    (h : v.held = true ∨ v.pausing = true) {i : Nat} (hi : i < cfg.nVcpu)
    (hrel : s.released = true) (g : Nat) : (s.vcpus i).pc ≠ .park .wait g := by
  intro hpc
  have hcyc : v.cycle.isSome = false := by
    rw [← Bool.not_eq_true]
    intro hc
    cases (hB.barrier.in_cycle hc).1.symm.trans hrel
  have hp : v.pausing = true := by
    refine h.resolve_left (fun hh => ?_)
    rw [Option.isSome_iff_ne_none.mpr (hB.rel.cycle hh)] at hcyc
    cases hcyc
  have hout := (hI.latched i hi).calm hp hcyc
  unfold Vcpu.phase at hout
  rw [hpc] at hout
  cases hout

/-- In time means: not for a vCPU that has captured. -/
theorem InterruptInv.not_settled (hB : Base cfg v c.state) (hP : IrqInTime cfg c (.env t))
    {w i : Nat} (ht : t = .worker w (.signal i))
    (h : v.cycle.isSome = true ∨ c.state.pause = true) : (c.state.vcpus i).pc.settled = false := by
  subst ht
  refine hP.2.2.1 ?_ i rfl
  rw [hB.rel.requested]
  exact h

theorem InterruptInv.pending_env (hI : InterruptInv cfg v s) (h : s.env cfg t = some s') (w q : Nat)
    (hlt : s'.taken w q < s'.signalled w q) : ∃ i < cfg.nVcpu, cfg.line w ∈ (s'.vcpus i).lapic := by
  cases Sys.env_irq h with
  | take i line hi hvcpus _ hsig htaken =>
    -- only the bit of the line that is taken goes away
    rw [hsig, htaken] at hlt
    beta_reduce at hlt
    have hline : cfg.line w ≠ line := by
      intro hl
      rw [if_pos hl] at hlt
      exact Nat.lt_irrefl _ hlt
    rw [if_neg hline] at hlt
    obtain ⟨j, hj, hmem⟩ := hI.pending w q hlt
    refine ⟨j, hj, ?_⟩
    rw [hvcpus]
    by_cases hji : j = i
    · subst hji
      rw [Function.update_self]
      exact List.mem_filter.mpr ⟨hmem, by simpa using hline⟩
    · rw [Function.update_of_ne hji]
      exact hmem
  | raise w' i hi hvcpus _ hsig htaken =>
    rw [hsig, htaken] at hlt
    beta_reduce at hlt
    rw [hvcpus]
    by_cases hline : cfg.line w = cfg.line w'
    · refine ⟨i, hi, ?_⟩
      rw [Function.update_self, hline]
      exact List.mem_insert_self
    · rw [if_neg hline] at hlt
      obtain ⟨j, hj, hmem⟩ := hI.pending w q hlt
      refine ⟨j, hj, ?_⟩
      by_cases hji : j = i
      · subst hji
        rw [Function.update_self]
        exact List.mem_insert_of_mem hmem
      · rw [Function.update_of_ne hji]
        exact hmem
  | other _ hlapic _ hsig htaken =>
    rw [hsig, htaken] at hlt
    obtain ⟨j, hj, hmem⟩ := hI.pending w q hlt
    exact ⟨j, hj, by rw [hlapic]; exact hmem⟩

theorem Sys.env_used (h : s.env cfg t = some s') (w q : Nat) :
    s.ram (.used w q) ≤ s'.ram (.used w q) := by
  cases Sys.env_irq h with
  | take i line _ _ hram | raise w' i _ _ hram => rw [hram]
  | other _ _ hused => exact hused w q

theorem InterruptInv.env (hB : Base cfg v c.state) (hI : InterruptInv cfg v c.state)
    (hP : IrqInTime cfg c (.env t)) (h : c.state.env cfg t = some s') : InterruptInv cfg v s' := by
  have hf := Sys.env_frame h
  refine ⟨hI.slots.env h, ?_, ?_, hI.pending_env h, fun hh w q => ?_, ?_, ?_⟩
  · rw [hf.pause]
    exact hI.pause
  · rw [hf.pause, hf.gen]
    refine Sys.env_forall_lapic (P := fun i x => i < cfg.nVcpu →
      x.Latched c.state.pause c.state.gen v.cycle.isSome v.pausing) h ?_ ?_ hI.latched
    · intro i act x e hx hL hi
      exact Vcpu.latched_step (f := c.state.flags) (hL hi) hB.rel.requested hI.pause
        (fun hc => (hB.barrier.in_cycle hc).1) hx
    · intro w i l ht hL hi
      exact (hL hi).raise l hI.pause (InterruptInv.not_settled hB hP ht)
  · rw [hf.barrierRam]
    exact Nat.le_trans (hI.barrier hh w q) (Sys.env_used h w q)
  · rw [hf.saved]
    intro hst
    refine Sys.env_forall_lapic (P := fun i x => i < cfg.nVcpu →
      ∀ st, c.state.saved.vcpus i = some st → x.pc.latched = true ∧ st.lapic = x.lapic)
      h ?_ ?_ (hI.collected hst)
    · intro i act x e hx hK hi st hsaved
      obtain ⟨hl, hlapic⟩ := hK hi st hsaved
      obtain ⟨hl', hlapic'⟩ := hx.latched hl (hI.not_released hB hst hi)
      exact ⟨hl', hlapic.trans hlapic'.symm⟩
    · intro w i l ht hK hi st hsaved
      have hno := InterruptInv.not_settled hB hP ht (hI.stage hB hst)
      cases hno.symm.trans (VcpuPc.settled_of_latched (hK hi st hsaved).1)
  · rw [hf.saved]
    exact hI.image

/-- A chunk is copied when all LAPICs have been saved. -/
theorem InterruptInv.copy (hB : Base cfg v s) (hI : InterruptInv cfg v s)
    (hpre : View.pre cfg.shape o v) (ho : o = .dumpGuestMemory ∨ o = .recopyBranchPages)
    (hraised : ∀ w < cfg.workers.length, ∀ q < 2, cfg.chunkOf (.used w q) = s.saved.copied →
      s.signalled w q = s.ram (.used w q)) {src : Cell → Nat}
    (hsrc : src = s.ram ∨ (o = .recopyBranchPages ∧ src = s.barrierRam)) :
    InterruptInv cfg v (s.copyChunk cfg src) := by
  refine ⟨⟨hI.slots.vcpus, hI.slots.devs⟩, hI.pause, hI.latched, hI.pending, hI.barrier,
    hI.collected, fun w hw q hq hlt hopen => ?_⟩
  have hlt' : cfg.chunkOf (.used w q) < s.saved.copied + 1 := hlt
  have hopen' : (if cfg.chunkOf (.used w q) = s.saved.copied then s.taken w q
      else s.saved.taken w q) < if cfg.chunkOf (.used w q) = s.saved.copied
      then src (.used w q) else s.saved.ram (.used w q) := hopen
  by_cases hc : cfg.chunkOf (.used w q) = s.saved.copied
  · rw [if_pos hc, if_pos hc] at hopen'
    obtain ⟨hvcpus, hstill, hle⟩ : v.vcpus = cfg.nVcpu ∧ (v.held = true ∨ v.pausing = true) ∧
        src (.used w q) ≤ s.ram (.used w q) := by
      rcases ho with rfl | rfl
      · obtain ⟨-, hvcpus, -, hstill⟩ := hpre
        refine ⟨hvcpus, hstill.imp And.left And.left, ?_⟩
        rcases hsrc with rfl | ⟨ho, -⟩
        · exact Nat.le_refl _
        · cases ho
      · obtain ⟨-, hvcpus, -, hheld, -⟩ := hpre
        refine ⟨hvcpus, Or.inl hheld, ?_⟩
        rcases hsrc with rfl | ⟨-, rfl⟩
        · exact Nat.le_refl _
        · exact hI.barrier hheld w q
    -- signalled and not taken, so pending in a LAPIC, and that LAPIC has been saved
    have hsignalled : s.taken w q < s.signalled w q := by
      rw [hraised w hw q hq hc]
      exact Nat.lt_of_lt_of_le hopen' hle
    obtain ⟨i, hi, hmem⟩ := hI.pending w q hsignalled
    obtain ⟨st, hst⟩ := Option.isSome_iff_exists.mp
      ((hB.rel.vcpus i).mpr (by rw [hvcpus]; exact hi))
    refine ⟨i, hi, st, hst, ?_⟩
    rw [(hI.collected hstill i hi st hst).2]
    exact hmem
  · rw [if_neg hc, if_neg hc] at hopen'
    exact hI.image w hw q hq (by omega) hopen'

/-- Emptying a slot or dropping a handle is not seen in the threads and LAPICs. -/
theorem Sys.setVcpu_same {i : Nat} {x : Vcpu} (hpc : x.pc = (s.vcpus i).pc)
    (hlapic : x.lapic = (s.vcpus i).lapic) (j : Nat) :
    ((s.setVcpu i x).vcpus j).pc = (s.vcpus j).pc ∧
      ((s.setVcpu i x).vcpus j).lapic = (s.vcpus j).lapic := by
  by_cases hj : j = i
  · subst hj
    rw [Sys.setVcpu_self]
    exact ⟨hpc, hlapic⟩
  · rw [Sys.setVcpu_ne hj]
    exact ⟨rfl, rfl⟩

/-- Nothing has been saved of the vCPUs yet. -/
theorem Rel.vcpus_none (hR : Rel cfg v s) (h0 : v.vcpus = 0) (i : Nat) :
    s.saved.vcpus i = none := by
  rw [← Option.not_isSome_iff_eq_none, hR.vcpus i, h0]
  exact Nat.not_lt_zero i

/-- A state captured for this request, or in this freeze, is collected. -/
theorem InterruptInv.takeVcpu (hB : Base cfg v s) (hI : InterruptInv cfg v s) {i : Nat}
    {st : VcpuState} (hslot : (s.vcpus i).slot = some st) (hi : i < cfg.nVcpu)
    (hcopy : v.copying = false) (hstill : v.held = true ∨ v.Frozen cfg.shape)
    (hslots : SlotInv cfg { v with vcpus := i + 1, fresh := false } (s.takeVcpu i st)) :
    InterruptInv cfg { v with vcpus := i + 1, fresh := false } (s.takeVcpu i st) := by
  have hkept : (s.vcpus i).pc.latched = true ∧ st.lapic = (s.vcpus i).lapic := by
    refine (hI.latched i hi).slot st hslot ?_
    rcases hstill with hheld | hf
    · left
      obtain ⟨devices, hcycle⟩ := Option.ne_none_iff_exists'.mp (hB.rel.cycle hheld)
      have hwait := hB.barrier.waiting hheld devices hcycle (.inl ⟨i, hi⟩)
        (Cfg.mem_participants.mpr (Or.inl rfl))
      refine ⟨by rw [hcycle]; rfl, ?_⟩
      rcases hI.slots.vcpu_gen hi hwait with hgen | ⟨hnone, -⟩
      · rw [hslot] at hgen
        exact Option.some.inj hgen
      · rw [hslot] at hnone
        cases hnone
    · exact Or.inr hf.1
  have hsame : ∀ j, ((s.takeVcpu i st).vcpus j).pc = (s.vcpus j).pc ∧
      ((s.takeVcpu i st).vcpus j).lapic = (s.vcpus j).lapic :=
    Sys.setVcpu_same (x := { s.vcpus i with slot := none }) rfl rfl
  refine ⟨hslots, hI.pause, ?_, fun w q hlt => ?_, hI.barrier, fun hst j => ?_,
    fun w _ q _ hlt => ?_⟩
  · refine (Function.forall_update_iff s.vcpus (p := fun i x => i < cfg.nVcpu →
      x.Latched s.pause s.gen v.cycle.isSome v.pausing)).mpr
        ⟨fun hi => ?_, fun j _ => hI.latched j⟩
    have hL := hI.latched i hi
    refine ⟨hL.freezing, fun st' hst' => hL.stamp st' ?_, hL.store, nofun, hL.calm⟩
    exact Or.inr (hst'.resolve_left nofun)
  · obtain ⟨j, hj, hmem⟩ := hI.pending w q hlt
    exact ⟨j, hj, by rw [(hsame j).2]; exact hmem⟩
  · rw [(hsame j).1, (hsame j).2]
    refine (Function.forall_update_iff s.saved.vcpus (p := fun j sv => j < cfg.nVcpu →
      ∀ st, sv = some st → (s.vcpus j).pc.latched = true ∧ st.lapic = (s.vcpus j).lapic)).mpr
        ⟨?_, fun j _ => hI.collected hst j⟩ j
    rintro - _ ⟨rfl⟩
    exact hkept
  · have hlt' : cfg.chunkOf (.used w q) < s.saved.copied := hlt
    rw [hB.rel.copying hcopy] at hlt'
    exact absurd hlt' (Nat.not_lt_zero _)

theorem InterruptInv.op (hB : Base cfg v s) (hI : InterruptInv cfg v s)
    (hpre : View.pre cfg.shape o v) (hout : o.isRequest = true → AllOut cfg s)
    (hcalm : ok = true → o.isFreeze = true →
      ∀ i < cfg.nVcpu, (s.vcpus i).phase = .out ∧ (s.vcpus i).slot.isNone = true)
    (h : OpStep cfg s o ok s') : InterruptInv cfg (View.next o ok v) s' := by
  have hslots := hI.slots.op hout h
  cases h with
  | quiet _ _ hnext => rw [hnext]; exact hI
  | clearReleased | wakeDevice d | setReleased | takeDevice d cap _ | waitForCapture d cap _ =>
    exact ⟨hslots, hI.pause, hI.latched, hI.pending, hI.barrier, hI.collected, hI.image⟩
  | setRequested devices =>
    obtain ⟨-, hheld, hp, hvcpus, -⟩ := hpre
    refine ⟨hslots, hI.pause, fun i hi => ?_, hI.pending, hI.barrier, hI.collected, hI.image⟩
    refine (hI.latched i hi).begin ((hout rfl).1 i hi) id (Nat.le_succ _)
      (fun _ => Or.inl (Nat.lt_succ_self _)) (fun h => ?_)
    cases hp.symm.trans h
  | parked devices _ =>
    obtain ⟨-, -, hp, -, hvcpus, -⟩ := hpre
    refine ⟨hslots, hI.pause, hI.latched, hI.pending, fun _ _ _ => Nat.le_refl _,
      fun _ i _ st hst => ?_, hI.image⟩
    cases (hB.rel.vcpus_none hvcpus i).symm.trans hst
  | clearRequested =>
    have hp : v.pausing = false := hpre
    refine ⟨hslots, hI.pause, fun i hi => ?_, hI.pending, nofun, fun h => ?_, hI.image⟩
    · have hL := hI.latched i hi
      refine ⟨hL.freezing, hL.stamp, fun hst => hL.store (hst.imp_left nofun),
        fun st hslot hst => ?_, fun h => ?_⟩
      · rcases hst with ⟨hc, -⟩ | h
        · cases hc
        · cases hp.symm.trans h
      · cases hp.symm.trans h
    · rcases h with h | h
      · cases h
      · cases hp.symm.trans h
  | takeVcpu i st hslot => exact hI.takeVcpu hB hslot hpre.1 hpre.2.2.1 hpre.2.2.2 hslots
  | newImage _ ho =>
    have himage : ∀ w < cfg.workers.length, ∀ q < 2, cfg.chunkOf (.used w q) < 0 →
        s.saved.taken w q < s.saved.ram (.used w q) →
        SavedPending cfg { s.saved with copied := 0 } w :=
      fun _ _ _ _ h => absurd h (Nat.not_lt_zero _)
    rcases ho with rfl | rfl <;>
      exact ⟨hslots, hI.pause, hI.latched, hI.pending, hI.barrier, hI.collected, himage⟩
  | imageDone _ ho _ =>
    rcases ho with rfl | rfl <;>
      exact ⟨hslots, hI.pause, hI.latched, hI.pending, hI.barrier, hI.collected, hI.image⟩
  | setVcpuPause =>
    obtain ⟨-, hheld, -, hvcpus, -⟩ := hpre
    refine ⟨hslots, fun _ => rfl, fun i hi => ?_, hI.pending, hI.barrier,
      fun _ i _ st hst => ?_, hI.image⟩
    · obtain ⟨hphase, hslot⟩ := hcalm rfl rfl i hi
      exact (hI.latched i hi).begin hphase (fun _ => rfl) (Nat.le_refl _)
        (fun h => Or.inr ⟨h, rfl⟩) (fun _ => Option.isNone_iff_eq_none.mp hslot)
    · cases (hB.rel.vcpus_none hvcpus i).symm.trans hst
  | join i _ _ =>
    have hsame : ∀ j, ((s.setVcpu i { s.vcpus i with handle := false }).vcpus j).pc =
        (s.vcpus j).pc ∧
        ((s.setVcpu i { s.vcpus i with handle := false }).vcpus j).lapic = (s.vcpus j).lapic :=
      Sys.setVcpu_same rfl rfl
    refine ⟨hslots, hI.pause, ?_, fun w q hlt => ?_, hI.barrier, fun hst j => ?_, hI.image⟩
    · refine (Function.forall_update_iff s.vcpus (p := fun i x => i < cfg.nVcpu →
        x.Latched s.pause s.gen v.cycle.isSome v.pausing)).mpr
          ⟨fun hi => ?_, fun j _ => hI.latched j⟩
      have hL := hI.latched i hi
      exact ⟨hL.freezing, hL.stamp, hL.store, hL.slot, hL.calm⟩
    · obtain ⟨j, hj, hmem⟩ := hI.pending w q hlt
      exact ⟨j, hj, by rw [(hsame j).2]; exact hmem⟩
    · rw [(hsame j).1, (hsame j).2]
      exact hI.collected hst j

theorem InterruptInv.enter (hI : InterruptInv cfg v s) (hrest : v.Rest) (call : Call) :
    InterruptInv cfg (v.enter call) { s with saved := {}, call := some call } := by
  refine ⟨⟨hI.slots.vcpus, hI.slots.devs⟩, nofun, fun i hi => ?_, hI.pending, fun h => ?_,
    fun _ _ _ _ => nofun, nofun⟩
  · have hL := hI.latched i hi
    exact ⟨hL.freezing, hL.stamp, hL.store,
      fun st hslot hst => hL.slot st hslot (hst.imp_right nofun), nofun⟩
  · cases hrest.held.symm.trans h

theorem InterruptInv.start (start : Start) : InterruptInv cfg {} start.state := by
  refine ⟨SlotInv.start start, nofun, fun i _ => ?_, fun w q hlt => ?_, nofun,
    fun _ _ _ _ => nofun, nofun⟩
  · refine ⟨nofun, fun st hst => ?_, fun _ _ _ => nofun, fun _ => nofun, nofun⟩
    rcases hst with hslot | ⟨f, hpc⟩
    · cases hslot
    · cases hpc
  · exact absurd hlt (Nat.lt_irrefl _)

end InterruptInv

/-- **No interrupt is lost in a snapshot** if interrupts come in time: when `snapshot`,
`snapshot_in_place` or `branch` has returned `Ok` and the saved guest RAM has a used entry whose
interrupt the guest had not taken, then the interrupt is pending in a saved LAPIC. -/
theorem interrupts_saved (cfg : Cfg) (start : Start) (as : List SysAction) (c : SysConfig)
    (hP : Meets (sysMachine cfg).step (IrqInTime cfg) start.config as)
    (hrun : run (sysMachine cfg).step start.config as = some c)
    (hdone : c.script = .done (.ok ())) (call : Call) (hcall : c.state.call = some call)
    (hsaves : call.saves = true) (w : Nat) (hw : w < cfg.workers.length) (q : Nat) (hq : q < 2)
    (hopen : c.state.saved.taken w q < c.state.saved.ram (.used w q)) :
    SavedPending cfg c.state.saved w := by
  obtain ⟨v, ⟨hB, hI⟩, hsafe⟩ := run_base (InterruptInv cfg) (IrqInTime cfg) (fun _ _ h => h.1)
    (fun v c t s' hB hI hP hs => hI.env hB hP hs)
    (fun v c o k n src hB hI hk hpre hP ho hsrc => hI.copy hB hpre ho
      (hP.2.2.2 (copies_of_progress hk ho)) hsrc)
    (fun v c o k ok s' hB hI hk hpre hP hout hs _ =>
      hI.op hB hpre hout (fun hok ho => hP.2.1 (any_completes hk hok ho)) hs)
    (fun v s call _ hI hrest => hI.enter hrest call)
    start (InterruptInv.start start) as c hP hrun
  rw [hdone] at hsafe
  obtain ⟨-, -, hcopied, -⟩ := hsafe.2 rfl call (hB.rel.call.symm.trans hcall) hsaves
  refine hI.image w hw q hq ?_ hopen
  rw [hB.rel.copied hcopied]
  exact cfg.chunkOf_lt _

/-- A request is served in a snapshot in place, and its interrupt raised before the vCPU
captures. -/
theorem interrupts_saved_servedRun :
    ∃ c, run (sysMachine oneVcpu).step (blank true).config servedRun = some c ∧
      c.state.saved.taken 0 0 < c.state.saved.ram (.used 0 0) ∧
      SavedPending oneVcpu c.state.saved 0 := by
  obtain ⟨c, hrun, hdone, hcall, hopen⟩ : ∃ c, run (sysMachine oneVcpu).step (blank true).config servedRun = some c ∧
      returnedOk c ∧ c.state.call = some .snapshotInPlace ∧
        c.state.saved.taken 0 0 < c.state.saved.ram (.used 0 0) := exists_of_any (by decide +kernel)
  exact ⟨c, hrun, hopen, interrupts_saved oneVcpu (blank true) servedRun c (by decide +kernel) hrun
    (script_of_returnedOk hdone) .snapshotInPlace hcall rfl 0 (by decide) 0 (by decide) hopen⟩

/-- The vCPU has captured and ended when the block worker serves its last request and raises the
interrupt for it. -/
def lateSignalRun : List SysAction :=
  Act.enterGuest ++ [Act.vcpu (.publish 0 0)] ++ Act.mmioWrite (.notify 0 0) ++ Act.enterGuest ++
  [.call .snapshot, Act.ok, Act.ok, Act.vcpu (.exit .eintr)] ++ List.replicate 4 (Act.vcpu .go) ++
  List.replicate 3 Act.ok ++
  [Act.worker 0 (.poll [.notify 0, .pause])] ++ List.replicate 5 (Act.worker 0 .go) ++
  [Act.worker 0 (.signal 0)] ++ List.replicate 5 (Act.worker 0 .go) ++ [Act.ok, Act.ok] ++
  [Act.worker 1 (.poll [.pause])] ++ List.replicate 3 (Act.worker 1 .go) ++
  List.replicate 4 Act.ok ++ [.op (.progress 0)] ++ List.replicate 4 Act.ok

/-- **An interrupt is lost**: `snapshot` returns `Ok`, the saved guest RAM has a used entry whose
interrupt the guest has not taken, and no saved LAPIC has it. -/
theorem interrupt_lost :
    ∃ c, run (sysMachine oneVcpu).step (blank true).config lateSignalRun = some c ∧
      c.script = .done (.ok ()) ∧ c.state.saved.ram (.used 0 0) = 1 ∧ c.state.saved.taken 0 0 = 0 ∧
      ∀ i < oneVcpu.nVcpu, (c.state.saved.vcpus i).map VcpuState.lapic = some [] := by
  obtain ⟨c, hrun, hdone, hrest⟩ : ∃ c, run (sysMachine oneVcpu).step (blank true).config lateSignalRun = some c ∧
      returnedOk c ∧ c.state.saved.ram (.used 0 0) = 1 ∧ c.state.saved.taken 0 0 = 0 ∧
        ∀ i < oneVcpu.nVcpu, (c.state.saved.vcpus i).map VcpuState.lapic = some [] :=
    exists_of_any (by decide +kernel)
  exact ⟨c, hrun, script_of_returnedOk hdone, hrest⟩

end MicroMachines.Vmm
