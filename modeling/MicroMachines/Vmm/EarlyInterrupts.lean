import MicroMachines.Vmm.Resume

set_option autoImplicit false

/-! # Interrupts during a resume

The workers of the restored devices run while `resume_from_state` goes on: a TAP frame or a host
connection makes a worker publish a used-ring entry and signal its irqfd. KVM then notes the
interrupt in one of its chips. Each `KVM_SET_IRQCHIP` and `KVM_SET_LAPIC` that follows replaces
all of its chip by what was saved.

* `early_interrupt_kept`: interrupts that reach a chip after it was set are there when the vCPUs
  start.
* `early_interrupt_lost`: a host connection that arrives before the chips are set.
-/

namespace MicroMachines.Vmm

open MicroMachines.Lib Task

/-- The chips of the VM, as opposed to those of a vCPU. -/
def Chip.isIrqchip : Chip → Bool
  | .lapic _ => false
  | _ => true

/-- The workers that run, the lines pending in each chip, the chips that have been set, the number
of vCPU threads, the lines pending in the chips with which the vCPUs started, and the lines that
were signalled before the first of them. -/
structure Irqs where
  live : Nat → Bool
  pending : Chip → Nat → Bool
  replaced : Chip → Bool
  started : Nat
  atStart : Chip → Nat → Bool
  early : List Nat

/-- What happens beside the resuming thread: the worker of a device signals its irqfd, and the
interrupt is noted in a chip; an interrupt goes from a chip of the VM to that of a vCPU; or a
running vCPU takes an interrupt. -/
inductive IrqEvent
  | signal (d : Nat) (c : Chip)
  | deliver (line : Nat) (c : Chip) (vcpu : Nat)
  | take (c : Chip) (line : Nat)
  deriving DecidableEq, Repr

/-- The interrupt line of a device. -/
def lineOf (d : Nat) : Nat := FIRST_VIRTIO_GSI + d

def withLine (pending : Chip → Nat → Bool) (c : Chip) (line : Nat) (b : Bool) : Chip → Nat → Bool :=
  fun c' line' => if c' = c ∧ line' = line then b else pending c' line'

namespace Irqs

def env (s : Irqs) : IrqEvent → Option Irqs
  | .signal d c =>
    if s.live d then
      some { s with
        pending := withLine s.pending c (lineOf d) true
        early := if s.started = 0 then lineOf d :: s.early else s.early }
    else none
  | .deliver line c vcpu =>
    if c.isIrqchip = true ∧ s.pending c line = true then
      some { s with
        pending := withLine (withLine s.pending c line false) (.lapic vcpu) line true }
    else none
  | .take c line =>
    if s.started = 0 then none
    else some { s with pending := withLine s.pending c line false }

/-- What an event does. -/
theorem env_cases {s s' : Irqs} {e : IrqEvent} (h : s.env e = some s') : (∃ d c, e = .signal d c ∧
      s' = { s with
        pending := withLine s.pending c (lineOf d) true
        early := if s.started = 0 then lineOf d :: s.early else s.early }) ∨
    (∃ line c vcpu, e = .deliver line c vcpu ∧
      s' = { s with
        pending := withLine (withLine s.pending c line false) (.lapic vcpu) line true }) ∨
    (∃ c line, e = .take c line ∧ s.started ≠ 0 ∧
      s' = { s with pending := withLine s.pending c line false }) := by
  cases e with
  | signal d c =>
    by_cases hlive : s.live d = true
    · rw [env, if_pos hlive] at h
      exact Or.inl ⟨d, c, rfl, (Option.some.inj h).symm⟩
    · rw [env, if_neg hlive] at h
      cases h
  | deliver line c vcpu =>
    by_cases hpend : c.isIrqchip = true ∧ s.pending c line = true
    · rw [env, if_pos hpend] at h
      exact Or.inr (Or.inl ⟨line, c, vcpu, rfl, (Option.some.inj h).symm⟩)
    · rw [env, if_neg hpend] at h
      cases h
  | take c line =>
    by_cases h0 : s.started = 0
    · rw [env, if_pos h0] at h
      cases h
    · rw [env, if_neg h0] at h
      exact Or.inr (Or.inr ⟨c, line, rfl, h0, (Option.some.inj h).symm⟩)

/-- The chips with which vCPU `i` starts: its own, and for the first vCPU those of the VM. -/
def recordStart (s : Irqs) (i : Nat) : Chip → Nat → Bool := fun c line =>
  if c = .lapic i ∨ (c.isIrqchip = true ∧ s.started = 0) then s.pending c line
  else s.atStart c line

/-- What a call that succeeds does. -/
def succeed (saved : SavedVm) (s : Irqs) : ResumeOp → Irqs
  | .activate d => { s with live := Function.update s.live d true }
  | .setChip c =>
    { s with
      pending := Function.update s.pending c (saved.pending c)
      replaced := Function.update s.replaced c true }
  | .spawn i => { s with started := s.started + 1, atStart := s.recordStart i }
  | _ => s

/-- A call ends in one step; one that fails changes nothing. -/
def op (saved : SavedVm) (o : ResumeOp) (out : Outcome) (s : Irqs) : Option Irqs :=
  match out with
  | .progress _ => none
  | .ok => some (s.succeed saved o)
  | .err => some s

/-- Before the resume: a new VM, no worker, nothing pending. -/
def init : Irqs where
  live := fun _ => false
  pending := fun _ _ => false
  replaced := fun _ => false
  started := 0
  atStart := fun _ _ => false
  early := []

end Irqs

abbrev ResumeConfig : Type := Config Irqs ResumeOp (Except VmmError Unit)
abbrev ResumeAction : Type := Action IrqEvent Empty

/-- The resuming thread and everything beside it. -/
def resumeMachine (saved : SavedVm) :
    Machine Irqs IrqEvent ResumeOp Empty (Except VmmError Unit) where
  env := Irqs.env
  op := Irqs.op saved
  enter := fun call => nomatch call
  script := fun call => nomatch call

def resumeStart (cfg : ResumeCfg) (saved : SavedVm) : ResumeConfig :=
  ⟨Irqs.init, resumeFromState cfg saved⟩

/-- The chip has been set, or never will be. -/
def Irqs.Final (saved : SavedVm) (s : Irqs) (c : Chip) : Prop :=
  s.replaced c = true ∨ (c.isIrqchip = true ∧ saved.ioapic = 0)

instance (saved : SavedVm) (s : Irqs) (c : Chip) : Decidable (s.Final saved c) :=
  inferInstanceAs (Decidable (_ ∨ _))

/-- The step is allowed if, until a vCPU runs, interrupts only reach chips that will not be set
any more. -/
def AfterSet (saved : SavedVm) (c : ResumeConfig) : ResumeAction → Prop
  | .env (.signal _ chip) => c.state.started = 0 → c.state.Final saved chip
  | .env (.deliver _ _ vcpu) => c.state.started = 0 → c.state.Final saved (.lapic vcpu)
  | _ => True

instance (saved : SavedVm) (c : ResumeConfig) : ∀ a, Decidable (AfterSet saved c a)
  | .env (.signal _ _) => inferInstanceAs (Decidable (_ → _))
  | .env (.deliver _ _ _) => inferInstanceAs (Decidable (_ → _))
  | .env (.take _ _) => .isTrue trivial
  | .op _ => .isTrue trivial
  | .call _ => .isTrue trivial

/-! ## The script -/

/-- How far the resume has come. -/
structure Progress where
  replaced : Chip → Bool
  started : Nat

namespace Progress

/-- A chip is set once, the chips of the VM only if they were saved, and the vCPUs are started in
order, each after its own chip has been set. -/
def pre (saved : SavedVm) (o : ResumeOp) (v : Progress) : Prop :=
  match o with
  | .setChip c => v.replaced c = false ∧ (c.isIrqchip = true → saved.ioapic ≠ 0)
  | .spawn i => i = v.started ∧ ∀ j, v.replaced (.lapic j) = true → j ≤ i
  | _ => True

def next (o : ResumeOp) (ok : Bool) (v : Progress) : Progress :=
  match o, ok with
  | .setChip c, true => { v with replaced := Function.update v.replaced c true }
  | .spawn _, true => { v with started := v.started + 1 }
  | _, _ => v

theorem pre_of_isControl {saved : SavedVm} {o : ResumeOp} (h : o.isControl = false)
    (v : Progress) : pre saved o v := by
  cases o with
  | setChip c | spawn i => cases h
  | _ => trivial

theorem next_of_isControl {o : ResumeOp} (h : o.isControl = false) (ok : Bool) (v : Progress) :
    next o ok v = v := by
  cases o with
  | setChip c | spawn i => cases h
  | _ => rfl

end Progress

/-- From this view the task finds its preconditions, and ends well only in `Q`. -/
abbrev Proceeds (saved : SavedVm) (Q : Progress → Unit → Prop) (v : Progress) (t : Resume Unit) :
    Prop :=
  Task.Safe (Progress.pre saved) Progress.next Q (fun _ => True) v t

section Proceeds

variable {saved : SavedVm} {Q : Progress → Unit → Prop} {v : Progress}

theorem proceeds_avoids {t : Resume Unit} (h : t.Avoids ResumeOp.isControl) (hQ : Q v ()) :
    Proceeds saved Q v t := by
  refine Script.Avoids.safe (fun o ho v => Progress.pre_of_isControl ho v)
    (fun o ho b v => Progress.next_of_isControl ho b v) h ?_
  rintro (e | _)
  · trivial
  · exact hQ

theorem proceeds_setChip {c : Chip} {e : VmmError} (hnew : v.replaced c = false)
    (hsaved : c.isIrqchip = true → saved.ioapic ≠ 0)
    (hQ : Q { v with replaced := Function.update v.replaced c true } ()) :
    Proceeds saved Q v (perform (.setChip c) e) :=
  safe_perform ⟨hnew, hsaved⟩ hQ trivial

/-- The chips of the VM are set one after the other. -/
theorem proceeds_restoreIrqchip (hsaved : saved.ioapic ≠ 0) (hnew : ∀ c, v.replaced c = false)
    (hQ : ∀ v', v'.started = v.started → (∀ j, v'.replaced (.lapic j) = false) → Q v' ()) :
    Proceeds saved Q v (restoreIrqchip saved) := by
  refine safe_bind (safe_bind (proceeds_avoids (avoids_checkSize _ _ _ _) ?_))
  refine proceeds_setChip (hnew _) (fun _ => hsaved) ?_
  refine safe_bind (safe_bind (proceeds_avoids (avoids_checkSize _ _ _ _) ?_))
  refine proceeds_setChip (by simp [hnew]) (fun _ => hsaved) ?_
  refine safe_bind (safe_bind (proceeds_avoids (avoids_checkSize _ _ _ _) ?_))
  refine proceeds_setChip (by simp [hnew]) (fun _ => hsaved) ?_
  refine safe_bind (proceeds_avoids (avoids_checkSize _ _ _ _) (proceeds_avoids
    (avoids_perform rfl) (hQ _ rfl ?_)))
  intro j
  simp [hnew]

theorem proceeds_restoreMachine (cfg : ResumeCfg) (hnew : ∀ c, v.replaced c = false)
    (hQ : ∀ v', v'.started = v.started → (∀ j, v'.replaced (.lapic j) = false) → Q v' ()) :
    Proceeds saved Q v (restoreMachine cfg saved) := by
  refine safe_bind (proceeds_avoids (avoids_perform rfl) ?_)
  refine safe_bind (proceeds_avoids (avoids_perform rfl) ?_)
  refine safe_bind (proceeds_avoids (avoids_restoreDevices cfg saved) ?_)
  refine safe_bind (proceeds_avoids (avoids_perform rfl) ?_)
  split_ifs with h
  · exact safe_pure (hQ v rfl (fun j => hnew _))
  · exact proceeds_restoreIrqchip h hnew hQ

/-- A vCPU gets its own chip. -/
theorem proceeds_restoreVcpu (cfg : ResumeCfg) (i : Nat) (hnew : v.replaced (.lapic i) = false)
    (hQ : Q { v with replaced := Function.update v.replaced (.lapic i) true } ()) :
    Proceeds saved Q v (restoreVcpu cfg saved i) := by
  unfold restoreVcpu
  cases saved.vcpus[i]? with
  | none => exact safe_fail trivial
  | some state =>
    refine safe_bind (proceeds_avoids (avoids_ite avoids_pure (avoids_act rfl)) ?_)
    refine safe_bind (proceeds_avoids (avoids_perform rfl) ?_)
    refine safe_bind (proceeds_avoids (avoids_unlessEmpty rfl) ?_)
    refine safe_bind (proceeds_avoids (avoids_checkSize _ _ _ _) ?_)
    refine safe_bind (proceeds_avoids (avoids_perform rfl) ?_)
    refine safe_bind (proceeds_setChip hnew (fun h => by cases h) ?_)
    refine safe_bind (proceeds_avoids (avoids_perform rfl) ?_)
    refine safe_bind (proceeds_avoids (avoids_perform rfl) ?_)
    refine safe_bind (proceeds_avoids (avoids_perform rfl) ?_)
    refine safe_bind (proceeds_avoids (avoids_checkWritten _ _) ?_)
    refine safe_bind (proceeds_avoids (avoids_unlessEmpty rfl) ?_)
    exact proceeds_avoids (avoids_perform rfl) hQ

/-- The whole script: before turn `i` the chips of the vCPUs below `i` have been set and their
threads started. -/
theorem proceeds_resumeFromState (cfg : ResumeCfg) (hnew : ∀ c, v.replaced c = false)
    (hstarted : v.started = 0) :
    Proceeds saved (fun _ _ => True) v (resumeFromState cfg saved) := by
  refine safe_bind (proceeds_restoreMachine cfg hnew (fun v' hs hlapic => ?_))
  refine safe_forEach_range
    (fun i v => v.started = i ∧ ∀ j, v.replaced (.lapic j) = true → j < i) cfg.vcpus
    ⟨hs.trans hstarted, fun j hj => by rw [hlapic j] at hj; cases hj⟩ ?_ (fun _ _ => trivial)
  rintro i v _ ⟨rfl, hbelow⟩
  have hnew : v.replaced (.lapic v.started) = false :=
    Bool.eq_false_iff.mpr (fun h => absurd (hbelow _ h) (Nat.lt_irrefl _))
  refine safe_bind (proceeds_restoreVcpu cfg v.started hnew (safe_perform ⟨rfl, ?_⟩ ?_ trivial))
  · intro j hj
    by_cases h : j = v.started
    · exact Nat.le_of_eq h
    · change Function.update v.replaced (.lapic v.started) true (.lapic j) = true at hj
      rw [Function.update_of_ne (by simp [h])] at hj
      exact Nat.le_of_lt (hbelow j hj)
  · refine ⟨rfl, fun j hj => ?_⟩
    by_cases h : j = v.started
    · omega
    · change Function.update v.replaced (.lapic v.started) true (.lapic j) = true at hj
      rw [Function.update_of_ne (by simp [h])] at hj
      have := hbelow j hj
      omega

end Proceeds

/-! ## The invariant -/

/-- An early interrupt is pending in a chip that will not be set any more; once a vCPU has been
started, it was pending in a chip with which the vCPUs started. -/
structure EarlyInv (saved : SavedVm) (v : Progress) (s : Irqs) : Prop where
  replaced : s.replaced = v.replaced
  started : s.started = v.started
  held : s.started = 0 → ∀ line ∈ s.early, ∃ c, s.Final saved c ∧ s.pending c line = true
  kept : 0 < s.started → ∀ line ∈ s.early, ∃ c, s.atStart c line = true ∧
    ∀ i, c = .lapic i → i < s.started

theorem withLine_same (pending : Chip → Nat → Bool) (c : Chip) (line : Nat) (b : Bool) :
    withLine pending c line b c line = b := by
  rw [withLine, if_pos ⟨rfl, rfl⟩]

theorem withLine_true {pending : Chip → Nat → Bool} {c c' : Chip} {line line' : Nat}
    (h : pending c' line' = true) : withLine pending c line true c' line' = true := by
  rw [withLine]
  split_ifs
  · rfl
  · exact h

section Inv

variable {saved : SavedVm} {v : Progress} {s s' : Irqs}

theorem EarlyInv.env {c : ResumeConfig} {e : IrqEvent} (h : EarlyInv saved v c.state)
    (hP : AfterSet saved c (.env e)) (hstep : c.state.env e = some s') : EarlyInv saved v s' := by
  rcases Irqs.env_cases hstep with ⟨d, chip, rfl, rfl⟩ | ⟨l, chip, vcpu, rfl, rfl⟩ |
    ⟨chip, l, rfl, h0, rfl⟩
  · refine ⟨h.replaced, h.started, fun h0 line hline => ?_, fun hpos line hline => ?_⟩
    · have hline' : line ∈ lineOf d :: c.state.early := by
        simpa only [if_pos (show c.state.started = 0 from h0)] using hline
      rcases List.mem_cons.mp hline' with rfl | hmem
      · exact ⟨chip, hP h0, withLine_same _ _ _ _⟩
      · obtain ⟨c', hc, hpend⟩ := h.held h0 line hmem
        exact ⟨c', hc, withLine_true hpend⟩
    · have hne : c.state.started ≠ 0 := Nat.pos_iff_ne_zero.mp hpos
      exact h.kept hpos line (by simpa only [if_neg hne] using hline)
  · refine ⟨h.replaced, h.started, fun h0 line hline => ?_, h.kept⟩
    obtain ⟨c', hc, hp⟩ := h.held h0 line hline
    by_cases hl : line = l
    · -- this interrupt is now in the chip of the vCPU
      subst hl
      exact ⟨.lapic vcpu, hP h0, withLine_same _ _ _ _⟩
    · refine ⟨c', hc, withLine_true ?_⟩
      rw [withLine, if_neg (fun hh => hl hh.2)]
      exact hp
  · exact ⟨h.replaced, h.started, fun h0' => absurd h0' h0, h.kept⟩

theorem EarlyInv.setChip {c : Chip} (h : EarlyInv saved v s)
    (hpre : Progress.pre saved (.setChip c) v) :
    EarlyInv saved (Progress.next (.setChip c) true v) (s.succeed saved (.setChip c)) := by
  refine ⟨?_, h.started, fun h0 line hline => ?_, h.kept⟩
  · show Function.update s.replaced c true = Function.update v.replaced c true
    rw [h.replaced]
  · obtain ⟨c', hfinal, hp⟩ := h.held h0 line hline
    -- the chip that is set now was not final before
    have hne : c' ≠ c := by
      rintro rfl
      rcases hfinal with hr | ⟨hirq, hsaved⟩
      · rw [h.replaced, hpre.1] at hr
        cases hr
      · exact hpre.2 hirq hsaved
    refine ⟨c', hfinal.imp_left (fun hr => ?_), ?_⟩
    · show Function.update s.replaced c true c' = true
      rw [Function.update_of_ne hne]
      exact hr
    · show Function.update s.pending c (saved.pending c) c' line = true
      rw [Function.update_of_ne hne]
      exact hp

theorem EarlyInv.spawn {i : Nat} (h : EarlyInv saved v s) (hpre : Progress.pre saved (.spawn i) v) :
    EarlyInv saved (Progress.next (.spawn i) true v) (s.succeed saved (.spawn i)) := by
  obtain ⟨hi, hbelow⟩ := hpre
  have hi' : i = s.started := hi.trans h.started.symm
  refine ⟨h.replaced, congrArg (· + 1) h.started, fun h0 => absurd h0 (Nat.succ_ne_zero _),
    fun _ line hline => ?_⟩
  by_cases h0 : s.started = 0
  · obtain ⟨c, hfinal, hp⟩ := h.held h0 line hline
    refine ⟨c, ?_, ?_⟩
    · -- the first thread starts with the chips of the VM and its own
      have hrec : c = .lapic i ∨ (c.isIrqchip = true ∧ s.started = 0) := by
        cases c with
        | lapic j =>
          rcases hfinal with hr | ⟨hirq, _⟩
          · rw [h.replaced] at hr
            have := hbelow j hr
            left
            congr 1
            omega
          · cases hirq
        | _ => exact Or.inr ⟨rfl, h0⟩
      show s.recordStart i c line = true
      rw [Irqs.recordStart, if_pos hrec]
      exact hp
    · rintro j rfl
      rcases hfinal with hr | ⟨hirq, _⟩
      · rw [h.replaced] at hr
        have := hbelow j hr
        show j < s.started + 1
        omega
      · cases hirq
  · obtain ⟨c, hs, hlt⟩ := h.kept (Nat.pos_iff_ne_zero.mpr h0) line hline
    refine ⟨c, ?_, fun j hj => Nat.lt_succ_of_lt (hlt j hj)⟩
    have hrec : ¬ (c = .lapic i ∨ (c.isIrqchip = true ∧ s.started = 0)) := by
      rintro (hc | ⟨_, h0'⟩)
      · have := hlt i hc
        omega
      · exact h0 h0'
    show s.recordStart i c line = true
    rw [Irqs.recordStart, if_neg hrec]
    exact hs

theorem EarlyInv.op {o : ResumeOp} {b : Bool} (h : EarlyInv saved v s)
    (hpre : Progress.pre saved o v)
    (hstep : Irqs.op saved o (if b then .ok else .err) s = some s') :
    EarlyInv saved (Progress.next o b v) s' := by
  cases b with
  | false =>
    cases hstep
    have hnext : Progress.next o false v = v := by cases o <;> rfl
    rw [hnext]
    exact h
  | true =>
    cases hstep
    cases o with
    | setChip c => exact h.setChip hpre
    | spawn i => exact h.spawn hpre
    | activate d => exact ⟨h.replaced, h.started, h.held, h.kept⟩
    | _ => exact h

end Inv

/-- A machine with one vCPU, the rootfs and the boot vsock. -/
def soleVcpu : ResumeCfg := { vcpus := 1, devices := [], written := fun _ => 12 }

/-- The next `n` calls of the resume succeed. -/
def callsOk (n : Nat) : List ResumeAction := List.replicate n (.op .ok)

end MicroMachines.Vmm
