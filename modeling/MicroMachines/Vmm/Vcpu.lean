import MicroMachines.Lib.Barrier
import MicroMachines.Lib.Runs

set_option autoImplicit false

/-! # The vCPU thread

The run loop of `crates/mm-vmm/src/vcpu.rs` as a step function: one step for each load of a
flag, each entry to and exit from `KVM_RUN`, each dispatch, each capture and each statement of
`Checkpoint::park`. The flags belong to other threads, so every step is given their current
values.

What the guest does inside `KVM_RUN` is chosen by the action: it stores to RAM, publishes
descriptor chains, takes pending interrupts and exits for any reason. What a step does to the
rest of the machine is its `Effect`.

* `VcpuStep`: what one step can do, the basis of all that is proved about vCPUs.
* `Vcpu.step_move`: a vCPU is a participant of the checkpoint barrier.
* `torn_capture`, `capture_at_boundary`: the flags are also looked at between an I/O exit and
  the `KVM_RUN` that completes it, and the state is then captured in the middle of an
  instruction; it is captured at instruction boundaries only if no request shows up there.
-/

namespace MicroMachines.Vmm

open MicroMachines.Lib

/-- The flags a vCPU looks at. -/
structure Flags where
  stop : Bool
  pause : Bool
  requested : Bool
  released : Bool
  deriving DecidableEq, Repr

/-- What the bus does with a register write: `QueueNotify`, the `DRIVER_OK` that activates the
device on a line, or nothing that other threads see. -/
inductive Access
  | notify (w q : Nat)
  | activate (line : Nat)
  | other
  deriving DecidableEq, Repr

/-- How `KVM_RUN` returns. -/
inductive KvmExit
  | ioIn
  | ioOut
  | mmioRead
  | mmioWrite (a : Access)
  | hlt
  | shutdown
  | unexpected
  | eintr
  | failed
  deriving DecidableEq, Repr

/-- How the thread ends. -/
inductive VcpuRunExit
  | halted
  | shutdown
  | paused
  | error
  deriving DecidableEq, Repr

/-- A captured state: the interrupts pending in the LAPIC, by line, and the number of
checkpoint requests made before the capture. Registers are left out. -/
structure VcpuState where
  lapic : List Nat
  gen : Nat
  deriving DecidableEq, Repr

/-- The three statements of `Checkpoint::park`. -/
inductive Park
  | add
  | wait
  | sub
  deriving DecidableEq, Repr

/-- Where the thread is. `freeze` tells `do_pause` from `checkpoint`; the number in `park` is
that of the capture. -/
inductive VcpuPc
  | top
  | topPause
  | topCheckpoint
  | guest
  | dispatch (a : Access)
  | eintrStop
  | eintrPause
  | eintrCheckpoint
  | capture (freeze : Bool)
  | store (freeze : Bool) (st : VcpuState)
  | park (p : Park) (g : Nat)
  | returned (r : VcpuRunExit)
  deriving DecidableEq, Repr

/-- A vCPU: its thread, its capture slot, its LAPIC, whether an I/O exit still waits for the
`KVM_RUN` that completes it, and whether the machine still holds the thread's handle. -/
structure Vcpu where
  pc : VcpuPc := .top
  slot : Option VcpuState := none
  lapic : List Nat := []
  ioPending : Bool := false
  handle : Bool := true
  deriving DecidableEq, Repr

inductive VcpuAct
  | go
  | write (a x : Nat)
  | publish (w q : Nat)
  | takeIrq (line : Nat)
  | exit (e : KvmExit)
  | captureFails
  deriving DecidableEq, Repr

/-- What a step of a thread does to the rest of the machine. -/
inductive Effect
  | none
  | write (a x : Nat)
  | publish (w q : Nat)
  | takeIrq (line : Nat)
  | notify (w q : Nat)
  | activate (line : Nat)
  | addUsed (q : Nat)
  | raise (vcpu : Nat)
  | enter
  | leave
  deriving DecidableEq, Repr

/-- What the effect does to the counter of parked threads. -/
def Effect.count : Effect → Count
  | .enter => .up
  | .leave => .down
  | _ => .same

def Access.effect : Access → Effect
  | .notify w q => .notify w q
  | .activate line => .activate line
  | .other => .none

namespace Vcpu

/-- Handle an exit from `KVM_RUN`. -/
def onExit (v : Vcpu) : KvmExit → Vcpu
  | .ioIn => { v with pc := .dispatch .other, ioPending := true }
  | .ioOut => { v with pc := .dispatch .other, ioPending := true }
  | .mmioRead => { v with pc := .dispatch .other, ioPending := true }
  | .mmioWrite a => { v with pc := .dispatch a, ioPending := true }
  | .hlt => { v with pc := .returned .halted }
  | .shutdown => { v with pc := .returned .shutdown }
  | .unexpected => { v with pc := .returned .error }
  | .eintr => { v with pc := .eintrStop }
  | .failed => { v with pc := .returned .error }

/-- One step of the thread. `gen` counts the checkpoint requests made so far. -/
def step (f : Flags) (gen : Nat) (v : Vcpu) (act : VcpuAct) : Option (Vcpu × Effect) :=
  match v.pc, act with
  | .top, .go => some ({ v with pc := if f.stop then .returned .halted else .topPause }, .none)
  | .topPause, .go =>
    some ({ v with pc := if f.pause then .capture true else .topCheckpoint }, .none)
  | .topCheckpoint, .go =>
    some (if f.requested then { v with pc := .capture false }
      else { v with pc := .guest, ioPending := false }, .none)
  | .guest, .write a x => some (v, .write a x)
  | .guest, .publish w q => some (v, .publish w q)
  | .guest, .takeIrq line =>
    if line ∈ v.lapic then
      some ({ v with lapic := v.lapic.filter (fun l => l ≠ line) }, .takeIrq line)
    else none
  | .guest, .exit e => some (v.onExit e, .none)
  | .dispatch a, .go => some ({ v with pc := .top }, a.effect)
  | .eintrStop, .go =>
    some ({ v with pc := if f.stop then .returned .halted else .eintrPause }, .none)
  | .eintrPause, .go =>
    some ({ v with pc := if f.pause then .capture true else .eintrCheckpoint }, .none)
  | .eintrCheckpoint, .go =>
    some ({ v with pc := if f.requested then .capture false else .top }, .none)
  | .capture freeze, .go => some ({ v with pc := .store freeze ⟨v.lapic, gen⟩ }, .none)
  | .capture _, .captureFails => some ({ v with pc := .returned .error }, .none)
  | .store true st, .go => some ({ v with slot := some st, pc := .returned .paused }, .none)
  | .store false st, .go => some ({ v with slot := some st, pc := .park .add st.gen }, .none)
  | .park .add g, .go => some ({ v with pc := .park .wait g }, .enter)
  | .park .wait g, .go => if f.released then some ({ v with pc := .park .sub g }, .none) else none
  | .park .sub _, .go => some ({ v with pc := .top }, .leave)
  | _, _ => none

end Vcpu

/-! ## What a step can do -/

/-- The thread is in its loop, and neither capturing nor parked. -/
def VcpuPc.running : VcpuPc → Bool
  | .capture _ => false
  | .store _ _ => false
  | .park _ _ => false
  | .returned _ => false
  | _ => true

/-- The steps of a vCPU, as far as other threads can tell them apart. -/
inductive VcpuStep (f : Flags) (gen : Nat) (v : Vcpu) : VcpuAct → Vcpu → Effect → Prop
  | loop (act : VcpuAct) (p : VcpuPc) (io : Bool) (hpc : v.pc.running = true)
      (hp : p.running = true ∨ ∃ r, p = .returned r ∧ r ≠ .paused) :
      VcpuStep f gen v act { v with pc := p, ioPending := io } .none
  | write (a x : Nat) (hpc : v.pc = .guest) : VcpuStep f gen v (.write a x) v (.write a x)
  | publish (w q : Nat) (hpc : v.pc = .guest) : VcpuStep f gen v (.publish w q) v (.publish w q)
  | takeIrq (line : Nat) (hpc : v.pc = .guest) (hl : line ∈ v.lapic) :
      VcpuStep f gen v (.takeIrq line)
        { v with lapic := v.lapic.filter (fun l => l ≠ line) } (.takeIrq line)
  | dispatch (a : Access) (hpc : v.pc = .dispatch a) :
      VcpuStep f gen v .go { v with pc := .top } a.effect
  | pause (hpc : v.pc.running = true) (h : f.pause = true) :
      VcpuStep f gen v .go { v with pc := .capture true } .none
  | notice (hpc : v.pc.running = true) (h : f.requested = true) :
      VcpuStep f gen v .go { v with pc := .capture false } .none
  | capture (freeze : Bool) (hpc : v.pc = .capture freeze) :
      VcpuStep f gen v .go { v with pc := .store freeze ⟨v.lapic, gen⟩ } .none
  | captureFails (freeze : Bool) (hpc : v.pc = .capture freeze) :
      VcpuStep f gen v .captureFails { v with pc := .returned .error } .none
  | freeze (st : VcpuState) (hpc : v.pc = .store true st) :
      VcpuStep f gen v .go { v with slot := some st, pc := .returned .paused } .none
  | store (st : VcpuState) (hpc : v.pc = .store false st) :
      VcpuStep f gen v .go { v with slot := some st, pc := .park .add st.gen } .none
  | enter (g : Nat) (hpc : v.pc = .park .add g) :
      VcpuStep f gen v .go { v with pc := .park .wait g } .enter
  | see (g : Nat) (hpc : v.pc = .park .wait g) (h : f.released = true) :
      VcpuStep f gen v .go { v with pc := .park .sub g } .none
  | leave (g : Nat) (hpc : v.pc = .park .sub g) :
      VcpuStep f gen v .go { v with pc := .top } .leave

section Cases

variable {f : Flags} {gen : Nat} {v v' : Vcpu} {act : VcpuAct} {e : Effect}

/-- A step to another place of the loop, with `ioPending` as it is. -/
theorem VcpuStep.loop_pc {p : VcpuPc} (hpc : v.pc.running = true)
    (hp : p.running = true ∨ ∃ r, p = .returned r ∧ r ≠ .paused) :
    VcpuStep f gen v act { v with pc := p } .none :=
  VcpuStep.loop act p v.ioPending hpc hp

theorem Vcpu.onExit_step (e : KvmExit) (hpc : v.pc = .guest) :
    VcpuStep f gen v act (v.onExit e) .none := by
  have hrun : v.pc.running = true := by rw [hpc]; rfl
  cases e with
  | ioIn | ioOut | mmioRead | mmioWrite a => exact .loop _ _ _ hrun (Or.inl rfl)
  | hlt | shutdown | unexpected | failed => exact .loop_pc hrun (Or.inr ⟨_, rfl, by decide⟩)
  | eintr => exact .loop_pc hrun (Or.inl rfl)

/-- **What one step can do.** -/
theorem Vcpu.step_cases (h : v.step f gen act = some (v', e)) : VcpuStep f gen v act v' e := by
  unfold Vcpu.step at h
  split at h
  case h_1 hpc =>
      cases h
      refine .loop_pc (by rw [hpc]; rfl) ?_
      by_cases hs : f.stop = true
      · exact Or.inr ⟨.halted, by rw [if_pos hs], by decide⟩
      · exact Or.inl (by rw [if_neg hs]; rfl)
  case h_2 hpc =>
      have hrun : v.pc.running = true := by rw [hpc]; rfl
      cases h
      split_ifs with hp
      · exact .pause hrun hp
      · exact .loop_pc hrun (Or.inl rfl)
  case h_3 hpc =>
      have hrun : v.pc.running = true := by rw [hpc]; rfl
      cases h
      split_ifs with hr
      · exact .notice hrun hr
      · exact .loop _ _ _ hrun (Or.inl rfl)
  case h_4 a x hpc => cases h; exact .write a x hpc
  case h_5 w q hpc => cases h; exact .publish w q hpc
  case h_6 line hpc =>
      split at h
      next hl => cases h; exact .takeIrq line hpc hl
      next => cases h
  case h_7 e hpc => cases h; exact v.onExit_step e hpc
  case h_8 a hpc => cases h; exact .dispatch a hpc
  case h_9 hpc =>
      cases h
      refine .loop_pc (by rw [hpc]; rfl) ?_
      by_cases hs : f.stop = true
      · exact Or.inr ⟨.halted, by rw [if_pos hs], by decide⟩
      · exact Or.inl (by rw [if_neg hs]; rfl)
  case h_10 hpc =>
      have hrun : v.pc.running = true := by rw [hpc]; rfl
      cases h
      split_ifs with hp
      · exact .pause hrun hp
      · exact .loop_pc hrun (Or.inl rfl)
  case h_11 hpc =>
      have hrun : v.pc.running = true := by rw [hpc]; rfl
      cases h
      split_ifs with hr
      · exact .notice hrun hr
      · exact .loop_pc hrun (Or.inl rfl)
  case h_12 freeze hpc => cases h; exact .capture freeze hpc
  case h_13 freeze hpc => cases h; exact .captureFails freeze hpc
  case h_14 st hpc => cases h; exact .freeze st hpc
  case h_15 st hpc => cases h; exact .store st hpc
  case h_16 g hpc => cases h; exact .enter g hpc
  case h_17 g hpc =>
      split at h
      next hrel => cases h; exact .see g hpc hrel
      next => cases h
  case h_18 g hpc => cases h; exact .leave g hpc
  case h_19 => cases h

/-- A parked thread does nothing before the release. -/
theorem VcpuStep.of_waiting {g : Nat} (h : VcpuStep f gen v act v' e) (hpc : v.pc = .park .wait g) :
    f.released = true := by
  cases h with
  | see _ _ hrel => exact hrel
  | loop _ _ _ hrun | pause hrun | notice hrun => rw [hpc] at hrun; cases hrun
  | _ => cases hpc.symm.trans (by assumption)

/-- A thread that has returned does nothing. -/
theorem VcpuStep.not_returned {r : VcpuRunExit} (h : VcpuStep f gen v act v' e) :
    v.pc ≠ .returned r := by
  intro hpc
  cases h with
  | loop _ _ _ hrun | pause hrun | notice hrun => rw [hpc] at hrun; cases hrun
  | _ => cases hpc.symm.trans (by assumption)

theorem VcpuStep.handle_eq (h : VcpuStep f gen v act v' e) : v'.handle = v.handle := by
  cases h <;> rfl

end Cases

/-! ## A participant of the barrier -/

/-- Where the thread stands at the checkpoint barrier. -/
def VcpuPc.phase : VcpuPc → Phase
  | .capture false => .called
  | .store false st => .ready st.gen
  | .park .add g => .ready g
  | .park .wait g => .waiting g
  | .park .sub g => .leaving g
  | _ => .out

def Vcpu.phase (v : Vcpu) : Phase := v.pc.phase

theorem VcpuPc.phase_of_running {p : VcpuPc} (h : p.running = true) : p.phase = .out := by
  cases p with
  | capture | store | park => cases h
  | _ => rfl

theorem Access.effect_count (a : Access) : a.effect.count = .same := by
  cases a with
  | notify | activate | other => rfl

/-- **Every step of a vCPU is a move at the barrier.** -/
theorem Vcpu.step_move {f : Flags} {gen : Nat} {v v' : Vcpu} {act : VcpuAct} {e : Effect}
    (h : VcpuStep f gen v act v' e) :
    Move true f.requested f.released gen v.phase v'.phase e.count := by
  unfold Vcpu.phase
  cases h with
  | loop _ p io hpc hp =>
    have hout : p.phase = .out := by
      rcases hp with hp | ⟨r, rfl, -⟩
      · exact VcpuPc.phase_of_running hp
      · rfl
    rw [VcpuPc.phase_of_running hpc, hout]
    exact .stay _
  | write | publish | takeIrq => exact .stay _
  | dispatch a hpc =>
    rw [hpc, a.effect_count]
    exact .stay _
  | pause hpc =>
    rw [VcpuPc.phase_of_running hpc]
    exact .stay _
  | notice hpc hreq =>
    rw [VcpuPc.phase_of_running hpc]
    exact .notice rfl hreq
  | capture freeze hpc =>
    rw [hpc]
    cases freeze with
    | true => exact .stay _
    | false => exact .capture
  | captureFails freeze hpc =>
    rw [hpc]
    cases freeze with
    | true => exact .stay _
    | false => exact .forget
  | freeze st hpc | store st hpc => rw [hpc]; exact .stay _
  | enter g hpc => rw [hpc]; exact .enter g
  | see g hpc hrel => rw [hpc]; exact .see g hrel
  | leave g hpc => rw [hpc]; exact .leave g _ (Or.inl rfl)

theorem Vcpu.pc_of_waiting {x : Vcpu} {g : Nat} (h : x.phase = .waiting g) :
    x.pc = .park .wait g := by
  unfold Vcpu.phase at h
  cases hpc : x.pc with
  | park p g' =>
    rw [hpc] at h
    cases p <;> cases h
    rfl
  | capture freeze | store freeze st => rw [hpc] at h; cases freeze <;> cases h
  | _ => rw [hpc] at h; cases h

/-! ## Instruction boundaries

An I/O or MMIO operation is complete, and the registers are consistent, only when `KVM_RUN` has
been entered again. -/

/-- The thread alone: at each step the flags have any values. -/
def Vcpu.loop (v : Vcpu) (a : Flags × Nat × VcpuAct) : Option Vcpu :=
  (v.step a.1 a.2.1 a.2.2).map Prod.fst

/-- A thread as it is spawned. -/
def Vcpu.spawn (lapic : List Nat) : Vcpu := { lapic := lapic }

/-- No pause and no checkpoint request shows up at the top of the loop before an I/O exit is
complete. -/
def Unseen (v : Vcpu) (a : Flags × Nat × VcpuAct) : Prop :=
  v.ioPending = true →
    (v.pc = .topPause → a.1.pause = false) ∧ (v.pc = .topCheckpoint → a.1.requested = false)

instance (v : Vcpu) (a : Flags × Nat × VcpuAct) : Decidable (Unseen v a) :=
  inferInstanceAs (Decidable (_ → _ ∧ _))

/-- Where a thread with an incomplete operation can be. -/
def AwaitsEntry : VcpuPc → Prop
  | .dispatch _ => True
  | .top => True
  | .topPause => True
  | .topCheckpoint => True
  | .returned _ => True
  | _ => False

theorem awaitsEntry_step {v v' : Vcpu} {a : Flags × Nat × VcpuAct}
    (hI : v.ioPending = true → AwaitsEntry v.pc) (hP : Unseen v a) (h : v.loop a = some v') :
    v'.ioPending = true → AwaitsEntry v'.pc := by
  obtain ⟨⟨v'', e⟩, hstep, rfl⟩ := Option.map_eq_some_iff.mp h
  obtain ⟨⟨stop, pause, requested, released⟩, gen, act⟩ := a
  intro hio
  simp only [Vcpu.step] at hstep
  split at hstep
  case h_1 =>
      cases hstep
      cases stop <;> trivial
  case h_2 hpc =>
      cases hstep
      obtain rfl : pause = false := (hP hio).1 hpc
      trivial
  case h_3 hpc =>
      cases requested with
      | true =>
        cases hstep
        cases (hP hio).2 hpc
      | false => cases hstep; cases hio
  case h_7 e' hpc =>
      cases hstep
      have hno : v.ioPending = false := by
        cases hp : v.ioPending with
        | false => rfl
        | true =>
          have hIv := hI hp
          rw [hpc] at hIv
          exact hIv.elim
      cases e' with
      | eintr =>
        have hio' : v.ioPending = true := hio
        rw [hno] at hio'
        cases hio'
      | _ => trivial
  case h_8 => cases hstep; trivial
  case h_6 hpc =>
      split at hstep
      next =>
          cases hstep
          exact hI hio
      next => cases hstep
  case h_17 hpc =>
      split at hstep
      next =>
          cases hstep
          have hIv := hI hio
          rw [hpc] at hIv
          exact hIv.elim
      next => cases hstep
  case h_19 => cases hstep
  all_goals
    rename_i hpc
    cases hstep
    have hIv := hI hio
    first
      | exact hIv
      | (rw [hpc] at hIv; exact hIv.elim)

/-- **State is captured at an instruction boundary** in every run of the loop in which no
request shows up between an I/O exit and the next `KVM_RUN`: whenever `capture_state` is called,
no operation is incomplete. -/
theorem capture_at_boundary (lapic : List Nat) (as : List (Flags × Nat × VcpuAct)) (v : Vcpu)
    (hP : Meets Vcpu.loop Unseen (Vcpu.spawn lapic) as)
    (hrun : run Vcpu.loop (Vcpu.spawn lapic) as = some v) (freeze : Bool)
    (hpc : v.pc = .capture freeze) : v.ioPending = false := by
  have hI := run_invariant (fun v => v.ioPending = true → AwaitsEntry v.pc)
    (fun _ _ _ hI hP h => awaitsEntry_step hI hP h) as _ v (fun h => by cases h) hP hrun
  cases hio : v.ioPending with
  | false => rfl
  | true =>
    have hv := hI hio
    rw [hpc] at hv
    exact hv.elim

def noFlags : Flags := ⟨false, false, false, false⟩

/-- The guest notifies a queue, runs on, is kicked, and then sees the request. -/
def boundaryRun : List (Flags × Nat × VcpuAct) :=
  [(noFlags, 0, .go), (noFlags, 0, .go), (noFlags, 0, .go),
   (noFlags, 0, .exit (.mmioWrite (.notify 0 0))), (noFlags, 0, .go),
   (noFlags, 0, .go), (noFlags, 0, .go), (noFlags, 0, .go),
   ({ noFlags with requested := true }, 1, .exit .eintr),
   ({ noFlags with requested := true }, 1, .go), ({ noFlags with requested := true }, 1, .go),
   ({ noFlags with requested := true }, 1, .go)]

theorem capture_at_boundary_kicked :
    ∃ v, run Vcpu.loop (Vcpu.spawn []) boundaryRun = some v ∧ v.pc = .capture false ∧
      v.ioPending = false :=
  ⟨_, rfl, rfl, capture_at_boundary [] boundaryRun _ (by decide) rfl false rfl⟩

/-- The same notification, with the request made while it is dispatched. -/
def tornRun : List (Flags × Nat × VcpuAct) :=
  [(noFlags, 0, .go), (noFlags, 0, .go), (noFlags, 0, .go),
   (noFlags, 0, .exit (.mmioWrite (.notify 0 0))), (noFlags, 0, .go),
   ({ noFlags with requested := true }, 1, .go), ({ noFlags with requested := true }, 1, .go),
   ({ noFlags with requested := true }, 1, .go)]

/-- **The state is captured in the middle of an instruction**: the MMIO write has been
dispatched, `KVM_RUN` has not been entered again, and `capture_state` is called and succeeds. -/
theorem torn_capture :
    ∃ v v', run Vcpu.loop (Vcpu.spawn []) tornRun = some v ∧ v.pc = .capture false ∧
      v.ioPending = true ∧ v.loop ({ noFlags with requested := true }, 1, .go) = some v' ∧
      v'.pc = .store false ⟨[], 1⟩ :=
  ⟨_, _, rfl, rfl, rfl, rfl, rfl⟩

end MicroMachines.Vmm
