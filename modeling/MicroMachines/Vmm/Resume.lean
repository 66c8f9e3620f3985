import MicroMachines.Vmm.Restore

set_option autoImplicit false

/-! # Resuming from a snapshot

`resume_from_state` of `crates/mm-vmm/src/machine.rs` and `restore_state` of `vcpu.rs`, as a
script of the host and KVM calls that can fail. The devices are attached and activated one after
the other, so their workers run from then on; then the clock and the interrupt controllers are
set; and in one loop each vCPU gets its state and its thread is started at once.

* `failed_resume_iff`: a resume that fails leaves no vCPU running, exactly if no vCPU but the
  first is the first to fail.
* `failed_resume_runs_guest`: a snapshot with one vCPU state for a machine with two vCPUs.
-/

namespace MicroMachines.Vmm

open MicroMachines.Lib Task

/-- What holds pending interrupts: the interrupt controllers of the VM, and one for each vCPU. -/
inductive Chip
  | picMaster
  | picSlave
  | ioapic
  | lapic (vcpu : Nat)
  deriving DecidableEq, Repr

/-- The calls of a resume that can fail. -/
inductive ResumeOp
  | serialEventfd
  | registerIrqfd (gsi : Nat)
  | openBackend (d : Nat)
  | installPause (d : Nat)
  | irqEventfd (d : Nat)
  | newTransport (d : Nat)
  /-- The host calls of an activation; the worker is live once it succeeds. -/
  | activate (d : Nat)
  | setClock
  /-- `KVM_SET_IRQCHIP`, or `KVM_SET_LAPIC` of a vCPU. -/
  | setChip (c : Chip)
  | setPit
  | setTscKhz (vcpu : Nat)
  | setSregs (vcpu : Nat)
  | setXcrs (vcpu : Nat)
  | setFpu (vcpu : Nat)
  | setMpState (vcpu : Nat)
  | buildMsrs (vcpu : Nat)
  | setMsrs (vcpu : Nat)
  | setVcpuEvents (vcpu : Nat)
  | setRegs (vcpu : Nat)
  | spawn (vcpu : Nat)
  deriving DecidableEq, Repr

/-- A saved vCPU: whether the TSC frequency is known, the lengths of the parts that are saved as
bytes, and the number of MSRs. -/
structure SavedVcpu where
  tscKhz : Nat
  xcrs : Nat
  fpu : Nat
  msrs : Nat
  vcpuEvents : Nat
  deriving DecidableEq, Repr

/-- A `VmState`: the vCPUs, the queue cursors of the devices, the lengths of the interrupt
controller and timer states, and the interrupt lines pending in them. -/
structure SavedVm where
  vcpus : List SavedVcpu
  devices : List (List Queue)
  picMaster : Nat
  picSlave : Nat
  ioapic : Nat
  pit : Nat
  pending : Chip → Nat → Bool

/-- The configuration, and how many MSRs KVM accepts for each vCPU. -/
structure ResumeCfg where
  vcpus : Nat
  devices : List ConfigDevice
  written : Nat → Nat

abbrev Resume (α : Type) : Type := Task ResumeOp VmmError α

def COM1_IRQ : Nat := 4
def KVM_XCRS_SIZE : Nat := 392
def KVM_FPU_SIZE : Nat := 416
def KVM_VCPU_EVENTS_SIZE : Nat := 64
def KVM_IRQCHIP_SIZE : Nat := 520
def KVM_PIT_STATE2_SIZE : Nat := 112

/-- A part of the state that is saved as bytes must have the length of its C structure. -/
def checkSize (error : String → VmmError) (what : String) (len want : Nat) : Resume Unit :=
  if len = want then pure ()
  else fail (error ("snapshot " ++ what ++ " state is " ++ toString len ++ " bytes, expected " ++
    toString want))

/-! ## Devices -/

/-- `restore_activate` up to the calls it makes. -/
def checkCursors (cursors : List Queue) (sizes : List UInt16) : Resume Unit :=
  if sizes.length < cursors.length then
    fail (.device ("restore: " ++ toString cursors.length ++
      " queue cursors for a device with " ++ toString sizes.length ++ " queues"))
  else
    match Transport.restoreQueues cursors sizes with
    | .error e => fail e
    | .ok _ => pure ()

/-- `restore_activate_next`. -/
def restoreActivateNext (d : Nat) (sizes : List UInt16) : Option (List Queue) → Resume Unit
  | none => fail (.device "restore: missing device state")
  | some cursors => do
      checkCursors cursors sizes
      perform (.activate d) osError

/-- Make a device, attach it and activate it. `parsed` is the result of parsing its MAC
address. -/
def restoreDevice (saved : SavedVm) (d : Nat) (sizes : List UInt16)
    (parsed : Except VmmError Unit) : Resume Unit := do
  perform (.openBackend d) osError
  ofResult parsed
  perform (.installPause d) osError
  perform (.irqEventfd d) osError
  perform (.registerIrqfd (FIRST_VIRTIO_GSI + d)) kvmError
  perform (.newTransport d) osError
  restoreActivateNext d sizes saved.devices[d]?

/-- The devices that are restored, with their queue sizes: block, vsock, and the nets. -/
def restoredDevices (devices : List ConfigDevice) : List (List UInt16 × Except VmmError Unit) :=
  ([QUEUE_SIZE], .ok ()) :: ([QUEUE_SIZE, QUEUE_SIZE, QUEUE_SIZE], .ok ()) ::
    devices.flatMap (fun device =>
      match device with
      | .net _ mac => [([QUEUE_SIZE, QUEUE_SIZE], (parseMac mac).map (fun _ => ()))]
      | _ => [])

def restoreDevices (cfg : ResumeCfg) (saved : SavedVm) : Resume Unit :=
  forEach (restoredDevices cfg.devices).zipIdx (fun x => restoreDevice saved x.2 x.1.1 x.1.2)

/-! ## Interrupt controllers -/

def setIrqchipBytes (c : Chip) (len : Nat) : Resume Unit := do
  checkSize .device "irqchip" len KVM_IRQCHIP_SIZE
  perform (.setChip c) kvmError

def restoreIrqchip (saved : SavedVm) : Resume Unit := do
  setIrqchipBytes .picMaster saved.picMaster
  setIrqchipBytes .picSlave saved.picSlave
  setIrqchipBytes .ioapic saved.ioapic
  checkSize .device "PIT" saved.pit KVM_PIT_STATE2_SIZE
  perform .setPit kvmError

/-- Everything before the first vCPU. An empty IOAPIC state is that of an older snapshot. -/
def restoreMachine (cfg : ResumeCfg) (saved : SavedVm) : Resume Unit := do
  perform .serialEventfd osError
  perform (.registerIrqfd COM1_IRQ) kvmError
  restoreDevices cfg saved
  perform .setClock kvmError
  if saved.ioapic = 0 then pure () else restoreIrqchip saved

/-! ## vCPUs -/

/-- A part that older snapshots do not have. -/
def unlessEmpty (len : Nat) (t : Resume Unit) : Resume Unit := if len = 0 then pure () else t

/-- `KVM_SET_MSRS` stops at the first MSR it does not accept. -/
def checkWritten (written entries : Nat) : Resume Unit :=
  if written = entries then pure ()
  else fail (.vcpu ("set_msrs wrote " ++ toString written ++ "/" ++ toString entries ++
    " entries on restore"))

def restoreState (cfg : ResumeCfg) (i : Nat) (v : SavedVcpu) : Resume Unit := do
  -- the frequency is set if the host can; a failure is only logged
  unlessEmpty v.tscKhz (act (.setTscKhz i))
  perform (.setSregs i) kvmError
  unlessEmpty v.xcrs (do
    checkSize .vcpu "XCRS" v.xcrs KVM_XCRS_SIZE
    perform (.setXcrs i) kvmError)
  checkSize .vcpu "FPU" v.fpu KVM_FPU_SIZE
  perform (.setFpu i) kvmError
  perform (.setChip (.lapic i)) kvmError
  perform (.setMpState i) kvmError
  perform (.buildMsrs i) (.vcpu "building restore MSRs: os error")
  perform (.setMsrs i) kvmError
  checkWritten (cfg.written i) v.msrs
  unlessEmpty v.vcpuEvents (do
    checkSize .vcpu "VCPU_EVENTS" v.vcpuEvents KVM_VCPU_EVENTS_SIZE
    perform (.setVcpuEvents i) kvmError)
  perform (.setRegs i) kvmError

def restoreVcpu (cfg : ResumeCfg) (saved : SavedVm) (i : Nat) : Resume Unit :=
  match saved.vcpus[i]? with
  | none => fail (.vcpu ("restore: no saved state for vcpu " ++ toString i))
  | some v => restoreState cfg i v

/-- One turn of the last loop: restore a vCPU and start its thread. -/
def restartVcpu (cfg : ResumeCfg) (saved : SavedVm) (i : Nat) : Resume Unit := do
  restoreVcpu cfg saved i
  perform (.spawn i) osError

def resumeFromState (cfg : ResumeCfg) (saved : SavedVm) : Resume Unit := do
  restoreMachine cfg saved
  forEach (List.range cfg.vcpus) (restartVcpu cfg saved)

/-! ## Threads that are started -/

def ResumeOp.isSpawn : ResumeOp → Bool
  | .spawn _ => true
  | _ => false

/-- The vCPUs whose thread has been started, in order. -/
def noteStart (o : ResumeOp) (ok : Bool) (started : List Nat) : List Nat :=
  match o, ok with
  | .spawn i, true => started ++ [i]
  | _, _ => started

theorem noteStart_quiet {o : ResumeOp} (h : o.isSpawn = false) (ok : Bool) (started : List Nat) :
    noteStart o ok started = started := by
  cases o with
  | spawn i => cases h
  | _ => rfl

/-- The operations that set an interrupt controller or start a thread. -/
def ResumeOp.isControl : ResumeOp → Bool
  | .setChip _ => true
  | .spawn _ => true
  | _ => false

theorem ResumeOp.isSpawn_of_isControl (o : ResumeOp) (h : o.isControl = false) :
    o.isSpawn = false := by
  cases o with
  | spawn i => cases h
  | _ => rfl

/-- The operations after which something of the machine runs: the worker of a device, or a vCPU. -/
def ResumeOp.isLive : ResumeOp → Bool
  | .activate _ => true
  | .spawn _ => true
  | _ => false

theorem ResumeOp.isSpawn_of_isLive (o : ResumeOp) (h : o.isLive = false) : o.isSpawn = false := by
  cases o with
  | spawn i => cases h
  | _ => rfl

section Avoids

variable {noisy : ResumeOp → Bool}

theorem avoids_checkSize (error : String → VmmError) (what : String) (len want : Nat) :
    (checkSize error what len want).Avoids noisy :=
  avoids_ite avoids_pure avoids_fail

theorem avoids_checkWritten (written entries : Nat) :
    (checkWritten written entries).Avoids noisy :=
  avoids_ite avoids_pure avoids_fail

/-- An optional part: the length is checked, then it is set. -/
theorem avoids_unlessEmpty {len want : Nat} {what : String} {o : ResumeOp}
    (h : noisy o = false) :
    (unlessEmpty len (do
      checkSize .vcpu what len want
      perform o kvmError)).Avoids noisy :=
  avoids_ite avoids_pure (avoids_bind (avoids_checkSize _ _ _ _) (fun _ => avoids_perform h))

theorem avoids_restoreDevices (cfg : ResumeCfg) (saved : SavedVm) :
    (restoreDevices cfg saved).Avoids ResumeOp.isControl := by
  refine avoids_forEach (fun x => ?_) _
  have hnext : (restoreActivateNext x.2 x.1.1 saved.devices[x.2]?).Avoids ResumeOp.isControl := by
    cases saved.devices[x.2]? with
    | none => trivial
    | some cursors =>
      refine avoids_bind ?_ (fun _ => avoids_perform rfl)
      unfold checkCursors
      refine avoids_ite avoids_fail ?_
      cases Transport.restoreQueues cursors x.1.1 with
      | error e | ok queues => trivial
  refine avoids_bind (avoids_perform rfl) (fun _ => ?_)
  refine avoids_bind avoids_ofResult (fun _ => ?_)
  refine avoids_bind (avoids_perform rfl) (fun _ => ?_)
  refine avoids_bind (avoids_perform rfl) (fun _ => ?_)
  refine avoids_bind (avoids_perform rfl) (fun _ => ?_)
  exact avoids_bind (avoids_perform rfl) (fun _ => hnext)

theorem avoids_restoreIrqchip (saved : SavedVm) : (restoreIrqchip saved).Avoids ResumeOp.isLive := by
  have hset : ∀ c len, (setIrqchipBytes c len).Avoids ResumeOp.isLive := fun c len =>
    avoids_bind (avoids_checkSize _ _ _ _) (fun _ => avoids_perform rfl)
  refine avoids_bind (hset _ _) (fun _ => ?_)
  refine avoids_bind (hset _ _) (fun _ => ?_)
  refine avoids_bind (hset _ _) (fun _ => ?_)
  exact avoids_bind (avoids_checkSize _ _ _ _) (fun _ => avoids_perform rfl)

theorem avoids_restoreMachine (cfg : ResumeCfg) (saved : SavedVm) :
    (restoreMachine cfg saved).Avoids ResumeOp.isSpawn := by
  have hirqchip : (restoreIrqchip saved).Avoids ResumeOp.isSpawn :=
    Script.Avoids.mono ResumeOp.isSpawn_of_isLive (avoids_restoreIrqchip saved)
  have hdevices : (restoreDevices cfg saved).Avoids ResumeOp.isSpawn :=
    Script.Avoids.mono ResumeOp.isSpawn_of_isControl (avoids_restoreDevices cfg saved)
  refine avoids_bind (avoids_perform rfl) (fun _ => ?_)
  refine avoids_bind (avoids_perform rfl) (fun _ => ?_)
  refine avoids_bind hdevices (fun _ => ?_)
  exact avoids_bind (avoids_perform rfl) (fun _ => avoids_ite avoids_pure hirqchip)

theorem avoids_restoreState (cfg : ResumeCfg) (i : Nat) (v : SavedVcpu) :
    (restoreState cfg i v).Avoids ResumeOp.isLive := by
  refine avoids_bind (avoids_ite avoids_pure (avoids_act rfl)) (fun _ => ?_)
  refine avoids_bind (avoids_perform rfl) (fun _ => ?_)
  refine avoids_bind (avoids_unlessEmpty rfl) (fun _ => ?_)
  refine avoids_bind (avoids_checkSize _ _ _ _) (fun _ => ?_)
  refine avoids_bind (avoids_perform rfl) (fun _ => ?_)
  refine avoids_bind (avoids_perform rfl) (fun _ => ?_)
  refine avoids_bind (avoids_perform rfl) (fun _ => ?_)
  refine avoids_bind (avoids_perform rfl) (fun _ => ?_)
  refine avoids_bind (avoids_perform rfl) (fun _ => ?_)
  refine avoids_bind (avoids_checkWritten _ _) (fun _ => ?_)
  exact avoids_bind (avoids_unlessEmpty rfl) (fun _ => avoids_perform rfl)

theorem avoids_restoreVcpu (cfg : ResumeCfg) (saved : SavedVm) (i : Nat) :
    (restoreVcpu cfg saved i).Avoids ResumeOp.isSpawn := by
  unfold restoreVcpu
  cases saved.vcpus[i]? with
  | none => trivial
  | some v => exact Script.Avoids.mono ResumeOp.isSpawn_of_isLive (avoids_restoreState cfg i v)

end Avoids

section Started

variable {cfg : ResumeCfg} {saved : SavedVm} {answer : ResumeOp → Bool}

theorem runWith_quiet {t : Resume Unit} (h : t.Avoids ResumeOp.isSpawn) (started : List Nat) :
    (t.runWith answer noteStart started).1 = started :=
  Script.Avoids.runWith_fst (fun _ ho b v => noteStart_quiet ho b v) started h

/-- A vCPU is started exactly if all of its turn succeeds. -/
theorem runWith_restartVcpu (i : Nat) (started : List Nat) :
    ((restartVcpu cfg saved i).runWith answer noteStart started).1 =
      if (restartVcpu cfg saved i).Succeeds answer then started ++ [i] else started := by
  have hquiet := @runWith_quiet answer _ (avoids_restoreVcpu cfg saved i) started
  have hrun : (restartVcpu cfg saved i).runWith answer noteStart started = _ :=
    Task.runWith_bind (restoreVcpu cfg saved i) (fun _ => perform (.spawn i) osError) started
  have hiff := @Task.succeeds_iff _ _ _ _ answer noteStart (restartVcpu cfg saved i) started
  rcases hres : (restoreVcpu cfg saved i).runWith answer noteStart started with ⟨v, e | _⟩
  · rw [hres] at hrun hquiet
    rw [hrun] at hiff
    rw [hrun, if_neg (fun h => Bool.false_ne_true (hiff.mp h))]
    exact hquiet
  · rw [hres] at hrun hquiet
    subst hquiet
    rw [hrun] at hiff ⊢
    simp only [Task.runWith_perform] at hiff ⊢
    cases hspawn : answer (.spawn i) with
    | true =>
      rw [hspawn] at hiff
      rw [if_pos (hiff.mpr rfl)]
      rfl
    | false =>
      rw [hspawn] at hiff
      rw [if_neg (fun h => Bool.false_ne_true (hiff.mp h))]
      rfl

/-- Which threads are started: those of the vCPUs before the first that fails, if everything
before the loop succeeds. -/
theorem started_eq :
    ((resumeFromState cfg saved).runWith answer noteStart []).1 =
        (if (restoreMachine cfg saved).Succeeds answer then
          (List.range cfg.vcpus).takeWhile
            (fun i => decide ((restartVcpu cfg saved i).Succeeds answer))
        else []) ∧
      ((resumeFromState cfg saved).Succeeds answer ↔
        (restoreMachine cfg saved).Succeeds answer ∧
          ∀ i < cfg.vcpus, (restartVcpu cfg saved i).Succeeds answer) := by
  have hquiet := @runWith_quiet answer _ (avoids_restoreMachine cfg saved) []
  have hbefore := @Task.succeeds_iff _ _ _ _ answer noteStart (restoreMachine cfg saved) []
  have hiff := @Task.succeeds_iff _ _ _ _ answer noteStart (resumeFromState cfg saved) []
  have hrun : (resumeFromState cfg saved).runWith answer noteStart [] = _ :=
    Task.runWith_bind (restoreMachine cfg saved)
      (fun _ => forEach (List.range cfg.vcpus) (restartVcpu cfg saved)) []
  obtain ⟨hstate, hall⟩ := Task.runWith_forEach (fun started i => started ++ [i])
    (fun i v => @runWith_restartVcpu cfg saved answer i v) (List.range cfg.vcpus) []
  rcases hres : (restoreMachine cfg saved).runWith answer noteStart [] with ⟨v, e | _⟩
  · rw [hres] at hrun hquiet hbefore
    have hfail : ¬ (restoreMachine cfg saved).Succeeds answer :=
      fun h => Bool.false_ne_true (hbefore.mp h)
    rw [hrun] at hiff
    rw [hrun, if_neg hfail]
    exact ⟨hquiet, iff_of_false (fun h => Bool.false_ne_true (hiff.mp h)) (fun h => hfail h.1)⟩
  · rw [hres] at hrun hquiet hbefore
    subst hquiet
    have hok : (restoreMachine cfg saved).Succeeds answer := hbefore.mpr rfl
    rw [hrun] at hiff
    rw [hrun, if_pos hok, and_iff_right hok]
    refine ⟨?_, ?_⟩
    · simpa [← List.flatMap_def] using hstate
    · rw [hiff, ← Task.succeeds_iff [], hall]
      simp only [List.mem_range]

theorem mem_takeWhile_range' {p : Nat → Bool} {i : Nat} (n s : Nat) :
    i ∈ (List.range' s n).takeWhile p ↔ s ≤ i ∧ i < s + n ∧ ∀ j, s ≤ j → j ≤ i → p j = true := by
  induction n generalizing s with
  | zero =>
    simp only [List.range'_zero, List.takeWhile_nil, List.not_mem_nil, false_iff]
    omega
  | succ n ih =>
    rw [List.range'_succ]
    cases hs : p s with
    | false =>
      rw [List.takeWhile_cons_of_neg (by simp [hs])]
      refine iff_of_false List.not_mem_nil (fun h => ?_)
      have := h.2.2 s (Nat.le_refl s) h.1
      rw [hs] at this
      cases this
    | true =>
      rw [List.takeWhile_cons_of_pos hs, List.mem_cons, ih (s + 1)]
      constructor
      · rintro (rfl | ⟨hle, hlt, hall⟩)
        · refine ⟨Nat.le_refl i, by omega, fun j h1 h2 => ?_⟩
          obtain rfl : j = i := by omega
          exact hs
        · refine ⟨by omega, by omega, fun j h1 h2 => ?_⟩
          by_cases hj : j = s
          · rw [hj]
            exact hs
          · exact hall j (by omega) h2
      · rintro ⟨hle, hlt, hall⟩
        by_cases hi : i = s
        · exact Or.inl hi
        · exact Or.inr ⟨by omega, by omega, fun j h1 h2 => hall j (by omega) h2⟩

/-- Which threads are started, one by one. -/
theorem mem_started {i : Nat} :
    i ∈ ((resumeFromState cfg saved).runWith answer noteStart []).1 ↔
      (restoreMachine cfg saved).Succeeds answer ∧ i < cfg.vcpus ∧
        ∀ j ≤ i, (restartVcpu cfg saved j).Succeeds answer := by
  rw [(@started_eq cfg saved answer).1]
  by_cases hB : (restoreMachine cfg saved).Succeeds answer
  · rw [if_pos hB, List.range_eq_range', mem_takeWhile_range']
    simp only [hB, Nat.zero_le, Nat.zero_add, true_and, forall_const, decide_eq_true_eq]
  · rw [if_neg hB]
    exact iff_of_false List.not_mem_nil (fun h => hB h.1)

/-- **When a failed resume runs nothing.** For every configuration, saved state and combination of
failing calls, and whatever the hooks of the vCPU threads do: a resume that returns an error has
started no thread that gets past its hook, if and only if, in case everything before the vCPUs
succeeds, no thread gets past its hook that was started before the first vCPU that fails. -/
theorem failed_resume_iff (cfg : ResumeCfg) (saved : SavedVm) (answer : ResumeOp → Bool)
    (hook : Nat → Bool) :
    (¬ (resumeFromState cfg saved).Succeeds answer →
        ∀ i ∈ ((resumeFromState cfg saved).runWith answer noteStart []).1, hook i = false) ↔
      ((restoreMachine cfg saved).Succeeds answer → ∀ i < cfg.vcpus,
        ¬ (restartVcpu cfg saved i).Succeeds answer →
        (∀ j < i, (restartVcpu cfg saved j).Succeeds answer) → ∀ j < i, hook j = false) := by
  rw [(@started_eq cfg saved answer).2]
  constructor
  · intro h hB i hi hfail hbefore j hj
    refine h (fun hall => hfail (hall.2 i hi)) j (mem_started.mpr ⟨hB, by omega, ?_⟩)
    exact fun k hk => hbefore k (by omega)
  · intro h hfail k hk
    obtain ⟨hB, hkn, hok⟩ := mem_started.mp hk
    -- the first vCPU that fails comes after `k`
    have hex : ∃ i, i < cfg.vcpus ∧ ¬ (restartVcpu cfg saved i).Succeeds answer := by
      by_contra hnone
      push Not at hnone
      exact hfail ⟨hB, hnone⟩
    obtain ⟨hi, hifail⟩ := Nat.find_spec hex
    have hfirst : ∀ j < Nat.find hex, (restartVcpu cfg saved j).Succeeds answer := by
      intro j hj
      by_contra hjfail
      exact Nat.find_min hex hj ⟨by omega, hjfail⟩
    have hlt : k < Nat.find hex := by
      by_contra hge
      exact hifail (hok _ (by omega))
    exact h hB _ hi hifail hfirst k hlt

end Started

/-- A snapshot of a machine with the rootfs and the boot vsock, and `n` vCPUs. -/
def savedVm (n : Nat) : SavedVm where
  vcpus := List.replicate n
    { tscKhz := 2000000, xcrs := KVM_XCRS_SIZE, fpu := KVM_FPU_SIZE, msrs := 12
      vcpuEvents := KVM_VCPU_EVENTS_SIZE }
  devices := [[], []]
  picMaster := KVM_IRQCHIP_SIZE
  picSlave := KVM_IRQCHIP_SIZE
  ioapic := KVM_IRQCHIP_SIZE
  pit := KVM_PIT_STATE2_SIZE
  pending := fun _ _ => false

/-- **A failed resume leaves the guest running.** The snapshot has one vCPU state and the machine
two vCPUs: `resume_from_state` returns "restore: no saved state for vcpu 1", but the thread of
vCPU 0 has been started, and nothing stops it. -/
theorem failed_resume_runs_guest :
    (resumeFromState { vcpus := 2, devices := [], written := fun _ => 12 } (savedVm 1)).runWith
        (fun _ => true) noteStart [] =
      ([0], .error (.vcpu "restore: no saved state for vcpu 1")) := by
  rfl

end MicroMachines.Vmm
