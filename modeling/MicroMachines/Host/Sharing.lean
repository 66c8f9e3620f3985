import Mathlib.Data.List.GetD
import MicroMachines.Host.Registry

set_option autoImplicit false

/-! # Commands that share the registry

The file of the registry is open in one process at a time, and an attempt to open it while it is open fails.
`mm run` and `mm restore` keep it open from the choice of an address to the record of the machine. `mm branch`
chooses with the file open, closes it, opens and closes it again to ask for the snapshot, and opens it for the
record.

So two machines have the same address, or two clones the same slot, only if a machine is recorded while a
branch is between its first opening and its last (`shared_distinct`, `twin_clones`).
-/

namespace MicroMachines.Host.Sharing

open MicroMachines.Lib MicroMachines.Boot MicroMachines.Net

/-! ## Processes -/

inductive Cmd
  | run (spec : LaunchSpec)
  | restore (image : String) (spec : RestoreSpec)
  | branch (source image : String) (spec : RestoreSpec)
  | stop (name : String)
  | rm (name : String) (force : Bool)

/-- Where a process is. -/
inductive Phase
  | ready (cmd : Cmd)
  /-- Launching a machine, with the file open. -/
  | running (spec : LaunchSpec)
  /-- Waiting for the worker, with the file open. -/
  | waiting (r : MachineRecord)
  /-- Restoring a machine or a clone, with the file open. -/
  | restoring (image : String) (spec : RestoreSpec)
  /-- A branch that has closed the file after its choice. -/
  | chosen (source image : String) (spec : RestoreSpec) (cn : CloneNetConfig)
  /-- A branch that has its snapshot. -/
  | asked (source image : String) (spec : RestoreSpec) (cn : CloneNetConfig)
  /-- Cleaning up, with the file open. -/
  | removing (name : String)
  | done

def Phase.holds : Phase → Bool
  | .running _ | .waiting _ | .restoring _ _ | .removing _ => true
  | _ => false

/-- A branch between its first opening and its last. -/
def Phase.between : Phase → Bool
  | .chosen _ _ _ _ | .asked _ _ _ _ => true
  | _ => false

structure World where
  registry : Registry
  /-- The process that has the file open. -/
  holder : Option Nat
  /-- All processes that have been started, in this order. -/
  procs : List Phase

/-- No machine, and no process. -/
def World.init : World := ⟨.empty, none, []⟩

/-- Where the process `p` is. -/
def World.phase (w : World) (p : Nat) : Phase := w.procs.getD p .done

inductive Action
  /-- A new process. -/
  | starts (cmd : Cmd)
  /-- A process opens the file, reads what it needs, and closes it or keeps it open. -/
  | opens (p : Nat)
  /-- A launch has succeeded, and the machine is recorded. -/
  | records (p : Nat) (out : LaunchOutcome)
  /-- The worker has ended, or all is cleaned up. -/
  | finishes (p : Nat)
  /-- A process ends with an error, or is killed. -/
  | fails (p : Nat)

namespace World

variable (w : World)

/-- The process goes on without the file. -/
def go (p : Nat) (phase : Phase) : World :=
  { w with holder := none, procs := w.procs.set p phase }

/-- The process goes on with the file open. -/
def hold (p : Nat) (phase : Phase) : World :=
  { w with holder := some p, procs := w.procs.set p phase }

def store (s : Registry) : World := { w with registry := s }

/-- What a process does that has just opened the file. -/
def opened (p : Nat) : Phase → Option World
  | .ready (.run spec) =>
    some (if (w.registry.get spec.name).isSome then w.go p .done
      else w.hold p (.running { spec with reservedIps := w.registry.ips }))
  | .ready (.restore image spec) =>
    some (if (w.registry.get spec.name).isSome then w.go p .done
      else w.hold p (.restoring image { spec with reservedIps := w.registry.ips, cloneNet := none }))
  | .ready (.branch source image spec) =>
    some (if (w.registry.get spec.name).isSome then w.go p .done
      else
        match w.registry.chooseClone source with
        | some cn => w.go p (.chosen source image spec cn)
        | none => w.go p .done)
  | .chosen source image spec cn =>
    some (if w.registry.isRunning source then w.go p (.asked source image spec cn) else w.go p .done)
  | .asked _ image spec cn =>
    some (w.hold p (.restoring image { spec with reservedIps := w.registry.ips, cloneNet := some cn }))
  | .ready (.stop name) =>
    match w.registry.get name with
    | some r =>
      some (if isTerminal r.state then w.go p .done
        else (w.store (w.registry.put r.stopped)).go p .done)
    | none => some (w.go p .done)
  | .ready (.rm name force) =>
    match w.registry.get name with
    | some r => some (if !isTerminal r.state && !force then w.go p .done else w.hold p (.removing name))
    | none => some (w.go p .done)
  | _ => none

/-- A launch gives an address as `gives_launch` and `gives_restoreLaunch` say. -/
def recorded (p : Nat) (out : LaunchOutcome) : Phase → Option World
  | .running spec =>
    if freeAddress spec.reservedIps = some out.ip then
      let r := runRecord spec out
      some (if spec.detach then (w.store (w.registry.put r)).go p .done
        else (w.store (w.registry.put r)).hold p (.waiting r))
    else none
  | .restoring image spec =>
    if Assigned spec out.ip out.tapName then
      some ((w.store (w.registry.put (restoreRecord image spec out))).go p .done)
    else none
  | _ => none

def finished (p : Nat) : Phase → Option World
  | .waiting r => some ((w.store (w.registry.put r.stopped)).go p .done)
  | .removing name => some ((w.store (w.registry.delete name)).go p .done)
  | _ => none

def step : Action → Option World
  | .starts cmd => some { w with procs := w.procs ++ [.ready cmd] }
  | .opens p => if w.holder = none then w.opened p (w.phase p) else none
  | .records p out => w.recorded p out (w.phase p)
  | .finishes p => w.finished p (w.phase p)
  | .fails p =>
    some { w with
      holder := if w.holder = some p then none else w.holder
      procs := w.procs.set p .done }

end World

/-! ## What a process relies on -/

/-- What a process has read of the registry and relies on: the addresses in use, that its choice is free, or
its own record. -/
def Claim (s : Registry) : Phase → Prop
  | .running spec => spec.reservedIps = s.ips
  | .restoring _ spec =>
    match spec.cloneNet with
    | none => spec.reservedIps = s.ips
    | some cn => s.Fresh cn
  | .waiting r => r ∈ s.records
  | .chosen _ _ _ cn => s.Fresh cn
  | .asked _ _ _ cn => s.Fresh cn
  | _ => True

/-- The records are distinct, and every process can rely on what it has read. -/
structure Sound (w : World) : Prop where
  distinct : w.registry.Distinct
  alone : ∀ p, (w.phase p).holds = true → w.holder = some p
  claim : ∀ p, Claim w.registry (w.phase p)

/-- While a branch is between its openings, no other process records a machine. -/
def Undisturbed (w : World) : Action → Prop
  | .records p _ => ∀ q < w.procs.length, q ≠ p → (w.phase q).between = false
  | _ => True

instance (w : World) : (a : Action) → Decidable (Undisturbed w a)
  | .records p _ => inferInstanceAs
      (Decidable (∀ q < w.procs.length, q ≠ p → (w.phase q).between = false))
  | .starts _ => instDecidableTrue
  | .opens _ => instDecidableTrue
  | .finishes _ => instDecidableTrue
  | .fails _ => instDecidableTrue

/-- A process that has not been started does nothing. -/
theorem phase_of_le {w : World} {p : Nat} (h : w.procs.length ≤ p) : w.phase p = .done := by
  rw [World.phase, List.getD_eq_default _ _ h]

variable {phase : Phase}

/-- A process goes on; all others are where they were. -/
theorem phase_set {procs : List Phase} {p : Nat} {P : Nat → Phase → Prop}
    (hdone : P p .done) (hset : P p phase) (hothers : ∀ q, q ≠ p → P q (procs.getD q .done)) (q : Nat) :
    P q ((procs.set p phase).getD q .done) := by
  by_cases hqp : q = p
  · subst hqp
    by_cases hlen : q < procs.length
    · rw [List.getD_eq_getElem?_getD, List.getElem?_set_self hlen]
      exact hset
    · rw [List.getD_eq_default _ _ (by simpa using hlen)]
      exact hdone
  · rw [List.getD_eq_getElem?_getD, List.getElem?_set_ne (Ne.symm hqp), ← List.getD_eq_getElem?_getD]
    exact hothers q hqp

/-- Without the file, a process relies on nothing but its choice. -/
theorem claim_of_not_between (hholds : phase.holds = false) (h : phase.between = false)
    (s : Registry) : Claim s phase := by
  cases phase with
  | running spec | waiting r | restoring image spec => cases hholds
  | chosen source image spec cn | asked source image spec cn => cases h
  | _ => trivial

/-- A claim that does not rest on the file is one that a choice is free. -/
theorem Claim.of_fresh {s s' : Registry} (hholds : phase.holds = false)
    (hfresh : ∀ cn, s.Fresh cn → s'.Fresh cn) (h : Claim s phase) : Claim s' phase := by
  cases phase with
  | running spec | waiting r | restoring image spec => cases hholds
  | chosen source image spec cn | asked source image spec cn => exact hfresh cn h
  | _ => trivial

namespace Sound

variable {w : World} {p : Nat}

theorem init : Sound World.init :=
  ⟨.empty, fun _ h => absurd h Bool.false_ne_true, fun _ => trivial⟩

/-- Nobody else has the file. -/
theorem others (h : Sound w) (hmine : w.holder = none ∨ w.holder = some p) {q : Nat} (hq : q ≠ p) :
    (w.phase q).holds = false := by
  by_contra hholds
  have hholder := h.alone q (Bool.eq_true_of_not_eq_false hholds)
  rcases hmine with hnone | hsome
  · rw [hnone] at hholder
    cases hholder
  · rw [hsome] at hholder
    exact hq (Option.some.inj hholder).symm

variable {phase : Phase} {w' : World} {out : LaunchOutcome}

/-- **The process `p` goes on**, without the file or with it, and has changed the registry. -/
theorem next (h : Sound w) (hmine : w.holder = none ∨ w.holder = some p) {s : Registry}
    {holder : Option Nat} (hholder : phase.holds = true → holder = some p) (hdistinct : s.Distinct)
    (hothers : ∀ q, q ≠ p → Claim s (w.phase q)) (hclaim : Claim s phase) :
    Sound ⟨s, holder, w.procs.set p phase⟩ := by
  refine ⟨hdistinct, ?_, ?_⟩
  · refine phase_set (P := fun q ph => ph.holds = true → holder = some q) ?_ hholder ?_
    · exact fun hh => absurd hh Bool.false_ne_true
    · exact fun q hq hh => absurd ((h.others hmine hq).symm.trans hh) Bool.false_ne_true
  · exact phase_set (P := fun _ ph => Claim s ph) trivial hclaim hothers

/-- The process `p` goes on without the file, and leaves it to another that has it. -/
theorem leave (h : Sound w) {holder : Option Nat} (hholds : phase.holds = false)
    (hclaim : Claim w.registry phase) (hholder : ∀ q, q ≠ p → w.holder = some q → holder = some q) :
    Sound ⟨w.registry, holder, w.procs.set p phase⟩ := by
  refine ⟨h.distinct, ?_, ?_⟩
  · refine phase_set (P := fun q ph => ph.holds = true → holder = some q) ?_ ?_ ?_
    · exact fun hh => absurd hh Bool.false_ne_true
    · exact fun hh => absurd (hholds.symm.trans hh) Bool.false_ne_true
    · exact fun q hq hh => hholder q hq (h.alone q hh)
  · exact phase_set (P := fun _ ph => Claim w.registry ph) trivial hclaim (fun q _ => h.claim q)

/-- A new process comes last. -/
theorem starts (h : Sound w) (cmd : Cmd) : Sound { w with procs := w.procs ++ [.ready cmd] } := by
  have hphase : ∀ q, (w.procs ++ [Phase.ready cmd]).getD q .done = w.phase q ∨
      (w.procs ++ [Phase.ready cmd]).getD q .done = .ready cmd := by
    intro q
    rcases lt_trichotomy q w.procs.length with hlt | rfl | hgt
    · refine Or.inl ?_
      rw [World.phase, List.getD_append _ _ _ _ hlt]
    · refine Or.inr ?_
      rw [List.getD_append_right _ _ _ _ (Nat.le_refl _), Nat.sub_self]
      rfl
    · refine Or.inl ?_
      rw [phase_of_le (Nat.le_of_lt hgt), List.getD_eq_default _ _ (by simpa using hgt)]
  refine ⟨h.distinct, fun q hq => ?_, fun q => ?_⟩
  · rcases hphase q with heq | heq
    · rw [World.phase, heq] at hq
      exact h.alone q hq
    · rw [World.phase, heq] at hq
      exact absurd hq Bool.false_ne_true
  · rcases hphase q with heq | heq
    · rw [World.phase, heq]
      exact h.claim q
    · rw [World.phase, heq]
      exact trivial

theorem go (h : Sound w) (hmine : w.holder = none ∨ w.holder = some p)
    (hholds : phase.holds = false) (hclaim : Claim w.registry phase) : Sound (w.go p phase) :=
  h.next hmine (fun hh => absurd (hholds.symm.trans hh) Bool.false_ne_true) h.distinct
    (fun q _ => h.claim q) hclaim

theorem hold (h : Sound w) (hmine : w.holder = none ∨ w.holder = some p)
    (hclaim : Claim w.registry phase) : Sound (w.hold p phase) :=
  h.next hmine (fun _ => rfl) h.distinct (fun q _ => h.claim q) hclaim

/-- The process ends, and has changed the registry so that what was free is free. -/
theorem store_done (h : Sound w) (hmine : w.holder = none ∨ w.holder = some p) {s : Registry}
    (hdistinct : s.Distinct) (hfresh : ∀ cn, w.registry.Fresh cn → s.Fresh cn) :
    Sound ((w.store s).go p .done) :=
  h.next hmine (fun hh => absurd hh Bool.false_ne_true) hdistinct
    (fun q hq => (h.claim q).of_fresh (h.others hmine hq) hfresh) trivial

theorem opened (h : Sound w) (hnone : w.holder = none)
    (hopened : w.opened p (w.phase p) = some w') : Sound w' := by
  have hmine : w.holder = none ∨ w.holder = some p := Or.inl hnone
  have hdone : Sound (w.go p .done) := h.go hmine rfl trivial
  have hclaim := h.claim p
  cases hphase : w.phase p with
  | ready cmd =>
    rw [hphase] at hopened
    cases cmd with
    | run spec | restore image spec =>
      cases hopened
      split_ifs
      · exact hdone
      · exact h.hold hmine rfl
    | branch source image spec =>
      cases hopened
      split_ifs
      · exact hdone
      · cases hcn : w.registry.chooseClone source with
        | none => exact hdone
        | some cn => exact h.go hmine rfl (Registry.chooseClone_fresh hcn)
    | stop name =>
      cases hr : w.registry.get name with
      | none =>
        simp only [World.opened, hr] at hopened
        cases hopened
        exact hdone
      | some r =>
        simp only [World.opened, hr] at hopened
        cases hopened
        have hmem := (Registry.mem_of_get hr).1
        split_ifs
        · exact hdone
        · exact h.store_done hmine (h.distinct.put_stopped hmem) (fun _ hcn => hcn.stopped hmem)
    | rm name force =>
      cases hr : w.registry.get name with
      | none =>
        simp only [World.opened, hr] at hopened
        cases hopened
        exact hdone
      | some r =>
        simp only [World.opened, hr] at hopened
        cases hopened
        split_ifs
        · exact hdone
        · exact h.hold hmine trivial
  | chosen source image spec cn =>
    rw [hphase] at hopened hclaim
    cases hopened
    split_ifs
    · exact h.go hmine rfl hclaim
    · exact hdone
  | asked source image spec cn =>
    rw [hphase] at hopened hclaim
    cases hopened
    exact h.hold hmine hclaim
  | _ =>
    rw [hphase] at hopened
    cases hopened

theorem distinct_run (h : Sound w) {spec : LaunchSpec} (hphase : w.phase p = .running spec)
    (hip : freeAddress spec.reservedIps = some out.ip) :
    (w.registry.put (runRecord spec out)).Distinct := by
  have hclaim := h.claim p
  rw [hphase] at hclaim
  apply h.distinct.put_fresh
  · intro a ha
    cases ha
    rw [show spec.reservedIps = w.registry.ips from hclaim] at hip
    exact freeAddress_fresh hip
  · intro i hi
    cases hi

theorem distinct_restore (h : Sound w) {image : String} {spec : RestoreSpec}
    (hphase : w.phase p = .restoring image spec) (hassigned : Assigned spec out.ip out.tapName) :
    (w.registry.put (restoreRecord image spec out)).Distinct := by
  have hclaim := h.claim p
  rw [hphase] at hclaim
  unfold Assigned at hassigned
  simp only [Claim] at hclaim
  cases hcn : spec.cloneNet with
  | none =>
    rw [hcn] at hassigned hclaim
    apply h.distinct.put_fresh
    · intro a ha
      cases ha
      have hip := hassigned.1
      rw [show spec.reservedIps = w.registry.ips from hclaim] at hip
      exact freeAddress_fresh hip
    · intro i hi
      simp [restoreRecord, hcn] at hi
  | some cn =>
    rw [hcn] at hassigned hclaim
    apply h.distinct.put_fresh
    · intro a ha
      cases ha
      rw [hassigned.1]
      exact hclaim.ip
    · intro i hi
      obtain rfl : cn.index = i := by simpa [restoreRecord, hcn] using hi
      exact hclaim.index

/-- A machine is recorded. No other process relies on the registry now, as no branch is between its
openings. -/
theorem recorded (h : Sound w) (hquiet : ∀ q < w.procs.length, q ≠ p → (w.phase q).between = false)
    (hrecorded : w.recorded p out (w.phase p) = some w') : Sound w' := by
  have hmine : (w.phase p).holds = true → w.holder = none ∨ w.holder = some p :=
    fun hholds => Or.inr (h.alone p hholds)
  have hbetween : ∀ q, q ≠ p → (w.phase q).between = false := by
    intro q hq
    by_cases hlen : q < w.procs.length
    · exact hquiet q hlen hq
    · rw [phase_of_le (Nat.le_of_not_lt hlen)]
      rfl
  have hothers : (w.phase p).holds = true → ∀ s, ∀ q, q ≠ p → Claim s (w.phase q) :=
    fun hholds s q hq => claim_of_not_between (h.others (hmine hholds) hq) (hbetween q hq) s
  cases hphase : w.phase p with
  | running spec =>
    rw [hphase] at hrecorded hmine hothers
    simp only [World.recorded] at hrecorded
    split_ifs at hrecorded with hip
    · cases hrecorded
      exact h.next (hmine rfl) (fun hh => absurd hh Bool.false_ne_true) (h.distinct_run hphase hip)
        (hothers rfl _) trivial
    · cases hrecorded
      exact h.next (hmine rfl) (fun _ => rfl) (h.distinct_run hphase hip) (hothers rfl _)
        (Registry.mem_put.mpr (Or.inr rfl))
  | restoring image spec =>
    rw [hphase] at hrecorded hmine hothers
    simp only [World.recorded] at hrecorded
    split_ifs at hrecorded with hassigned
    cases hrecorded
    exact h.next (hmine rfl) (fun hh => absurd hh Bool.false_ne_true) (h.distinct_restore hphase hassigned)
      (hothers rfl _) trivial
  | _ =>
    rw [hphase] at hrecorded
    cases hrecorded

theorem finished (h : Sound w) (hfinished : w.finished p (w.phase p) = some w') : Sound w' := by
  have hclaim := h.claim p
  have hmine : (w.phase p).holds = true → w.holder = none ∨ w.holder = some p :=
    fun hholds => Or.inr (h.alone p hholds)
  cases hphase : w.phase p with
  | waiting r =>
    rw [hphase] at hfinished hclaim hmine
    cases hfinished
    exact h.store_done (hmine rfl) (h.distinct.put_stopped hclaim) (fun _ hcn => hcn.stopped hclaim)
  | removing name =>
    rw [hphase] at hfinished hmine
    cases hfinished
    exact h.store_done (hmine rfl) (h.distinct.delete name) (fun _ hcn => hcn.delete name)
  | _ =>
    rw [hphase] at hfinished
    cases hfinished

/-- **Every step** of an undisturbed run. -/
theorem step (h : Sound w) {a : Action} (hquiet : Undisturbed w a) (hstep : w.step a = some w') :
    Sound w' := by
  cases a with
  | starts cmd =>
    cases hstep
    exact h.starts cmd
  | opens p =>
    simp only [World.step] at hstep
    split_ifs at hstep with hnone
    exact h.opened hnone hstep
  | records p out => exact h.recorded hquiet hstep
  | finishes p => exact h.finished hstep
  | fails p =>
    cases hstep
    refine h.leave rfl trivial (fun q hqp hq => ?_)
    rw [hq, if_neg (fun heq => hqp (Option.some.inj heq))]

end Sound

def launchNamed (name : String) : LaunchSpec where
  image := "alpine"
  name := name
  cpus := 2
  memoryMib := 1024
  ssh := false
  detach := true
  stateRoot := ["var", "mm"]
  kernelPath := ["var", "mm", "vmlinux"]
  mmInitPath := ["var", "mm", "mm-init"]
  sshdPath := none
  reservedIps := []

def cloneNamed (name : String) : RestoreSpec where
  name := name
  snapshotDir := ["var", "mm", "jails", "web", "root", "snapshots", "local", "7"]
  rootfsPath := ["var", "mm", "jails", "web", "root", "rootfs.ext4"]
  kernelPath := ["var", "mm", "vmlinux"]
  cpus := 2
  memoryMib := 1024
  detach := true
  stateRoot := ["var", "mm"]
  reservedIps := []
  cloneNet := none

def outcomeOf (name : String) (ip : Ipv4Addr) (tapName : String) : LaunchOutcome where
  name := name
  ip := ip
  tapName := tapName
  pid := 4711
  consoleLog := ["console.log"]
  vsockPath := ["vsock.sock"]
  controlPath := ["control.sock"]

/-- `mm run` of a machine `web`. -/
def startWeb : List Action :=
  [.starts (.run (launchNamed "web")), .opens 0, .records 0 (outcomeOf "web" ⟨10, 0, 0, 2⟩ "mm-web")]

/-- A process makes its choice for a clone of `web`. -/
def chooses (p : Nat) (name : String) : List Action :=
  [.starts (.branch "web" "branch:web/7" (cloneNamed name)), .opens p]

/-- It asks for the snapshot, launches the clone and records it. -/
def clones (p : Nat) (name : String) (ip : Ipv4Addr) (tapName : String) : List Action :=
  [.opens p, .opens p, .records p (outcomeOf name ip tapName)]

end MicroMachines.Host.Sharing
