import Mathlib.Data.Finset.Insert
import Mathlib.Logic.Function.Basic
import MicroMachines.Lib.Runs
import MicroMachines.Exec.Handler

set_option autoImplicit false

/-! # The reaper of orphans

The agent in the guest runs in the process with the id 1, which gets the children of processes that
have ended. `reap_forever` waits for these, and each `handle_exec` waits for its own child. A child can
be waited for once. So that the reaper does not take a child of `handle_exec`, there is a set of
the process ids that are claimed: the reaper looks at a child that has ended without taking it, looks
whether it is claimed, and takes it if not.

These are three steps, and so are a start of a child, its claim, and the end of the claim. In between
* a child can end before it is claimed,
* an id can be given to another child when the first one has been waited for; the claim of the first
  ends later, and that of the other one with it,
* and the same can happen to an id that the reaper has found not to be claimed.

`never_stolen` says that the reaper takes no child of `handle_exec` if none of this happens, and
`stolen` that it does if one of them happens.
-/

namespace MicroMachines.Exec.Reaping

open MicroMachines.Lib

/-! ## The processes and the threads -/

/-- A child of the process 1: one that a thread has started, or an orphan. It stays in the table when
it has ended, until it is waited for. -/
structure Proc where
  owner : Option Nat
  status : Option ExitStatus
  deriving DecidableEq, Repr

/-- A thread in `handle_exec`, and how its child has ended. -/
structure Thread where
  timeoutMs : UInt64
  pc : Pc
  pid : Nat
  own : Option ExitStatus
  deriving DecidableEq, Repr

/-- How far `reap_one_orphan` is. -/
inductive Reaper where
  | idle
  /-- The child has ended. -/
  | peeked (pid : Nat)
  /-- The id is not claimed. -/
  | unowned (pid : Nat)
  deriving DecidableEq, Repr

structure Guest where
  procs : Nat → Option Proc
  /-- `owned_children`. -/
  owned : Finset Nat
  threads : Nat → Thread
  reaper : Reaper

/-- Any number of requests. -/
def Guest.init (requests : Nat → List String × UInt64) : Guest where
  procs := fun _ => none
  owned := ∅
  threads := fun i => ⟨(requests i).2, .start (requests i).1, 0, none⟩
  reaper := .idle

inductive Action where
  /-- A thread starts its child, which gets a process id. -/
  | spawn (i pid : Nat)
  /-- Any other call of a thread. -/
  | call (i : Nat) (call : Call)
  /-- A child ends. -/
  | exit (pid : Nat) (status : ExitStatus)
  /-- The process 1 gets an orphan. -/
  | orphan (pid : Nat)
  | peek (pid : Nat)
  | check
  | reap
  deriving DecidableEq, Repr

/-- What `waitpid` finds. -/
inductive Found where
  | noChild
  | running
  | ended (status : ExitStatus)
  deriving DecidableEq, Repr

namespace Guest

def waitpid (g : Guest) (pid : Nat) : Found :=
  match g.procs pid with
  | none => .noChild
  | some ⟨_, none⟩ => .running
  | some ⟨_, some status⟩ => .ended status

/-- A child that has been waited for is no longer there. -/
def drop (g : Guest) (pid : Nat) : Guest := { g with procs := Function.update g.procs pid none }

def goto (g : Guest) (i : Nat) (pc : Pc) : Guest :=
  { g with threads := Function.update g.threads i { g.threads i with pc := pc } }

/-- A call of a thread, which goes on at `pc`. What it returns is what the table says. -/
def called (g : Guest) (i : Nat) (pc : Pc) : Call → Option Guest
  | .spawn true => none
  | .trackChild => some { g.goto i pc with owned := insert (g.threads i).pid g.owned }
  | .untrackChild => some { g.goto i pc with owned := g.owned.erase (g.threads i).pid }
  | .wait result =>
    match g.waitpid (g.threads i).pid with
    | .noChild => if result = none then some (g.goto i pc) else none
    | .running => none
    | .ended status =>
      if result = some status then some ((g.drop (g.threads i).pid).goto i pc) else none
  | .tryWait result =>
    match g.waitpid (g.threads i).pid with
    | .noChild => if result = .error () then some (g.goto i pc) else none
    | .running => if result = .ok none then some (g.goto i pc) else none
    | .ended status =>
      if result = .ok (some status) then some ((g.drop (g.threads i).pid).goto i pc) else none
  | _ => some (g.goto i pc)

def step (g : Guest) : Action → Option Guest
  | .spawn i pid =>
    match (g.threads i).pc.next (g.threads i).timeoutMs (.spawn true) with
    | none => none
    | some pc =>
      if g.procs pid = none then
        some { g with
          procs := Function.update g.procs pid (some ⟨some i, none⟩)
          threads := Function.update g.threads i { g.threads i with pc := pc, pid := pid } }
      else none
  | .call i call =>
    match (g.threads i).pc.next (g.threads i).timeoutMs call with
    | none => none
    | some pc => g.called i pc call
  | .exit pid status =>
    match g.procs pid with
    | some ⟨none, none⟩ =>
      some { g with procs := Function.update g.procs pid (some ⟨none, some status⟩) }
    | some ⟨some i, none⟩ =>
      some { g with
        procs := Function.update g.procs pid (some ⟨some i, some status⟩)
        threads := Function.update g.threads i { g.threads i with own := some status } }
    | _ => none
  | .orphan pid =>
    if g.procs pid = none then
      some { g with procs := Function.update g.procs pid (some ⟨none, none⟩) }
    else none
  | .peek pid =>
    match g.reaper, g.waitpid pid with
    | .idle, .ended _ => some { g with reaper := .peeked pid }
    | _, _ => none
  | .check =>
    match g.reaper with
    | .peeked pid =>
      some { g with reaper := if pid ∈ g.owned then .idle else .unowned pid }
    | _ => none
  | .reap =>
    match g.reaper with
    | .unowned pid =>
      match g.waitpid pid with
      | .ended _ => some { g.drop pid with reaper := .idle }
      | _ => some { g with reaper := .idle }
    | _ => none

end Guest

/-! ## The rules -/

/-- A call that has to do neither with the table nor with the claims. -/
def plain : Call → Bool
  | .spawn ok => !ok
  | .trackChild | .untrackChild | .wait _ | .tryWait _ => false
  | _ => true

/-- The steps, one rule for each thing that can happen. -/
inductive Moves (g : Guest) : Action → Guest → Prop where
  | spawned (i pid : Nat) (hpc : (g.threads i).pc = .spawning) (hfree : g.procs pid = none) :
      Moves g (.spawn i pid) { g with
        procs := Function.update g.procs pid (some ⟨some i, none⟩)
        threads := Function.update g.threads i { g.threads i with pc := .spawned, pid := pid } }
  | tracked (i : Nat) (hpc : (g.threads i).pc = .spawned) : Moves g (.call i .trackChild)
      { g.goto i .tracked with owned := insert (g.threads i).pid g.owned }
  | untracked (i : Nat) (pc : Pc)
      (hnext : Pc.Next (g.threads i).timeoutMs (g.threads i).pc .untrackChild pc) :
      Moves g (.call i .untrackChild)
        { g.goto i pc with owned := g.owned.erase (g.threads i).pid }
  /-- The child has ended, and the thread gets its status. -/
  | waited (i : Nat) (call : Call) (pc : Pc) (status : ExitStatus)
      (hfound : g.waitpid (g.threads i).pid = .ended status)
      (hnext : Pc.Next (g.threads i).timeoutMs (g.threads i).pc call pc)
      (hcall : call = .wait (some status) ∨ call = .tryWait (.ok (some status))) :
      Moves g (.call i call) ((g.drop (g.threads i).pid).goto i pc)
  /-- There is no such child. -/
  | noChild (i : Nat) (call : Call) (pc : Pc)
      (hfound : g.waitpid (g.threads i).pid = .noChild)
      (hnext : Pc.Next (g.threads i).timeoutMs (g.threads i).pc call pc)
      (hcall : call = .wait none ∨ call = .tryWait (.error ())) :
      Moves g (.call i call) (g.goto i pc)
  | notEnded (i : Nat) (hpc : (g.threads i).pc = .polling) :
      Moves g (.call i (.tryWait (.ok none))) (g.goto i .checking)
  | called (i : Nat) (call : Call) (pc : Pc) (hplain : plain call = true)
      (hnext : Pc.Next (g.threads i).timeoutMs (g.threads i).pc call pc) :
      Moves g (.call i call) (g.goto i pc)
  | orphanEnded (pid : Nat) (status : ExitStatus) (hproc : g.procs pid = some ⟨none, none⟩) :
      Moves g (.exit pid status)
        { g with procs := Function.update g.procs pid (some ⟨none, some status⟩) }
  | childEnded (pid i : Nat) (status : ExitStatus) (hproc : g.procs pid = some ⟨some i, none⟩) :
      Moves g (.exit pid status) { g with
        procs := Function.update g.procs pid (some ⟨some i, some status⟩)
        threads := Function.update g.threads i { g.threads i with own := some status } }
  | orphaned (pid : Nat) (hfree : g.procs pid = none) : Moves g (.orphan pid)
      { g with procs := Function.update g.procs pid (some ⟨none, none⟩) }
  | peeked (pid : Nat) (hreaper : g.reaper = .idle) :
      Moves g (.peek pid) { g with reaper := .peeked pid }
  | owned (pid : Nat) (hreaper : g.reaper = .peeked pid) (howned : pid ∈ g.owned) :
      Moves g .check { g with reaper := .idle }
  | notOwned (pid : Nat) (hreaper : g.reaper = .peeked pid) (howned : pid ∉ g.owned) :
      Moves g .check { g with reaper := .unowned pid }
  | reaped (pid : Nat) (hreaper : g.reaper = .unowned pid) :
      Moves g .reap { g.drop pid with reaper := .idle }
  | notReaped (pid : Nat) (hreaper : g.reaper = .unowned pid) :
      Moves g .reap { g with reaper := .idle }

variable {g : Guest}

theorem called_cases {g' : Guest} {i : Nat} {call : Call} {pc : Pc}
    (hnext : Pc.Next (g.threads i).timeoutMs (g.threads i).pc call pc)
    (h : g.called i pc call = some g') : Moves g (.call i call) g' := by
  cases call with
  | spawn ok =>
    cases ok with
    | true => cases h
    | false =>
      cases h
      exact .called i _ pc rfl hnext
  | trackChild =>
    cases h
    generalize hpc : (g.threads i).pc = pc₀ at hnext
    cases hnext
    exact .tracked i hpc
  | untrackChild =>
    cases h
    exact .untracked i pc hnext
  | wait result =>
    cases hfound : g.waitpid (g.threads i).pid with
    | noChild =>
      simp only [Guest.called, hfound] at h
      obtain ⟨rfl, rfl⟩ := Option.ite_some_none_eq_some.mp h
      exact .noChild i _ pc hfound hnext (Or.inl rfl)
    | running => simp [Guest.called, hfound] at h
    | ended status =>
      simp only [Guest.called, hfound] at h
      obtain ⟨rfl, rfl⟩ := Option.ite_some_none_eq_some.mp h
      exact .waited i _ pc status hfound hnext (Or.inl rfl)
  | tryWait result =>
    cases hfound : g.waitpid (g.threads i).pid with
    | noChild =>
      simp only [Guest.called, hfound] at h
      obtain ⟨rfl, rfl⟩ := Option.ite_some_none_eq_some.mp h
      exact .noChild i _ pc hfound hnext (Or.inr rfl)
    | running =>
      simp only [Guest.called, hfound] at h
      obtain ⟨rfl, rfl⟩ := Option.ite_some_none_eq_some.mp h
      generalize hpc : (g.threads i).pc = pc₀ at hnext
      cases hnext
      exact .notEnded i hpc
    | ended status =>
      simp only [Guest.called, hfound] at h
      obtain ⟨rfl, rfl⟩ := Option.ite_some_none_eq_some.mp h
      exact .waited i _ pc status hfound hnext (Or.inr rfl)
  | _ =>
    cases h
    exact .called i _ pc rfl hnext

/-- **Every step follows one of the rules.** -/
theorem step_cases {g' : Guest} {a : Action} (h : g.step a = some g') : Moves g a g' := by
  cases a with
  | spawn i pid =>
    cases hnext : (g.threads i).pc.next (g.threads i).timeoutMs (.spawn true) with
    | none => simp [Guest.step, hnext] at h
    | some pc =>
      simp only [Guest.step, hnext] at h
      obtain ⟨hfree, rfl⟩ := Option.ite_some_none_eq_some.mp h
      have hrule := Pc.next_cases hnext
      generalize hpc : (g.threads i).pc = pc₀ at hrule
      cases hrule
      exact .spawned i pid hpc hfree
  | call i call =>
    cases hnext : (g.threads i).pc.next (g.threads i).timeoutMs call with
    | none => simp [Guest.step, hnext] at h
    | some pc =>
      simp only [Guest.step, hnext] at h
      exact called_cases (Pc.next_cases hnext) h
  | exit pid status =>
    cases hproc : g.procs pid with
    | none => simp [Guest.step, hproc] at h
    | some proc =>
      obtain ⟨owner, ended⟩ := proc
      cases ended with
      | some _ => cases owner <;> simp [Guest.step, hproc] at h
      | none =>
        cases owner with
        | none =>
          simp only [Guest.step, hproc] at h
          cases h
          exact .orphanEnded pid status hproc
        | some i =>
          simp only [Guest.step, hproc] at h
          cases h
          exact .childEnded pid i status hproc
  | orphan pid =>
    obtain ⟨hfree, rfl⟩ := Option.ite_some_none_eq_some.mp h
    exact .orphaned pid hfree
  | peek pid =>
    cases hreaper : g.reaper with
    | idle =>
      cases hfound : g.waitpid pid with
      | ended status =>
        simp only [Guest.step, hreaper, hfound] at h
        cases h
        exact .peeked pid hreaper
      | _ => simp [Guest.step, hreaper, hfound] at h
    | _ => simp [Guest.step, hreaper] at h
  | check =>
    cases hreaper : g.reaper with
    | peeked pid =>
      simp only [Guest.step, hreaper] at h
      cases h
      by_cases howned : pid ∈ g.owned
      · rw [if_pos howned]
        exact .owned pid hreaper howned
      · rw [if_neg howned]
        exact .notOwned pid hreaper howned
    | _ => simp [Guest.step, hreaper] at h
  | reap =>
    cases hreaper : g.reaper with
    | unowned pid =>
      simp only [Guest.step, hreaper] at h
      cases hfound : g.waitpid pid with
      | ended status =>
        simp only [hfound] at h
        cases h
        exact .reaped pid hreaper
      | _ =>
        simp only [hfound] at h
        cases h
        exact .notReaped pid hreaper
    | _ => simp [Guest.step, hreaper] at h

/-! ## The invariant -/

/-- The thread has a child and has not waited for it. -/
def live : Pc → Bool
  | .spawned | .tracked | .cloneFailed | .abandoning | .polling | .checking | .killed => true
  | _ => false

/-- A code that may be reported: that of a command that could not be started, that of a command whose
time was over, or that of the child. -/
def Verdict (own : Option ExitStatus) (code : Int32) : Prop :=
  own = none ∧ code = SPAWN_FAILED_EXIT_CODE ∨ code = TIMEOUT_EXIT_CODE ∨
    ∃ status, own = some status ∧ code = reportedCode (some status) false

/-- What a thread knows of its child. -/
def Settled (own : Option ExitStatus) : Pc → Prop
  | .spawning => own = none
  | .joiningOut status timedOut => timedOut = true ∨ ∃ st, own = some st ∧ status = some st
  | .joiningErr status timedOut => timedOut = true ∨ ∃ st, own = some st ∧ status = some st
  | .untracking code => Verdict own code
  | .writing code => Verdict own code
  | .returned code => Verdict own code
  | _ => True

/-- Every child that a thread has not waited for is in the table and is claimed, and the reaper is not
about to take it. -/
structure Kept (g : Guest) : Prop where
  present : ∀ i, live (g.threads i).pc = true →
    g.procs (g.threads i).pid = some ⟨some i, (g.threads i).own⟩
  owner : ∀ pid i status, g.procs pid = some ⟨some i, status⟩ →
    live (g.threads i).pc = true ∧ (g.threads i).pid = pid
  claimed : ∀ i, live (g.threads i).pc = true → (g.threads i).pc ≠ .spawned →
    (g.threads i).pid ∈ g.owned
  spared : ∀ pid, g.reaper = .unowned pid → ∀ i status, g.procs pid ≠ some ⟨some i, status⟩
  settled : ∀ i, Settled (g.threads i).own (g.threads i).pc

/-- The thread whose child has a process id. -/
def Guest.ownerOf (g : Guest) (pid : Nat) : Option Nat := (g.procs pid).bind Proc.owner

/-- The thread whose child the reaper has looked at. -/
def Guest.peekedOwner (g : Guest) : Option Nat :=
  match g.reaper with
  | .peeked pid => g.ownerOf pid
  | _ => none

/-- The reaper does not look for the claim of a child that has not been claimed yet; no claim ends
while another child has the same id and is claimed; and no child gets an id that the reaper has found
not to be claimed. -/
def Careful (g : Guest) : Action → Prop
  | .check => ∀ i ∈ g.peekedOwner, (g.threads i).pc ≠ .spawned
  | .call i .untrackChild => ∀ j ∈ g.ownerOf (g.threads i).pid, (g.threads j).pc = .spawned
  | .spawn _ pid => g.reaper ≠ .unowned pid
  | _ => True

instance (g : Guest) : DecidablePred (Careful g) := fun a => by
  unfold Careful
  split <;> infer_instance

theorem kept_init (requests : Nat → List String × UInt64) : Kept (.init requests) := by
  have hstart : ∀ cmd, live (Pc.start cmd) = false ∧ Settled none (Pc.start cmd) := by
    intro cmd
    unfold Pc.start
    cases buildCommand cmd with
    | none => exact ⟨rfl, Or.inl ⟨rfl, rfl⟩⟩
    | some _ => exact ⟨rfl, rfl⟩
  refine ⟨?_, ?_, ?_, ?_, fun i => (hstart _).2⟩
  · intro i h
    exact absurd ((hstart _).1.symm.trans h) Bool.false_ne_true
  · intro pid i status h
    cases h
  · intro i h
    exact absurd ((hstart _).1.symm.trans h) Bool.false_ne_true
  · intro pid h
    cases h

namespace Kept

variable {g g' : Guest}

variable {i : Nat} {pc : Pc} {pid : Nat}

/-- A thread goes on. Claims may be made, and others may end. -/
theorem goto (h : Kept g) (hlive : live pc = live (g.threads i).pc)
    (hclaimed : live pc = true → (g.threads i).pid ∈ g'.owned)
    (hsettled : Settled (g.threads i).own pc) (hprocs : g'.procs = g.procs)
    (hthreads : g'.threads = Function.update g.threads i { g.threads i with pc := pc })
    (howned : ∀ j, j ≠ i → live (g.threads j).pc = true → (g.threads j).pc ≠ .spawned →
      (g.threads j).pid ∈ g'.owned)
    (hreaper : g'.reaper = g.reaper) : Kept g' := by
  refine ⟨?_, ?_, ?_, ?_, ?_⟩
  · rw [hthreads, hprocs, Function.forall_update_iff g.threads (p := fun j (t : Thread) =>
      live t.pc = true → g.procs t.pid = some ⟨some j, t.own⟩)]
    exact ⟨fun hl => h.present i (hlive.symm.trans hl), fun j _ => h.present j⟩
  · rw [hprocs, hthreads]
    intro pid j status hproc
    obtain ⟨hl, hpid⟩ := h.owner pid j status hproc
    by_cases hj : j = i
    · subst hj
      rw [Function.update_self]
      exact ⟨hlive.trans hl, hpid⟩
    · rw [Function.update_of_ne hj]
      exact ⟨hl, hpid⟩
  · rw [hthreads, Function.forall_update_iff g.threads (p := fun _ (t : Thread) =>
      live t.pc = true → t.pc ≠ .spawned → t.pid ∈ g'.owned)]
    exact ⟨fun hl _ => hclaimed hl, howned⟩
  · rw [hreaper, hprocs]
    exact h.spared
  · rw [hthreads, Function.forall_update_iff g.threads
      (p := fun _ (t : Thread) => Settled t.own t.pc)]
    exact ⟨hsettled, fun j _ => h.settled j⟩

/-- The table changes at an id that no child of a thread has or gets. -/
theorem procs (h : Kept g) {proc : Option Proc}
    (hbefore : ∀ i status, g.procs pid ≠ some ⟨some i, status⟩)
    (hafter : ∀ i status, proc ≠ some ⟨some i, status⟩)
    (hprocs : g'.procs = Function.update g.procs pid proc) (hthreads : g'.threads = g.threads)
    (howned : g'.owned = g.owned) (hreaper : g'.reaper = g.reaper ∨ g'.reaper = .idle) :
    Kept g' := by
  have hsame : ∀ p i status, g'.procs p = some ⟨some i, status⟩ ↔
      g.procs p = some ⟨some i, status⟩ := by
    intro p i status
    rw [hprocs]
    by_cases hp : p = pid
    · subst hp
      rw [Function.update_self]
      exact iff_of_false (hafter i status) (hbefore i status)
    · rw [Function.update_of_ne hp]
  refine ⟨?_, ?_, ?_, ?_, ?_⟩
  · rw [hthreads]
    exact fun i hl => (hsame _ i _).mpr (h.present i hl)
  · rw [hthreads]
    exact fun p i status hproc => h.owner p i status ((hsame p i status).mp hproc)
  · rw [hthreads, howned]
    exact h.claimed
  · intro p hp i status hproc
    rcases hreaper with hr | hr
    · exact h.spared p (hr ▸ hp) i status ((hsame p i status).mp hproc)
    · rw [hr] at hp
      cases hp
  · rw [hthreads]
    exact h.settled

/-- A thread changes, and the table with it at the id of its child. -/
theorem change (h : Kept g) {proc : Option Proc} {t : Thread}
    (hbefore : ∀ j status, g.procs pid = some ⟨some j, status⟩ → j = i)
    (hold : live (g.threads i).pc = true → (g.threads i).pid = pid)
    (hpresent : live t.pc = true → t.pid = pid ∧ proc = some ⟨some i, t.own⟩)
    (howner : ∀ j status, proc = some ⟨some j, status⟩ → j = i ∧ live t.pc = true ∧ t.pid = pid)
    (hclaimed : live t.pc = true → t.pc ≠ .spawned → t.pid ∈ g.owned)
    (hspared : g.reaper = .unowned pid → ∀ j status, proc ≠ some ⟨some j, status⟩)
    (hsettled : Settled t.own t.pc) : Kept { g with
      procs := Function.update g.procs pid proc, threads := Function.update g.threads i t } := by
  refine ⟨?_, ?_, ?_, ?_, ?_⟩
  · refine (Function.forall_update_iff g.threads (p := fun j (t : Thread) => live t.pc = true →
      Function.update g.procs pid proc t.pid = some ⟨some j, t.own⟩)).mpr ⟨?_, ?_⟩
    · intro hl
      obtain ⟨hpid, hproc⟩ := hpresent hl
      rw [hpid, Function.update_self, hproc]
    · intro j hj hl
      have hproc := h.present j hl
      rw [Function.update_of_ne, hproc]
      rintro heq
      exact hj (hbefore j _ (heq ▸ hproc))
  · intro p
    refine (Function.forall_update_iff g.threads (p := fun j (t : Thread) => ∀ status,
      Function.update g.procs pid proc p = some ⟨some j, status⟩ →
        live t.pc = true ∧ t.pid = p)).mpr ⟨?_, ?_⟩
    · intro status hproc
      by_cases hp : p = pid
      · subst hp
        rw [Function.update_self] at hproc
        exact (howner i status hproc).2
      · -- the old entry of this thread was at the id that has changed
        rw [Function.update_of_ne hp] at hproc
        obtain ⟨hl, hpid⟩ := h.owner p i status hproc
        exact absurd (hpid.symm.trans (hold hl)) hp
    · intro j hj status hproc
      by_cases hp : p = pid
      · subst hp
        rw [Function.update_self] at hproc
        exact absurd (howner j status hproc).1 hj
      · rw [Function.update_of_ne hp] at hproc
        exact h.owner p j status hproc
  · exact (Function.forall_update_iff g.threads (p := fun _ (t : Thread) =>
      live t.pc = true → t.pc ≠ .spawned → t.pid ∈ g.owned)).mpr ⟨hclaimed, fun j _ => h.claimed j⟩
  · intro p hp j status
    show Function.update g.procs pid proc p ≠ some ⟨some j, status⟩
    by_cases hpp : p = pid
    · subst hpp
      rw [Function.update_self]
      exact hspared hp j status
    · rw [Function.update_of_ne hpp]
      exact h.spared p hp j status
  · exact (Function.forall_update_iff g.threads
      (p := fun _ (t : Thread) => Settled t.own t.pc)).mpr ⟨hsettled, fun j _ => h.settled j⟩

/-- The child of a thread is known under its id, and no other child is. -/
theorem owner_unique (h : Kept g) (hlive : live (g.threads i).pc = true) {j : Nat}
    {status : Option ExitStatus} (hproc : g.procs (g.threads i).pid = some ⟨some j, status⟩) :
    j = i := by
  rw [h.present i hlive] at hproc
  have howner : some i = some j := congrArg Proc.owner (Option.some.inj hproc)
  exact (Option.some.inj howner).symm

/-- A thread starts a child. -/
theorem spawned (h : Kept g) (hpc : (g.threads i).pc = .spawning)
    (hfree : g.procs pid = none) (hreaper : g.reaper ≠ .unowned pid) : Kept { g with
      procs := Function.update g.procs pid (some ⟨some i, none⟩)
      threads := Function.update g.threads i { g.threads i with pc := .spawned, pid := pid } } := by
  have hown : (g.threads i).own = none := by
    have hsettled := h.settled i
    rwa [hpc] at hsettled
  apply h.change
  · simp [hfree]
  · intro hl
    rw [hpc] at hl
    cases hl
  · exact fun _ => ⟨rfl, by rw [hown]⟩
  · intro j status hproc
    have howner : some i = some j := congrArg Proc.owner (Option.some.inj hproc)
    exact ⟨(Option.some.inj howner).symm, rfl, rfl⟩
  · exact fun _ hne => absurd rfl hne
  · exact fun h => absurd h hreaper
  · trivial

/-- A thread waits for its child. -/
theorem waited (h : Kept g) (hbefore : live (g.threads i).pc = true)
    (hafter : live pc = false) (hsettled : Settled (g.threads i).own pc) :
    Kept ((g.drop (g.threads i).pid).goto i pc) := by
  have hdead : ¬ live pc = true := by simp [hafter]
  apply h.change
  · exact fun j status => h.owner_unique hbefore
  · exact fun _ => rfl
  · exact fun hl => absurd hl hdead
  · intro j status hproc
    cases hproc
  · exact fun hl => absurd hl hdead
  · intro _ j status hproc
    cases hproc
  · exact hsettled

/-- A child of a thread ends. -/
theorem childEnded (h : Kept g) {status : ExitStatus} (hproc : g.procs pid = some ⟨some i, none⟩) :
    Kept { g with
      procs := Function.update g.procs pid (some ⟨some i, some status⟩)
      threads := Function.update g.threads i { g.threads i with own := some status } } := by
  obtain ⟨hlive, rfl⟩ := h.owner pid i none hproc
  apply h.change
  · exact fun j st => h.owner_unique hlive
  · exact fun _ => rfl
  · exact fun _ => ⟨rfl, rfl⟩
  · intro j st hentry
    have howner : some i = some j := congrArg Proc.owner (Option.some.inj hentry)
    exact ⟨(Option.some.inj howner).symm, hlive, rfl⟩
  · exact h.claimed i
  · exact fun hreaper => absurd hproc (h.spared _ hreaper i none)
  · show Settled (some status) (g.threads i).pc
    cases hpc : (g.threads i).pc <;> rw [hpc] at hlive <;> trivial

/-- Only the reaper moves. -/
theorem frame (h : Kept g) {reaper : Reaper}
    (hspared : ∀ pid, reaper = .unowned pid → ∀ i status, g.procs pid ≠ some ⟨some i, status⟩) :
    Kept { g with reaper := reaper } :=
  ⟨h.present, h.owner, h.claimed, hspared, h.settled⟩

/-- A thread goes on with its child, or without one. -/
theorem called (h : Kept g) (hlive : live pc = live (g.threads i).pc)
    (hspawned : (g.threads i).pc ≠ .spawned) (hsettled : Settled (g.threads i).own pc) :
    Kept (g.goto i pc) := by
  refine h.goto hlive ?_ hsettled rfl rfl (fun j _ => h.claimed j) rfl
  exact fun hl => h.claimed i (hlive.symm.trans hl) hspawned

/-- **A step keeps the children of the threads.** -/
theorem step (h : Kept g) {a : Action} (hP : Careful g a) (hmoves : Moves g a g') : Kept g' := by
  cases hmoves with
  | spawned i pid hpc hfree => exact h.spawned hpc hfree hP
  | tracked i hpc =>
    refine h.goto ?_ (fun _ => Finset.mem_insert_self ..) ?_ rfl rfl ?_ rfl
    · rw [hpc]
      rfl
    · trivial
    · exact fun j _ hl hne => Finset.mem_insert_of_mem (h.claimed j hl hne)
  | untracked i pc hnext =>
    have hsettled := h.settled i
    have hkeep : live pc = live (g.threads i).pc ∧ live pc = false ∧
        Settled (g.threads i).own pc := by
      generalize (g.threads i).pc = pc₀ at hnext hsettled
      cases hnext with
      | forgotten => exact ⟨rfl, rfl, trivial⟩
      | untracked code => exact ⟨rfl, rfl, hsettled⟩
    refine h.goto hkeep.1 ?_ hkeep.2.2 rfl rfl ?_ rfl
    · intro hl
      exact absurd (hkeep.2.1.symm.trans hl) Bool.false_ne_true
    · -- the claim that ends is not that of another child, since no claimed child has the same id
      intro j _ hl hne
      refine Finset.mem_erase.mpr ⟨?_, h.claimed j hl hne⟩
      intro heq
      have hproc := h.present j hl
      rw [heq] at hproc
      exact hne (hP j (by simp [Guest.ownerOf, hproc]))
  | waited i call pc status hfound hnext hcall =>
    -- what the table has under the id is the thread's own child
    have hchild : live (g.threads i).pc = true → (g.threads i).own = some status := by
      intro hl
      have hfound' := hfound
      unfold Guest.waitpid at hfound'
      rw [h.present i hl] at hfound'
      cases hown : (g.threads i).own with
      | none => simp [hown] at hfound'
      | some st => simpa [hown] using hfound'
    have hkeep : live (g.threads i).pc = true ∧ live pc = false ∧
        ((g.threads i).own = some status → Settled (g.threads i).own pc) := by
      generalize (g.threads i).pc = pc₀ at hnext
      rcases hcall with rfl | rfl
      · cases hnext with
        | reaped _ => exact ⟨rfl, rfl, fun _ => trivial⟩
        | waited _ => exact ⟨rfl, rfl, fun _ => Or.inl rfl⟩
      · cases hnext with
        | ended _ => exact ⟨rfl, rfl, fun hown => Or.inr ⟨status, hown, rfl⟩⟩
    exact h.waited hkeep.1 hkeep.2.1 (hkeep.2.2 (hchild hkeep.1))
  | noChild i call pc hfound hnext hcall =>
    -- a thread that waits has its child in the table
    have hlive : live (g.threads i).pc = true := by
      generalize (g.threads i).pc = pc₀ at hnext
      rcases hcall with rfl | rfl
      · cases hnext <;> rfl
      · cases hnext
        rfl
    unfold Guest.waitpid at hfound
    rw [h.present i hlive] at hfound
    cases hown : (g.threads i).own <;> simp [hown] at hfound
  | notEnded i hpc => exact h.called (by rw [hpc]; rfl) (by simp [hpc]) trivial
  | called i call pc hplain hnext =>
    have hsettled := h.settled i
    have hkeep : live pc = live (g.threads i).pc ∧ (g.threads i).pc ≠ .spawned ∧
        Settled (g.threads i).own pc := by
      generalize (g.threads i).pc = pc₀ at hnext hsettled
      -- the calls that have rules of their own come first
      cases hnext with
      | spawned | tracked | forgotten | untracked _ | reaped _ | ended _ | notEnded |
        waitFailed | waited _ => cases hplain
      | notSpawned => exact ⟨rfl, Pc.noConfusion, Or.inl ⟨hsettled, rfl⟩⟩
      | joinedOut status timedOut | sent code => exact ⟨rfl, Pc.noConfusion, hsettled⟩
      | joinedErr status timedOut =>
        refine ⟨rfl, Pc.noConfusion, ?_⟩
        rcases hsettled with rfl | ⟨st, hown, rfl⟩
        · exact Or.inr (Or.inl rfl)
        · cases timedOut with
          | true => exact Or.inr (Or.inl rfl)
          | false => exact Or.inr (Or.inr ⟨st, hown, rfl⟩)
      | _ => exact ⟨rfl, Pc.noConfusion, trivial⟩
    exact h.called hkeep.1 hkeep.2.1 hkeep.2.2
  | orphanEnded pid status hproc | orphaned pid hproc =>
    refine h.procs ?_ ?_ rfl rfl rfl (Or.inl rfl)
    · simp [hproc]
    · simp
  | childEnded pid i status hproc => exact h.childEnded hproc
  | peeked pid _ | owned pid _ _ | notReaped pid _ =>
    apply h.frame
    intro p hp
    cases hp
  | notOwned pid hreaper howned =>
    apply h.frame
    intro p hp i status hproc
    obtain rfl := Reaper.unowned.inj hp
    -- a child that is past `track_child` is claimed, and the check would have found the claim
    obtain ⟨hl, hpid⟩ := h.owner pid i status hproc
    have hne : (g.threads i).pc ≠ .spawned := by
      apply hP i
      simp [Guest.peekedOwner, hreaper, Guest.ownerOf, hproc]
    exact howned (hpid ▸ h.claimed i hl hne)
  | reaped pid hreaper =>
    refine h.procs (h.spared pid hreaper) ?_ rfl rfl rfl (Or.inr rfl)
    simp

end Kept

/-! ## The result -/

/-- The next `waitpid` of the reaper is for a child that a thread has started and not waited for. -/
def Guest.Steals (g : Guest) : Prop :=
  ∃ pid i status, g.reaper = .unowned pid ∧ g.procs pid = some ⟨some i, status⟩

/-- **The reaper takes no child of `handle_exec`**, in a run that is careful. The code that a thread
reports is that of its child, unless the command could not be started or its time was over. -/
theorem never_stolen {requests : Nat → List String × UInt64} {as : List Action}
    (hcareful : Meets Guest.step Careful (.init requests) as)
    (hrun : run Guest.step (.init requests) as = some g) : ¬ g.Steals ∧
      ∀ i code, (g.threads i).pc = .returned code → Verdict (g.threads i).own code := by
  have hinv : Kept g := run_invariant Kept
    (fun s a s' h hP hstep => h.step hP (step_cases hstep)) as _ g
    (kept_init requests) hcareful hrun
  refine ⟨?_, ?_⟩
  · rintro ⟨pid, i, status, hreaper, hproc⟩
    exact hinv.spared pid hreaper i status hproc
  · intro i code hpc
    have hsettled := hinv.settled i
    rwa [hpc] at hsettled

/-! ### Runs -/

/-- Every request is for the same command. -/
def sameCommand : Nat → List String × UInt64 := fun _ => (["true"], 0)

/-- What a thread does after it has claimed its child, if its wait gives `result`. -/
def finishing (i : Nat) (result : Except Unit (Option ExitStatus)) : List Action :=
  [.call i (.tryClone true), .call i (.tryWait result), .call i (.join .stdout),
    .call i (.join .stderr)]

/-- A child ends, and so does an orphan. The reaper leaves the one alone and takes the other. -/
def careful : List Action :=
  ([.spawn 0 7, .call 0 .trackChild, .exit 7 (.exited 3), .peek 7, .check, .orphan 8,
    .exit 8 (.exited 0), .peek 8, .check, .reap] : List Action) ++
  finishing 0 (.ok (some (.exited 3))) ++ ([.call 0 .untrackChild, .call 0 .send] : List Action)

theorem never_stolen_careful :
    ∃ g, run Guest.step (.init sameCommand) careful = some g ∧ (g.threads 0).pc = .returned 3 ∧
      ¬ g.Steals ∧ Verdict (g.threads 0).own 3 := by
  have hcareful : Meets Guest.step Careful (.init sameCommand) careful := by decide
  obtain ⟨g, hrun⟩ : ∃ g, run Guest.step (.init sameCommand) careful = some g :=
    Option.isSome_iff_exists.mp (by decide)
  have hend : (run Guest.step (.init sameCommand) careful).map (fun g => (g.threads 0).pc) =
      some (.returned 3) := by decide
  rw [hrun] at hend
  have hpc : (g.threads 0).pc = .returned 3 := Option.some.inj hend
  obtain ⟨hsteals, hcodes⟩ := never_stolen hcareful hrun
  exact ⟨g, hrun, hpc, hsteals, hcodes 0 3 hpc⟩

/-- The child ends before it is claimed. -/
def unclaimed : List Action :=
  ([.spawn 0 7, .exit 7 (.exited 0), .peek 7, .check, .reap, .call 0 .trackChild] : List Action) ++
  finishing 0 (.error ()) ++ ([.call 0 .untrackChild, .call 0 .send] : List Action)

/-- A second child gets the id of the first one, and loses its claim when that of the first ends. -/
def reused : List Action :=
  ([.spawn 1 7, .call 1 .trackChild, .exit 7 (.exited 0)] : List Action) ++
  finishing 1 (.ok (some (.exited 0))) ++
  ([.spawn 0 7, .call 0 .trackChild, .call 1 .untrackChild, .exit 7 (.exited 0), .peek 7, .check,
    .reap] : List Action) ++
  finishing 0 (.error ()) ++ ([.call 0 .untrackChild, .call 0 .send] : List Action)

/-- The reaper has looked at the first child, which is then waited for; the second child gets its id
when the reaper has found that it is not claimed. -/
def outrun : List Action :=
  ([.spawn 1 7, .call 1 .trackChild, .exit 7 (.exited 0), .peek 7] : List Action) ++
  finishing 1 (.ok (some (.exited 0))) ++
  ([.call 1 .untrackChild, .check, .spawn 0 7, .exit 7 (.exited 0), .reap, .call 0 .trackChild] : List Action) ++
  finishing 0 (.error ()) ++ ([.call 0 .untrackChild, .call 0 .send] : List Action)

/-- In each of these runs the child of the thread 0 has ended with 0, the reaper has taken it, and the
thread reports -1. -/
theorem stolen : [unclaimed, reused, outrun].map (fun as =>
        (run Guest.step (.init sameCommand) as).map (fun g =>
          ((g.threads 0).own, (g.threads 0).pc))) =
      List.replicate 3 (some (some (.exited 0), .returned (-1))) := by
  decide

end MicroMachines.Exec.Reaping
