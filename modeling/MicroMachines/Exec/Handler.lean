import MicroMachines.Exec.Protocol

set_option autoImplicit false

/-! # A command in the guest

`handle_exec` of `crates/mm-init/src/exec_agent.rs`, as the calls that its thread makes one after the
other (`Pc.next`). What a call returns is part of the call. Which results there can be depends on what
is around the thread: the child and its pipes (`Exec.Session`), or the table of processes and the
other threads of the agent (`Exec.Reaper`).
-/

namespace MicroMachines.Exec

/-- Exit code of a command that is killed since its time is over. -/
def TIMEOUT_EXIT_CODE : Int32 := 124

/-- Exit code of a command that could not be started. -/
def SPAWN_FAILED_EXIT_CODE : Int32 := 127

/-- `build_command`: the program and its arguments, if there is a program. -/
def buildCommand : List String → Option (String × List String)
  | [] => none
  | program :: args => some (program, args)

/-- How a process has ended. -/
inductive ExitStatus where
  | exited (code : Int32)
  | signaled (signal : Nat)
  deriving DecidableEq, Repr

/-- `ExitStatus::code`. -/
def ExitStatus.code : ExitStatus → Option Int32
  | .exited code => some code
  | .signaled _ => none

/-- The code that is reported. -/
def reportedCode (status : Option ExitStatus) (timedOut : Bool) : Int32 :=
  if timedOut then TIMEOUT_EXIT_CODE else (status.bind ExitStatus.code).getD (-1)

/-- How far the thread is: the call that comes next. -/
inductive Pc where
  | spawning
  /-- There is a child, and the thread has not claimed it yet. -/
  | spawned
  | tracked
  /-- The socket could not be cloned. -/
  | cloneFailed
  | abandoning
  | forgetting
  /-- The return in that case. -/
  | gaveUp
  /-- The head of the loop. -/
  | polling
  /-- The child has not ended. -/
  | checking
  | killed
  | joiningOut (status : Option ExitStatus) (timedOut : Bool)
  | joiningErr (status : Option ExitStatus) (timedOut : Bool)
  | untracking (code : Int32)
  /-- The exit frame comes next. -/
  | writing (code : Int32)
  | returned (code : Int32)
  deriving DecidableEq, Repr

/-- The calls of the thread, with what they return. -/
inductive Call where
  | spawn (ok : Bool)
  | trackChild
  | tryClone (ok : Bool)
  | kill
  /-- `wait().ok()`. -/
  | wait (status : Option ExitStatus)
  | tryWait (result : Except Unit (Option ExitStatus))
  | sleep
  | join (stream : Stream)
  | untrackChild
  | send
  deriving DecidableEq, Repr

/-- Where `handle_exec` begins. -/
def Pc.start (cmd : List String) : Pc :=
  match buildCommand cmd with
  | none => .writing SPAWN_FAILED_EXIT_CODE
  | some _ => .spawning

/-- `handle_exec`, call by call. The time of a command without a time limit is never over. -/
def Pc.next (timeoutMs : UInt64) : Pc → Call → Option Pc
  | .spawning, .spawn true => some .spawned
  | .spawning, .spawn false => some (.writing SPAWN_FAILED_EXIT_CODE)
  | .spawned, .trackChild => some .tracked
  | .tracked, .tryClone true => some .polling
  | .tracked, .tryClone false => some .cloneFailed
  | .cloneFailed, .kill => some .abandoning
  | .abandoning, .wait _ => some .forgetting
  | .forgetting, .untrackChild => some .gaveUp
  | .polling, .tryWait (.ok (some status)) => some (.joiningOut (some status) false)
  | .polling, .tryWait (.ok none) => some .checking
  | .polling, .tryWait (.error ()) => some (.joiningOut none false)
  | .checking, .kill => if 0 < timeoutMs then some .killed else none
  | .checking, .sleep => some .polling
  | .killed, .wait status => some (.joiningOut status true)
  | .joiningOut status timedOut, .join .stdout => some (.joiningErr status timedOut)
  | .joiningErr status timedOut, .join .stderr => some (.untracking (reportedCode status timedOut))
  | .untracking code, .untrackChild => some (.writing code)
  | .writing code, .send => some (.returned code)
  | _, _ => none

/-- The calls of the thread, one rule for each. -/
inductive Pc.Next (timeoutMs : UInt64) : Pc → Call → Pc → Prop where
  | spawned : Next timeoutMs .spawning (.spawn true) .spawned
  | notSpawned : Next timeoutMs .spawning (.spawn false) (.writing SPAWN_FAILED_EXIT_CODE)
  | tracked : Next timeoutMs .spawned .trackChild .tracked
  | cloned : Next timeoutMs .tracked (.tryClone true) .polling
  | notCloned : Next timeoutMs .tracked (.tryClone false) .cloneFailed
  | abandoned : Next timeoutMs .cloneFailed .kill .abandoning
  | reaped (status : Option ExitStatus) : Next timeoutMs .abandoning (.wait status) .forgetting
  | forgotten : Next timeoutMs .forgetting .untrackChild .gaveUp
  | ended (status : ExitStatus) : Next timeoutMs .polling (.tryWait (.ok (some status)))
      (.joiningOut (some status) false)
  | notEnded : Next timeoutMs .polling (.tryWait (.ok none)) .checking
  | waitFailed : Next timeoutMs .polling (.tryWait (.error ())) (.joiningOut none false)
  | timedOut (h : 0 < timeoutMs) : Next timeoutMs .checking .kill .killed
  | slept : Next timeoutMs .checking .sleep .polling
  | waited (status : Option ExitStatus) :
      Next timeoutMs .killed (.wait status) (.joiningOut status true)
  | joinedOut (status : Option ExitStatus) (timedOut : Bool) : Next timeoutMs
      (.joiningOut status timedOut) (.join .stdout) (.joiningErr status timedOut)
  | joinedErr (status : Option ExitStatus) (timedOut : Bool) : Next timeoutMs
      (.joiningErr status timedOut) (.join .stderr) (.untracking (reportedCode status timedOut))
  | untracked (code : Int32) : Next timeoutMs (.untracking code) .untrackChild (.writing code)
  | sent (code : Int32) : Next timeoutMs (.writing code) .send (.returned code)

theorem Pc.next_cases {timeoutMs : UInt64} {pc pc' : Pc} {call : Call}
    (h : pc.next timeoutMs call = some pc') : Pc.Next timeoutMs pc call pc' := by
  unfold Pc.next at h
  split at h
  case h_12 =>
    split at h
    · next htime =>
        cases h
        exact .timedOut htime
    · cases h
  case h_19 => cases h
  all_goals
    cases h
    constructor

end MicroMachines.Exec
