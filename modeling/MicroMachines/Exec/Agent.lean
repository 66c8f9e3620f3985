import MicroMachines.Exec.Client
import Mathlib.Data.List.TakeWhile

set_option autoImplicit false

/-! # The agent, and frames that are not valid

`crates/mm-init/src/exec_agent.rs`: the agent in the guest reads frames from a connection and runs a
command for each `Exec` among them.

`decode` has one answer for two cases: that the buffer does not hold a whole frame, and that the
body of the first frame is not valid. Both readers take it for the first and read on. But a frame
that is not valid stays at the front of the buffer, so that nothing behind it is ever looked at.

* `bad_frame_iff`: when the readers act on every valid frame, or come to an end.
* `bad_frame_wedges`: a stream on which neither does.

Left out: what a command does (`handle_exec` is a parameter, and it returns).
-/

namespace MicroMachines.Exec

open MicroMachines.Lib

/-! ## The agent -/

section Agent

variable {σ : Type} (handleExec : σ → UInt64 → List String → UInt64 → σ)

/-- What is done for a frame. -/
def agentFrame (s : σ) : Frame → Except Empty σ
  | .exec id cmd timeoutMs => .ok (handleExec s id cmd timeoutMs)
  | .output _ _ _ => .ok s
  | .exit _ _ => .ok s

/-- `handle_connection`, with what running a command does to a state: the state, and whether the
connection is closed. If not, the agent waits for more. -/
def handleConnection (c : Codec) (ch : Channel) (s : σ) : σ × Bool :=
  match pump c.decoder (agentFrame handleExec) (ch.reads.map Read.bytes) [] s with
  | .ok (s, _) => (s, decide (ch.ending ≠ .silent))

end Agent

/-! ## What is acted on -/

/-- A consumer that takes down every event. -/
def note (seen : List ExecEvent) (e : ExecEvent) : List ExecEvent × Except IoError Unit :=
  (seen ++ [e], .ok ())

/-- A list of the commands that were run. -/
def noteExec (ran : List Frame) (id : UInt64) (cmd : List String) (timeoutMs : UInt64) :
    List Frame := ran ++ [.exec id cmd timeoutMs]

def Frame.isExec : Frame → Bool
  | .exec _ _ _ => true
  | _ => false

/-- The client has returned, or has delivered the events of all valid frames. -/
def ClientActs (c : Codec) (ch : Channel) (id : UInt64) (cmd : List String) (timeoutMs : UInt64)
    (bodies : List (List UInt8)) : Prop :=
  (runExecStreaming note c ch id cmd timeoutMs []).2.isSome = true ∨
    (runExecStreaming note c ch id cmd timeoutMs []).1 =
      events id ch.ending (bodies.filterMap c.fromSlice)

/-- The agent has closed the connection, or has run the commands of all valid frames. -/
def AgentActs (c : Codec) (ch : Channel) (bodies : List (List UInt8)) : Prop :=
  (handleConnection noteExec c ch []).2 = true ∨
    (handleConnection noteExec c ch []).1 = (bodies.filterMap c.fromSlice).filter Frame.isExec

/-- The valid frames behind the first one that is not. -/
def late (c : Codec) (bodies : List (List UInt8)) : List Frame :=
  (stuck c.fromSlice bodies).filterMap c.fromSlice

section Readers

variable {c : Codec} {ch : Channel} {bodies : List (List UInt8)}

theorem deliver_note (es seen : List ExecEvent) : deliver note seen es = (seen ++ es, .ok ()) := by
  induction es generalizing seen with
  | nil => rw [deliver, List.append_nil]
  | cons e es ih =>
    have hrest := ih (seen ++ [e])
    rw [List.append_assoc, List.singleton_append] at hrest
    exact hrest

theorem foldlM_agentFrame (frames ran : List Frame) :
    frames.foldlM (agentFrame noteExec) ran = .ok (ran ++ frames.filter Frame.isExec) := by
  induction frames generalizing ran with
  | nil => exact congrArg Except.ok (List.append_nil ran).symm
  | cons f fs ih =>
    rw [List.foldlM_cons]
    cases f with
    | exec id cmd timeoutMs =>
      have hrest := ih (ran ++ [.exec id cmd timeoutMs])
      rw [List.append_assoc, List.singleton_append] at hrest
      exact hrest
    | output _ _ _ | exit _ _ => exact ih ran

/-- The events of two lists of frames, if the command has not ended in the first. -/
theorem events_append {id : UInt64} {ending : Ending} {a b : List Frame}
    (h : exitCode id a = none) :
    events id ending (a ++ b) = outputs id a ++ events id ending b := by
  have hnone : ∀ f ∈ a, (f.exitOf id).isNone = true := by
    intro f hf
    rw [List.findSome?_eq_none_iff.mp h f hf]
    rfl
  have hcode : exitCode id (a ++ b) = exitCode id b := by
    unfold exitCode at h ⊢
    rw [List.findSome?_append, h, Option.none_or]
  unfold events outputs terminal
  rw [hcode, List.takeWhile_append_of_pos hnone, List.filterMap_append,
    List.takeWhile_eq_self_iff.mpr hnone, List.append_assoc]

/-- The client returns if the stream comes to an end or the command has ended. -/
theorem result_isSome_iff {id : UInt64} {ending : Ending} {frames : List Frame} :
    (result id ending frames).isSome = true ↔ ending ≠ .silent ∨ exitCode id frames ≠ none := by
  unfold result
  cases exitCode id frames with
  | some code => simp
  | none =>
    cases ending with
    | eof | failed e | silent => simp

/-- The client acts on everything if it comes to an end, or if nothing for its command is behind a
bad frame. -/
theorem clientActs_iff (id : UInt64) (cmd : List String) (timeoutMs : UInt64)
    (hlen : ∀ body ∈ bodies, body.length < 2 ^ 32) (hbytes : ch.bytes = bodies.flatMap framed) :
    ClientActs c ch id cmd timeoutMs bodies ↔ ch.refusal ≠ none ∨ ch.ending ≠ .silent ∨
        exitCode id (readable c.fromSlice bodies) ≠ none ∨
        events id .silent (late c bodies) = [] := by
  unfold ClientActs
  cases href : ch.refusal with
  | some e =>
    -- The request cannot be sent.
    have hrun : runExecStreaming note c ch id cmd timeoutMs [] = ([], some (.error e)) := by
      rw [runExecStreaming, Channel.writeAll, href]
    rw [hrun]
    exact iff_of_true (Or.inl rfl) (Or.inl (Option.some_ne_none e))
  | none =>
    rw [runExecStreaming_bodies note id cmd timeoutMs [] href hlen hbytes, deliver_note,
      List.nil_append, readable_append_stuck]
    generalize readable c.fromSlice bodies = good
    show (result id ch.ending good).isSome = true ∨
      events id ch.ending good = events id ch.ending (good ++ late c bodies) ↔ _
    rw [result_isSome_iff]
    by_cases hreturned : ch.ending ≠ .silent ∨ exitCode id good ≠ none
    · exact iff_of_true (Or.inl hreturned) (Or.inr (hreturned.imp_right Or.inl))
    · -- The client waits, and it has delivered what comes before the first bad frame.
      push Not at hreturned
      obtain ⟨hsilent, hcode⟩ := hreturned
      have hevents : events id .silent good = outputs id good := by
        have happend := @events_append id .silent good [] hcode
        rw [List.append_nil] at happend
        exact happend.trans (List.append_nil _)
      rw [hsilent, hcode, hevents, events_append hcode, List.self_eq_append_right]
      simp

/-- The agent acts on everything if it comes to an end, or if no command is behind a bad frame. -/
theorem agentActs_iff (hlen : ∀ body ∈ bodies, body.length < 2 ^ 32)
    (hbytes : ch.bytes = bodies.flatMap framed) : AgentActs c ch bodies ↔
      ch.ending ≠ .silent ∨ (late c bodies).filter Frame.isExec = [] := by
  have hrun : handleConnection noteExec c ch [] =
      ((readable c.fromSlice bodies).filter Frame.isExec, decide (ch.ending ≠ .silent)) := by
    rw [handleConnection, pump_bodies _ [] hlen hbytes, foldlM_agentFrame, List.nil_append]
    rfl
  unfold AgentActs
  rw [hrun, readable_append_stuck, List.filter_append]
  dsimp only
  rw [decide_eq_true_iff, List.self_eq_append_right]
  rfl

end Readers

/-- **A bad frame wedges a stream.** The client acts on every valid frame or returns if and only if
it cannot send its request, the stream comes to an end, the command has ended before the first bad
frame, or nothing for the command is behind it. The agent does if and only if the stream comes to an
end or no command is behind the first bad frame. And `decode` asks for more only if the buffer does
not hold a whole frame, unless the body of the frame is not valid. -/
theorem bad_frame_iff (c : Codec) (ch : Channel) (bodies : List (List UInt8))
    (hlen : ∀ body ∈ bodies, body.length < 2 ^ 32) (hbytes : ch.bytes = bodies.flatMap framed)
    (id : UInt64) (cmd : List String) (timeoutMs : UInt64) :
    (ClientActs c ch id cmd timeoutMs bodies ↔ ch.refusal ≠ none ∨ ch.ending ≠ .silent ∨
        exitCode id (readable c.fromSlice bodies) ≠ none ∨ events id .silent (late c bodies) = []) ∧
    (AgentActs c ch bodies ↔ ch.ending ≠ .silent ∨ (late c bodies).filter Frame.isExec = []) ∧
    ∀ buf, (decode c buf = none → Short buf) ↔
      (¬ Short buf → c.fromSlice ((buf.drop 4).take (declared buf)) ≠ none) := by
  refine ⟨clientActs_iff id cmd timeoutMs hlen hbytes, agentActs_iff hlen hbytes, ?_⟩
  intro buf
  rw [decode_none_iff]
  constructor
  · intro h hwhole hbad
    exact hwhole (h (Or.inr hbad))
  · rintro h (hshort | hbad)
    · exact hshort
    · by_contra hwhole
      exact h hwhole hbad

/-- A body that is not a frame, a command and an exit. -/
def badFirst : List (List UInt8) := [[9], plain.toVec (.exec 1 [] 0), plain.toVec (.exit 1 0)]

/-- Both readers act on everything if the bad frame comes last. -/
theorem bad_frame_last :
    ClientActs plain (arrives [badFirst.reverse.flatMap framed] .silent) 1 [] 0 badFirst.reverse ∧
      AgentActs plain (arrives [badFirst.reverse.flatMap framed] .silent) badFirst.reverse := by
  obtain ⟨hclient, hagent, _⟩ := bad_frame_iff plain
    (arrives [badFirst.reverse.flatMap framed] .silent) badFirst.reverse (by decide +kernel)
    (by decide +kernel) 1 [] 0
  exact ⟨hclient.mpr (by decide +kernel), hagent.mpr (by decide +kernel)⟩

/-- A frame that is not valid is followed by a command and an exit. The client waits without having
delivered the exit, and the agent waits without having run the command. -/
theorem bad_frame_wedges : ∃ ch, ch.bytes = badFirst.flatMap framed ∧
      runExecStreaming note plain ch 1 [] 0 [] = ([], none) ∧
      handleConnection noteExec plain ch [] = ([], false) ∧
      ¬ Short (framed [9]) ∧ decode plain (framed [9]) = none ∧
      ¬ ClientActs plain ch 1 [] 0 badFirst ∧ ¬ AgentActs plain ch badFirst := by
  have hclient : runExecStreaming note plain (arrives [badFirst.flatMap framed] .silent) 1 [] 0 [] =
      ([], none) := by decide +kernel
  have hagent : handleConnection noteExec plain (arrives [badFirst.flatMap framed] .silent) [] =
      ([], false) := by decide +kernel
  refine ⟨arrives [badFirst.flatMap framed] .silent, by decide +kernel, hclient, hagent,
    by decide +kernel, by decide +kernel, ?_, ?_⟩
  · unfold ClientActs
    rw [hclient]
    decide +kernel
  · unfold AgentActs
    rw [hagent]
    decide +kernel

end MicroMachines.Exec
