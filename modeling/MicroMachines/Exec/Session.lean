import MicroMachines.Lib.Runs
import MicroMachines.Exec.Client
import MicroMachines.Exec.Handler

set_option autoImplicit false

/-! # A session: a command, its pipes and the connection

The agent in the guest runs a command with three threads: `handle_exec` itself, and a reader for each
of the two pipes (`stream_reader`), which sends what the child writes. The exit frame is to come last.

`Session.step` has the steps of the three threads and those of their surroundings: the child ends, and
the pipes are written to and closed. A pipe is closed when no process has it open. It need not be the
child that has: what the child has started may go on after the child has ended, or has been killed.

`Session.Sound` is what holds in every state: which readers are at work at which point of
`handle_exec`, that what was read has been sent or is about to be, and which frames there are.

Left out: the locks around the socket (a frame is written whole) and around the set of children, both
of which fail only if a thread panics.
-/

namespace MicroMachines.Exec

open MicroMachines.Lib

/-! ## The threads and their surroundings -/

/-- A reader of a pipe. -/
inductive Reader where
  /-- It has not been started. -/
  | idle
  | reading
  /-- It has read something and sends it next. -/
  | holding (data : List UInt8)
  | finished
  deriving DecidableEq, Repr

/-- A pipe and its reader. -/
structure Side where
  /-- Everything that has been written to the pipe. -/
  written : List UInt8
  /-- What is in the pipe. -/
  unread : List UInt8
  /-- No process has it open for writing. -/
  closed : Bool
  reader : Reader
  /-- A read has failed. -/
  failed : Bool
  deriving DecidableEq, Repr

/-- There is no pipe yet. -/
def Side.none : Side := ⟨[], [], true, .idle, false⟩

/-- A new pipe. -/
def Side.fresh : Side := ⟨[], [], false, .idle, false⟩

/-- What a reader has read and not sent yet. -/
def Reader.held : Reader → List UInt8
  | .holding data => data
  | _ => []

inductive Child where
  | none
  | running
  | ended (status : ExitStatus)
  deriving DecidableEq, Repr

structure Session where
  id : UInt64
  timeoutMs : UInt64
  pc : Pc
  child : Child
  sides : Stream → Side
  /-- The frames that were written to the connection. -/
  sent : List Frame
  /-- The connection accepts writes. -/
  accepts : Bool

/-- A request has been read. -/
def Session.init (id : UInt64) (cmd : List String) (timeoutMs : UInt64) : Session where
  id := id
  timeoutMs := timeoutMs
  pc := .start cmd
  child := .none
  sides := fun _ => .none
  sent := []
  accepts := true

inductive Action where
  | main (call : Call)
  /-- A reader reads some bytes. -/
  | read (stream : Stream) (n : Nat)
  | readFails (stream : Stream)
  | eof (stream : Stream)
  /-- A reader sends what it has read. -/
  | forward (stream : Stream)
  /-- Some process writes to a pipe. -/
  | write (stream : Stream) (data : List UInt8)
  | close (stream : Stream)
  /-- The child ends. -/
  | exit (status : ExitStatus)
  | hangUp
  deriving DecidableEq, Repr

/-- A step of one of the threads. -/
def Action.ofAgent : Action → Bool
  | .main _ | .read _ _ | .readFails _ | .eof _ | .forward _ => true
  | .write _ _ | .close _ | .exit _ | .hangUp => false

/-- A call that fails although nothing stands in its way. -/
def Action.fails : Action → Bool
  | .main (.wait none) | .main (.tryWait (.error ())) | .readFails _ => true
  | _ => false

namespace Session

/-- What the calls of `handle_exec` can return. -/
def Allows (s : Session) : Call → Prop
  | .wait (some status) => s.child = .ended status
  | .tryWait (.ok (some status)) => s.child = .ended status
  | .tryWait (.ok none) => s.child = .running
  | .join stream => (s.sides stream).reader = .finished
  | _ => True

instance (s : Session) : DecidablePred s.Allows := fun call => by
  unfold Allows
  split <;> infer_instance

def setSide (s : Session) (stream : Stream) (side : Side) : Session :=
  { s with sides := Function.update s.sides stream side }

/-- A frame is written, if the connection accepts it. -/
def put (s : Session) (frame : Frame) : Session :=
  if s.accepts then { s with sent := s.sent ++ [frame] } else s

/-- What the calls of `handle_exec` do. -/
def perform (s : Session) : Call → Session
  | .spawn true => { s with child := .running, sides := fun _ => .fresh }
  | .tryClone true =>
    { s with sides := fun stream => { s.sides stream with reader := .reading } }
  | .send =>
    match s.pc with
    | .writing code => s.put (.exit s.id code)
    | _ => s
  | _ => s

def step (s : Session) : Action → Option Session
  | .main call =>
    match s.pc.next s.timeoutMs call with
    | none => none
    | some pc => if s.Allows call then some { s.perform call with pc := pc } else none
  | .read stream n =>
    let side := s.sides stream
    if side.reader = .reading ∧ 0 < n ∧ n ≤ CHUNK ∧ n ≤ side.unread.length then
      some (s.setSide stream
        { side with unread := side.unread.drop n, reader := .holding (side.unread.take n) })
    else none
  | .readFails stream =>
    let side := s.sides stream
    if side.reader = .reading then
      some (s.setSide stream { side with reader := .finished, failed := true })
    else none
  | .eof stream =>
    let side := s.sides stream
    if side.reader = .reading ∧ side.unread = [] ∧ side.closed = true then
      some (s.setSide stream { side with reader := .finished })
    else none
  | .forward stream =>
    let side := s.sides stream
    match side.reader with
    | .holding data =>
      if s.accepts then
        some ((s.put (.output s.id stream data)).setSide stream { side with reader := .reading })
      else some (s.setSide stream { side with reader := .finished })
    | _ => none
  | .write stream data =>
    let side := s.sides stream
    if side.closed then none
    else some (s.setSide stream
      { side with written := side.written ++ data, unread := side.unread ++ data })
  | .close stream =>
    let side := s.sides stream
    if side.closed then none else some (s.setSide stream { side with closed := true })
  | .exit status =>
    if s.child = .running then some { s with child := .ended status } else none
  | .hangUp => some { s with accepts := false }

end Session

/-! ## What the client gets -/

/-- The data of a frame, if it is output of the command on this stream. -/
def Frame.dataOn (id : UInt64) (stream : Stream) : Frame → List UInt8
  | .output fid which data => if fid = id ∧ which = stream then data else []
  | _ => []

/-- What the client gets of a stream. -/
def received (id : UInt64) (stream : Stream) (frames : List Frame) : List UInt8 :=
  frames.flatMap (Frame.dataOn id stream)

def Frame.isOutput (id : UInt64) : Frame → Bool
  | .output fid _ _ => fid = id
  | _ => false

namespace Session

/-- Output frames, then one exit frame; and they hold what was written to the pipes. -/
def Answered (s : Session) : Prop :=
  ∃ outs code, s.sent = outs ++ [.exit s.id code] ∧ (∀ f ∈ outs, f.isOutput s.id = true) ∧
    ∀ stream, received s.id stream outs = (s.sides stream).written

/-- The child has ended or was never started, the connection is there, and no thread can go on
without something failing. -/
structure Resting (s : Session) : Prop where
  accepts : s.accepts = true
  child : s.child ≠ .running
  still : ∀ a : Action, a.ofAgent = true → a.fails = false → s.step a = none

/-- The pipe has come to its end, or its reader to a failure, and nothing is left in it. -/
def Drained (s : Session) (stream : Stream) : Prop :=
  (s.sides stream).unread = [] ∧ ((s.sides stream).closed = true ∨ (s.sides stream).failed = true)

end Session

/-! ## The invariant -/

/-- There may be no child. -/
def Pc.childless : Pc → Bool
  | .spawning | .writing _ | .returned _ => true
  | _ => false

/-- The readers have not been started. -/
def Pc.early : Pc → Bool
  | .spawning | .spawned | .tracked | .cloneFailed | .abandoning | .forgetting | .gaveUp => true
  | _ => false

/-- The readers are at work. -/
def Pc.streaming : Pc → Bool
  | .polling | .checking | .killed | .joiningOut _ _ | .joiningErr _ _ => true
  | _ => false

/-- The readers are through. -/
def Pc.late : Pc → Bool
  | .untracking _ | .writing _ | .returned _ => true
  | _ => false

/-- The frames that have been sent at some point of `handle_exec`. -/
def SentAt (id : UInt64) (sent : List Frame) : Pc → Prop
  | .returned code => ∃ outs, sent = outs ++ [.exit id code] ∧ ∀ f ∈ outs, f.isOutput id = true
  | _ => ∀ f ∈ sent, f.isOutput id = true

namespace Session

structure Sound (s : Session) : Prop where
  childless : s.child = .none → s.pc.childless = true
  spawning : s.pc = .spawning → s.child = .none
  unborn : s.child = .none → ∀ stream, s.sides stream = .none
  -- where `handle_exec` is says what its readers do
  early : s.pc.early = true → ∀ stream, (s.sides stream).reader = .idle
  streaming : s.pc.streaming = true → ∀ stream, (s.sides stream).reader ≠ .idle
  joined : ∀ status timedOut, s.pc = .joiningErr status timedOut →
    (s.sides .stdout).reader = .finished
  late : s.pc.late = true → s.child = .none ∨ ∀ stream, (s.sides stream).reader = .finished
  -- what is known of the frames only holds while the connection accepts them
  drained : s.accepts = true → ∀ stream, (s.sides stream).reader = .finished →
    (s.sides stream).failed = true ∨
      (s.sides stream).closed = true ∧ (s.sides stream).unread = []
  conserved : s.accepts = true → ∀ stream,
    received s.id stream s.sent ++ (s.sides stream).reader.held ++ (s.sides stream).unread =
      (s.sides stream).written
  frames : s.accepts = true → SentAt s.id s.sent s.pc
  stopped : ∀ stream, (s.sides stream).failed = true → (s.sides stream).reader = .finished

theorem sound_init (id : UInt64) (cmd : List String) (timeoutMs : UInt64) :
    Sound (.init id cmd timeoutMs) := by
  have hpc : (Pc.start cmd).childless = true ∧ (Pc.start cmd).streaming = false ∧
      ∀ status timedOut, Pc.start cmd ≠ .joiningErr status timedOut := by
    unfold Pc.start
    cases buildCommand cmd <;> simp [Pc.streaming, Pc.childless]
  refine ⟨fun _ => hpc.1, fun _ => rfl, fun _ _ => rfl, fun _ _ => rfl, ?_, ?_,
    fun _ => Or.inl rfl, ?_, fun _ _ => rfl, ?_, ?_⟩
  · intro h
    exact absurd h (by simp [init, hpc.2.1])
  · intro status timedOut h
    exact absurd h (hpc.2.2 status timedOut)
  · intro _ stream h
    cases h
  · intro _
    unfold init Pc.start
    cases buildCommand cmd <;> exact fun f hf => absurd hf List.not_mem_nil
  · intro _ h
    cases h

/-- A reader is at work only while `handle_exec` waits for the child or for it. -/
theorem Sound.streaming_of_busy {s : Session} (h : Sound s) (stream : Stream)
    (hidle : (s.sides stream).reader ≠ .idle) (hfinished : (s.sides stream).reader ≠ .finished) :
    s.pc.streaming = true := by
  cases hpc : s.pc with
  | polling | checking | killed | joiningOut _ _ | joiningErr _ _ => rfl
  | untracking _ | writing _ | returned _ =>
    rcases h.late (by rw [hpc]; rfl) with hnone | hall
    · rw [h.unborn hnone stream] at hidle
      exact absurd rfl hidle
    · exact absurd (hall stream) hfinished
  | _ => exact absurd (h.early (by rw [hpc]; rfl) stream) hidle

/-- One side changes: its reader goes on, or there is more or less in the pipe. -/
theorem Sound.side {s : Session} (h : Sound s) {stream : Stream} {side : Side} {sent : List Frame}
    (hborn : s.child ≠ .none)
    (hreader : side.reader = (s.sides stream).reader ∨ side.reader ≠ .idle ∧
      (s.sides stream).reader ≠ .idle ∧ (s.sides stream).reader ≠ .finished)
    (hdrained : s.accepts = true → side.reader = .finished →
      side.failed = true ∨ side.closed = true ∧ side.unread = []) (hconserved : s.accepts = true →
      received s.id stream sent ++ side.reader.held ++ side.unread = side.written)
    (hother : ∀ w, w ≠ stream → received s.id w sent = received s.id w s.sent)
    (hframes : s.accepts = true → SentAt s.id sent s.pc)
    (hstopped : side.failed = true → side.reader = .finished) :
    Sound { s with sides := Function.update s.sides stream side, sent := sent } := by
  refine ⟨h.childless, h.spawning, fun hnone => absurd hnone hborn, ?_, ?_, ?_, ?_, ?_, ?_,
    hframes, ?_⟩
  · intro hearly
    refine (Function.forall_update_iff s.sides (p := fun _ (d : Side) => d.reader = .idle)).mpr
      ⟨?_, fun w _ => h.early hearly w⟩
    rcases hreader with heq | ⟨_, hidle, _⟩
    · rw [heq, h.early hearly stream]
    · exact absurd (h.early hearly stream) hidle
  · intro hstreaming
    refine (Function.forall_update_iff s.sides (p := fun _ (d : Side) => d.reader ≠ .idle)).mpr
      ⟨?_, fun w _ => h.streaming hstreaming w⟩
    rcases hreader with heq | ⟨hidle, _⟩
    · rw [heq]
      exact h.streaming hstreaming stream
    · exact hidle
  · intro status timedOut hpc
    have hout := h.joined status timedOut hpc
    by_cases hw : stream = .stdout
    · subst hw
      show (Function.update s.sides .stdout side .stdout).reader = .finished
      rw [Function.update_self]
      rcases hreader with heq | ⟨_, _, hfinished⟩
      · rw [heq, hout]
      · exact absurd hout hfinished
    · show (Function.update s.sides stream side .stdout).reader = .finished
      rw [Function.update_of_ne (Ne.symm hw), hout]
  · intro hlate
    rcases h.late hlate with hnone | hall
    · exact absurd hnone hborn
    · refine Or.inr ((Function.forall_update_iff s.sides
        (p := fun _ (d : Side) => d.reader = .finished)).mpr ⟨?_, fun w _ => hall w⟩)
      rcases hreader with heq | ⟨_, _, hfinished⟩
      · rw [heq, hall stream]
      · exact absurd (hall stream) hfinished
  · intro haccepts
    exact (Function.forall_update_iff s.sides (p := fun _ (d : Side) => d.reader = .finished →
      d.failed = true ∨ d.closed = true ∧ d.unread = [])).mpr
      ⟨hdrained haccepts, fun w _ => h.drained haccepts w⟩
  · intro haccepts
    refine (Function.forall_update_iff s.sides (p := fun w (d : Side) =>
      received s.id w sent ++ d.reader.held ++ d.unread = d.written)).mpr
      ⟨hconserved haccepts, ?_⟩
    intro w hw
    rw [hother w hw]
    exact h.conserved haccepts w
  · exact (Function.forall_update_iff s.sides (p := fun _ (d : Side) =>
      d.failed = true → d.reader = .finished)).mpr ⟨hstopped, fun w _ => h.stopped w⟩

/-- A side changes and nothing is sent. -/
theorem Sound.setSide {s : Session} (h : Sound s) {stream : Stream} {side : Side}
    (hborn : s.child ≠ .none)
    (hreader : side.reader = (s.sides stream).reader ∨ side.reader ≠ .idle ∧
      (s.sides stream).reader ≠ .idle ∧ (s.sides stream).reader ≠ .finished)
    (hdrained : s.accepts = true → side.reader = .finished →
      side.failed = true ∨ side.closed = true ∧ side.unread = []) (hconserved : s.accepts = true →
      received s.id stream s.sent ++ side.reader.held ++ side.unread = side.written)
    (hstopped : side.failed = true → side.reader = .finished) : Sound (s.setSide stream side) :=
  h.side hborn hreader hdrained hconserved (fun _ _ => rfl) h.frames hstopped

/-- A reader that is at work has not failed. -/
theorem Sound.not_failed {s : Session} (h : Sound s) {stream : Stream}
    (hfinished : (s.sides stream).reader ≠ .finished) : (s.sides stream).failed = false := by
  by_contra hfailed
  exact hfinished (h.stopped stream (by simpa using hfailed))

/-- If a pipe can be read or written, there is a child. -/
theorem Sound.born {s : Session} (h : Sound s) (stream : Stream)
    (hside : s.sides stream ≠ .none) : s.child ≠ .none :=
  fun hnone => hside (h.unborn hnone stream)

theorem sound_forward {s : Session} (h : Sound s) {stream : Stream} {data : List UInt8}
    (hreader : (s.sides stream).reader = .holding data) (haccepts : s.accepts = true) :
    Sound { s with
      sides := Function.update s.sides stream { s.sides stream with reader := .reading }
      sent := s.sent ++ [.output s.id stream data] } := by
  have hstreaming : s.pc.streaming = true :=
    h.streaming_of_busy stream (by simp [hreader]) (by simp [hreader])
  apply h.side
  · apply h.born stream
    intro hside
    rw [hside] at hreader
    cases hreader
  · exact Or.inr ⟨Reader.noConfusion, by simp [hreader], by simp [hreader]⟩
  · intro _ hfinished
    cases hfinished
  · intro _
    have hconserved := h.conserved haccepts stream
    rw [hreader] at hconserved
    simpa [received, Frame.dataOn, Reader.held] using hconserved
  · intro w hw
    simp [received, Frame.dataOn, Ne.symm hw]
  · intro _
    have hframes := h.frames haccepts
    cases hpc : s.pc with
    | returned code => simp [hpc, Pc.streaming] at hstreaming
    | _ =>
      rw [hpc] at hframes
      intro f hf
      rcases List.mem_append.mp hf with hf | hf
      · exact hframes f hf
      · rw [List.mem_singleton.mp hf]
        simp [Frame.isOutput]
  · intro hfailed
    have hok := @Sound.not_failed s h stream (by simp [hreader])
    exact absurd (hok.symm.trans hfailed) Bool.false_ne_true

/-- `handle_exec` goes on, and nothing else happens. -/
theorem Sound.goto {s : Session} (h : Sound s) {pc : Pc}
    (hchildless : s.child = .none → pc.childless = true) (hspawning : pc ≠ .spawning)
    (hearly : pc.early = true → s.pc.early = true)
    (hstreaming : pc.streaming = true → s.pc.streaming = true)
    (hjoined : ∀ status timedOut, pc = .joiningErr status timedOut →
      (s.sides .stdout).reader = .finished)
    (hlate : pc.late = true → s.child = .none ∨ ∀ stream, (s.sides stream).reader = .finished)
    (hframes : SentAt s.id s.sent s.pc → SentAt s.id s.sent pc) : Sound { s with pc := pc } :=
  ⟨hchildless, fun hpc => absurd hpc hspawning, h.unborn, fun hpc => h.early (hearly hpc),
    fun hpc => h.streaming (hstreaming hpc), hjoined, hlate, h.drained, h.conserved,
    fun haccepts => hframes (h.frames haccepts), h.stopped⟩

/-- The child is started. -/
theorem sound_spawn {s : Session} (h : Sound s) (hpc : s.pc = .spawning) :
    Sound { s with child := .running, sides := fun _ => .fresh, pc := .spawned } := by
  refine ⟨Child.noConfusion, Pc.noConfusion, Child.noConfusion, fun _ _ => rfl, ?_, ?_, ?_, ?_, ?_,
    ?_, ?_⟩
  · intro hstreaming
    cases hstreaming
  · intro _ _ hjoining
    cases hjoining
  · intro hlate
    cases hlate
  · intro _ _ hfinished
    cases hfinished
  · intro haccepts stream
    have hconserved := h.conserved haccepts stream
    rw [h.unborn (h.spawning hpc) stream] at hconserved
    exact hconserved
  · intro haccepts
    have hframes := h.frames haccepts
    rw [hpc] at hframes
    exact hframes
  · intro _ hfailed
    cases hfailed

/-- The readers are started. -/
theorem sound_clone {s : Session} (h : Sound s) (hpc : s.pc = .tracked) : Sound { s with
      sides := fun stream => { s.sides stream with reader := .reading }, pc := .polling } := by
  have hborn : s.child ≠ .none := by
    intro hnone
    have hchildless := h.childless hnone
    rw [hpc] at hchildless
    cases hchildless
  refine ⟨fun hnone => absurd hnone hborn, Pc.noConfusion, fun hnone => absurd hnone hborn, ?_,
    fun _ _ => Reader.noConfusion, ?_, ?_, ?_, ?_, ?_, ?_⟩
  · intro hearly
    cases hearly
  · intro _ _ hjoining
    cases hjoining
  · intro hlate
    cases hlate
  · intro _ _ hfinished
    cases hfinished
  · intro haccepts stream
    have hconserved := h.conserved haccepts stream
    rw [h.early (by rw [hpc]; rfl) stream] at hconserved
    exact hconserved
  · intro haccepts
    have hframes := h.frames haccepts
    rw [hpc] at hframes
    exact hframes
  · intro stream hfailed
    have hidle := h.early (by rw [hpc]; rfl) stream
    rw [h.stopped stream hfailed] at hidle
    cases hidle

/-- The exit frame is written. -/
theorem sound_send {s : Session} (h : Sound s) {code : Int32} (hpc : s.pc = .writing code) :
    Sound { s.put (.exit s.id code) with pc := .returned code } := by
  have hlate := h.late (by rw [hpc]; rfl)
  by_cases haccepts : s.accepts = true
  · have hframes := h.frames haccepts
    rw [hpc] at hframes
    unfold put
    rw [if_pos haccepts]
    refine ⟨fun _ => rfl, Pc.noConfusion, h.unborn, ?_, ?_, ?_, fun _ => hlate, h.drained, ?_, ?_,
      h.stopped⟩
    · intro hearly
      cases hearly
    · intro hstreaming
      cases hstreaming
    · intro _ _ hjoining
      cases hjoining
    · intro _ stream
      have hconserved := h.conserved haccepts stream
      simpa [received, Frame.dataOn] using hconserved
    · intro _
      exact ⟨s.sent, rfl, hframes⟩
  · unfold put
    rw [if_neg haccepts]
    refine ⟨fun _ => rfl, Pc.noConfusion, h.unborn, ?_, ?_, ?_, fun _ => hlate, h.drained,
      h.conserved, ?_, h.stopped⟩
    · intro hearly
      cases hearly
    · intro hstreaming
      cases hstreaming
    · intro _ _ hjoining
      cases hjoining
    · intro h
      exact absurd h haccepts

/-- **A call of `handle_exec` keeps the invariant.** -/
theorem sound_main {s : Session} (h : Sound s) {call : Call} {pc : Pc}
    (hnext : Pc.Next s.timeoutMs s.pc call pc) (hallows : s.Allows call) :
    Sound { s.perform call with pc := pc } := by
  generalize hpc : s.pc = pc₀ at hnext
  -- a thread that has a child keeps it
  have hkeeps : pc₀.childless = false → ∀ pc' : Pc, s.child = .none → pc'.childless = true := by
    intro hnot pc' hnone
    have hchildless := h.childless hnone
    rw [hpc, hnot] at hchildless
    cases hchildless
  cases hnext with
  | spawned =>
    have hsound := sound_spawn h hpc
    exact hsound
  | cloned =>
    have hsound := sound_clone h hpc
    exact hsound
  | sent code =>
    have hperform : s.perform .send = s.put (.exit s.id code) := by
      unfold perform
      rw [hpc]
    rw [hperform]
    exact sound_send h hpc
  | notSpawned =>
    refine h.goto (fun _ => rfl) Pc.noConfusion ?_ ?_ ?_ (fun _ => Or.inl (h.spawning hpc)) ?_
    all_goals simp [hpc, Pc.early, Pc.streaming, SentAt]
  | joinedOut status timedOut =>
    refine h.goto (hkeeps rfl _) Pc.noConfusion ?_ ?_ (fun _ _ _ => hallows) ?_ ?_
    all_goals simp [hpc, Pc.early, Pc.streaming, Pc.late, SentAt]
  | joinedErr status timedOut =>
    have hout := h.joined status timedOut hpc
    refine h.goto (hkeeps rfl _) Pc.noConfusion ?_ ?_ ?_ ?_ ?_
    case refine_4 =>
      intro _
      refine Or.inr ?_
      intro stream
      cases stream with
      | stdout => exact hout
      | stderr => exact hallows
    all_goals simp [hpc, Pc.early, Pc.streaming, SentAt]
  | untracked code =>
    refine h.goto (hkeeps rfl _) Pc.noConfusion ?_ ?_ ?_ (fun _ => h.late (by rw [hpc]; rfl)) ?_
    all_goals simp [hpc, Pc.early, Pc.streaming, SentAt]
  | _ =>
    -- before the joins: the readers are where they were
    refine h.goto (hkeeps rfl _) Pc.noConfusion ?_ ?_ ?_ ?_ ?_
    all_goals simp [hpc, Pc.early, Pc.streaming, Pc.late, SentAt]

/-- A reader that is at work has a pipe. -/
theorem Sound.born_of_busy {s : Session} (h : Sound s) (stream : Stream)
    (hidle : (s.sides stream).reader ≠ .idle) : s.child ≠ .none := by
  apply h.born stream
  intro hside
  rw [hside] at hidle
  exact hidle rfl

/-- A pipe that is open is there. -/
theorem Sound.born_of_open {s : Session} (h : Sound s) (stream : Stream)
    (hopen : ¬ (s.sides stream).closed = true) : s.child ≠ .none := by
  apply h.born stream
  intro hside
  rw [hside] at hopen
  exact hopen rfl

/-- A reader that has stopped at an open pipe has failed. -/
theorem Sound.failed_of_open {s : Session} (h : Sound s) {stream : Stream}
    (hopen : ¬ (s.sides stream).closed = true) (haccepts : s.accepts = true)
    (hfinished : (s.sides stream).reader = .finished) : (s.sides stream).failed = true := by
  rcases h.drained haccepts stream hfinished with hfailed | ⟨hclosed, _⟩
  · exact hfailed
  · exact absurd hclosed hopen

/-- A reader goes on, and what it takes from the pipe it holds. -/
theorem Sound.advance {s : Session} (h : Sound s) {stream : Stream} {side : Side}
    (hreading : (s.sides stream).reader = .reading) (hidle : side.reader ≠ .idle)
    (hheld : side.reader.held ++ side.unread = (s.sides stream).unread)
    (hwritten : side.written = (s.sides stream).written) (hdrained : side.reader = .finished →
      side.failed = true ∨ side.closed = true ∧ side.unread = [])
    (hstopped : side.failed = true → side.reader = .finished) : Sound (s.setSide stream side) := by
  have hbusy : (s.sides stream).reader ≠ .idle := by simp [hreading]
  apply h.setSide (h.born_of_busy stream hbusy)
  · exact Or.inr ⟨hidle, hbusy, by simp [hreading]⟩
  · exact fun _ => hdrained
  · intro haccepts
    have hconserved := h.conserved haccepts stream
    rw [hreading] at hconserved
    rw [hwritten, ← hconserved, List.append_assoc, hheld]
    simp [Reader.held]
  · exact hstopped

/-- **A step keeps the invariant.** -/
theorem Sound.step {s s' : Session} (h : Sound s) {a : Action} (hstep : s.step a = some s') :
    Sound s' := by
  cases a with
  | main call =>
    unfold Session.step at hstep
    cases hnext : s.pc.next s.timeoutMs call with
    | none => simp [hnext] at hstep
    | some pc =>
      simp only [hnext] at hstep
      obtain ⟨hallows, rfl⟩ := Option.ite_some_none_eq_some.mp hstep
      exact sound_main h (Pc.next_cases hnext) hallows
  | read stream n =>
    obtain ⟨⟨hreader, _, _, _⟩, hs⟩ := Option.ite_none_right_eq_some.mp hstep
    cases hs
    apply h.advance hreader Reader.noConfusion
    · simp [Reader.held]
    · rfl
    · exact Reader.noConfusion
    · intro hfailed
      have hok := @Sound.not_failed s h stream (by simp [hreader])
      exact absurd (hok.symm.trans hfailed) Bool.false_ne_true
  | readFails stream =>
    obtain ⟨hreader, rfl⟩ := Option.ite_some_none_eq_some.mp hstep
    exact h.advance hreader Reader.noConfusion rfl rfl (fun _ => Or.inl rfl) (fun _ => rfl)
  | eof stream =>
    obtain ⟨⟨hreader, hunread, hclosed⟩, hs⟩ := Option.ite_none_right_eq_some.mp hstep
    cases hs
    exact h.advance hreader Reader.noConfusion rfl rfl (fun _ => Or.inr ⟨hclosed, hunread⟩)
      (fun _ => rfl)
  | forward stream =>
    cases hreader : (s.sides stream).reader with
    | holding data =>
      simp only [Session.step, hreader] at hstep
      by_cases haccepts : s.accepts = true
      · rw [if_pos haccepts] at hstep
        cases hstep
        have hsound := sound_forward h hreader haccepts
        unfold put
        rw [if_pos haccepts]
        exact hsound
      · -- the client has gone: the write fails, and the reader stops
        rw [if_neg haccepts] at hstep
        cases hstep
        have hidle : (s.sides stream).reader ≠ .idle := by simp [hreader]
        apply h.setSide (h.born_of_busy stream hidle)
        · exact Or.inr ⟨Reader.noConfusion, hidle, by simp [hreader]⟩
        · exact fun h => absurd h haccepts
        · exact fun h => absurd h haccepts
        · exact fun _ => rfl
    | _ => simp [Session.step, hreader] at hstep
  | write stream data =>
    obtain ⟨hopen, hs⟩ := Option.ite_none_left_eq_some.mp hstep
    cases hs
    apply h.setSide (h.born_of_open stream hopen)
    · exact Or.inl rfl
    · exact fun haccepts hfinished => Or.inl (h.failed_of_open hopen haccepts hfinished)
    · intro haccepts
      rw [← h.conserved haccepts stream]
      simp
    · exact h.stopped stream
  | close stream =>
    obtain ⟨hopen, hs⟩ := Option.ite_none_left_eq_some.mp hstep
    cases hs
    apply h.setSide (h.born_of_open stream hopen)
    · exact Or.inl rfl
    · exact fun haccepts hfinished => Or.inl (h.failed_of_open hopen haccepts hfinished)
    · exact fun haccepts => h.conserved haccepts stream
    · exact h.stopped stream
  | exit status =>
    obtain ⟨hchild, rfl⟩ := Option.ite_some_none_eq_some.mp hstep
    have hborn : s.child ≠ .none := by simp [hchild]
    have hlate : s.pc.late = true → ∀ stream, (s.sides stream).reader = .finished :=
      fun hpc => (h.late hpc).resolve_left hborn
    exact ⟨Child.noConfusion, fun hpc => absurd (h.spawning hpc) hborn, Child.noConfusion, h.early,
      h.streaming, h.joined, fun hpc => Or.inr (hlate hpc), h.drained, h.conserved, h.frames,
      h.stopped⟩
  | hangUp =>
    cases hstep
    exact ⟨h.childless, h.spawning, h.unborn, h.early, h.streaming, h.joined, h.late,
      fun h => absurd h Bool.false_ne_true, fun h => absurd h Bool.false_ne_true,
      fun h => absurd h Bool.false_ne_true, h.stopped⟩

end Session

end MicroMachines.Exec
