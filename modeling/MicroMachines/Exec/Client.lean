import MicroMachines.Exec.Protocol
import Mathlib.Logic.Equiv.List

set_option autoImplicit false

/-! # The exec client

`crates/mm-sandbox/src/exec/client.rs`: the host asks for a connection to the guest's agent, sends
a command and hands on what comes back while it comes.

A stream gives what has arrived in reads, and there is no saying how many bytes come with each
(`Read`). After that it ends, or fails, or nothing more comes and reading does not return
(`Ending`).

* `exec_decoded`: whatever the reads, the client hands on the output of its command in order, and
  then its exit code.
-/

namespace MicroMachines.Exec

open MicroMachines.Lib

/-! ## Streams -/

/-- An `io::Error`: the kind and the text, or the line in the text. -/
inductive IoError where
  | unexpectedEof (text : String)
  | invalidData (text : String)
  | connectionRefused (got : List UInt8)
  | other (text : String)
  deriving DecidableEq, Repr

/-- The buffer that the readers read into. -/
def CHUNK : Nat := 8192

/-- What a call of `read` returns, if it is not the end: at least one byte, and no more than fit. -/
structure Read where
  head : UInt8
  tail : List UInt8
  fits : tail.length < CHUNK

def Read.bytes (r : Read) : List UInt8 := r.head :: r.tail

/-- What reading comes to after everything has been read. -/
inductive Ending where
  | eof
  | failed (e : IoError)
  /-- Reading does not return. -/
  | silent
  deriving DecidableEq, Repr

/-- A stream: what the other side sends, what was written, and the error of writing, if it fails. -/
structure Channel where
  reads : List Read
  ending : Ending
  written : List UInt8
  refusal : Option IoError

namespace Channel

/-- Everything that can be read. -/
def bytes (ch : Channel) : List UInt8 := ch.reads.flatMap Read.bytes

def writeAll (ch : Channel) (data : List UInt8) : Except IoError Channel :=
  match ch.refusal with
  | some e => .error e
  | none => .ok { ch with written := ch.written ++ data }

theorem writeAll_eq {ch : Channel} (h : ch.refusal = none) (data : List UInt8) :
    ch.writeAll data = .ok { ch with written := ch.written ++ data } := by
  unfold writeAll
  split
  · next e he =>
      rw [h] at he
      cases he
  · rfl

/-- `read` with a buffer of one byte. -/
def readByte (ch : Channel) : Except Ending (UInt8 × Channel) :=
  match ch.reads with
  | [] => .error ch.ending
  | ⟨b, [], _⟩ :: rs => .ok (b, { ch with reads := rs })
  | ⟨b, b' :: bs, h⟩ :: rs =>
    .ok (b, { ch with reads := ⟨b', bs, Nat.lt_of_succ_lt h⟩ :: rs })

end Channel

/-! ## The handshake -/

/-- The loop of `vsock_connect`, with what it has of the line and how many bytes may still come: the
line, or `none` if it waits for more. -/
def readLine : Nat → List UInt8 → Channel → Option (Except IoError (List UInt8 × Channel))
  | room, line, ch =>
    match ch.readByte with
    | .error .eof =>
      some (.error (.unexpectedEof "vsock handshake: stream closed before OK"))
    | .error (.failed e) => some (.error e)
    | .error .silent => none
    | .ok (byte, ch) =>
      if byte = 10 then some (.ok (line, ch))
      else
        match room with
        | 0 => some (.error (.invalidData "vsock handshake: response line too long"))
        | room + 1 => readLine room (line ++ [byte]) ch

/-- A line without a trailing CR. -/
def stripCr (line : List UInt8) : List UInt8 :=
  if line.getLast? = some 13 then line.dropLast else line

/-- `vsock_connect`: the stream behind the line, or `none` if it waits for more. -/
def vsockConnect (ch : Channel) (port : UInt32) : Option (Except IoError Channel) :=
  match ch.writeAll ("CONNECT " ++ toString port.toNat ++ "\n").toUTF8.toList with
  | .error e => some (.error e)
  | .ok ch =>
    match readLine 64 [] ch with
    | none => none
    | some (.error e) => some (.error e)
    | some (.ok (line, ch)) =>
      let line := stripCr line
      if [79, 75].isPrefixOf line then some (.ok ch)
      else some (.error (.connectionRefused line))

/-! ## Running a command -/

inductive ExecEvent where
  | stdout (data : List UInt8)
  | stderr (data : List UInt8)
  | exit (code : Int32)
  deriving DecidableEq, Repr

def Stream.event : Stream → List UInt8 → ExecEvent
  | .stdout, data => .stdout data
  | .stderr, data => .stderr data

section Streaming

variable {σ : Type} (onEvent : σ → ExecEvent → σ × Except IoError Unit)

/-- What is done for a frame. The consumer of the events has a state; it can refuse an event, which
ends everything, as the exit code does. -/
def onFrame (id : UInt64) (s : σ) : Frame → Except (σ × Except IoError Unit) σ
  | .output fid which data =>
    if fid = id then
      match onEvent s (which.event data) with
      | (s, .ok ()) => .ok s
      | (s, .error e) => .error (s, .error e)
    else .ok s
  | .exit fid code => if fid = id then .error (onEvent s (.exit code)) else .ok s
  | .exec _ _ _ => .ok s

/-- What is done at the end of the stream. -/
def onEnding (s : σ) : Ending → σ × Option (Except IoError Unit)
  | .eof => ((onEvent s (.exit (-1))).1, some (onEvent s (.exit (-1))).2)
  | .failed e => (s, some (.error e))
  | .silent => (s, none)

/-- `run_exec_streaming`: the state of the consumer and the result, or `none` if it waits for
more. -/
def runExecStreaming (c : Codec) (ch : Channel) (id : UInt64) (cmd : List String)
    (timeoutMs : UInt64) (s : σ) : σ × Option (Except IoError Unit) :=
  match ch.writeAll (encode c (.exec id cmd timeoutMs)) with
  | .error e => (s, some (.error e))
  | .ok ch =>
    match pump c.decoder (onFrame onEvent id) (ch.reads.map Read.bytes) [] s with
    | .error (s, result) => (s, some result)
    | .ok (s, _) => onEnding onEvent s ch.ending

end Streaming

structure ExecResult where
  exitCode : Int32
  stdout : List UInt8
  stderr : List UInt8
  deriving DecidableEq, Repr

/-- The consumer of `run_exec`. -/
def ExecResult.collect (r : ExecResult) : ExecEvent → ExecResult × Except IoError Unit
  | .stdout data => ({ r with stdout := r.stdout ++ data }, .ok ())
  | .stderr data => ({ r with stderr := r.stderr ++ data }, .ok ())
  | .exit code => ({ r with exitCode := code }, .ok ())

/-- `run_exec`: the result, or `none` if it waits for more. -/
def runExec (c : Codec) (ch : Channel) (id : UInt64) (cmd : List String) (timeoutMs : UInt64) :
    Option (Except IoError ExecResult) :=
  match runExecStreaming ExecResult.collect c ch id cmd timeoutMs ⟨-1, [], []⟩ with
  | (_, none) => none
  | (_, some (.error e)) => some (.error e)
  | (r, some (.ok ())) => some (.ok r)

/-! ## What a list of frames means -/

/-- The exit code in a frame, if it is the exit of this command. -/
def Frame.exitOf (id : UInt64) : Frame → Option Int32
  | .exit fid code => if fid = id then some code else none
  | _ => none

/-- The output in a frame, if it is output of this command. -/
def Frame.outputOf (id : UInt64) : Frame → Option ExecEvent
  | .output fid which data => if fid = id then some (which.event data) else none
  | _ => none

/-- The output of the command up to its exit. -/
def outputs (id : UInt64) (frames : List Frame) : List ExecEvent :=
  (frames.takeWhile (fun f => (f.exitOf id).isNone)).filterMap (Frame.outputOf id)

/-- The code of the first exit. -/
def exitCode (id : UInt64) (frames : List Frame) : Option Int32 :=
  frames.findSome? (Frame.exitOf id)

/-- The exit event: that of the command, or -1 if the stream ends before. -/
def terminal (id : UInt64) (ending : Ending) (frames : List Frame) : List ExecEvent :=
  match exitCode id frames, ending with
  | some code, _ => [.exit code]
  | none, .eof => [.exit (-1)]
  | none, _ => []

/-- The events that the consumer is to get. -/
def events (id : UInt64) (ending : Ending) (frames : List Frame) : List ExecEvent :=
  outputs id frames ++ terminal id ending frames

/-- How it all ends, if the consumer takes everything; `none` if there is more to come. -/
def result (id : UInt64) (ending : Ending) (frames : List Frame) : Option (Except IoError Unit) :=
  match exitCode id frames, ending with
  | some _, _ => some (.ok ())
  | none, .eof => some (.ok ())
  | none, .failed e => some (.error e)
  | none, .silent => none

/-- Events for a consumer, up to the first that it refuses. -/
def deliver {σ : Type} (onEvent : σ → ExecEvent → σ × Except IoError Unit) (s : σ) :
    List ExecEvent → σ × Except IoError Unit
  | [] => (s, .ok ())
  | e :: es =>
    match onEvent s e with
    | (s, .ok ()) => deliver onEvent s es
    | (s, .error e) => (s, .error e)

/-- The end, after events have been delivered: a refusal of the consumer, or the given one. -/
def settled {σ : Type} (d : σ × Except IoError Unit) (result : Option (Except IoError Unit)) :
    σ × Option (Except IoError Unit) :=
  match d with
  | (s, .ok ()) => (s, result)
  | (s, .error e) => (s, some (.error e))

section Meaning

variable {id : UInt64} {ending : Ending} {f : Frame} {fs : List Frame}

theorem events_exit {code : Int32} (h : f.exitOf id = some code) :
    events id ending (f :: fs) = [.exit code] ∧ result id ending (f :: fs) = some (.ok ()) := by
  have hcode : exitCode id (f :: fs) = some code := by
    rw [exitCode, List.findSome?_cons, h]
  constructor
  · unfold events outputs terminal
    rw [List.takeWhile_cons_of_neg (by simp [h]), hcode]
    rfl
  · unfold result
    rw [hcode]

theorem events_cons (h : f.exitOf id = none) :
    events id ending (f :: fs) = (f.outputOf id).toList ++ events id ending fs ∧
      result id ending (f :: fs) = result id ending fs := by
  have hcode : exitCode id (f :: fs) = exitCode id fs := by
    rw [exitCode, List.findSome?_cons, h]
    rfl
  constructor
  · unfold events outputs terminal
    rw [List.takeWhile_cons_of_pos (by rw [h]; rfl), hcode, List.filterMap_cons]
    cases f.outputOf id with
    | none | some e => rfl
  · unfold result
    rw [hcode]

theorem onFrame_exit {σ : Type} {onEvent : σ → ExecEvent → σ × Except IoError Unit} {s : σ}
    {code : Int32} (h : f.exitOf id = some code) :
    onFrame onEvent id s f = .error (onEvent s (.exit code)) := by
  cases f with
  | exec _ _ _ | output _ _ _ => cases h
  | exit fid code' =>
    rw [Frame.exitOf] at h
    split at h
    · next hid =>
        cases h
        exact if_pos hid
    · cases h

/-- A frame that is not the exit delivers its output, if there is any. -/
theorem onFrame_cons {σ : Type} {onEvent : σ → ExecEvent → σ × Except IoError Unit} {s : σ}
    (h : f.exitOf id = none) :
    onFrame onEvent id s f =
      match deliver onEvent s (f.outputOf id).toList with
      | (s, .ok ()) => .ok s
      | (s, .error e) => .error (s, .error e) := by
  cases f with
  | exec _ _ _ => rfl
  | output fid which data =>
    rw [onFrame, Frame.outputOf]
    split
    · rw [Option.toList_some, deliver]
      rcases onEvent s (which.event data) with ⟨s', _ | _⟩ <;> rfl
    · rfl
  | exit fid code =>
    rw [Frame.exitOf] at h
    split at h
    · cases h
    · next hid => exact if_neg hid

theorem deliver_append {σ : Type} (onEvent : σ → ExecEvent → σ × Except IoError Unit) (s : σ)
    (a b : List ExecEvent) :
    deliver onEvent s (a ++ b) =
      match deliver onEvent s a with
      | (s, .ok ()) => deliver onEvent s b
      | (s, .error e) => (s, .error e) := by
  induction a generalizing s with
  | nil => rfl
  | cons e es ih =>
    rw [List.cons_append, deliver, deliver]
    rcases onEvent s e with ⟨s', _ | _⟩
    · rfl
    · exact ih s'

/-- **The loop does what the frames mean.** -/
theorem foldlM_onFrame {σ : Type} (onEvent : σ → ExecEvent → σ × Except IoError Unit)
    (id : UInt64) (ending : Ending) (frames : List Frame) (s : σ) :
    (match frames.foldlM (onFrame onEvent id) s with
      | .error (s, result) => (s, some result)
      | .ok s => onEnding onEvent s ending) =
      settled (deliver onEvent s (events id ending frames)) (result id ending frames) := by
  induction frames generalizing s with
  | nil =>
    cases ending with
    | eof =>
      show onEnding onEvent s .eof = settled (deliver onEvent s [.exit (-1)]) (some (.ok ()))
      rw [onEnding, deliver]
      rcases onEvent s (.exit (-1)) with ⟨s', _ | _⟩ <;> rfl
    | failed e | silent => rfl
  | cons f fs ih =>
    rw [List.foldlM_cons]
    cases hexit : f.exitOf id with
    | some code =>
      obtain ⟨hevents, hresult⟩ := @events_exit id ending f fs code hexit
      rw [onFrame_exit hexit, hevents, hresult, deliver]
      show (_, _) = _
      rcases onEvent s (.exit code) with ⟨s', _ | _⟩ <;> rfl
    | none =>
      obtain ⟨hevents, hresult⟩ := @events_cons id ending f fs hexit
      rw [onFrame_cons hexit, hevents, hresult, deliver_append]
      rcases deliver onEvent s (f.outputOf id).toList with ⟨s', _ | _⟩
      · rfl
      · exact ih s'

end Meaning

/-! ## Reading -/

section Reading

variable {c : Codec} {ch : Channel} {bodies : List (List UInt8)}

/-- A reader handles the bodies that are valid frames, up to the first one that is not. -/
theorem pump_bodies {σ ρ : Type} (handle : σ → Frame → Except ρ σ) (s : σ)
    (hlen : ∀ body ∈ bodies, body.length < 2 ^ 32) (hbytes : ch.bytes = bodies.flatMap framed) :
    pump c.decoder handle (ch.reads.map Read.bytes) [] s =
      (readable c.fromSlice bodies).foldlM handle s >>= fun s' =>
        .ok (s', (stuck c.fromSlice bodies).flatMap framed) := by
  have hflat : (ch.reads.map Read.bytes).flatten = bodies.flatMap framed := by
    rw [← List.flatMap_def]
    exact hbytes
  rw [pump_eq_drain, List.nil_append, hflat]
  exact drain_pieces bodies s (fun body hbody more => c.decoder_framed (hlen body hbody) more)

/-- The frames at the front of what is read. -/
def framesOf (c : Codec) (ch : Channel) : List Frame := (c.decoder.decodeAll ch.bytes).1

theorem runExecStreaming_frames {σ : Type} (onEvent : σ → ExecEvent → σ × Except IoError Unit)
    (id : UInt64) (cmd : List String) (timeoutMs : UInt64) (s : σ) (href : ch.refusal = none) :
    runExecStreaming onEvent c ch id cmd timeoutMs s =
      settled (deliver onEvent s (events id ch.ending (framesOf c ch)))
        (result id ch.ending (framesOf c ch)) := by
  have hflat : (ch.reads.map Read.bytes).flatten = ch.bytes := (List.flatMap_def ..).symm
  rw [← foldlM_onFrame, runExecStreaming, Channel.writeAll_eq href]
  dsimp only
  rw [pump_eq_drain, List.nil_append, hflat, drain_eq_foldlM, framesOf]
  rcases (c.decoder.decodeAll ch.bytes).1.foldlM (onFrame onEvent id) s with ⟨_, _⟩ | _ <;> rfl

theorem runExecStreaming_bodies {σ : Type} (onEvent : σ → ExecEvent → σ × Except IoError Unit)
    (id : UInt64) (cmd : List String) (timeoutMs : UInt64) (s : σ) (href : ch.refusal = none)
    (hlen : ∀ body ∈ bodies, body.length < 2 ^ 32) (hbytes : ch.bytes = bodies.flatMap framed) :
    runExecStreaming onEvent c ch id cmd timeoutMs s =
      settled (deliver onEvent s (events id ch.ending (readable c.fromSlice bodies)))
        (result id ch.ending (readable c.fromSlice bodies)) := by
  rw [← foldlM_onFrame, runExecStreaming, Channel.writeAll_eq href]
  dsimp only
  rw [pump_bodies _ s hlen hbytes]
  rcases (readable c.fromSlice bodies).foldlM (onFrame onEvent id) s with ⟨_, _⟩ | _ <;> rfl

/-- The bytes of an event on each of the two streams. -/
def ExecEvent.stdoutData : ExecEvent → List UInt8
  | .stdout data => data
  | _ => []

def ExecEvent.stderrData : ExecEvent → List UInt8
  | .stderr data => data
  | _ => []

/-- What `run_exec` is to return for a list of frames, once it returns. -/
def collected (id : UInt64) (frames : List Frame) : ExecResult where
  exitCode := (exitCode id frames).getD (-1)
  stdout := (outputs id frames).flatMap ExecEvent.stdoutData
  stderr := (outputs id frames).flatMap ExecEvent.stderrData

theorem eq_event_of_mem_outputs {id : UInt64} {frames : List Frame} :
    ∀ e ∈ outputs id frames, ∃ (which : Stream) (data : List UInt8), e = which.event data := by
  intro e he
  obtain ⟨f, _, hf⟩ := List.mem_filterMap.mp he
  cases f with
  | exec _ _ _ | exit _ _ => cases hf
  | output fid which data =>
    rw [Frame.outputOf] at hf
    split at hf
    · exact ⟨which, data, (Option.some.inj hf).symm⟩
    · cases hf

/-- Output is appended to what there is. -/
theorem deliver_collect (es : List ExecEvent) (r : ExecResult)
    (h : ∀ e ∈ es, ∃ (which : Stream) (data : List UInt8), e = which.event data) :
    deliver ExecResult.collect r es = (⟨r.exitCode, r.stdout ++ es.flatMap ExecEvent.stdoutData,
        r.stderr ++ es.flatMap ExecEvent.stderrData⟩, .ok ()) := by
  induction es generalizing r with
  | nil =>
    rw [List.flatMap_nil, List.flatMap_nil, List.append_nil, List.append_nil]
    rfl
  | cons e es ih =>
    obtain ⟨which, data, rfl⟩ := h e List.mem_cons_self
    have hes := fun e' he' => h e' (List.mem_cons_of_mem _ he')
    rw [List.flatMap_cons, List.flatMap_cons, ← List.append_assoc, ← List.append_assoc]
    cases which with
    | stdout =>
      have hrest := ih { r with stdout := r.stdout ++ data } hes
      rw [show ExecEvent.stderrData (Stream.event .stdout data) = [] from rfl, List.append_nil]
      exact hrest
    | stderr =>
      have hrest := ih { r with stderr := r.stderr ++ data } hes
      rw [show ExecEvent.stdoutData (Stream.event .stderr data) = [] from rfl, List.append_nil]
      exact hrest

theorem runExec_bodies (id : UInt64) (cmd : List String) (timeoutMs : UInt64)
    (href : ch.refusal = none) (hlen : ∀ body ∈ bodies, body.length < 2 ^ 32)
    (hbytes : ch.bytes = bodies.flatMap framed) : runExec c ch id cmd timeoutMs =
      (result id ch.ending (readable c.fromSlice bodies)).map (fun r =>
        r.map (fun _ => collected id (readable c.fromSlice bodies))) := by
  rw [runExec, runExecStreaming_bodies _ id cmd timeoutMs _ href hlen hbytes]
  generalize readable c.fromSlice bodies = frames
  rw [events, deliver_append, deliver_collect _ _ eq_event_of_mem_outputs, List.nil_append,
    List.nil_append]
  unfold collected terminal result
  cases exitCode id frames with
  | some code => rfl
  | none =>
    cases ch.ending with
    | eof | failed e | silent => rfl

/-- The frames of a stream that is encoded are all readable. -/
theorem readable_toVec (c : Codec) (frames : List Frame) :
    readable c.fromSlice (frames.map c.toVec) = frames := by
  induction frames with
  | nil => rfl
  | cons f fs ih =>
    have hf := c.roundTrip f
    unfold readable at ih ⊢
    rw [List.map_cons, List.takeWhile_cons_of_pos (by rw [hf]; rfl),
      List.filterMap_cons_some hf, ih]

/-! ## The handshake line -/

theorem readByte_cons {b : UInt8} {rest : List UInt8} (h : ch.bytes = b :: rest) :
    ∃ ch', ch.readByte = .ok (b, ch') ∧ ch'.bytes = rest ∧ ch'.ending = ch.ending ∧
      ch'.refusal = ch.refusal := by
  obtain ⟨reads, ending, written, refusal⟩ := ch
  match reads with
  | [] => cases h
  | ⟨a, [], _⟩ :: rs =>
    obtain ⟨rfl, hrest⟩ := List.cons.inj h
    exact ⟨_, rfl, hrest, rfl, rfl⟩
  | ⟨a, a' :: as, _⟩ :: rs =>
    obtain ⟨rfl, hrest⟩ := List.cons.inj h
    exact ⟨_, rfl, hrest, rfl, rfl⟩

/-- A line is read up to its end, and nothing behind it. -/
theorem readLine_line (line : List UInt8) (room : Nat) (acc rest : List UInt8)
    (hroom : line.length ≤ room) (hline : ∀ b ∈ line, b ≠ 10) (h : ch.bytes = line ++ 10 :: rest) :
    ∃ ch', readLine room acc ch = some (.ok (acc ++ line, ch')) ∧ ch'.bytes = rest ∧
      ch'.ending = ch.ending ∧ ch'.refusal = ch.refusal := by
  induction line generalizing room acc ch with
  | nil =>
    obtain ⟨ch', hread, hbytes, hending, href⟩ := readByte_cons h
    refine ⟨ch', ?_, hbytes, hending, href⟩
    rw [readLine, hread, List.append_nil]
    exact if_pos rfl
  | cons b line ih =>
    obtain ⟨room, rfl⟩ : ∃ k, room = k + 1 := ⟨room - 1, by rw [List.length_cons] at hroom; omega⟩
    obtain ⟨ch₁, hread, hbytes, hending, href⟩ := readByte_cons h
    obtain ⟨ch', hline', hbytes', hending', href'⟩ := @ih ch₁ room (acc ++ [b])
      (Nat.le_of_succ_le_succ hroom) (fun b' hb' => hline b' (List.mem_cons_of_mem b hb')) hbytes
    refine ⟨ch', ?_, hbytes', hending'.trans hending, href'.trans href⟩
    rw [readLine, hread]
    dsimp only
    rw [if_neg (hline b List.mem_cons_self), hline', List.append_assoc, List.singleton_append]

/-- The lines that `vsock_connect` takes for an answer: `OK` and anything behind it, at most 64
bytes. -/
def Acknowledges (line : List UInt8) : Prop :=
  line.length ≤ 64 ∧ (∀ b ∈ line, b ≠ 10) ∧ [79, 75].isPrefixOf (stripCr line) = true

instance (line : List UInt8) : Decidable (Acknowledges line) :=
  haveI : Decidable (∀ b ∈ line, b ≠ 10) := List.decidableBAll _ _
  inferInstanceAs (Decidable (_ ∧ _ ∧ _))

/-- After the handshake the stream is behind the line. -/
theorem vsockConnect_line {line rest : List UInt8} (port : UInt32) (href : ch.refusal = none)
    (hline : Acknowledges line) (h : ch.bytes = line ++ 10 :: rest) :
    ∃ ch', vsockConnect ch port = some (.ok ch') ∧ ch'.bytes = rest ∧ ch'.ending = ch.ending ∧
      ch'.refusal = none := by
  obtain ⟨hlen, hnl, hok⟩ := hline
  rw [vsockConnect, Channel.writeAll_eq href]
  generalize ("CONNECT " ++ toString port.toNat ++ "\n").toUTF8.toList = hello
  obtain ⟨ch', hread, hbytes, hending, href'⟩ := @readLine_line
    { ch with written := ch.written ++ hello } line 64 [] rest hlen hnl h
  refine ⟨ch', ?_, hbytes, hending, href'.trans href⟩
  rw [List.nil_append] at hread
  dsimp only
  rw [hread]
  exact if_pos hok

end Reading

/-- The client makes of a stream what the frames mean: it delivers the output of the command on the
right stream and in order, up to the exit, then the exit code, or -1 if the stream ends before, and
nothing else; and `run_exec` returns all output of each of the two streams. -/
structure Decodes (c : Codec) (ch : Channel) (id : UInt64) (cmd : List String) (timeoutMs : UInt64)
    (frames : List Frame) : Prop where
  streaming : ∀ (σ : Type) (onEvent : σ → ExecEvent → σ × Except IoError Unit) (s : σ),
    runExecStreaming onEvent c ch id cmd timeoutMs s =
      settled (deliver onEvent s (events id ch.ending frames)) (result id ch.ending frames)
  collected : runExec c ch id cmd timeoutMs =
    (result id ch.ending frames).map (fun r => r.map (fun _ => collected id frames))

/-- **Read boundaries do not matter to the client**, whatever the frames, however they are cut into
reads and whatever comes after them, and also behind the line that answers the handshake. -/
theorem exec_decoded (c : Codec) (id : UInt64) (cmd : List String) (timeoutMs : UInt64)
    (frames : List Frame) (hlen : ∀ f ∈ frames, (c.toVec f).length < 2 ^ 32) :
    (∀ ch : Channel, ch.refusal = none → ch.bytes = frames.flatMap (encode c) →
      Decodes c ch id cmd timeoutMs frames) ∧
    ∀ (ch : Channel) (port : UInt32) (line : List UInt8), ch.refusal = none → Acknowledges line →
      ch.bytes = line ++ 10 :: frames.flatMap (encode c) →
      ∃ ch', vsockConnect ch port = some (.ok ch') ∧ ch'.ending = ch.ending ∧
        Decodes c ch' id cmd timeoutMs frames := by
  have hbodies : ∀ body ∈ frames.map c.toVec, body.length < 2 ^ 32 := by
    intro body hbody
    obtain ⟨f, hf, rfl⟩ := List.mem_map.mp hbody
    exact hlen f hf
  have hdecodes : ∀ ch : Channel, ch.refusal = none → ch.bytes = frames.flatMap (encode c) →
      Decodes c ch id cmd timeoutMs frames := by
    intro ch href hbytes
    have hbytes' : ch.bytes = (frames.map c.toVec).flatMap framed := by
      rw [hbytes, List.flatMap_map]
      rfl
    constructor
    · intro σ onEvent s
      have heq := runExecStreaming_bodies (c := c) onEvent id cmd timeoutMs s href hbodies hbytes'
      rwa [readable_toVec] at heq
    · have heq := runExec_bodies (c := c) id cmd timeoutMs href hbodies hbytes'
      rwa [readable_toVec] at heq
  refine ⟨hdecodes, ?_⟩
  intro ch port line href hline hbytes
  obtain ⟨ch', hconnect, hbytes', hending, href'⟩ := vsockConnect_line port href hline hbytes
  exact ⟨ch', hconnect, hending, hdecodes ch' href' hbytes'⟩

/-! ## A run -/

/-- The text of a command, as numbers. -/
def cmdCodes (cmd : List String) : List (List Nat) := cmd.map (fun s => s.toList.map Char.toNat)

def cmdOfCodes (codes : List (List Nat)) : List String :=
  codes.map (fun s => String.ofList (s.map Char.ofNat))

theorem cmdOfCodes_cmdCodes (cmd : List String) : cmdOfCodes (cmdCodes cmd) = cmd := by
  have hchars : ∀ cs : List Char, (cs.map Char.toNat).map Char.ofNat = cs := by
    intro cs
    rw [List.map_map]
    exact (List.map_congr_left (fun ch _ => Char.ofNat_toNat ch)).trans (List.map_id cs)
  rw [cmdOfCodes, cmdCodes, List.map_map]
  refine (List.map_congr_left (fun s _ => ?_)).trans (List.map_id cmd)
  show String.ofList ((s.toList.map Char.toNat).map Char.ofNat) = s
  rw [hchars, String.ofList_toList]

/-- A plain codec: a byte for the kind of the frame, its numbers, and the data to the end. Commands
are numbered, and the number is the length of the body. -/
def plain : Codec where
  toVec
    | .exit id code => 0 :: (leBytes 8 id.toNat ++ leBytes 4 code.toBitVec.toNat)
    | .output id .stdout data => 1 :: (leBytes 8 id.toNat ++ data)
    | .output id .stderr data => 2 :: (leBytes 8 id.toNat ++ data)
    | .exec id cmd timeoutMs =>
      3 :: List.replicate (Encodable.encode (id.toNat, cmdCodes cmd, timeoutMs.toNat)) 0
  fromSlice
    | 0 :: rest => some (.exit (UInt64.ofNat (ofLeBytes (rest.take 8)))
        (Int32.ofBitVec (BitVec.ofNat 32 (ofLeBytes (rest.drop 8)))))
    | 1 :: rest => some (.output (UInt64.ofNat (ofLeBytes (rest.take 8))) .stdout (rest.drop 8))
    | 2 :: rest => some (.output (UInt64.ofNat (ofLeBytes (rest.take 8))) .stderr (rest.drop 8))
    | 3 :: rest => (Encodable.decode rest.length : Option (Nat × List (List Nat) × Nat)).map
        (fun x => .exec (UInt64.ofNat x.1) (cmdOfCodes x.2.1) (UInt64.ofNat x.2.2))
    | _ => none
  roundTrip f := by
    have hid : ∀ (id : UInt64) (rest : List UInt8),
        UInt64.ofNat (ofLeBytes ((leBytes 8 id.toNat ++ rest).take 8)) = id := by
      intro id rest
      rw [List.take_left' (leBytes_length 8 _), ofLeBytes_leBytes,
        Nat.mod_eq_of_lt (show _ < 256 ^ 8 from id.toNat_lt), UInt64.ofNat_toNat]
    have hdrop : ∀ (id : UInt64) (rest : List UInt8), (leBytes 8 id.toNat ++ rest).drop 8 = rest :=
      fun id rest => List.drop_left' (leBytes_length 8 _)
    cases f with
    | exit id code =>
      show some (Frame.exit _ _) = _
      rw [hid, hdrop, ofLeBytes_leBytes,
        Nat.mod_eq_of_lt (show _ < 256 ^ 4 from code.toBitVec.isLt), BitVec.ofNat_toNat,
        BitVec.setWidth_eq, Int32.ofBitVec_toBitVec]
    | output id stream data =>
      cases stream with
      | stdout =>
        show some (Frame.output _ _ _) = _
        rw [hid, hdrop]
      | stderr =>
        show some (Frame.output _ _ _) = _
        rw [hid, hdrop]
    | exec id cmd timeoutMs =>
      show Option.map _ (Encodable.decode (List.length _)) = _
      rw [List.length_replicate, Encodable.encodek, Option.map_some, cmdOfCodes_cmdCodes,
        UInt64.ofNat_toNat, UInt64.ofNat_toNat]

/-- A stream on which these pieces arrive. -/
def arrives (pieces : List (List UInt8)) (ending : Ending) : Channel where
  reads := pieces.filterMap (fun piece =>
    match piece with
    | [] => none
    | b :: bs => if h : bs.length < CHUNK then some ⟨b, bs, h⟩ else none)
  ending := ending
  written := []
  refusal := none

/-- Output on both streams, with an exit that is not the command's in between, and a frame behind
the exit. -/
def someFrames : List Frame :=
  [.output 7 .stdout [104, 105], .exit 9 3, .output 7 .stderr [33], .exit 7 0,
    .output 7 .stdout [0]]

/-- The answer to the handshake comes in two pieces, the second with the first three bytes of the
frames, and the rest comes with a third. -/
theorem exec_decoded_pieces : ∃ ch', vsockConnect (arrives [[79, 75, 32], [49, 13, 10] ++
          (someFrames.flatMap (encode plain)).take 3, (someFrames.flatMap (encode plain)).drop 3]
        .silent) 1025 = some (.ok ch') ∧
      runExec plain ch' 7 ["id"] 0 = some (.ok ⟨0, [104, 105], [33]⟩) ∧
      Decodes plain ch' 7 ["id"] 0 someFrames := by
  obtain ⟨ch', hconnect, hending, hdecodes⟩ :=
    (exec_decoded plain 7 ["id"] 0 someFrames (by decide +kernel)).2
      (arrives [[79, 75, 32], [49, 13, 10] ++ (someFrames.flatMap (encode plain)).take 3,
        (someFrames.flatMap (encode plain)).drop 3] .silent) 1025 [79, 75, 32, 49, 13] rfl
      (by decide +kernel) (by decide +kernel)
  refine ⟨ch', hconnect, ?_, hdecodes⟩
  rw [hdecodes.collected, hending]
  rfl

end MicroMachines.Exec
