import MicroMachines.Exec.Client
import MicroMachines.HostAgent.Assignments
import MicroMachines.Controller.Dispatch

set_option autoImplicit false

/-! # A command in the cluster

`mm exec` with a controller. The agent of the host runs the command and sends a chunk for each event
(`services/mm-agent/src/exec.rs`). The controller makes a line of JSON from each chunk that is routed to
the request, and these lines are the body of its response (`exec` in
`services/mm-controller/src/api/machines.rs`). The client prints what is in them
(`apps/mm/src/commands/remote.rs`).

A command has one verdict, an exit code or an error. Each of the three ends its work with it, and each
can fail before that: the guest cannot be reached or goes away, chunks do not arrive, nothing comes for
too long.

* `one_verdict`: whatever fails, the chunks of the agent end with the verdict, and so do the lines of
  the controller; the client prints what the guest has written, and ends with the verdict.
-/

namespace MicroMachines.Exec

open MicroMachines.Lib MicroMachines.Controller MicroMachines.HostAgent

/-- A list that ends with the only one of a kind. -/
def EndsWithOnly {α : Type} (p : α → Bool) (l : List α) : Prop :=
  ∃ front last, l = front ++ [last] ∧ (∀ x ∈ front, p x = false) ∧ p last = true

/-! ## The agent -/

/-- The target of an exec task. -/
inductive Target where
  | ready (vsockPath : String) (cmd : List String) (timeoutMs : UInt64)
  | error (msg : String)
  deriving DecidableEq, Repr

def GUEST_EXEC_ID : UInt64 := 1

/-- `resolve_target`, with the answer of the store and with the files that exist. -/
def resolveTarget (get : Nat → Except String (Option LocalMachine)) (stateRoot : String)
    (pathExists : String → Bool) (task : Proto.ExecTask) : Target :=
  match task.request with
  | none => .error "exec task carried no request"
  | some request =>
    match request.ref with
    | none => .error "exec request carried no machine ref"
    | some ref =>
      match get ref.uid with
      | .ok none => .error ("no machine " ++ toString ref.uid ++ " on this host")
      | .error e => .error ("reading local store: " ++ e)
      | .ok (some record) =>
        if record.pid = none then .error ("machine " ++ record.name ++ " is not running")
        else
          let vsockPath := stateRoot ++ "/jails/" ++ record.name ++ "/vsock.sock"
          if pathExists vsockPath then .ready vsockPath request.cmd request.timeoutMs
          else .error
            ("machine " ++ record.name ++ " has no vsock bridge socket at " ++ vsockPath)

def outputChunk (requestId stream : String) (data : List UInt8) : Proto.ExecChunk where
  stream := stream
  data := data
  exitCode := 0
  done := false
  requestId := requestId
  error := ""

def exitChunk (requestId : String) (code : Int32) : Proto.ExecChunk where
  stream := ""
  data := []
  exitCode := code
  done := true
  requestId := requestId
  error := ""

def terminalError (requestId msg : String) : Proto.ExecChunk where
  stream := ""
  data := []
  exitCode := -1
  done := true
  requestId := requestId
  error := msg

/-- The chunk for an event. -/
def eventChunk (requestId : String) : ExecEvent → Proto.ExecChunk
  | .stdout data => outputChunk requestId "stdout" data
  | .stderr data => outputChunk requestId "stderr" data
  | .exit code => exitChunk requestId code

/-- What `produce_chunks` has sent. -/
structure Sent where
  chunks : List Proto.ExecChunk
  terminal : Bool

section Agent

/-- `blocking_send` fails when the channel is closed, and this may depend on what was sent. -/
def blockingSend (isOpen : List Proto.ExecChunk → Bool) (chunks : List Proto.ExecChunk)
    (chunk : Proto.ExecChunk) : List Proto.ExecChunk × Bool :=
  if isOpen chunks then (chunks ++ [chunk], true) else (chunks, false)

/-- The consumer of the events. -/
def forwardEvent (isOpen : List Proto.ExecChunk → Bool) (requestId : String) (s : Sent)
    (e : ExecEvent) : Sent × Except IoError Unit :=
  -- the flag is set before the chunk is sent
  let terminal := match e with
    | .exit _ => true
    | _ => s.terminal
  match blockingSend isOpen s.chunks (eventChunk requestId e) with
  | (chunks, true) => (⟨chunks, terminal⟩, .ok ())
  | (chunks, false) => (⟨chunks, terminal⟩, .error (.other "controller stream closed"))

/-- With a read timeout, reading does not wait for ever. -/
def Channel.withReadTimeout (ch : Channel) : Channel :=
  { ch with ending := match ch.ending with
      | .silent => .failed (.other "Resource temporarily unavailable")
      | ending => ending }

/-- The end of `produce_chunks`: if the run has failed, and the exit code has not been sent, there is
still an error to send. -/
def reportRun (isOpen : List Proto.ExecChunk → Bool) (requestId : String) :
    Sent × Option (Except IoError Unit) → List Proto.ExecChunk
  | (s, some (.error _)) =>
    if s.terminal then s.chunks
    else (blockingSend isOpen s.chunks (terminalError requestId
      "exec stream closed before the guest reported an exit code")).1
  | (s, _) => s.chunks

/-- `produce_chunks`: everything it sends. `connect` is what becomes of the connection to the guest,
and `readTimeout` of the call that sets the timeout. -/
def produceChunks (c : Codec) (isOpen : List Proto.ExecChunk → Bool)
    (connect : String → Except String Channel) (readTimeout : Except String Unit)
    (target : Target) (requestId : String) : List Proto.ExecChunk :=
  match target with
  | .error msg => (blockingSend isOpen [] (terminalError requestId msg)).1
  | .ready vsockPath cmd timeoutMs =>
    match connect vsockPath with
    | .error e =>
      (blockingSend isOpen []
        (terminalError requestId ("connecting to guest exec agent: " ++ e))).1
    | .ok ch =>
      match readTimeout with
      | .error e =>
        (blockingSend isOpen []
          (terminalError requestId ("setting exec read timeout: " ++ e))).1
      | .ok () =>
        reportRun isOpen requestId
          (runExecStreaming (forwardEvent isOpen requestId) c ch.withReadTimeout
            GUEST_EXEC_ID cmd timeoutMs ⟨[], false⟩)

/-- `run_and_report`: the chunks for a task. -/
def runAndReport (c : Codec) (isOpen : List Proto.ExecChunk → Bool)
    (connect : String → Except String Channel) (readTimeout : Except String Unit)
    (get : Nat → Except String (Option LocalMachine)) (stateRoot : String)
    (pathExists : String → Bool) (task : Proto.ExecTask) : List Proto.ExecChunk :=
  produceChunks c isOpen connect readTimeout (resolveTarget get stateRoot pathExists task)
    task.requestId

end Agent

/-! ## What the agent sends -/

/-- As in the controller: the exit code, or an error. -/
def isTerminal (chunk : Proto.ExecChunk) : Bool := chunk.done || decide (chunk.error ≠ "")

def ExecEvent.isExit : ExecEvent → Bool
  | .exit _ => true
  | _ => false

section AgentLemmas

variable {c : Codec} {connect : String → Except String Channel} {readTimeout : Except String Unit}

/-- What the command has written, as far as it has come. -/
def guestOutput (c : Codec) (connect : String → Except String Channel)
    (readTimeout : Except String Unit) : Target → List ExecEvent
  | .error _ => []
  | .ready vsockPath _ _ =>
    match connect vsockPath, readTimeout with
    | .ok ch, .ok () =>
      if ch.refusal = none then outputs GUEST_EXEC_ID (framesOf c ch) else []
    | _, _ => []

/-- How a command ends that was sent to the guest. -/
def guestVerdict (c : Codec) (ch : Channel) (requestId : String) : Proto.ExecChunk :=
  match ch.refusal, exitCode GUEST_EXEC_ID (framesOf c ch), ch.ending with
  | none, some code, _ => exitChunk requestId code
  | none, none, .eof => exitChunk requestId (-1)
  | _, _, _ =>
    terminalError requestId "exec stream closed before the guest reported an exit code"

def agentVerdict (c : Codec) (connect : String → Except String Channel)
    (readTimeout : Except String Unit) (requestId : String) : Target → Proto.ExecChunk
  | .error msg => terminalError requestId msg
  | .ready vsockPath _ _ =>
    match connect vsockPath, readTimeout with
    | .error e, _ => terminalError requestId ("connecting to guest exec agent: " ++ e)
    | .ok _, .error e => terminalError requestId ("setting exec read timeout: " ++ e)
    | .ok ch, .ok () => guestVerdict c ch requestId

theorem guestVerdict_cases (ch : Channel) (requestId : String) :
    (∃ code, guestVerdict c ch requestId = exitChunk requestId code) ∨
      ∃ msg, guestVerdict c ch requestId = terminalError requestId msg := by
  unfold guestVerdict
  cases ch.refusal with
  | some e => exact Or.inr ⟨_, rfl⟩
  | none =>
    cases exitCode GUEST_EXEC_ID (framesOf c ch) with
    | some code => exact Or.inl ⟨code, rfl⟩
    | none =>
      cases ch.ending with
      -- the guest has closed the stream: the client takes -1 for the code
      | eof => exact Or.inl ⟨-1, rfl⟩
      | failed e | silent => exact Or.inr ⟨_, rfl⟩

theorem agentVerdict_cases (requestId : String) (target : Target) :
    (∃ code, agentVerdict c connect readTimeout requestId target = exitChunk requestId code) ∨
      ∃ msg, agentVerdict c connect readTimeout requestId target = terminalError requestId msg := by
  unfold agentVerdict
  split
  · exact Or.inr ⟨_, rfl⟩
  · split
    · exact Or.inr ⟨_, rfl⟩
    · exact Or.inr ⟨_, rfl⟩
    · exact guestVerdict_cases _ requestId

theorem isTerminal_agentVerdict (requestId : String) (target : Target) :
    isTerminal (agentVerdict c connect readTimeout requestId target) = true := by
  rcases agentVerdict_cases requestId target with ⟨code, h⟩ | ⟨msg, h⟩
  · rw [h]
    exact Bool.true_or _
  · rw [h]
    exact Bool.true_or _

theorem not_isExit_of_mem_outputs {id : UInt64} {frames : List Frame} :
    ∀ e ∈ outputs id frames, e.isExit = false := by
  intro e he
  obtain ⟨which, data, rfl⟩ := eq_event_of_mem_outputs e he
  cases which <;> rfl

theorem not_isExit_of_mem_guestOutput {target : Target} :
    ∀ e ∈ guestOutput c connect readTimeout target, e.isExit = false := by
  unfold guestOutput
  split
  · exact List.forall_mem_nil _
  · split
    · split
      · exact not_isExit_of_mem_outputs
      · exact List.forall_mem_nil _
    · exact List.forall_mem_nil _

theorem isTerminal_eventChunk (requestId : String) (e : ExecEvent) :
    isTerminal (eventChunk requestId e) = e.isExit := by
  cases e <;> rfl

/-- While the channel is open, every event is sent. -/
theorem deliver_forwardEvent (requestId : String) (es : List ExecEvent) (s : Sent) :
    deliver (forwardEvent (fun _ => true) requestId) s es =
      (⟨s.chunks ++ es.map (eventChunk requestId), s.terminal || es.any ExecEvent.isExit⟩,
        .ok ()) := by
  induction es generalizing s with
  | nil => simp [deliver]
  | cons e es ih =>
    have hevent : forwardEvent (fun _ => true) requestId s e =
        (⟨s.chunks ++ [eventChunk requestId e], s.terminal || e.isExit⟩, .ok ()) := by
      cases e <;> simp [forwardEvent, blockingSend, ExecEvent.isExit]
    rw [deliver, hevent]
    dsimp only
    rw [ih]
    simp [Bool.or_assoc]

theorem any_isExit_outputs (id : UInt64) (frames : List Frame) :
    (outputs id frames).any ExecEvent.isExit = false := by
  rw [List.any_eq_false]
  intro e he
  rw [not_isExit_of_mem_outputs e he]
  exact Bool.false_ne_true

/-- A run that is not cut short by the channel. -/
theorem reportRun_run (ch : Channel) (cmd : List String) (timeoutMs : UInt64) (requestId : String) :
    reportRun (fun _ => true) requestId (runExecStreaming (forwardEvent (fun _ => true) requestId)
        c ch.withReadTimeout GUEST_EXEC_ID cmd timeoutMs ⟨[], false⟩) =
      (if ch.refusal = none then outputs GUEST_EXEC_ID (framesOf c ch) else []).map
          (eventChunk requestId) ++ [guestVerdict c ch requestId] := by
  cases href : ch.refusal with
  | some e =>
    have hrun : runExecStreaming (forwardEvent (fun _ => true) requestId) c ch.withReadTimeout
        GUEST_EXEC_ID cmd timeoutMs ⟨[], false⟩ = (⟨[], false⟩, some (.error e)) := by
      simp [runExecStreaming, Channel.writeAll, Channel.withReadTimeout, href]
    simp [hrun, reportRun, blockingSend, guestVerdict, href]
  | none =>
    have hframes : framesOf c ch.withReadTimeout = framesOf c ch := rfl
    have href' : ch.withReadTimeout.refusal = none := href
    rw [runExecStreaming_frames _ GUEST_EXEC_ID cmd timeoutMs _ href', deliver_forwardEvent,
      hframes, settled]
    have hout := any_isExit_outputs GUEST_EXEC_ID (framesOf c ch)
    -- the exit code has come, or the stream has ended in one of three ways
    cases hcode : exitCode GUEST_EXEC_ID (framesOf c ch) with
    | some code =>
      simp [reportRun, events, terminal, result, guestVerdict, href, hcode, eventChunk]
    | none =>
      cases hending : ch.ending <;>
        simp [reportRun, events, terminal, result, guestVerdict, href, hcode, hending, hout,
          eventChunk, Channel.withReadTimeout, blockingSend]

/-- **The agent's verdict comes last.** -/
theorem produceChunks_open (target : Target) (requestId : String) :
    produceChunks c (fun _ => true) connect readTimeout target requestId =
      (guestOutput c connect readTimeout target).map (eventChunk requestId) ++
        [agentVerdict c connect readTimeout requestId target] := by
  cases target with
  | error msg => rfl
  | ready vsockPath cmd timeoutMs =>
    unfold produceChunks guestOutput agentVerdict
    dsimp only
    cases connect vsockPath with
    | error e => rfl
    | ok ch =>
      cases readTimeout with
      | error e => rfl
      | ok _ =>
        exact reportRun_run ch cmd timeoutMs requestId

end AgentLemmas

/-! ## Lines of JSON -/

/-- The values in the objects that the controller writes. -/
inductive Scalar where
  | string (s : String)
  | bool (b : Bool)
  | number (n : Int64)
  deriving DecidableEq, Repr

def Scalar.asStr : Scalar → Option String
  | .string s => some s
  | _ => none

def Scalar.asBool : Scalar → Option Bool
  | .bool b => some b
  | _ => none

def Scalar.asI64 : Scalar → Option Int64
  | .number n => some n
  | _ => none

/-- A JSON object. The keys are in order, and each is there once. -/
structure Object where
  fields : List (String × Scalar)
  sorted : (fields.map Prod.fst).Pairwise (· < ·)

def Object.get (o : Object) (key : String) : Option Scalar := o.fields.lookup key

/-- What the programs use of `serde_json`: an object is written between braces, in one line, and can be
read again. -/
structure Json where
  toVec : Object → List UInt8
  fromStr : List UInt8 → Option Object
  roundTrip : ∀ o, fromStr (toVec o) = some o
  oneLine : ∀ o, 10 ∉ toVec o
  braces : ∀ o, ∃ inner, toVec o = 123 :: (inner ++ [125])

/-- And of the standard alphabet of `base64`. -/
structure Base64 where
  encode : List UInt8 → String
  decode : String → Option (List UInt8)
  roundTrip : ∀ data, decode (encode data) = some data

def Json.line (j : Json) (o : Object) : List UInt8 := j.toVec o ++ [10]

/-! ## The controller -/

def errorObject (msg : String) : Object := ⟨[("error", .string msg)], List.pairwise_singleton _ _⟩

def doneObject (exitCode : Int32) : Object where
  fields := [("done", .bool true), ("exit_code", .number exitCode.toInt64)]
  sorted := by
    show ["done", "exit_code"].Pairwise (· < ·)
    decide

def outputObject (stream data : String) : Object where
  fields := [("data", .string data), ("stream", .string stream)]
  sorted := by
    show ["data", "stream"].Pairwise (· < ·)
    decide

section Controller

variable (j : Json) (b : Base64)

def chunkObject (chunk : Proto.ExecChunk) : Object :=
  if chunk.error ≠ "" then errorObject chunk.error
  else if chunk.done then doneObject chunk.exitCode
  else outputObject chunk.stream (b.encode chunk.data)

def chunkToNdjson (chunk : Proto.ExecChunk) : List UInt8 := j.line (chunkObject b chunk)

def errorNdjson (msg : String) : List UInt8 := j.line (errorObject msg)

/-- What becomes of the channel after the last chunk that is routed: it is closed, or nothing comes for
too long. -/
inductive Stop where
  | closed
  | timedOut
  deriving DecidableEq, Repr

def Stop.message : Stop → String
  | .closed => "agent disconnected before exec completed"
  | .timedOut => "exec timed out waiting for the guest"

/-- The loop of `exec`, with the lines that it has sent. A line is refused when the client has hung
up. -/
def forwardChunks (reading : List (List UInt8) → Bool) (stop : Stop) :
    List Proto.ExecChunk → List (List UInt8) → List (List UInt8)
  | [], sent => if reading sent then sent ++ [errorNdjson j stop.message] else sent
  | chunk :: chunks, sent =>
    if reading sent then
      if isTerminal chunk then sent ++ [chunkToNdjson j b chunk]
      else forwardChunks reading stop chunks (sent ++ [chunkToNdjson j b chunk])
    else sent

end Controller

/-! ## The client -/

/-- What the client has written to its own streams. -/
structure Printed where
  stdout : List UInt8
  stderr : List UInt8
  deriving DecidableEq, Repr

inductive Outcome where
  | exited (code : Int32)
  | failed (msg : String)
  deriving DecidableEq, Repr

/-- `BufRead::lines`, with what there is of a line. -/
def lines : List UInt8 → List UInt8 → List (List UInt8)
  | line, [] => if line = [] then [] else [line]
  | line, byte :: rest =>
    if byte = 10 then stripCr line :: lines [] rest else lines (line ++ [byte]) rest

/-- A line with nothing but white space. -/
def isBlank (line : List UInt8) : Bool := line.all (fun b => b = 32 || (9 ≤ b && b ≤ 13))

def Printed.write (p : Printed) (stream : Option String) (data : List UInt8) : Printed :=
  if stream = some "stderr" then { p with stderr := p.stderr ++ data }
  else { p with stdout := p.stdout ++ data }

/-- The loop of `exec` in `remote.rs`. -/
def remoteExec (j : Json) (b : Base64) : List (List UInt8) → Printed → Printed × Outcome
  | [], p => (p, .failed "exec stream ended before the guest reported an exit code")
  | line :: rest, p =>
    if isBlank line then remoteExec j b rest p
    else
      match j.fromStr line with
      | none => (p, .failed "parsing exec chunk")
      | some chunk =>
        match (chunk.get "error").bind Scalar.asStr with
        | some err => (p, .failed ("exec failed: " ++ err))
        | none =>
          if ((chunk.get "done").bind Scalar.asBool).getD false then
            (p, .exited ((((chunk.get "exit_code").bind Scalar.asI64).getD (-1)).toInt32))
          else
            match (chunk.get "data").bind Scalar.asStr with
            -- an object of another kind is passed over
            | none => remoteExec j b rest p
            | some encoded =>
              match b.decode encoded with
              | none => (p, .failed "decoding exec output")
              | some data =>
                remoteExec j b rest
                  (p.write ((chunk.get "stream").bind Scalar.asStr) data)

/-! ## What the controller sends -/

section Lines

variable {j : Json} {b : Base64}

/-- The chunks before the first that is terminal. -/
def routedOutput (chunks : List Proto.ExecChunk) : List Proto.ExecChunk :=
  chunks.takeWhile (fun chunk => !isTerminal chunk)

/-- What the controller makes of the end: the first terminal chunk, or an error of its own. -/
def lastObject (b : Base64) (stop : Stop) (chunks : List Proto.ExecChunk) : Object :=
  match chunks.find? isTerminal with
  | some chunk => chunkObject b chunk
  | none => errorObject stop.message

/-- **The body.** -/
theorem forwardChunks_reading (stop : Stop) (chunks : List Proto.ExecChunk)
    (sent : List (List UInt8)) : forwardChunks j b (fun _ => true) stop chunks sent =
      sent ++ ((routedOutput chunks).map (chunkToNdjson j b) ++
        [j.line (lastObject b stop chunks)]) := by
  -- over the chunks, with any lines sent before
  induction chunks generalizing sent with
  | nil => rfl
  | cons chunk chunks ih =>
    unfold forwardChunks routedOutput lastObject
    rw [if_pos rfl]
    cases hterminal : isTerminal chunk with
    | true =>
      rw [if_pos rfl, List.takeWhile_cons_of_neg (by simp [hterminal]),
        List.find?_cons_of_pos hterminal]
      rfl
    | false =>
      rw [if_neg Bool.false_ne_true, ih, List.takeWhile_cons_of_pos (by simp [hterminal]),
        List.find?_cons_of_neg (by simp [hterminal]), List.map_cons]
      simp only [routedOutput, lastObject, List.append_assoc, List.cons_append, List.nil_append]

/-- A client that hangs up has got the beginning. -/
theorem forwardChunks_hungUp (reading : List (List UInt8) → Bool) (stop : Stop)
    (chunks : List Proto.ExecChunk) (sent : List (List UInt8)) :
    forwardChunks j b reading stop chunks sent <+:
      forwardChunks j b (fun _ => true) stop chunks sent := by
  induction chunks generalizing sent with
  | nil =>
    unfold forwardChunks
    split
    · exact List.prefix_rfl
    · exact List.prefix_append _ _
  | cons chunk chunks ih =>
    by_cases hreading : reading sent = true
    · unfold forwardChunks
      rw [if_pos hreading, if_pos rfl]
      split
      · exact List.prefix_rfl
      · exact ih _
    · have hsent : forwardChunks j b reading stop (chunk :: chunks) sent = sent := by
        rw [forwardChunks, if_neg hreading]
      rw [hsent, forwardChunks_reading]
      exact List.prefix_append _ _

/-! ## What the client prints -/

theorem lines_append {l : List UInt8} (h : 10 ∉ l) (line rest : List UInt8) :
    lines line (l ++ 10 :: rest) = stripCr (line ++ l) :: lines [] rest := by
  induction l generalizing line with
  | nil => rw [List.nil_append, lines, if_pos rfl, List.append_nil]
  | cons byte l ih =>
    obtain ⟨hbyte, hl⟩ := List.ne_and_not_mem_of_not_mem_cons h
    rw [List.cons_append, lines, if_neg hbyte.symm, ih hl, List.append_assoc]
    rfl

theorem stripCr_toVec (o : Object) : stripCr (j.toVec o) = j.toVec o := by
  obtain ⟨inner, hinner⟩ := j.braces o
  rw [hinner, stripCr, if_neg]
  rw [← List.cons_append, List.getLast?_concat]
  decide

theorem isBlank_toVec (o : Object) : isBlank (j.toVec o) = false := by
  obtain ⟨inner, hinner⟩ := j.braces o
  rw [hinner]
  rfl

/-- The lines of a body are the objects in it. -/
theorem lines_flatten (os : List Object) (more : List UInt8) :
    lines [] ((os.map j.line).flatten ++ more) = os.map j.toVec ++ lines [] more := by
  induction os with
  | nil => rfl
  | cons o os ih =>
    have hflat : ((o :: os).map j.line).flatten ++ more =
        j.toVec o ++ 10 :: ((os.map j.line).flatten ++ more) := by
      simp [Json.line]
    rw [hflat, lines_append (j.oneLine o), ih, List.nil_append, stripCr_toVec]
    rfl

theorem chunkObject_output {chunk : Proto.ExecChunk} (h : isTerminal chunk = false) :
    chunkObject b chunk = outputObject chunk.stream (b.encode chunk.data) := by
  rw [isTerminal, Bool.or_eq_false_iff, decide_eq_false_iff_not] at h
  rw [chunkObject, if_neg h.2, if_neg (by simp [h.1])]

/-- A line of output. -/
theorem remoteExec_output {chunk : Proto.ExecChunk} (h : isTerminal chunk = false)
    (rest : List (List UInt8)) (p : Printed) :
    remoteExec j b (j.toVec (chunkObject b chunk) :: rest) p =
      remoteExec j b rest (p.write (some chunk.stream) chunk.data) := by
  rw [remoteExec, isBlank_toVec, j.roundTrip, chunkObject_output h]
  simp [outputObject, Object.get, List.lookup_cons, Scalar.asStr, b.roundTrip]

theorem remoteExec_error (msg : String) (rest : List (List UInt8)) (p : Printed) :
    remoteExec j b (j.toVec (errorObject msg) :: rest) p =
      (p, .failed ("exec failed: " ++ msg)) := by
  rw [remoteExec, isBlank_toVec, j.roundTrip]
  simp [errorObject, Object.get, Scalar.asStr]

theorem remoteExec_done (code : Int32) (rest : List (List UInt8)) (p : Printed) :
    remoteExec j b (j.toVec (doneObject code) :: rest) p = (p, .exited code) := by
  rw [remoteExec, isBlank_toVec, j.roundTrip]
  simp [doneObject, Object.get, List.lookup_cons, Scalar.asBool, Scalar.asI64]

/-- How the client ends for a terminal chunk. -/
def chunkOutcome (chunk : Proto.ExecChunk) : Outcome :=
  if chunk.error ≠ "" then .failed ("exec failed: " ++ chunk.error) else .exited chunk.exitCode

def outcome (stop : Stop) (chunks : List Proto.ExecChunk) : Outcome :=
  match chunks.find? isTerminal with
  | some chunk => chunkOutcome chunk
  | none => .failed ("exec failed: " ++ stop.message)

/-- The line with the verdict; nothing behind it is read. -/
theorem remoteExec_last (stop : Stop) (chunks : List Proto.ExecChunk) (rest : List (List UInt8))
    (p : Printed) :
    remoteExec j b (j.toVec (lastObject b stop chunks) :: rest) p = (p, outcome stop chunks) := by
  unfold lastObject outcome
  cases hfind : chunks.find? isTerminal with
  | none => exact remoteExec_error stop.message rest p
  | some chunk =>
    have hterminal : isTerminal chunk = true := List.find?_some hfind
    dsimp only
    unfold chunkObject chunkOutcome
    by_cases herror : chunk.error ≠ ""
    · rw [if_pos herror, if_pos herror]
      exact remoteExec_error chunk.error rest p
    · have hdone : chunk.done = true := by simpa [isTerminal, herror] using hterminal
      rw [if_neg herror, if_neg herror, if_pos hdone]
      exact remoteExec_done chunk.exitCode rest p

def stdoutOf (chunks : List Proto.ExecChunk) : List UInt8 :=
  (chunks.filter (fun chunk => chunk.stream ≠ "stderr")).flatMap (·.data)

def stderrOf (chunks : List Proto.ExecChunk) : List UInt8 :=
  (chunks.filter (fun chunk => chunk.stream = "stderr")).flatMap (·.data)

theorem remoteExec_routed (chunks : List Proto.ExecChunk)
    (h : ∀ chunk ∈ chunks, isTerminal chunk = false) (rest : List (List UInt8)) (p : Printed) :
    remoteExec j b ((chunks.map (chunkObject b)).map j.toVec ++ rest) p =
      remoteExec j b rest ⟨p.stdout ++ stdoutOf chunks, p.stderr ++ stderrOf chunks⟩ := by
  induction chunks generalizing p with
  | nil => simp [stdoutOf, stderrOf]
  | cons chunk chunks ih =>
    obtain ⟨hchunk, hchunks⟩ := List.forall_mem_cons.mp h
    rw [List.map_cons, List.map_cons, List.cons_append, remoteExec_output hchunk, ih hchunks]
    by_cases hstream : chunk.stream = "stderr" <;> simp [Printed.write, stdoutOf, stderrOf, hstream]

theorem isTerminal_of_mem_routedOutput {chunks : List Proto.ExecChunk} :
    ∀ chunk ∈ routedOutput chunks, isTerminal chunk = false := by
  intro chunk hchunk
  have hall := List.all_eq_true.mp List.all_takeWhile chunk hchunk
  simpa using hall

/-- **The client stops at the verdict.** -/
theorem remoteExec_body (stop : Stop) (chunks : List Proto.ExecChunk) (more : List UInt8) :
    remoteExec j b (lines [] ((forwardChunks j b (fun _ => true) stop chunks []).flatten ++ more))
        ⟨[], []⟩ =
      (⟨stdoutOf (routedOutput chunks), stderrOf (routedOutput chunks)⟩, outcome stop chunks) := by
  have hobjects : forwardChunks j b (fun _ => true) stop chunks [] =
      ((routedOutput chunks).map (chunkObject b) ++ [lastObject b stop chunks]).map j.line := by
    rw [forwardChunks_reading, List.nil_append, List.map_append, List.map_map]
    rfl
  rw [hobjects, lines_flatten, List.map_append, List.append_assoc,
    remoteExec_routed _ isTerminal_of_mem_routedOutput]
  exact remoteExec_last stop chunks _ _

/-- A line at which the client stops. -/
def terminalLine (j : Json) (line : List UInt8) : Bool :=
  (j.fromStr line.dropLast).any (fun o => ((o.get "error").bind Scalar.asStr).isSome ||
    ((o.get "done").bind Scalar.asBool).getD false)

theorem terminalLine_line (o : Object) :
    terminalLine j (j.line o) = (((o.get "error").bind Scalar.asStr).isSome ||
      ((o.get "done").bind Scalar.asBool).getD false) := by
  rw [terminalLine, Json.line, List.dropLast_concat, j.roundTrip]
  rfl

/-- The lines for the chunks that are terminal are those at which the client stops. -/
theorem terminalLine_chunkToNdjson (chunk : Proto.ExecChunk) :
    terminalLine j (chunkToNdjson j b chunk) = isTerminal chunk := by
  rw [chunkToNdjson, terminalLine_line, chunkObject, isTerminal]
  by_cases herror : chunk.error ≠ ""
  · rw [if_pos herror, decide_eq_true herror, Bool.or_true]
    rfl
  · rw [if_neg herror, decide_eq_false herror, Bool.or_false]
    cases chunk.done <;> rfl

theorem terminalLine_last (stop : Stop) (chunks : List Proto.ExecChunk) :
    terminalLine j (j.line (lastObject b stop chunks)) = true := by
  unfold lastObject
  cases hfind : chunks.find? isTerminal with
  | none =>
    rw [terminalLine_line]
    rfl
  | some chunk => exact (terminalLine_chunkToNdjson chunk).trans (List.find?_some hfind)

end Lines

/-! ## From the guest to the client -/

theorem stdoutOf_events (requestId : String) (es : List ExecEvent) :
    stdoutOf (es.map (eventChunk requestId)) = es.flatMap ExecEvent.stdoutData := by
  induction es with
  | nil => rfl
  | cons e es ih =>
    unfold stdoutOf at ih ⊢
    rw [List.map_cons, List.flatMap_cons, ← ih, List.filter_cons]
    cases e <;> rfl

theorem stderrOf_events (requestId : String) (es : List ExecEvent) :
    stderrOf (es.map (eventChunk requestId)) = es.flatMap ExecEvent.stderrData := by
  induction es with
  | nil => rfl
  | cons e es ih =>
    unfold stderrOf at ih ⊢
    rw [List.map_cons, List.flatMap_cons, ← ih, List.filter_cons]
    cases e <;> rfl

section Composed

variable {c : Codec} {connect : String → Except String Channel} {readTimeout : Except String Unit}
  {target : Target} {requestId : String}

theorem isTerminal_guestChunks {es : List ExecEvent} (h : ∀ e ∈ es, e.isExit = false) :
    ∀ chunk ∈ es.map (eventChunk requestId), isTerminal chunk = false := by
  intro chunk hchunk
  obtain ⟨e, he, rfl⟩ := List.mem_map.mp hchunk
  rw [isTerminal_eventChunk, h e he]

/-- Output without a verdict. -/
theorem routed_unfinished {chunks : List Proto.ExecChunk}
    (h : ∀ chunk ∈ chunks, isTerminal chunk = false) (stop : Stop) : routedOutput chunks = chunks ∧
      outcome stop chunks = .failed ("exec failed: " ++ stop.message) := by
  constructor
  · have hself := @List.takeWhile_append_of_pos _ (fun chunk => !isTerminal chunk) chunks []
      (fun chunk hchunk => by simp [h chunk hchunk])
    simpa [routedOutput] using hself
  · have hnone : chunks.find? isTerminal = none := by
      rw [List.find?_eq_none]
      exact fun chunk hchunk => by simp [h chunk hchunk]
    rw [outcome, hnone]

/-- Output and the verdict. -/
theorem routed_finished {chunks : List Proto.ExecChunk} {last : Proto.ExecChunk}
    (h : ∀ chunk ∈ chunks, isTerminal chunk = false) (hlast : isTerminal last = true)
    (stop : Stop) : routedOutput (chunks ++ [last]) = chunks ∧
      outcome stop (chunks ++ [last]) = chunkOutcome last := by
  constructor
  · rw [routedOutput, List.takeWhile_append_of_pos (fun chunk hchunk => by simp [h chunk hchunk]),
      List.takeWhile_cons_of_neg (by simp [hlast]), List.append_nil]
  · have hnone : chunks.find? isTerminal = none := by
      rw [List.find?_eq_none]
      exact fun chunk hchunk => by simp [h chunk hchunk]
    have hfind : (chunks ++ [last]).find? isTerminal = some last := by
      rw [List.find?_append, hnone, Option.none_or, List.find?_cons_of_pos hlast]
    rw [outcome, hfind]

/-- The chunks of the agent, as far as they are routed. -/
theorem routed_agent (n : Nat) (stop : Stop) :
    routedOutput ((produceChunks c (fun _ => true) connect readTimeout target requestId).take n) =
        ((guestOutput c connect readTimeout target).take n).map (eventChunk requestId) ∧
      outcome stop ((produceChunks c (fun _ => true) connect readTimeout target requestId).take n) =
        if (guestOutput c connect readTimeout target).length < n then
          chunkOutcome (agentVerdict c connect readTimeout requestId target)
        else .failed ("exec failed: " ++ stop.message) := by
  have hexit : ∀ e ∈ guestOutput c connect readTimeout target, e.isExit = false :=
    not_isExit_of_mem_guestOutput
  rw [produceChunks_open]
  by_cases hn : (guestOutput c connect readTimeout target).length < n
  · -- all chunks have come, the verdict too
    rw [if_pos hn, List.take_of_length_le (by simp; omega), List.take_of_length_le hn.le]
    exact routed_finished (isTerminal_guestChunks hexit) (isTerminal_agentVerdict requestId target) stop
  · rw [if_neg hn, List.take_append_of_le_length (by simp; omega), ← List.map_take]
    exact routed_unfinished (isTerminal_guestChunks fun e he => hexit e (List.mem_of_mem_take he)) stop

end Composed

/-- **A command has one verdict.**
* The chunks of the agent end with the only terminal one, as long as its channel is open: whatever the
  target is, whether the guest can be reached, and whatever it sends.
* For any chunks that are routed to a request and for either way in which they stop, the body of the
  response is a line for each chunk of output, in order, and then the only terminal line. A client that
  hangs up gets the beginning of it. The client prints the data of these chunks, each on its stream, and
  stops at that line.
* So it prints what the guest has written, as far as the chunks of the agent have come, and ends with
  the verdict of the agent if all have. -/
theorem one_verdict (c : Codec) (j : Json) (b : Base64) : (∀ connect readTimeout target requestId,
      EndsWithOnly isTerminal
        (produceChunks c (fun _ => true) connect readTimeout target requestId)) ∧ (∀ stop chunks,
      forwardChunks j b (fun _ => true) stop chunks [] =
        (routedOutput chunks).map (chunkToNdjson j b) ++ [j.line (lastObject b stop chunks)] ∧
      EndsWithOnly (terminalLine j) (forwardChunks j b (fun _ => true) stop chunks []) ∧
      (∀ reading, forwardChunks j b reading stop chunks [] <+:
        forwardChunks j b (fun _ => true) stop chunks []) ∧ ∀ more, remoteExec j b
          (lines [] ((forwardChunks j b (fun _ => true) stop chunks []).flatten ++ more)) ⟨[], []⟩ =
        (⟨stdoutOf (routedOutput chunks), stderrOf (routedOutput chunks)⟩, outcome stop chunks)) ∧
    (∀ connect readTimeout target requestId n stop more,
      remoteExec j b (lines [] ((forwardChunks j b (fun _ => true) stop
          ((produceChunks c (fun _ => true) connect readTimeout target requestId).take n) []).flatten ++
            more)) ⟨[], []⟩ =
        (⟨((guestOutput c connect readTimeout target).take n).flatMap ExecEvent.stdoutData,
            ((guestOutput c connect readTimeout target).take n).flatMap ExecEvent.stderrData⟩,
          if (guestOutput c connect readTimeout target).length < n then
            chunkOutcome (agentVerdict c connect readTimeout requestId target)
          else .failed ("exec failed: " ++ stop.message))) := by
  refine ⟨?_, ?_, ?_⟩
  · intro connect readTimeout target requestId
    exact ⟨_, _, produceChunks_open target requestId,
      isTerminal_guestChunks not_isExit_of_mem_guestOutput, isTerminal_agentVerdict requestId target⟩
  · intro stop chunks
    have hbody := @forwardChunks_reading j b stop chunks []
    rw [List.nil_append] at hbody
    refine ⟨hbody, ⟨_, _, hbody, ?_, terminalLine_last stop chunks⟩,
      fun reading => forwardChunks_hungUp reading stop chunks [],
      fun more => remoteExec_body stop chunks more⟩
    intro line hline
    obtain ⟨chunk, hchunk, rfl⟩ := List.mem_map.mp hline
    rw [terminalLine_chunkToNdjson, isTerminal_of_mem_routedOutput chunk hchunk]
  · intro connect readTimeout target requestId n stop more
    obtain ⟨hrouted, houtcome⟩ :=
      @routed_agent c connect readTimeout target requestId n stop
    rw [remoteExec_body, hrouted, houtcome, stdoutOf_events, stderrOf_events]

/-! ## A run -/

/-- A text, as numbers. -/
def textCode (s : String) : List Nat := s.toList.map Char.toNat

def textOfCode (code : List Nat) : String := String.ofList (code.map Char.ofNat)

theorem textOfCode_textCode (s : String) : textOfCode (textCode s) = s := by
  have hchars : (s.toList.map Char.toNat).map Char.ofNat = s.toList := by
    rw [List.map_map]
    exact (List.map_congr_left (fun ch _ => Char.ofNat_toNat ch)).trans (List.map_id s.toList)
  rw [textOfCode, textCode, hchars, String.ofList_toList]

def fieldCode : String × Scalar → List Nat × Nat × List Nat
  | (key, .string s) => (textCode key, 0, textCode s)
  | (key, .bool b) => (textCode key, 1, [b.toNat])
  | (key, .number n) => (textCode key, 2, [n.toBitVec.toNat])

def fieldOfCode : List Nat × Nat × List Nat → String × Scalar
  | (key, 0, s) => (textOfCode key, .string (textOfCode s))
  | (key, 1, b) => (textOfCode key, .bool (b = [1]))
  | (key, _, n) => (textOfCode key, .number (Int64.ofBitVec (BitVec.ofNat 64 n.sum)))

theorem fieldOfCode_fieldCode (field : String × Scalar) : fieldOfCode (fieldCode field) = field := by
  obtain ⟨key, value⟩ := field
  cases value with
  | string s | number n => simp [fieldCode, fieldOfCode, textOfCode_textCode]
  | bool b => cases b <;> simp [fieldCode, fieldOfCode, textOfCode_textCode]

def objectOfCodes (codes : List (List Nat × Nat × List Nat)) : Option Object :=
  if h : ((codes.map fieldOfCode).map Prod.fst).Pairwise (· < ·) then
    some ⟨codes.map fieldOfCode, h⟩
  else none

theorem objectOfCodes_fieldCode (o : Object) : objectOfCodes (o.fields.map fieldCode) = some o := by
  have hfields : (o.fields.map fieldCode).map fieldOfCode = o.fields := by
    rw [List.map_map]
    exact (List.map_congr_left (fun f _ => fieldOfCode_fieldCode f)).trans (List.map_id o.fields)
  simp only [objectOfCodes, hfields]
  exact dif_pos o.sorted

/-- Plain JSON: objects are numbered, and between the braces there are as many zeros. -/
def plainJson : Json where
  toVec o := 123 :: (List.replicate (Encodable.encode (o.fields.map fieldCode)) 48 ++ [125])
  fromStr line := (Encodable.decode (line.length - 2)).bind objectOfCodes
  roundTrip o := by
    have hlen : (123 :: (List.replicate (Encodable.encode (o.fields.map fieldCode)) (48 : UInt8) ++
        [125])).length - 2 = Encodable.encode (o.fields.map fieldCode) := by
      simp
    rw [hlen, Encodable.encodek, Option.bind_some, objectOfCodes_fieldCode]
  oneLine o := by simp
  braces o := ⟨_, rfl⟩

/-- Each byte is a character. -/
def plainBase64 : Base64 where
  encode data := textOfCode (data.map UInt8.toNat)
  decode s := some ((textCode s).map UInt8.ofNat)
  roundTrip data := by
    have hchar : ∀ byte : UInt8, (Char.ofNat byte.toNat).toNat = byte.toNat := by
      intro byte
      have hvalid : byte.toNat.isValidChar := .inl (by have := byte.toNat_lt; omega)
      rw [Char.ofNat, dif_pos hvalid]
      rfl
    simp [textCode, textOfCode, Function.comp_def, hchar]

/-- The guest's stream comes in two pieces, and ends. -/
def hiStream : Channel :=
  arrives [(([.output 1 .stdout [104, 105], .output 1 .stderr [33], .exit 1 0] :
    List Frame).flatMap (encode plain)).take 5, (([.output 1 .stdout [104, 105],
      .output 1 .stderr [33], .exit 1 0] : List Frame).flatMap (encode plain)).drop 5] .eof

theorem one_verdict_hi :
    remoteExec plainJson plainBase64 (lines [] ((forwardChunks plainJson plainBase64 (fun _ => true)
        .closed ((produceChunks plain (fun _ => true) (fun _ => .ok hiStream) (.ok ())
          (.ready "vsock.sock" ["id"] 0) "one").take 3) []).flatten ++ [])) ⟨[], []⟩ =
      (⟨[104, 105], [33]⟩, .exited 0) := by
  rw [(one_verdict plain plainJson plainBase64).2.2]
  decide +kernel

end MicroMachines.Exec
