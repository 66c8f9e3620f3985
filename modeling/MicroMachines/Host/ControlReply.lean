import Mathlib.Data.List.DropRight
import MicroMachines.Lib.Text

set_option autoImplicit false

/-! # Replies on the control socket

The worker of a machine answers a request with one line (`crates/mm-host/src/control_proto.rs`). The text
of the line is the id of a snapshot, or an error message as it comes from the file system, from KVM or from
a device. The clients read up to the first newline, trim the end of what they have read, and split it at
the first space.

So only the first line of a text comes back, without the blanks at its end, and an empty text makes the line
malformed. `reply_encode` says what comes back for every text, and `reply_round_trip` when it is the reply.

Left out: the requests, which are two fixed words, and how the line of a malformed reply is quoted.
-/

namespace MicroMachines.Host

open MicroMachines.Lib

inductive ControlResponse
  | ok (id : List Char)
  | err (msg : List Char)
  deriving DecidableEq, Repr

/-- `malformed control response`, with the line. -/
structure Malformed where
  line : List Char
  deriving DecidableEq, Repr

namespace ControlResponse

def encode : ControlResponse → List Char
  | .ok id => "OK ".toList ++ id ++ ['\n']
  | .err msg => "ERR ".toList ++ msg ++ ['\n']

/-- Parse a line, without the newline. -/
def parse (line : List Char) : Except Malformed ControlResponse :=
  match splitOnce ' ' line with
  | some (verb, rest) =>
    if verb = "OK".toList then .ok (.ok rest)
    else if verb = "ERR".toList then .ok (.err rest)
    else .error ⟨line⟩
  | none => .error ⟨line⟩

/-- The id or the message. -/
def text : ControlResponse → List Char
  | .ok id => id
  | .err msg => msg

def withText (text : List Char) : ControlResponse → ControlResponse
  | .ok _ => .ok text
  | .err _ => .err text

def verb : ControlResponse → List Char
  | .ok _ => "OK".toList
  | .err _ => "ERR".toList

end ControlResponse

/-! ## The clients -/

/-- `BufRead::read_line`: up to the first newline, or to the end. -/
def readLine : List Char → List Char
  | [] => []
  | c :: cs => if c = '\n' then [c] else c :: readLine cs

/-- `char::is_whitespace`. -/
def isWhitespace (c : Char) : Bool :=
  let n := c.toNat
  (9 ≤ n && n ≤ 13) || n == 0x20 || n == 0x85 || n == 0xa0 || n == 0x1680 || (0x2000 ≤ n && n ≤ 0x200a) ||
    n == 0x2028 || n == 0x2029 || n == 0x202f || n == 0x205f || n == 0x3000

/-- `str::trim_end`. -/
def trimEnd (s : List Char) : List Char := s.rdropWhile isWhitespace

inductive ErrorKind
  | invalidData
  deriving DecidableEq, Repr

/-- `control::request`, from what the socket gives. -/
def request (stream : List Char) : Except (ErrorKind × Malformed) ControlResponse :=
  (ControlResponse.parse (trimEnd (readLine stream))).mapError (fun e => (.invalidData, e))

/-- `send_control` of the command line. -/
def sendControl (stream : List Char) : Except Malformed ControlResponse :=
  ControlResponse.parse (trimEnd (readLine stream))

/-! ## What comes back -/

/-- The first line of a text. -/
def firstLine (s : List Char) : List Char := s.takeWhile (· ≠ '\n')

theorem readLine_append (s rest : List Char) : readLine (s ++ '\n' :: rest) = firstLine s ++ ['\n'] := by
  induction s with
  | nil => simp [readLine, firstLine]
  | cons c s ih =>
    rw [List.cons_append, readLine, firstLine, List.takeWhile_cons]
    by_cases hc : c = '\n'
    · simp [hc]
    · simp [hc, ih, firstLine]

/-- The end of a text that is not all blank is where the end of its last piece is. -/
theorem trimEnd_append (a b : List Char) :
    trimEnd (a ++ b) = if trimEnd b = [] then trimEnd a else a ++ trimEnd b := by
  unfold trimEnd List.rdropWhile
  rw [List.reverse_append, List.dropWhile_append]
  by_cases hb : b.reverse.dropWhile isWhitespace = [] <;> simp [hb]

namespace ControlResponse

theorem encode_eq (r : ControlResponse) : r.encode = (r.verb ++ ' ' :: r.text) ++ ['\n'] := by
  cases r <;> rfl

theorem verb_cases (r : ControlResponse) : r.verb = "OK".toList ∨ r.verb = "ERR".toList := by
  cases r with
  | ok id => exact .inl rfl
  | err msg => exact .inr rfl

theorem trimEnd_verb (r : ControlResponse) : trimEnd (r.verb ++ [' ']) = r.verb := by
  rcases r.verb_cases with h | h <;> rw [h] <;> decide

theorem parse_verb (r : ControlResponse) : parse r.verb = .error ⟨r.verb⟩ := by
  cases r <;> rfl

theorem parse_withText (r : ControlResponse) (s : List Char) :
    parse (r.verb ++ ' ' :: s) = .ok (r.withText s) := by
  have hverb : ' ' ∉ r.verb := by rcases r.verb_cases with h | h <;> rw [h] <;> decide
  rw [parse, splitOnce_append_cons hverb]
  cases r with
  | ok id | err msg => rfl

theorem firstLine_verb (r : ControlResponse) (s : List Char) :
    firstLine (r.verb ++ ' ' :: s) = r.verb ++ ' ' :: firstLine s := by
  have hverb : ∀ c ∈ r.verb ++ [' '], decide (c ≠ '\n') = true := by
    rcases r.verb_cases with h | h <;> simp [h]
  have happ : r.verb ++ ' ' :: s = (r.verb ++ [' ']) ++ s := by simp
  rw [happ, firstLine, List.takeWhile_append_of_pos hverb, firstLine, List.append_assoc]
  rfl

theorem withText_eq (r : ControlResponse) (s : List Char) : r.withText s = r ↔ s = r.text := by
  cases r <;> simp [withText, text]

/-- **What a client gets**: the first line of the text without the blanks at its end, if there is any. -/
theorem reply_encode (r : ControlResponse) :
    sendControl r.encode = if trimEnd (firstLine r.text) = [] then .error ⟨r.verb⟩
      else .ok (r.withText (trimEnd (firstLine r.text))) := by
  have hnewline : trimEnd ['\n'] = [] := by decide
  have happ : r.verb ++ ' ' :: firstLine r.text = (r.verb ++ [' ']) ++ firstLine r.text := by simp
  rw [sendControl, encode_eq, readLine_append, firstLine_verb, trimEnd_append, if_pos hnewline, happ,
    trimEnd_append, trimEnd_verb]
  split
  · exact parse_verb r
  · rw [List.append_assoc]
    exact parse_withText r _

/-- A text that is carried unchanged: one line that does not end in a blank. -/
def Carried (s : List Char) : Prop := '\n' ∉ s ∧ ∃ c, s.getLast? = some c ∧ isWhitespace c = false

theorem carried_iff (s : List Char) : Carried s ↔ trimEnd (firstLine s) = s ∧ s ≠ [] := by
  constructor
  · rintro ⟨hline, c, hlast, hc⟩
    obtain ⟨init, rfl⟩ := List.getLast?_eq_some_iff.mp hlast
    have hfirst : firstLine (init ++ [c]) = init ++ [c] := by
      rw [firstLine, List.takeWhile_eq_self_iff]
      intro x hx
      exact decide_eq_true (fun heq => hline (heq ▸ hx))
    refine ⟨?_, by simp⟩
    rw [hfirst, trimEnd]
    exact List.rdropWhile_concat_neg isWhitespace init c (by simp [hc])
  · rintro ⟨htrim, hne⟩
    have hpre : trimEnd (firstLine s) <+: firstLine s := List.rdropWhile_prefix isWhitespace _
    rw [htrim] at hpre
    have hfirst : firstLine s = s := (hpre.eq_of_length_le (List.takeWhile_prefix _).length_le).symm
    rw [hfirst, trimEnd, List.rdropWhile_eq_self_iff] at htrim
    refine ⟨fun hmem => ?_, s.getLast hne, List.getLast?_eq_some_getLast hne, by simpa using htrim hne⟩
    rw [← hfirst] at hmem
    simpa using List.mem_takeWhile_imp hmem

/-- **Round trip.** What either client gets from the line of a reply is the reply if and only if its text is
one line, is not empty and does not end in a blank. -/
theorem reply_round_trip (r : ControlResponse) :
    (request r.encode = .ok r ↔ Carried r.text) ∧ (sendControl r.encode = .ok r ↔ Carried r.text) := by
  have hsend : sendControl r.encode = .ok r ↔ Carried r.text := by
    rw [reply_encode, carried_iff]
    split
    · next hblank =>
        constructor
        · intro h
          cases h
        · rintro ⟨htext, hne⟩
          exact absurd (htext.symm.trans hblank) hne
    · next hsome =>
        rw [Except.ok.injEq, withText_eq]
        exact ⟨fun htext => ⟨htext, fun hnil => hsome (htext.trans hnil)⟩, fun h => h.1⟩
  refine ⟨?_, hsend⟩
  have hrequest : request r.encode = (sendControl r.encode).mapError (fun e => (.invalidData, e)) := rfl
  rw [hrequest, ← hsend]
  cases sendControl r.encode with
  | error e => exact ⟨nofun, nofun⟩
  | ok r' => exact ⟨fun h => by cases h; rfl, fun h => by cases h; rfl⟩

/-- Of an error of two lines a client gets the first. -/
theorem reply_cut :
    ∃ r : ControlResponse, request r.encode = .ok (.err "writing memory.bin:".toList) ∧
      request r.encode ≠ .ok r ∧ sendControl r.encode ≠ .ok r :=
  ⟨.err "writing memory.bin:\nno space left on device".toList, by decide +kernel, by decide +kernel,
    by decide +kernel⟩

end ControlResponse

end MicroMachines.Host
