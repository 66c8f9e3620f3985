import MicroMachines.Lib.Bytes
import MicroMachines.Lib.Framing

set_option autoImplicit false

/-! # The exec protocol

`crates/mm-sandbox/src/exec/protocol.rs`: the messages between the host and the agent in the guest
that runs commands. On the wire a message is a JSON document behind its length.

The JSON itself is that of a library, of which nothing is assumed but that it decodes what it
encodes (`Codec`).
-/

namespace MicroMachines.Exec

open MicroMachines.Lib

inductive Stream where
  | stdout
  | stderr
  deriving DecidableEq, Repr

inductive Frame where
  | exec (id : UInt64) (cmd : List String) (timeoutMs : UInt64)
  | output (id : UInt64) (stream : Stream) (data : List UInt8)
  | exit (id : UInt64) (code : Int32)
  deriving DecidableEq, Repr

/-- `serde_json` at the type of frames. -/
structure Codec where
  toVec : Frame → List UInt8
  fromSlice : List UInt8 → Option Frame
  roundTrip : ∀ f, fromSlice (toVec f) = some f

/-- A body behind its length: four bytes, most significant first. -/
def framed (body : List UInt8) : List UInt8 := (leBytes 4 body.length).reverse ++ body

def encode (c : Codec) (frame : Frame) : List UInt8 := framed (c.toVec frame)

/-- The length that the first four bytes declare. -/
def declared (buf : List UInt8) : Nat := ofLeBytes (buf.take 4).reverse

def decode (c : Codec) (buf : List UInt8) : Option (Frame × Nat) :=
  if buf.length < 4 then none
  else if buf.length < 4 + declared buf then none
  else (c.fromSlice ((buf.drop 4).take (declared buf))).map (fun frame => (frame, 4 + declared buf))

/-- The buffer does not hold a whole frame. -/
def Short (buf : List UInt8) : Prop := buf.length < 4 ∨ buf.length < 4 + declared buf

instance (buf : List UInt8) : Decidable (Short buf) := inferInstanceAs (Decidable (_ ∨ _))

section Decode

variable {c : Codec} {buf : List UInt8}

theorem decode_of_short (h : Short buf) : decode c buf = none := by
  unfold decode
  rcases h with hfour | hbody
  · rw [if_pos hfour]
  · rw [if_pos hbody]
    split <;> rfl

theorem decode_of_whole (h : ¬ Short buf) :
    decode c buf = (c.fromSlice ((buf.drop 4).take (declared buf))).map
      (fun frame => (frame, 4 + declared buf)) := by
  obtain ⟨hfour, hbody⟩ := not_or.mp h
  rw [decode, if_neg hfour, if_neg hbody]

/-- What decodes is whole. -/
theorem decode_some {frame : Frame} {n : Nat} (h : decode c buf = some (frame, n)) :
    ¬ Short buf ∧ n = 4 + declared buf ∧
      c.fromSlice ((buf.drop 4).take (declared buf)) = some frame := by
  have hwhole : ¬ Short buf := by
    intro hshort
    rw [decode_of_short hshort] at h
    cases h
  rw [decode_of_whole hwhole, Option.map_eq_some_iff] at h
  obtain ⟨frame', hslice, heq⟩ := h
  obtain ⟨rfl, rfl⟩ := Prod.mk.inj heq
  exact ⟨hwhole, rfl, hslice⟩

theorem declared_append (more : List UInt8) (h : 4 ≤ buf.length) :
    declared (buf ++ more) = declared buf := by
  rw [declared, declared, List.take_append_of_le_length h]

/-- What decodes decodes in the same way when more is behind it. -/
theorem decode_append {frame : Frame} {n : Nat} (more : List UInt8)
    (h : decode c buf = some (frame, n)) : decode c (buf ++ more) = some (frame, n) := by
  obtain ⟨hwhole, rfl, hslice⟩ := decode_some h
  unfold Short at hwhole
  have hdeclared := @declared_append buf more (by omega)
  have hwhole' : ¬ Short (buf ++ more) := by
    unfold Short
    rw [hdeclared, List.length_append]
    omega
  rw [decode_of_whole hwhole', hdeclared, List.drop_append_of_le_length (by omega),
    List.take_append_of_le_length (by rw [List.length_drop]; omega), hslice, Option.map_some]

/-- The decoder of the readers. -/
def Codec.decoder (c : Codec) : Decoder UInt8 Frame where
  decode := decode c
  pos h := by
    obtain ⟨_, rfl, _⟩ := decode_some h
    omega
  le_length h := by
    obtain ⟨hwhole, rfl, _⟩ := decode_some h
    unfold Short at hwhole
    omega
  stable more h := decode_append more h

theorem Codec.decoder_decode (c : Codec) : c.decoder.decode = decode c := rfl

theorem length_framed (body : List UInt8) : (framed body).length = 4 + body.length := by
  rw [framed, List.length_append, List.length_reverse, leBytes_length]

/-- A body behind its length is what the library makes of it. -/
theorem decode_framed {body : List UInt8} (h : body.length < 2 ^ 32) (more : List UInt8) :
    decode c (framed body ++ more) =
      (c.fromSlice body).map (fun frame => (frame, (framed body).length)) := by
  have hfour : (leBytes 4 body.length).reverse.length = 4 := by
    rw [List.length_reverse, leBytes_length]
  have hsplit : framed body ++ more = (leBytes 4 body.length).reverse ++ (body ++ more) :=
    List.append_assoc _ _ _
  have hdeclared : declared (framed body ++ more) = body.length := by
    rw [declared, hsplit, List.take_left' hfour, List.reverse_reverse, ofLeBytes_leBytes,
      Nat.mod_eq_of_lt (by omega)]
  have hwhole : ¬ Short (framed body ++ more) := by
    unfold Short
    rw [hdeclared, List.length_append, length_framed]
    omega
  rw [decode_of_whole hwhole, hdeclared, hsplit, List.drop_left' hfour, List.take_left,
    length_framed]

theorem Codec.decoder_framed (c : Codec) {body : List UInt8} (h : body.length < 2 ^ 32)
    (more : List UInt8) : c.decoder.decode (framed body ++ more) =
      (c.fromSlice body).map (fun frame => (frame, (framed body).length)) := by
  rw [Codec.decoder_decode]
  exact decode_framed h more

/-- **When there is no answer.** The buffer does not hold a whole frame, or the body of its first
frame is not valid. -/
theorem decode_none_iff :
    decode c buf = none ↔ Short buf ∨ c.fromSlice ((buf.drop 4).take (declared buf)) = none := by
  by_cases h : Short buf
  · exact iff_of_true (decode_of_short h) (Or.inl h)
  · rw [decode_of_whole h, Option.map_eq_none_iff, or_iff_right h]

end Decode

end MicroMachines.Exec
