import Mathlib.Tactic

set_option autoImplicit false

/-! # Decoding a stream while it arrives

A reader keeps what has arrived in a buffer. It takes values from the front of the buffer as long as
there are whole ones, hands each to a handler, and then reads more. The handler may end all this.

* `Decoder`: takes a value from the front of a buffer; what it takes does not depend on what comes
  later.
* `drain`: the inner loop, over what is in the buffer; `pump`: the whole loop, over a list of reads.
* `pump_eq_drain`: how the stream is cut into reads does not matter.
* `drain_pieces`: values that are encoded one after the other are handled one after the other, up to
  a piece that does not decode.
* `drain_eq_foldlM`: for any buffer at all, the loop handles what `decodeAll` takes from it.
-/

namespace MicroMachines.Lib

variable {α β σ ρ : Type}

/-- Takes a value from the front of a buffer, with the number of elements that it is made of. -/
structure Decoder (β α : Type) where
  decode : List β → Option (α × Nat)
  pos : ∀ {buf a n}, decode buf = some (a, n) → 0 < n
  le_length : ∀ {buf a n}, decode buf = some (a, n) → n ≤ buf.length
  stable : ∀ {buf a n} (more : List β), decode buf = some (a, n) →
    decode (buf ++ more) = some (a, n)

section Loops

variable (dec : Decoder β α) (handle : σ → α → Except ρ σ)

/-- The inner loop, for a number of turns. -/
def drainTurns : Nat → List β → σ → Except ρ (σ × List β)
  | 0, buf, s => .ok (s, buf)
  | k + 1, buf, s =>
    match dec.decode buf with
    | none => .ok (s, buf)
    | some (a, n) => handle s a >>= drainTurns k (buf.drop n)

/-- The inner loop: everything that is whole is taken from the buffer. Every turn makes the buffer
shorter, so that there are no more turns than it has elements. -/
def drain (buf : List β) (s : σ) : Except ρ (σ × List β) := drainTurns dec handle buf.length buf s

/-- The whole loop, over what the calls of `read` return: the state at the end of the stream, and
what is left in the buffer then. -/
def pump : List (List β) → List β → σ → Except ρ (σ × List β)
  | [], buf, s => drain dec handle buf s
  | r :: rs, buf, s => drain dec handle buf s >>= fun x => pump rs (x.2 ++ r) x.1

end Loops

section Lemmas

variable {dec : Decoder β α} {handle : σ → α → Except ρ σ} {buf : List β} {s : σ}

theorem drainTurns_none (k : Nat) (h : dec.decode buf = none) :
    drainTurns dec handle k buf s = .ok (s, buf) := by
  cases k with
  | zero => rfl
  | succ k => rw [drainTurns, h]

/-- More turns than there are elements make no difference. -/
theorem drainTurns_eq (k : Nat) (h : buf.length ≤ k) :
    drainTurns dec handle k buf s = drain dec handle buf s := by
  unfold drain
  induction hn : buf.length using Nat.strong_induction_on generalizing k buf s with
  | _ len ih =>
    cases hdec : dec.decode buf with
    | none => rw [drainTurns_none _ hdec, drainTurns_none _ hdec]
    | some x =>
      obtain ⟨a, n⟩ := x
      have hpos := dec.pos hdec
      have hle := dec.le_length hdec
      have hdrop : (buf.drop n).length < len := by
        rw [List.length_drop]
        omega
      obtain ⟨k, rfl⟩ : ∃ j, k = j + 1 := ⟨k - 1, by omega⟩
      obtain ⟨len, rfl⟩ : ∃ j, len = j + 1 := ⟨len - 1, by omega⟩
      rw [drainTurns, drainTurns, hdec]
      refine congrArg (handle s a >>= ·) (funext fun s' => ?_)
      rw [ih _ hdrop k (by omega) rfl, ih _ hdrop len (by omega) rfl]

theorem drain_none (h : dec.decode buf = none) : drain dec handle buf s = .ok (s, buf) :=
  drainTurns_none _ h

/-- A turn of the inner loop. -/
theorem drain_some {a : α} {n : Nat} (h : dec.decode buf = some (a, n)) :
    drain dec handle buf s = handle s a >>= drain dec handle (buf.drop n) := by
  have hpos := dec.pos h
  have hle := dec.le_length h
  obtain ⟨k, hk⟩ : ∃ k, buf.length = k + 1 := ⟨buf.length - 1, by omega⟩
  rw [drain, hk, drainTurns, h]
  refine congrArg (handle s a >>= ·) (funext fun s' => drainTurns_eq k ?_)
  rw [List.length_drop]
  omega

/-- What comes later can wait: draining the first part, and then what is left of it together with
the rest, is draining the whole. -/
theorem drain_append (a b : List β) (s : σ) :
    drain dec handle (a ++ b) s = drain dec handle a s >>= fun x =>
      drain dec handle (x.2 ++ b) x.1 := by
  induction hn : a.length using Nat.strong_induction_on generalizing a s with
  | _ len ih =>
    cases hdec : dec.decode a with
    | none =>
      rw [drain_none hdec]
      rfl
    | some x =>
      obtain ⟨v, n⟩ := x
      have hpos := dec.pos hdec
      have hle := dec.le_length hdec
      have hdrop : (a.drop n).length < len := by
        rw [List.length_drop]
        omega
      calc drain dec handle (a ++ b) s
          = handle s v >>= drain dec handle ((a ++ b).drop n) := drain_some (dec.stable b hdec)
        _ = handle s v >>= fun s' => drain dec handle (a.drop n) s' >>= fun x =>
              drain dec handle (x.2 ++ b) x.1 := by
            rw [List.drop_append_of_le_length hle]
            exact congrArg (handle s v >>= ·) (funext fun s' => ih _ hdrop (a.drop n) s' rfl)
        _ = drain dec handle a s >>= fun x => drain dec handle (x.2 ++ b) x.1 := by
            rw [drain_some hdec, bind_assoc]

/-- **Read boundaries do not matter.** The loop does with a list of reads what it would do if
everything were in the buffer at once. -/
theorem pump_eq_drain (rs : List (List β)) (buf : List β) (s : σ) :
    pump dec handle rs buf s = drain dec handle (buf ++ rs.flatten) s := by
  induction rs generalizing buf s with
  | nil => rw [pump, List.flatten_nil, List.append_nil]
  | cons r rs ih =>
    rw [pump, List.flatten_cons, drain_append]
    refine congrArg (drain dec handle buf s >>= ·) (funext fun x => ?_)
    rw [ih, List.append_assoc]

theorem decode_nil (dec : Decoder β α) : dec.decode [] = none := by
  cases h : dec.decode [] with
  | none => rfl
  | some x => exact absurd (dec.le_length h) (Nat.not_le.mpr (dec.pos h))

/-- The values of the pieces before the first one that has none. -/
def readable {γ : Type} (value : γ → Option α) (xs : List γ) : List α :=
  (xs.takeWhile (fun x => (value x).isSome)).filterMap value

/-- The first piece that has no value, and those behind it. -/
def stuck {γ : Type} (value : γ → Option α) (xs : List γ) : List γ :=
  xs.dropWhile (fun x => (value x).isSome)

theorem readable_append_stuck {γ : Type} (value : γ → Option α) (xs : List γ) :
    xs.filterMap value = readable value xs ++ (stuck value xs).filterMap value := by
  rw [readable, stuck, ← List.filterMap_append, List.takeWhile_append_dropWhile]

/-- **A piece that does not decode is never passed.** The values before it are handled one after the
other; it stays in the buffer, and so does everything behind it. -/
theorem drain_pieces {γ : Type} {enc : γ → List β} {value : γ → Option α} (xs : List γ) (s : σ)
    (h : ∀ x ∈ xs, ∀ more,
      dec.decode (enc x ++ more) = (value x).map (fun a => (a, (enc x).length))) :
    drain dec handle (xs.flatMap enc) s = (readable value xs).foldlM handle s >>= fun s' =>
      .ok (s', (stuck value xs).flatMap enc) := by
  induction xs generalizing s with
  | nil => exact drain_none (decode_nil dec)
  | cons x xs ih =>
    have hdec := h x List.mem_cons_self (xs.flatMap enc)
    unfold readable stuck
    rw [List.flatMap_cons]
    cases hx : value x with
    | none =>
      rw [hx] at hdec
      rw [drain_none hdec, List.takeWhile_cons_of_neg (by simp [hx]),
        List.dropWhile_cons_of_neg (by simp [hx]), List.flatMap_cons]
      rfl
    | some a =>
      rw [hx] at hdec
      rw [drain_some hdec, List.drop_left, List.takeWhile_cons_of_pos (by rw [hx]; rfl),
        List.dropWhile_cons_of_pos (by rw [hx]; rfl), List.filterMap_cons_some hx,
        List.foldlM_cons, bind_assoc]
      refine congrArg (handle s a >>= ·) (funext fun s' => ?_)
      exact ih s' (fun x' hx' => h x' (List.mem_cons_of_mem x hx'))

/-- The values at the front of a buffer and what is left, for a number of turns. -/
def Decoder.decodeTurns (dec : Decoder β α) : Nat → List β → List α × List β
  | 0, buf => ([], buf)
  | k + 1, buf =>
    match dec.decode buf with
    | none => ([], buf)
    | some (a, n) => (decodeTurns dec k (buf.drop n)).map (a :: ·) id

/-- All values at the front of a buffer. -/
def Decoder.decodeAll (dec : Decoder β α) (buf : List β) : List α × List β :=
  dec.decodeTurns buf.length buf

theorem drainTurns_eq_foldlM (k : Nat) (buf : List β) (s : σ) :
    drainTurns dec handle k buf s = (dec.decodeTurns k buf).1.foldlM handle s >>= fun s' =>
      .ok (s', (dec.decodeTurns k buf).2) := by
  induction k generalizing buf s with
  | zero => rfl
  | succ k ih =>
    cases hdec : dec.decode buf with
    | none =>
      have hnil : dec.decodeTurns (k + 1) buf = ([], buf) := by rw [Decoder.decodeTurns, hdec]
      rw [drainTurns_none _ hdec, hnil]
      rfl
    | some x =>
      obtain ⟨a, n⟩ := x
      have hcons : dec.decodeTurns (k + 1) buf =
          (a :: (dec.decodeTurns k (buf.drop n)).1, (dec.decodeTurns k (buf.drop n)).2) := by
        rw [Decoder.decodeTurns, hdec]
        rfl
      rw [drainTurns, hdec, hcons, List.foldlM_cons, bind_assoc]
      exact congrArg (handle s a >>= ·) (funext fun s' => ih (buf.drop n) s')

theorem drain_eq_foldlM (buf : List β) (s : σ) :
    drain dec handle buf s = (dec.decodeAll buf).1.foldlM handle s >>= fun s' =>
      .ok (s', (dec.decodeAll buf).2) :=
  drainTurns_eq_foldlM buf.length buf s

end Lemmas

end MicroMachines.Lib
