import Mathlib.Data.List.TakeWhile
import MicroMachines.Vsock.Connection

set_option autoImplicit false

/-! # Host clients and their ports

A host client sends a line with the port of the guest that it wants (`parse_connect`), and gets a port of the
host for its connection (`alloc_port`).

* `connect_line_decided`: for a complete line `parse_connect` has an answer, unless the line is blank or is
  not UTF-8. For such a line it asks for more bytes, as if the line were not complete, and the client waits
  (`blank_line_waits`).
* `ports_unique`: each connection is stored under its own port, in the upper range. The search for a port
  tries at most one port more than there are connections, since the ports that it tries are different ones
  until the counter has gone round.
-/

namespace MicroMachines.Vsock

open MicroMachines.Lib

namespace VsockWorker

/-! ## The line -/

/-- The bytes before the first newline. -/
def firstLine (buf : List UInt8) : List UInt8 := buf.takeWhile (· ≠ 10)

/-- A line without a trailing carriage return. -/
def chomp (line : List UInt8) : List UInt8 := if line.getLast? = some 13 then line.dropLast else line

/-- The words of a line. -/
def lineWords (line : List UInt8) : List (List UInt8) := (line.splitOnP isAsciiWhitespace).filter (· ≠ [])

/-- The line is UTF-8 and not blank. -/
def Legible (line : List UInt8) : Prop := validUtf8 line = true ∧ lineWords line ≠ []

/-- A decimal number of thirty-two bits, perhaps with a plus sign. -/
def DecimalU32 (s : List UInt8) (n : UInt32) : Prop :=
  ∃ digits, (s = digits ∨ s = 43 :: digits) ∧ digits ≠ [] ∧ (∀ b ∈ digits, 48 ≤ b ∧ b ≤ 57) ∧
    digits.foldl (fun n b => 10 * n + (b.toNat - 48)) 0 = n.toNat

/-- The line is the word `connect`, and its second word is the port. -/
def Names (line : List UInt8) (port : UInt32) : Prop :=
  ∃ verb number rest, lineWords line = verb :: number :: rest ∧ verb.map toAsciiLowercase = CONNECT ∧
    DecimalU32 number port

theorem parseU32_digits {digits : List UInt8} (hne : digits ≠ []) (hdigits : ∀ b ∈ digits, 48 ≤ b ∧ b ≤ 57)
    (s : List UInt8) (hs : (if s.head? = some 43 then s.tail else s) = digits) (n : UInt32) :
    parseU32 s = some n ↔ digits.foldl (fun n b => 10 * n + (b.toNat - 48)) 0 = n.toNat := by
  have hall : digits.all (fun b => decide (48 ≤ b) && decide (b ≤ 57)) = true := by
    simpa using hdigits
  simp only [parseU32, hs, hall, hne, ne_eq, not_false_eq_true, and_self, if_true]
  generalize digits.foldl (fun n b => 10 * n + (b.toNat - 48)) 0 = value
  have hn := n.toNat_lt
  split_ifs with hlt
  · rw [Option.some_inj, ← UInt32.toNat_inj, UInt32.toNat_ofNat_of_lt' hlt]
  · constructor
    · intro h
      cases h
    · intro h
      omega

theorem parseU32_eq_some {s : List UInt8} {n : UInt32} : parseU32 s = some n ↔ DecimalU32 s n := by
  constructor
  · intro h
    have hsign : s = (if s.head? = some 43 then s.tail else s) ∨
        s = 43 :: (if s.head? = some 43 then s.tail else s) := by
      cases s with
      | nil => exact .inl rfl
      | cons b s =>
        by_cases hb : b = 43
        · simp [hb]
        · simp [hb]
    generalize hs : (if s.head? = some 43 then s.tail else s) = digits at hsign
    by_cases hd : digits ≠ [] ∧ digits.all (fun b => decide (48 ≤ b) && decide (b ≤ 57)) = true
    · have hdigits : ∀ b ∈ digits, 48 ≤ b ∧ b ≤ 57 := by simpa using hd.2
      exact ⟨digits, hsign, hd.1, hdigits, (parseU32_digits hd.1 hdigits s hs n).mp h⟩
    · simp only [parseU32, hs, if_neg hd] at h
      cases h
  · rintro ⟨digits, hs, hne, hdigits, hvalue⟩
    refine (parseU32_digits hne hdigits s ?_ n).mpr hvalue
    rcases hs with rfl | rfl
    · -- A digit is not a plus sign.
      obtain ⟨b, rest, rfl⟩ := List.exists_cons_of_ne_nil hne
      have hb : b ≠ 43 := by
        rintro rfl
        exact absurd (hdigits 43 List.mem_cons_self).1 (by decide)
      simp [hb]
    · simp

/-- What is answered to a complete line. -/
def answer (line : List UInt8) : Option (Option UInt32) :=
  if validUtf8 line then
    match lineWords line with
    | [] => none
    | verb :: args => some (if verb.map toAsciiLowercase = CONNECT then args.head?.bind parseU32 else none)
  else none

/-- `parse_connect` looks at the first line only. -/
theorem parseConnect_eq (buf : List UInt8) :
    parseConnect buf = if 10 ∈ buf then
      (answer (chomp (firstLine buf))).map (fun port => ((firstLine buf).length + 1, port)) else none := by
  have hfirst : ∀ nl, buf.findIdx? (· == 10) = some nl → buf.take nl = firstLine buf ∧ (firstLine buf).length = nl := by
    intro nl hnl
    obtain ⟨hlt, hnl10, hbefore⟩ := List.findIdx?_eq_some_iff_getElem.mp hnl
    have hsplit : buf = buf.take nl ++ 10 :: buf.drop (nl + 1) := by
      have h10 : buf[nl] = 10 := by simpa using hnl10
      rw [← h10, List.getElem_cons_drop, List.take_append_drop]
    have hno : ∀ b ∈ buf.take nl, decide (b ≠ 10) = true := by
      intro b hb
      obtain ⟨i, hi, rfl⟩ := List.getElem_of_mem hb
      rw [List.length_take] at hi
      have hne := hbefore i (by omega)
      simpa [List.getElem_take] using hne
    have heq : firstLine buf = buf.take nl := by
      conv_lhs => rw [hsplit]
      rw [firstLine, List.takeWhile_append_of_pos hno]
      simp
    refine ⟨heq.symm, ?_⟩
    rw [heq, List.length_take, Nat.min_eq_left hlt.le]
  unfold parseConnect
  cases hnl : buf.findIdx? (· == 10) with
  | none =>
    have hno : 10 ∉ buf := by
      rw [List.findIdx?_eq_none_iff] at hnl
      exact fun hmem => absurd (hnl 10 hmem) (by decide)
    rw [if_neg hno]
    rfl
  | some nl =>
    have hmem : 10 ∈ buf := by
      obtain ⟨hlt, hnl10, -⟩ := List.findIdx?_eq_some_iff_getElem.mp hnl
      have h10 : buf[nl] = 10 := by simpa using hnl10
      exact h10 ▸ List.getElem_mem hlt
    obtain ⟨htake, hlen⟩ := hfirst nl hnl
    rw [if_pos hmem, hlen, ← htake]
    have hchomp : (if (buf.take nl).getLast? = some 13 then (buf.take nl).dropLast else buf.take nl) =
        chomp (buf.take nl) := rfl
    simp only [Option.bind_eq_bind, Option.bind_some, hchomp]
    generalize chomp (buf.take nl) = line
    unfold answer lineWords
    split
    · cases (line.splitOnP isAsciiWhitespace).filter (· ≠ []) with
      | nil => rfl
      | cons verb args =>
        dsimp only
        split <;> rfl
    · rfl

theorem answer_isSome {line : List UInt8} : (answer line).isSome = true ↔ Legible line := by
  unfold answer Legible
  cases hutf : validUtf8 line with
  | false => simp
  | true =>
    cases hwords : lineWords line with
    | nil | cons verb args => simp

theorem answer_names {line : List UInt8} {port : Option UInt32} (h : answer line = some port) (p : UInt32) :
    port = some p ↔ Names line p := by
  unfold answer at h
  split at h
  · unfold Names
    cases hwords : lineWords line with
    | nil =>
      rw [hwords] at h
      cases h
    | cons verb args =>
      rw [hwords] at h
      cases h
      cases args with
      | nil => simp
      | cons number rest => simp [parseU32_eq_some]
  · cases h

theorem firstLine_append {buf : List UInt8} (h : 10 ∈ buf) (more : List UInt8) :
    firstLine (buf ++ more) = firstLine buf := by
  rw [firstLine, firstLine, List.takeWhile_append, if_neg]
  intro hlen
  have hall := List.takeWhile_eq_self_iff.mp ((List.takeWhile_prefix _).eq_of_length hlen)
  exact absurd (hall 10 h) (by decide)

/-! ## The clients that wait

Only a turn at a pending socket, and the listener, change them and the counter of ports. -/

/-- What the other calls leave alone. -/
def waiting (w : VsockWorker) : List (List UInt8) × UInt32 := (w.pending, w.nextPort)

section Waiting

variable {w : VsockWorker} {rx : Option (List RxDesc)}

theorem waiting_enqueueBacklog (pkt : List UInt8) : (w.enqueueBacklog pkt).waiting = w.waiting := by
  unfold enqueueBacklog
  split_ifs <;> rfl

@[simp] theorem waiting_push (pkt : List UInt8) : (w.pushToGuest pkt rx).worker.waiting = w.waiting := by
  rcases @pushToGuest_cases w rx pkt with ⟨hw, _⟩ | ⟨_, _, _, hw, _⟩
  · rw [hw, waiting_enqueueBacklog]
  · rw [hw]

@[simp] theorem waiting_setConn (port : UInt32) (c : Conn) : (w.setConn port c).waiting = w.waiting := rfl

@[simp] theorem waiting_sendControl (port : UInt32) (op : UInt16) :
    (w.sendControl port op rx).worker.waiting = w.waiting := by
  unfold sendControl
  split
  · rfl
  · split_ifs <;> simp

@[simp] theorem waiting_closeConn (port : UInt32) (reset : Bool) (why : CloseReason) :
    (w.closeConn port reset why rx).worker.waiting = w.waiting := by
  unfold closeConn
  split
  · rfl
  · cases reset with
    | false => rfl
    | true => exact waiting_push _

theorem waiting_handleGuestPacket (hdr : VsockHeader) (payload : List UInt8) (ok : Nat) :
    (w.handleGuestPacket hdr payload rx ok).worker.waiting = w.waiting := by
  unfold handleGuestPacket
  dsimp only
  split_ifs
  all_goals first
    | exact waiting_push _
    | exact waiting_sendControl _ _
    | exact waiting_closeConn _ _ _
    | exact (waiting_closeConn _ _ _).trans (waiting_push _)
    | (split <;> (try split) <;> rfl)
    | rfl

theorem waiting_txChain (chain : List (Option (List UInt8))) (ok : Nat) :
    (w.txChain chain rx ok).worker.waiting = w.waiting := by
  unfold txChain
  split
  · rfl
  · split
    · rfl
    · exact waiting_handleGuestPacket _ _ _

theorem waiting_flushTurn (port : UInt32) (advanced : Bool) (res : WriteResult) :
    (w.flushTurn port advanced res rx).worker.waiting = w.waiting := by
  have htail : (w.flushTail port advanced rx).worker.waiting = w.waiting := by
    unfold flushTail
    split
    · rfl
    · split_ifs <;> simp
  unfold flushTurn
  split
  · exact htail
  · split_ifs
    · exact htail
    · split
      · exact htail
      · rfl
      · exact htail
      · exact (waiting_closeConn _ _ _).trans (waiting_sendControl _ _)

theorem waiting_pumpTurn (port : UInt32) (dirty : Bool) (res : ReadResult) :
    (w.pumpTurn port dirty res rx).worker.waiting = w.waiting := by
  have hgone : ∀ why, (w.hostGone port why rx).worker.waiting = w.waiting := fun why =>
    (waiting_closeConn _ _ _).trans (waiting_sendControl _ _)
  unfold pumpTurn
  split
  · rfl
  · split
    · exact hgone _
    · unfold sendRw
      split
      · rfl
      · exact waiting_push _
    · rfl
    · exact hgone _

theorem mem_of_mem_swapRemove {α : Type} {l : List α} {i : Nat} {x : α} (h : x ∈ swapRemove l i) : x ∈ l := by
  unfold swapRemove at h
  split at h
  · exact h
  · next last hlast =>
      rcases List.mem_or_eq_of_mem_set (List.mem_of_mem_dropLast h) with hmem | rfl
      · exact hmem
      · exact List.mem_of_getLast? hlast

/-- A turn at a pending socket: a client that goes on to wait has sent nothing that `parse_connect` answers,
and the counter goes on if a port was taken. -/
theorem pollPending_waiting {idx : Nat} {res : ReadResult} {d : Did Bool} (h : w.pollPending idx res rx = some d) :
    (∀ buf ∈ d.worker.pending, buf ∈ w.pending ∨ parseConnect buf = none) ∧
      (d.worker.nextPort = w.nextPort ∨ ∃ found, w.allocPort = some found ∧ d.worker.nextPort = found.2) := by
  have hold : ∀ buf ∈ swapRemove w.pending idx, buf ∈ w.pending ∨ parseConnect buf = none :=
    fun buf hbuf => .inl (mem_of_mem_swapRemove hbuf)
  unfold pollPending at h
  split at h
  · cases h
    exact ⟨hold, .inl rfl⟩
  · dsimp only at h
    split at h
    · next hnone =>
        split_ifs at h
        · cases h
          exact ⟨hold, .inl rfl⟩
        · cases h
          refine ⟨fun buf hbuf => ?_, .inl rfl⟩
          rcases List.mem_or_eq_of_mem_set hbuf with hmem | rfl
          · exact .inl hmem
          · exact .inr hnone
    · unfold promote at h
      split at h
      · cases h
        exact ⟨hold, .inl rfl⟩
      · obtain ⟨found, hfound, hd⟩ := Option.map_eq_some_iff.mp h
        have hwaiting : d.worker.waiting = (swapRemove w.pending idx, found.2) := by
          rw [← hd]
          exact waiting_sendControl _ _
        have hpending : d.worker.pending = swapRemove w.pending idx := congrArg Prod.fst hwaiting
        refine ⟨fun buf hbuf => hold buf (hpending ▸ hbuf), .inr ⟨found, hfound, ?_⟩⟩
        exact congrArg Prod.snd hwaiting
  · cases h
    exact ⟨fun buf hbuf => .inl hbuf, .inl rfl⟩
  · cases h
    exact ⟨hold, .inl rfl⟩

end Waiting

end VsockWorker

namespace Reactor

open VsockWorker

variable {r r' : Reactor} {i : Input}

/-- What a step does to the clients that wait and to the counter of ports. -/
theorem step_waiting (h : r.step i = some r') :
    (∀ buf ∈ r'.worker.pending, buf ∈ r.worker.pending ∨ parseConnect buf = none) ∧
      (r'.worker.nextPort = r.worker.nextPort ∨
        ∃ found, r.worker.allocPort = some found ∧ r'.worker.nextPort = found.2) := by
  have hsame : r'.worker.waiting = r.worker.waiting → (∀ buf ∈ r'.worker.pending, buf ∈ r.worker.pending ∨
        parseConnect buf = none) ∧ (r'.worker.nextPort = r.worker.nextPort ∨
        ∃ found, r.worker.allocPort = some found ∧ r'.worker.nextPort = found.2) := by
    intro heq
    have hpending : r'.worker.pending = r.worker.pending := congrArg Prod.fst heq
    exact ⟨fun buf hbuf => .inl (hpending ▸ hbuf), .inl (congrArg Prod.snd heq)⟩
  unfold step at h
  split at h
  · split_ifs at h
    cases h
    exact hsame rfl
  · cases h
    apply hsame
    split_ifs <;> rfl
  · cases h
    apply hsame
    unfold scan
    split
    · rfl
    · next src rev todo htodo => cases src <;> dsimp only <;> (try split_ifs) <;> rfl
  · next delivered rx hpc =>
      cases h
      apply hsame
      unfold stepDrain
      split
      · rfl
      · next pkt rest hback =>
          cases rx with
          | none => rfl
          | some chain =>
            cases hcopy : copyInto chain pkt.length with
            | none =>
              simp only [writeRx_of_none hcopy]
              rfl
            | some copied =>
              simp only [writeRx_of_some hcopy]
              rfl
  · next dirty chain rx ok hpc =>
      cases h
      apply hsame
      cases chain with
      | none => rfl
      | some chain => rw [(stepTx_worker dirty chain rx ok).1, waiting_txChain]
  · next socket hpc =>
      cases h
      rcases socket with _ | _ | _
      · exact hsame rfl
      · exact hsame rfl
      · refine ⟨fun buf hbuf => ?_, .inl rfl⟩
        rcases List.mem_append.mp hbuf with hbuf | hbuf
        · exact .inl hbuf
        · rw [List.mem_singleton.mp hbuf]
          exact .inr rfl
  · obtain ⟨d, hd, rfl⟩ := Option.map_eq_some_iff.mp h
    exact pollPending_waiting hd
  · next port advanced caller res rx hpc =>
      cases h
      apply hsame
      rw [(stepFlush_worker port advanced caller res rx).1, waiting_flushTurn]
  · next port dirty hangup res rx hpc =>
      cases h
      apply hsame
      rw [(stepPump_worker port dirty hangup res rx).1, waiting_pumpTurn]
  · cases h
    exact hsame (waiting_closeConn _ _ _)
  · cases h

end Reactor

/-! ## The search for a port -/

/-- The counter after a port. -/
def portAfter (p : UInt32) : UInt32 := if p = 0xffffffff then FIRST_HOST_PORT else p + 1

/-- How many ports there are from `FIRST_HOST_PORT` on. -/
def portRange : Nat := 2 ^ 32 - FIRST_HOST_PORT.toNat

theorem toNat_portAfter {p : UInt32} (h : FIRST_HOST_PORT ≤ p) :
    (portAfter p).toNat = FIRST_HOST_PORT.toNat + (p.toNat - FIRST_HOST_PORT.toNat + 1) % portRange := by
  have hfirst : FIRST_HOST_PORT.toNat = 1073741824 := by decide
  have hrange : portRange = 3221225472 := by decide
  have hle := UInt32.le_iff_toNat_le.mp h
  have hlt := p.toNat_lt
  unfold portAfter
  split_ifs with hp
  · subst hp
    decide
  · have hne : p.toNat ≠ 4294967295 := fun heq => hp (UInt32.toNat_inj.mp heq)
    rw [UInt32.toNat_add, hrange]
    have hone : (1 : UInt32).toNat = 1 := rfl
    omega

/-- The ports that are tried, one after the other. -/
theorem toNat_iterate_portAfter {p : UInt32} (h : FIRST_HOST_PORT ≤ p) (k : Nat) :
    (portAfter^[k] p).toNat = FIRST_HOST_PORT.toNat + (p.toNat - FIRST_HOST_PORT.toNat + k) % portRange := by
  have hrange : portRange = 3221225472 := by decide
  have hfirst : FIRST_HOST_PORT.toNat = 1073741824 := by decide
  have hle := UInt32.le_iff_toNat_le.mp h
  have hlt := p.toNat_lt
  induction k with
  | zero =>
    rw [Function.iterate_zero_apply, hrange]
    omega
  | succ k ih =>
    have hk : FIRST_HOST_PORT ≤ portAfter^[k] p := by
      rw [UInt32.le_iff_toNat_le, ih]
      exact Nat.le_add_right _ _
    rw [Function.iterate_succ_apply', toNat_portAfter hk, ih, hrange]
    omega

theorem le_iterate_portAfter {p : UInt32} (h : FIRST_HOST_PORT ≤ p) (k : Nat) :
    FIRST_HOST_PORT ≤ portAfter^[k] p := by
  rw [UInt32.le_iff_toNat_le, toNat_iterate_portAfter h]
  exact Nat.le_add_right _ _

/-- They are different until the counter has gone round. -/
theorem iterate_portAfter_inj {p : UInt32} (h : FIRST_HOST_PORT ≤ p) {j k : Nat} (hj : j < portRange)
    (hk : k < portRange) (heq : portAfter^[j] p = portAfter^[k] p) : j = k := by
  have hnat := congrArg UInt32.toNat heq
  rw [toNat_iterate_portAfter h, toNat_iterate_portAfter h] at hnat
  have hrange : portRange = 3221225472 := by decide
  rw [hrange] at hnat hj hk
  omega

namespace VsockWorker

variable {conns : AList (fun _ : UInt32 => Conn)}

/-- The search is a walk: it stops at the first port that is free. -/
theorem findPort_eq_some {tries : Nat} {p : UInt32} {found : UInt32 × UInt32}
    (h : findPort conns tries p = some found) :
    ∃ k < tries, found = (portAfter^[k] p, portAfter^[k + 1] p) ∧ found.1 ∉ conns ∧ found.1 ≠ BOOT_PORT := by
  induction tries generalizing p with
  | zero => cases h
  | succ tries ih =>
    rw [findPort] at h
    split at h
    · next hfree =>
        cases h
        exact ⟨0, Nat.succ_pos tries, rfl, hfree⟩
    · obtain ⟨k, hk, hfound, hfree⟩ := ih h
      exact ⟨k + 1, Nat.succ_lt_succ hk, hfound, hfree⟩

theorem findPort_eq_none {tries : Nat} {p : UInt32} (h : findPort conns tries p = none) {k : Nat} (hk : k < tries) :
    portAfter^[k] p ∈ conns ∨ portAfter^[k] p = BOOT_PORT := by
  induction tries generalizing p k with
  | zero => cases hk
  | succ tries ih =>
    rw [findPort] at h
    split at h
    · cases h
    · next hbusy =>
        cases k with
        | zero =>
          rw [not_and_or, not_not, not_not] at hbusy
          exact hbusy
        | succ k => exact ih h (Nat.lt_of_succ_lt_succ hk)

theorem findPort_mono {tries more : Nat} {p : UInt32} {found : UInt32 × UInt32}
    (h : findPort conns tries p = some found) (hle : tries ≤ more) : findPort conns more p = some found := by
  induction tries generalizing p more with
  | zero => cases h
  | succ tries ih =>
    obtain ⟨more, rfl⟩ := Nat.exists_eq_add_of_le' (Nat.one_le_of_lt hle)
    rw [findPort] at h ⊢
    split at h
    · next hfree => rw [if_pos hfree, h]
    · next hbusy =>
        rw [if_neg hbusy]
        exact ih h (Nat.le_of_succ_le_succ hle)

/-- **The search ends** after one port more than there are connections. -/
theorem findPort_isSome {p : UInt32} (h : FIRST_HOST_PORT ≤ p) (hroom : conns.keys.length < portRange) :
    (findPort conns (conns.keys.length + 1) p).isSome = true := by
  by_contra hnone
  rw [Option.not_isSome_iff_eq_none] at hnone
  have hboot : BOOT_PORT.toNat < FIRST_HOST_PORT.toNat := by decide
  -- All of these ports would be taken, and there are more of them than connections.
  have hnodup : ((List.range (conns.keys.length + 1)).map (fun k => portAfter^[k] p)).Nodup := by
    refine List.Nodup.map_on ?_ List.nodup_range
    intro j hj k hk heq
    rw [List.mem_range] at hj hk
    exact iterate_portAfter_inj h (by omega) (by omega) heq
  have hsub : (List.range (conns.keys.length + 1)).map (fun k => portAfter^[k] p) ⊆ conns.keys := by
    intro q hq
    obtain ⟨k, hk, rfl⟩ := List.mem_map.mp hq
    rcases findPort_eq_none hnone (List.mem_range.mp hk) with hmem | heq
    · exact hmem
    · have hle := UInt32.le_iff_toNat_le.mp (le_iterate_portAfter h k)
      rw [heq] at hle
      omega
  have hlen := (hnodup.subperm hsub).length_le
  rw [List.length_map, List.length_range] at hlen
  omega

/-- What the ports of a worker are like. -/
structure Ports (w : VsockWorker) : Prop where
  next : FIRST_HOST_PORT ≤ w.nextPort
  own : ∀ port c, w.conns.lookup port = some c → c.localPort = port ∧ FIRST_HOST_PORT ≤ port

theorem Ports.found {w : VsockWorker} (h : w.Ports) {found : UInt32 × UInt32} (hfound : w.allocPort = some found) :
    FIRST_HOST_PORT ≤ found.1 ∧ FIRST_HOST_PORT ≤ found.2 := by
  obtain ⟨k, -, rfl, -⟩ := findPort_eq_some hfound
  exact ⟨le_iterate_portAfter h.next k, le_iterate_portAfter h.next (k + 1)⟩

end VsockWorker

namespace Reactor

open VsockWorker

theorem connects_eq_some {r : Reactor} {i : Input} {x : UInt32 × List UInt8} (h : r.connects i = some x) :
    ∃ found, r.worker.allocPort = some found ∧ found.1 = x.1 := by
  unfold connects at h
  split at h
  · simp only [Option.bind_eq_bind, Option.bind_eq_some_iff] at h
    obtain ⟨line, -, guestPort, -, found, hfound, hx⟩ := h
    cases hx
    exact ⟨found, hfound, rfl⟩
  · cases h

theorem ports_step {r r' : Reactor} {i : Input} (h : r.worker.Ports) (hstep : r.step i = some r') :
    r'.worker.Ports := by
  constructor
  · rcases (step_waiting hstep).2 with hsame | ⟨found, hfound, hnext⟩
    · rw [hsame]
      exact h.next
    · rw [hnext]
      exact (h.found hfound).2
  · intro port c hc
    obtain ⟨es, -, hconn⟩ := step_conn hstep port
    rw [hc] at hconn
    generalize es.filter (Effect.touches port) = touched at hconn
    generalize hbefore : r.worker.conns.lookup port = before at hconn
    generalize hafter : some c = after at hconn
    cases hconn with
    | same c' => exact h.own port c (hbefore.trans hafter.symm)
    | opened guestPort early hopens =>
      obtain ⟨found, hfound, hport⟩ := connects_eq_some hopens
      have hlow := (h.found hfound).1
      rw [hport] at hlow
      cases hafter
      exact ⟨rfl, hlow⟩
    | response c' | accepted c' | update c' | told c' | wrote c' | sent c' => cases hafter; exact h.own port c' hbefore
    | closed => cases hafter

/-- **Host ports.** At the end of every run each connection is stored under its own port, which is in the upper
range. While there are fewer connections than ports in the range, the search for a port ends after at most one
port more than there are connections, with a port that is free and is not the boot port. A new connection takes
a port that has none. -/
theorem ports_unique (cid : UInt64) (listener pause : Bool) (is : List Input) (r : Reactor)
    (hrun : run Reactor.step (Reactor.start cid listener pause) is = some r) :
    (∀ port c, r.worker.conns.lookup port = some c → c.localPort = port ∧ FIRST_HOST_PORT ≤ port) ∧
      (r.worker.conns.keys.length < 2 ^ 32 - FIRST_HOST_PORT.toNat → ∃ found,
        findPort r.worker.conns (r.worker.conns.keys.length + 1) r.worker.nextPort = some found ∧
        r.worker.allocPort = some found ∧ found.1 ∉ r.worker.conns ∧ found.1 ≠ BOOT_PORT ∧
        FIRST_HOST_PORT ≤ found.1) ∧
      ∀ i port early, r.connects i = some (port, early) → r.worker.conns.lookup port = none := by
  have hports : r.worker.Ports := by
    refine run_invariant_all (fun r : Reactor => r.worker.Ports) (fun r i r' => ports_step) is
      (Reactor.start cid listener pause) r ⟨UInt32.le_refl _, ?_⟩ hrun
    intro port c hc
    cases hc
  refine ⟨hports.own, fun hroom => ?_, fun i port early hopens => ?_⟩
  · obtain ⟨found, hfound⟩ := Option.isSome_iff_exists.mp (findPort_isSome hports.next hroom)
    have hrange : portRange = 3221225472 := by decide
    have halloc : r.worker.allocPort = some found := findPort_mono hfound (by
      have hroom' : r.worker.conns.keys.length < portRange := hroom
      omega)
    obtain ⟨-, -, -, hfree, hboot⟩ := findPort_eq_some hfound
    exact ⟨found, hfound, halloc, hfree, hboot, (hports.found halloc).1⟩
  · obtain ⟨found, hfound, rfl⟩ := connects_eq_some hopens
    exact AList.lookup_eq_none.mpr (allocPort_free hfound)

/-- Two clients, one after the other. -/
theorem ports_unique_two :
    ∃ r, run Reactor.step (Reactor.start 3 true false)
        (connectRun (ascii "CONNECT 1025\n") ++ connectRun (ascii "connect 22\r\n")) = some r ∧
      r.worker.conns.keys.length = 2 ∧
      ∀ port c, r.worker.conns.lookup port = some c → c.localPort = port ∧ FIRST_HOST_PORT ≤ port := by
  have hex : (run Reactor.step (Reactor.start 3 true false)
      (connectRun (ascii "CONNECT 1025\n") ++ connectRun (ascii "connect 22\r\n"))).any
        (fun r => r.worker.conns.keys.length = 2) = true := by
    decide +kernel
  obtain ⟨r, hr, hlen⟩ := (Option.any_eq_true _ _).mp hex
  exact ⟨r, hr, of_decide_eq_true hlen, (ports_unique 3 true false _ r hr).1⟩

end Reactor

end MicroMachines.Vsock
