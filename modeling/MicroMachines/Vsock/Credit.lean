import MicroMachines.Vsock.Connection

set_option autoImplicit false

/-! # What the bridge sends on credit

The guest advertises the size of its buffer for a connection and how many bytes it has taken out of
it, in every packet. The bridge compares the second number with its own count of bytes sent, in
32-bit counters that wrap.

It takes the two numbers over from `OP_RW` and `OP_CREDIT_UPDATE` packets and from the `OP_RESPONSE`
that it waits for. From other packets, an `OP_CREDIT_REQUEST` among them, it does not, so that a
guest that makes its buffer smaller in one of those is sent more than it has room for.

* `credit_kept`: this is the only way. The guest's honest count is a true number `n` that comes with
  each of its packets; the packet has `n` modulo `2 ^ 32` in it.
* `credit_request`: a run in which the bridge sends too much.
-/

namespace MicroMachines.Vsock

open MicroMachines.Lib

/-! ## The two sides of the account -/

/-- What a guest has said about its side of a connection. -/
structure Ledger where
  /-- How many bytes it has consumed. -/
  consumed : Nat
  /-- The size of its buffer. -/
  advertised : Nat
  deriving DecidableEq, Repr

/-- A step, with the true number of bytes the guest has consumed when it makes the packet that the
step handles. -/
abbrev Told : Type := Input × Nat

/-- The guest speaks in each of its packets for a connection that is open. -/
def Ledger.tick (port : UInt32) (r : Reactor) (a : Told) (l : Ledger) : Ledger :=
  if port ∉ r.worker.conns then ⟨0, 0⟩
  else
    match r.handles a.1 with
    | some (hdr, _) => if hdr.dstPort = port then ⟨a.2, hdr.bufAlloc.toNat⟩ else l
    | none => l

/-- The bridge, with the account of the guest for a port. -/
def creditStep (port : UInt32) : Reactor × Ledger → Told → Option (Reactor × Ledger) :=
  observe (fun r a => r.step a.1) (Ledger.tick port)

def countSent (port : UInt32) (sent : Nat) : Effect → Nat
  | .opened p _ => if p = port then 0 else sent
  | .read p bytes => if p = port then sent + bytes.length else sent
  | _ => sent

/-- How many bytes were sent to the guest on the last connection on a port. -/
def sentTo (log : List Effect) (port : UInt32) : Nat := log.foldl (countSent port) 0

theorem sentTo_append (log es : List Effect) (port : UInt32) :
    sentTo (log ++ es) port = es.foldl (countSent port) (sentTo log port) := List.foldl_append

theorem countSent_other {port : UInt32} (n : Nat) (e : Effect) (h : e.touches port = false) :
    countSent port n e = n := by
  cases e <;> simp_all [countSent, Effect.touches]

/-- The guest reports what it has really consumed: a number that does not go back and is not more
than what it was sent. -/
def Honest (port : UInt32) (x : Reactor × Ledger) (a : Told) : Prop :=
  ∀ p ∈ x.1.handles a.1, p.1.dstPort = port → port ∈ x.1.worker.conns →
    p.1.fwdCnt = UInt32.ofNat a.2 ∧ x.2.consumed ≤ a.2 ∧ a.2 ≤ sentTo x.1.log port

instance (port : UInt32) (x : Reactor × Ledger) (a : Told) : Decidable (Honest port x a) :=
  inferInstanceAs (Decidable (∀ p ∈ x.1.handles a.1, _))

/-- The guest does not make its buffer smaller in a packet whose numbers are not taken over. -/
def Candid (port : UInt32) (x : Reactor × Ledger) (a : Told) : Prop :=
  ∀ p ∈ x.1.handles a.1, p.1.dstPort = port → ∀ c ∈ x.1.worker.conns.lookup port,
    c.Heeds p.1 ∨ x.2.advertised ≤ p.1.bufAlloc.toNat

instance (port : UInt32) (x : Reactor × Ledger) (a : Told) : Decidable (Candid port x a) :=
  inferInstanceAs (Decidable (∀ p ∈ x.1.handles a.1, _ → ∀ c ∈ x.1.worker.conns.lookup port, _))

/-! ## The invariant -/

/-- The tracker of an open connection counts what was sent, and believes no more than what the guest
has said. -/
def Balanced (sent : Nat) (l : Ledger) (c : Conn) : Prop :=
  ∃ taken, c.credit.Tracks sent taken ∧ taken ≤ l.consumed ∧ l.consumed ≤ sent ∧
    c.credit.peerBufAlloc.toNat ≤ l.advertised

theorem Ledger.tick_of_mem {port : UInt32} {r : Reactor} {a : Told} {l : Ledger}
    (h : port ∈ r.worker.conns) :
    (∃ p ∈ r.handles a.1, p.1.dstPort = port ∧ l.tick port r a = ⟨a.2, p.1.bufAlloc.toNat⟩) ∨
    (∀ p ∈ r.handles a.1, p.1.dstPort ≠ port) ∧ l.tick port r a = l := by
  unfold tick
  rw [if_neg (not_not.mpr h)]
  cases hh : r.handles a.1 with
  | none => exact Or.inr ⟨nofun, rfl⟩
  | some p =>
    by_cases hp : p.1.dstPort = port
    · exact Or.inl ⟨p, rfl, hp, if_pos hp⟩
    · refine Or.inr ⟨?_, if_neg hp⟩
      intro q hq
      cases hq
      exact hp

section Step

variable {port : UInt32} {r r' : Reactor} {a : Told} {l : Ledger} {c : Conn}

/-- The packet of the step, if there is one for the connection, is not heeded. -/
theorem Balanced.unheeded (hhonest : Honest port (r, l) a) (hcandid : Candid port (r, l) a)
    (hc : r.worker.conns.lookup port = some c)
    (hun : ∀ p ∈ r.handles a.1, p.1.dstPort = port → ¬ c.Heeds p.1)
    (h : Balanced (sentTo r.log port) l c) : Balanced (sentTo r.log port) (l.tick port r a) c := by
  have hmem : port ∈ r.worker.conns := AList.lookup_isSome.mp (by rw [hc]; rfl)
  rcases @Ledger.tick_of_mem port r a l hmem with ⟨p, hp, hport, htick⟩ | ⟨_, htick⟩
  · obtain ⟨_, hlo, hhi⟩ := hhonest p hp hport hmem
    have hbuf := (hcandid p hp hport c hc).resolve_left (hun p hp hport)
    obtain ⟨taken, htracks, htaken, _, hpeer⟩ := h
    rw [htick]
    exact ⟨taken, htracks, htaken.trans hlo, hhi, hpeer.trans hbuf⟩
  · rw [htick]
    exact h

theorem Balanced.unhandled (hhonest : Honest port (r, l) a) (hcandid : Candid port (r, l) a)
    (hc : r.worker.conns.lookup port = some c) (hnone : r.handles a.1 = none)
    (h : Balanced (sentTo r.log port) l c) : Balanced (sentTo r.log port) (l.tick port r a) c :=
  h.unheeded hhonest hcandid hc (by simp [hnone])

/-- The packet of the step is heeded. -/
theorem Balanced.heeded {hdr : VsockHeader} {payload : List UInt8} {c' : Conn}
    (hhonest : Honest port (r, l) a) (hc : r.worker.conns.lookup port = some c)
    (hh : r.handles a.1 = some (hdr, payload)) (hport : hdr.dstPort = port)
    (hcredit : c'.credit = c.credit.updatePeer hdr.bufAlloc hdr.fwdCnt)
    (h : Balanced (sentTo r.log port) l c) : Balanced (sentTo r.log port) (l.tick port r a) c' := by
  have hmem : port ∈ r.worker.conns := AList.lookup_isSome.mp (by rw [hc]; rfl)
  obtain ⟨hfwd, hlo, hhi⟩ := hhonest _ hh hport hmem
  obtain ⟨taken, htracks, htaken, _, hpeer⟩ := h
  have htick : l.tick port r a = ⟨a.2, hdr.bufAlloc.toNat⟩ := by
    simp [Ledger.tick, hmem, hh, hport]
  have htracks' := htracks.updatePeer (htaken.trans hlo) hhi hdr.bufAlloc
  rw [htick]
  refine ⟨a.2, ?_, Nat.le_refl _, hhi, ?_⟩
  · rw [hcredit, hfwd]
    exact htracks'
  · rw [hcredit]
    exact Nat.le_refl _

/-- What happens to a connection keeps its account balanced. -/
theorem balanced_conn {c c' : Option Conn} {es : List Effect} (hhonest : Honest port (r, l) a)
    (hcandid : Candid port (r, l) a) (hc : r.worker.conns.lookup port = c)
    (hconn : ConnStep port r a.1 r' c c' es) (h : ∀ d ∈ c, Balanced (sentTo r.log port) l d) :
    ∀ d ∈ c', Balanced (es.foldl (countSent port) (sentTo r.log port)) (l.tick port r a) d := by
  intro d hd
  cases hconn with
  | same c hflush hpacket =>
    exact (h d hd).unheeded hhonest hcandid (hc.trans hd)
      (fun p hp hport => hpacket p hp hport d hd)
  | opened guestPort early hopens =>
    cases hd
    have hnot : port ∉ r.worker.conns := AList.lookup_eq_none.mp hc
    rw [List.foldl_cons, List.foldl_nil, countSent, if_pos rfl, Ledger.tick, if_pos hnot]
    exact ⟨0, .new, Nat.le_refl 0, Nat.le_refl 0, Nat.le_refl 0⟩
  | response c hdr payload chain rx ok hh hi hport hop hstate
  | accepted c hdr payload hh hport hop | update c hdr payload hh hport hop =>
    cases hd
    exact (h c rfl).heeded hhonest hc hh hport rfl
  | told c hreq =>
    cases hd
    have hbal : Balanced _ _ c := (h c rfl).unheeded hhonest hcandid hc ?_
    · exact hbal
    intro p hp _
    simp [Conn.Heeds, (hreq p hp).2, OP_CREDIT_REQUEST, OP_RW, OP_CREDIT_UPDATE, OP_RESPONSE]
  | wrote c n advanced caller hpc hpc' hne =>
    cases hd
    have hbal : Balanced _ _ c :=
      (h c rfl).unhandled hhonest hcandid hc (Reactor.handles_of_ne (by simp [hpc]))
    exact hbal
  | sent c data hsends hne hstate hroom hmax =>
    cases hd
    obtain ⟨taken, htracks, htaken, hconsumed, hpeer⟩ :=
      (h c rfl).unhandled hhonest hcandid hc (Reactor.handles_of_sends hsends)
    obtain ⟨htracks', _⟩ := htracks.recordSent (List.length_pos_iff.mpr hne) hroom
    rw [List.foldl_cons, List.foldl_nil, countSent, if_pos rfl]
    exact ⟨taken, htracks', htaken, hconsumed.trans (Nat.le_add_right _ _), hpeer⟩
  | closed c why hwhy => cases hd

end Step

/-- The account of the connection on a port, if it is open, is balanced. -/
def Solvent (port : UInt32) (x : Reactor × Ledger) : Prop :=
  ∀ c ∈ x.1.worker.conns.lookup port, Balanced (sentTo x.1.log port) x.2 c

theorem Solvent.step {port : UInt32} {x y : Reactor × Ledger} {a : Told} (h : Solvent port x)
    (hhonest : Honest port x a) (hcandid : Candid port x a) (hstep : creditStep port x a = some y) :
    Solvent port y := by
  obtain ⟨hr, hl⟩ := observe_cases hstep
  obtain ⟨es, hlog, hconn⟩ := Reactor.step_conn hr port
  intro c hc
  rw [hl, hlog, sentTo_append, foldl_touches countSent_other]
  exact balanced_conn hhonest hcandid rfl hconn h c hc

/-- **The bridge sends on credit only**, as long as the guest does not make its buffer smaller in a
packet whose numbers are not taken over. In every run with an honest guest in which it does not,
right after an `OP_RW` packet the bytes sent and not reported as consumed fit into the buffer the
guest has advertised last. -/
theorem credit_kept (cid : UInt64) (listener pause : Bool) (port : UInt32) (as : List Told)
    (x y : Reactor × Ledger) (a : Told) (data : List UInt8)
    (hhonest : Meets (creditStep port) (Honest port) (Reactor.start cid listener pause, ⟨0, 0⟩) as)
    (hcandid : Meets (creditStep port) (Candid port) (Reactor.start cid listener pause, ⟨0, 0⟩) as)
    (hrun : run (creditStep port) (Reactor.start cid listener pause, ⟨0, 0⟩) as = some x)
    (hstep : creditStep port x a = some y) (hsends : x.1.sends a.1 = some (port, data)) :
    sentTo y.1.log port ≤ y.2.consumed + y.2.advertised := by
  have hstart : Solvent port (Reactor.start cid listener pause, ⟨0, 0⟩) := nofun
  have hx : Solvent port x := run_invariant (Solvent port)
    (fun _ _ _ h hP hs => h.step hP.1 hP.2 hs) as _ x hstart (hhonest.and hcandid) hrun
  obtain ⟨hr, hl⟩ := observe_cases hstep
  obtain ⟨c, es, hc, hne, hroom, hlog, hes⟩ := Reactor.step_sends hr hsends
  obtain ⟨taken, htracks, htaken, _, hpeer⟩ := hx c hc
  obtain ⟨_, hbound⟩ := htracks.recordSent (List.length_pos_iff.mpr hne) hroom
  have hmem : port ∈ x.1.worker.conns := AList.lookup_isSome.mp (by rw [hc]; rfl)
  have htick : x.2.tick port x.1 a = x.2 := by
    simp [Ledger.tick, hmem, Reactor.handles_of_sends hsends]
  have hsent : sentTo y.1.log port = sentTo x.1.log port + data.length := by
    rw [hlog, sentTo_append, foldl_touches countSent_other, hes, List.foldl_cons, List.foldl_nil,
      countSent, if_pos rfl]
  rw [hl, htick, hsent]
  omega

/-- A packet of the guest that says that it has consumed `n` bytes. -/
def creditRun (op : UInt16) (bufAlloc : UInt32) (n : Nat) : List Told :=
  (txRun [.tx (some [some (VsockHeader.toBytes {
    srcCid := 3
    dstCid := HOST_CID
    srcPort := 1025
    dstPort := FIRST_HOST_PORT
    len := 0
    type := TYPE_STREAM
    op := op
    flags := 0
    bufAlloc := bufAlloc
    fwdCnt := UInt32.ofNat n })]) none 64]).map (·, n)

/-- The connection is opened, and the guest accepts it with a buffer of eight bytes. -/
def acceptRun : List Told :=
  (connectRun (ascii "CONNECT 1025\n")).map (·, 0) ++ creditRun OP_RESPONSE 8 0

/-- A poll finds the host socket readable. -/
def readableRun : List Told :=
  [(.poll [(.conn FIRST_HOST_PORT, ⟨true, false, false⟩)], 0), (.next true false, 0)]

/-- The host has sent six bytes; the guest has consumed four of them and makes its buffer smaller by
two, in a packet that is heeded. -/
def shrinkRun : List Told :=
  acceptRun ++ readableRun ++ [(.read (.bytes (ascii "hello ")) none, 0),
    (.read .wouldBlock none, 0), (.next true false, 0)] ++ creditRun OP_CREDIT_UPDATE 6 4 ++ readableRun

theorem credit_kept_shrink : ∃ x y,
      run (creditStep FIRST_HOST_PORT) (Reactor.start 3 true false, ⟨0, 0⟩) shrinkRun = some x ∧
      creditStep FIRST_HOST_PORT x (.read (.bytes (ascii "world")) none, 0) = some y ∧
      sentTo y.1.log FIRST_HOST_PORT = 10 ∧ y.2 = ⟨4, 6⟩ ∧
      sentTo y.1.log FIRST_HOST_PORT ≤ y.2.consumed + y.2.advertised := by
  obtain ⟨x, hx, hsends, hany⟩ : ∃ x, run (creditStep FIRST_HOST_PORT) (Reactor.start 3 true false, ⟨0, 0⟩) shrinkRun = some x ∧ x.1.sends (.read (.bytes (ascii "world")) none) =
          some (FIRST_HOST_PORT, ascii "worl") ∧
        (creditStep FIRST_HOST_PORT x (.read (.bytes (ascii "world")) none, 0)).any (fun y =>
          sentTo y.1.log FIRST_HOST_PORT = 10 ∧ y.2 = ⟨4, 6⟩) = true :=
    exists_of_any (by decide +kernel)
  obtain ⟨y, hy, hd⟩ := (Option.any_eq_true _ _).mp hany
  obtain ⟨hsent, hledger⟩ := of_decide_eq_true hd
  refine ⟨x, y, hx, hy, hsent, hledger,
    credit_kept 3 true false FIRST_HOST_PORT shrinkRun x y _ _ ?_ ?_ hx hy hsends⟩
  · decide +kernel
  · decide +kernel

/-- **A smaller buffer in an `OP_CREDIT_REQUEST` goes unnoticed.** The guest has advertised eight
bytes, and then two in such a packet; the bridge sends five. -/
theorem credit_request : ∃ as x a y, Meets (creditStep FIRST_HOST_PORT) (Honest FIRST_HOST_PORT)
        (Reactor.start 3 true false, ⟨0, 0⟩) as ∧
      run (creditStep FIRST_HOST_PORT) (Reactor.start 3 true false, ⟨0, 0⟩) as = some x ∧
      creditStep FIRST_HOST_PORT x a = some y ∧
      x.1.sends a.1 = some (FIRST_HOST_PORT, ascii "hello") ∧
      sentTo y.1.log FIRST_HOST_PORT = 5 ∧ y.2 = ⟨0, 2⟩ := by
  obtain ⟨x, hx, hsends, hany⟩ : ∃ x, run (creditStep FIRST_HOST_PORT) (Reactor.start 3 true false, ⟨0, 0⟩)
      (acceptRun ++ creditRun OP_CREDIT_REQUEST 2 0 ++ readableRun) = some x ∧ x.1.sends (.read (.bytes (ascii "hello")) none) =
          some (FIRST_HOST_PORT, ascii "hello") ∧
        (creditStep FIRST_HOST_PORT x (.read (.bytes (ascii "hello")) none, 0)).any (fun y =>
          sentTo y.1.log FIRST_HOST_PORT = 5 ∧ y.2 = ⟨0, 2⟩) = true :=
    exists_of_any (by decide +kernel)
  obtain ⟨y, hy, hd⟩ := (Option.any_eq_true _ _).mp hany
  obtain ⟨hsent, hledger⟩ := of_decide_eq_true hd
  refine ⟨_, x, _, y, ?_, hx, hy, hsends, hsent, hledger⟩
  decide +kernel

end MicroMachines.Vsock
