import MicroMachines.Vsock.GuestToHost

set_option autoImplicit false

/-! # The receive window of the bridge

The bridge tells the guest a window, `HOST_BUF_ALLOC`, and in credit updates how many bytes it has
passed on to the host socket.

* `told_forwarded`: between two events the guest has been told of every byte that was passed on, and
  what was accepted from it was either passed on or is in the queue.
* `window_kept`: with a guest that stays within its credit, the queue never holds more than the
  window. The bridge does not see to it: it queues the payload of an `OP_RW` packet whatever its
  length, and `window_overrun` is a run in which the queue is longer.
-/

namespace MicroMachines.Vsock

open MicroMachines.Lib

namespace Reactor

variable {r r' : Reactor} {i : Input} {port : UInt32}

/-! ## The counters -/

/-- What was accepted on the connection was passed on or is in the queue; and the guest knows how
much was passed on, unless the bridge is about to tell it. -/
def Accounted (pc : Pc) (port : UInt32) (s : GuestStream) (c : Conn) : Prop :=
  c.rxFwdCnt + UInt32.ofNat c.toUds.length = UInt32.ofNat s.accepted.length ∧
    (c.lastCreditSent = c.rxFwdCnt ∨ ∃ caller, pc = .flush port true caller)

/-- Away from `flush_to_uds`, the guest knows. -/
theorem Accounted.told {pc : Pc} {s : GuestStream} {c : Conn} (h : Accounted pc port s c)
    (hpc : ∀ caller, pc ≠ .flush port true caller) : c.lastCreditSent = c.rxFwdCnt := by
  rcases h.2 with htold | ⟨caller, hflush⟩
  · exact htold
  · exact absurd hflush (hpc caller)

theorem note_wrote_accepted (s : GuestStream) (bytes : List UInt8) :
    (s.note port (.wrote port bytes)).accepted = s.accepted := by
  unfold GuestStream.note
  dsimp only
  split_ifs <;> rfl

/-- What happens to a connection keeps it accounted for. -/
theorem accounted_conn {c c' : Option Conn} {es : List Effect} {s : GuestStream}
    (hconn : ConnStep port r i r' c c' es) (h : ∀ d ∈ c, Accounted r.pc port s d) :
    ∀ d ∈ c', Accounted r'.pc port (es.foldl (GuestStream.note port) s) d := by
  intro d hd
  -- A packet comes in `process_tx` only.
  have htx : ∀ x, r.handles i = some x → ∀ caller, r.pc ≠ .flush port true caller := by
    intro x hx caller hpc
    obtain ⟨dirty, hpc'⟩ := handles_cases hx
    rw [hpc] at hpc'
    cases hpc'
  cases hconn with
  | same c hflush hpacket =>
    obtain ⟨hcount, htold⟩ := h d hd
    refine ⟨hcount, Or.inl ?_⟩
    rcases htold with htold | ⟨caller, hpc⟩
    · exact htold
    · exact (hflush caller hpc d hd).symm
  | opened guestPort early hopens =>
    cases hd
    rw [List.foldl_cons, List.foldl_nil, GuestStream.note, if_pos rfl]
    exact ⟨rfl, Or.inl rfl⟩
  | response c hdr payload chain rx ok hh hi hport hop hstate =>
    cases hd
    have hacc := h c rfl
    rw [List.foldl_cons, List.foldl_nil, GuestStream.note, if_pos rfl]
    exact ⟨hacc.1, Or.inl (hacc.told (htx _ hh))⟩
  | accepted c hdr payload hh hport hop =>
    cases hd
    have hacc := h c rfl
    rw [List.foldl_cons, List.foldl_nil, GuestStream.note, if_pos rfl]
    refine ⟨?_, Or.inl (hacc.told (htx _ hh))⟩
    dsimp only
    rw [List.length_append, List.length_append, UInt32.ofNat_add, UInt32.ofNat_add,
      ← UInt32.add_assoc, hacc.1]
  | update c hdr payload hh hport hop =>
    cases hd
    have hacc := h c rfl
    exact ⟨hacc.1, Or.inl (hacc.told (htx _ hh))⟩
  | told c hreq =>
    cases hd
    exact ⟨(h c rfl).1, Or.inl rfl⟩
  | wrote c n advanced caller hpc hpc' hne =>
    cases hd
    obtain ⟨hcount, _⟩ := h c rfl
    refine ⟨?_, Or.inr ⟨caller, hpc'⟩⟩
    rw [List.foldl_cons, List.foldl_nil, note_wrote_accepted, ← hcount]
    have hsplit : min n c.toUds.length + (c.toUds.length - n) = c.toUds.length := by omega
    dsimp only
    rw [List.length_drop, UInt32.add_assoc, ← UInt32.ofNat_add, hsplit]
  | sent c data hsends hne hstate hroom hmax =>
    cases hd
    have hacc := h c rfl
    refine ⟨hacc.1, Or.inl (hacc.told ?_)⟩
    obtain ⟨dirty, hangup, bs, rx, room, hpc, _⟩ := sends_cases hsends
    intro caller hflush
    rw [hpc] at hflush
    cases hflush
  | closed c why hwhy => cases hd

/-- **The guest has been told what was passed on.** In every run, between two events, for every open
connection, the forward count of the last credit update is the forward count, and together with the
bytes in the queue it is what was accepted from the guest. -/
theorem told_forwarded (cid : UInt64) (listener pause : Bool) (is : List Input) (r : Reactor)
    (hrun : run Reactor.step (Reactor.start cid listener pause) is = some r)
    (hpc : r.pc = .waiting ∨ r.pc = .scanning) (port : UInt32) (c : Conn)
    (hc : r.worker.conns.lookup port = some c) : c.lastCreditSent = c.rxFwdCnt ∧
      c.rxFwdCnt + UInt32.ofNat c.toUds.length =
        UInt32.ofNat (guestStream r.log port).accepted.length := by
  have hacc := run_conn (P := fun _ _ => True) GuestStream.note ⟨[], false, [], none⟩
    (fun port pc c s => ∀ d ∈ c, Accounted pc port s d)
    (fun _ => GuestStream.note_other) (fun _ _ _ _ _ _ hconn h => accounted_conn hconn h)
    (fun _ => nofun) is r (Meets.of_forall (fun _ _ => trivial) is _) hrun port c hc
  refine ⟨hacc.told ?_, hacc.1⟩
  intro caller hflush
  rw [hflush] at hpc
  rcases hpc with hpc | hpc <;> cases hpc

/-- The socket takes two of five bytes. -/
theorem told_forwarded_partial : ∃ r c, run Reactor.step (Reactor.start 3 true false)
        (connectRun (ascii "CONNECT 1025\n") ++ responseRun ++ txRun (rwRun (ascii "hello") [2])) =
          some r ∧
      r.worker.conns.lookup FIRST_HOST_PORT = some c ∧ c.rxFwdCnt = 2 ∧ c.toUds.length = 3 ∧
      (c.lastCreditSent = c.rxFwdCnt ∧ c.rxFwdCnt + UInt32.ofNat c.toUds.length =
        UInt32.ofNat (guestStream r.log FIRST_HOST_PORT).accepted.length) := by
  have hex : (run Reactor.step (Reactor.start 3 true false)
      (connectRun (ascii "CONNECT 1025\n") ++ responseRun ++
        txRun (rwRun (ascii "hello") [2]))).any (fun r => r.pc = .waiting ∧
          (r.worker.conns.lookup FIRST_HOST_PORT).any (fun c =>
            c.rxFwdCnt = 2 ∧ c.toUds.length = 3) = true) = true := by
    decide +kernel
  obtain ⟨r, hr, hd⟩ := (Option.any_eq_true _ _).mp hex
  obtain ⟨hpc, hany⟩ := of_decide_eq_true hd
  obtain ⟨c, hc, hd⟩ := (Option.any_eq_true _ _).mp hany
  obtain ⟨hcnt, hlen⟩ := of_decide_eq_true hd
  exact ⟨r, c, hr, hc, hcnt, hlen,
    told_forwarded 3 true false _ r hr (Or.inl hpc) FIRST_HOST_PORT c hc⟩

/-! ## The window -/

/-- The guest stays within its credit: what it has sent beyond the forward count it was told last,
and the new payload, fit into the window. -/
def WithinCredit (r : Reactor) (i : Input) : Prop :=
  ∀ x ∈ r.handles i, x.1.op = OP_RW → ∀ c ∈ r.worker.conns.lookup x.1.dstPort,
    (UInt32.ofNat (guestStream r.log x.1.dstPort).accepted.length - c.lastCreditSent).toNat +
      x.2.length ≤ HOST_BUF_ALLOC.toNat

instance (r : Reactor) (i : Input) : Decidable (r.WithinCredit i) :=
  inferInstanceAs (Decidable (∀ x ∈ r.handles i, _ →
    ∀ c ∈ r.worker.conns.lookup x.1.dstPort, _))

def Within (c : Conn) : Prop := c.toUds.length ≤ HOST_BUF_ALLOC.toNat

/-- What the guest has sent beyond the forward count is in the queue. -/
theorem Accounted.outstanding {pc : Pc} {s : GuestStream} {c : Conn} (h : Accounted pc port s c)
    (hpc : ∀ caller, pc ≠ .flush port true caller) (hwithin : Within c) :
    (UInt32.ofNat s.accepted.length - c.lastCreditSent).toNat = c.toUds.length := by
  have hlt : c.toUds.length < 2 ^ 32 := Nat.lt_of_le_of_lt hwithin (by decide)
  rw [h.told hpc, ← h.1, UInt32.add_comm, UInt32.add_sub_cancel, UInt32.toNat_ofNat_of_lt' hlt]

theorem within_conn {c c' : Option Conn} {es : List Effect} {s : GuestStream}
    (hconn : ConnStep port r i r' c c' es) (hacc : ∀ d ∈ c, Accounted r.pc port s d)
    (hcredit : ∀ x ∈ r.handles i, x.1.op = OP_RW → x.1.dstPort = port → ∀ d ∈ c,
      (UInt32.ofNat s.accepted.length - d.lastCreditSent).toNat + x.2.length ≤ HOST_BUF_ALLOC.toNat)
    (h : ∀ d ∈ c, Within d) : ∀ d ∈ c', Within d := by
  intro d hd
  cases hconn with
  | same c hflush hpacket => exact h d hd
  | opened guestPort early hopens =>
    cases hd
    exact Nat.zero_le _
  | accepted c hdr payload hh hport hop =>
    cases hd
    have hfits := hcredit _ hh hop hport c rfl
    have hpc : ∀ caller, r.pc ≠ .flush port true caller := by
      obtain ⟨dirty, hpc⟩ := handles_cases hh
      simp [hpc]
    rw [(hacc c rfl).outstanding hpc (h c rfl)] at hfits
    show (c.toUds ++ payload).length ≤ _
    rw [List.length_append]
    exact hfits
  | wrote c n advanced caller hpc hpc' hne =>
    cases hd
    show (c.toUds.drop n).length ≤ _
    rw [List.length_drop]
    exact (Nat.sub_le _ _).trans (h c rfl)
  | response c hdr payload chain rx ok hh hi hport hop hstate
  | update c hdr payload hh hport hop | told c hreq
  | sent c data hsends hne hstate hroom hmax =>
    cases hd
    exact h c rfl
  | closed c why hwhy => cases hd

/-- **The window is kept by the guest.** In every run in which it stays within its credit, the queue
of every open connection fits into the window. -/
theorem window_kept (cid : UInt64) (listener pause : Bool) (is : List Input) (r : Reactor)
    (hcredit : Meets Reactor.step WithinCredit (Reactor.start cid listener pause) is)
    (hrun : run Reactor.step (Reactor.start cid listener pause) is = some r) (port : UInt32)
    (c : Conn) (hc : r.worker.conns.lookup port = some c) :
    c.toUds.length ≤ HOST_BUF_ALLOC.toNat := by
  have hend := run_conn GuestStream.note ⟨[], false, [], none⟩
    (fun port pc c s => (∀ d ∈ c, Accounted pc port s d) ∧ ∀ d ∈ c, Within d)
    (fun _ => GuestStream.note_other) ?_ (fun _ => ⟨nofun, nofun⟩) is r hcredit hrun port
  · exact hend.2 c hc
  · rintro r i r' port es hcredit hconn ⟨hacc, hwithin⟩
    refine ⟨accounted_conn hconn hacc, within_conn hconn hacc ?_ hwithin⟩
    intro x hx hop hport
    rw [← hport]
    exact hcredit x hx hop

theorem window_kept_hello : ∃ r c, run Reactor.step (Reactor.start 3 true false)
        (connectRun (ascii "CONNECT 1025\n") ++ responseRun ++ txRun (rwRun (ascii "hello") [])) =
          some r ∧ r.worker.conns.lookup FIRST_HOST_PORT = some c ∧ c.toUds = ascii "hello" ∧
      c.toUds.length ≤ HOST_BUF_ALLOC.toNat := by
  have hex : (run Reactor.step (Reactor.start 3 true false)
      (connectRun (ascii "CONNECT 1025\n") ++ responseRun ++ txRun (rwRun (ascii "hello") []))).any
        (fun r => (r.worker.conns.lookup FIRST_HOST_PORT).any (fun c =>
          c.toUds = ascii "hello") = true) = true := by
    decide +kernel
  obtain ⟨r, hr, hd⟩ := (Option.any_eq_true _ _).mp hex
  obtain ⟨c, hc, hd⟩ := (Option.any_eq_true _ _).mp (of_decide_eq_true hd)
  refine ⟨r, c, hr, hc, of_decide_eq_true hd, window_kept 3 true false _ r ?_ hr _ c hc⟩
  decide +kernel

/-- A payload for an open connection goes into its queue, whatever its length. -/
theorem step_rw {dirty : Bool} {c : Conn} {hdr : VsockHeader} {payload : List UInt8}
    (hpc : r.pc = .processTx dirty) (hc : r.worker.conns.lookup hdr.dstPort = some c)
    (hop : hdr.op = OP_RW) (hlen : hdr.len.toNat = payload.length) :
    ∃ r' c', r.step (.tx (some [some (hdr.toBytes ++ payload)]) none 0) = some r' ∧
      r'.pc = .flush hdr.dstPort false (.processTx dirty) ∧
      r'.worker.conns.lookup hdr.dstPort = some c' ∧ c'.toUds = c.toUds ++ payload := by
  have hpayload : ((hdr.toBytes ++ payload).drop VSOCK_HDR_LEN).take hdr.len.toNat = payload := by
    rw [List.drop_left' hdr.toBytes_length, hlen, List.take_length]
  have htx : r.worker.txChain [some (hdr.toBytes ++ payload)] none 0 =
      ⟨r.worker.setConn hdr.dstPort { c with
          credit := c.credit.updatePeer hdr.bufAlloc hdr.fwdCnt, toUds := c.toUds ++ payload },
        .ok (some (hdr.dstPort, .flush)), [.usedTx, .accepted hdr.dstPort payload]⟩ := by
    simp only [VsockWorker.txChain, List.mapM_cons, List.mapM_nil, id, Option.pure_def,
      Option.bind_eq_bind, Option.bind_some, List.flatten_cons, List.flatten_nil, List.append_nil,
      VsockHeader.parse_toBytes, hpayload, VsockWorker.handleGuestPacket, hop, hc]
    rfl
  refine ⟨r.stepTx dirty (some [some (hdr.toBytes ++ payload)]) none 0, { c with
    credit := c.credit.updatePeer hdr.bufAlloc hdr.fwdCnt, toUds := c.toUds ++ payload },
    ?_, ?_, ?_, rfl⟩
  · simp only [step, hpc]
  · simp only [stepTx, htx]
  · rw [(stepTx_worker dirty _ none 0).1, htx]
    exact AList.lookup_insert r.worker.conns

/-- A full socket leaves the queue as it is. -/
theorem step_wouldBlock {dirty : Bool} {c : Conn}
    (hpc : r.pc = .flush port false (.processTx dirty)) (hc : r.worker.conns.lookup port = some c) :
    ∃ r', r.step (.write .wouldBlock none) = some r' ∧ r'.worker.conns.lookup port = some c := by
  have hturn : (r.worker.flushTurn port false .wouldBlock none).worker = r.worker := by
    have htail : (r.worker.flushTail port false none).worker = r.worker := by
      simp [VsockWorker.flushTail, hc]
    simp only [VsockWorker.flushTurn, hc]
    split_ifs <;> exact htail
  refine ⟨r.stepFlush port false (.processTx dirty) .wouldBlock none, ?_, ?_⟩
  · simp only [step, hpc]
  · rw [(stepFlush_worker port false _ .wouldBlock none).1, hturn]
    exact hc

/-- The header of a packet with one byte more than the window. -/
def overrunHeader : VsockHeader where
  srcCid := 3
  dstCid := HOST_CID
  srcPort := 1025
  dstPort := FIRST_HOST_PORT
  len := HOST_BUF_ALLOC + 1
  type := TYPE_STREAM
  op := OP_RW
  flags := 0
  bufAlloc := HOST_BUF_ALLOC
  fwdCnt := 0

/-- **The bridge does not see to its window.** A guest that ignores credit sends one byte more than
the window in one packet, the socket is full, and all of it stays in the queue. -/
theorem window_overrun :
    ∃ is r i r' r'' c, run Reactor.step (Reactor.start 3 true false) is = some r ∧
      r.step i = some r' ∧ r'.step (.write .wouldBlock none) = some r'' ∧
      r''.worker.conns.lookup FIRST_HOST_PORT = some c ∧ HOST_BUF_ALLOC.toNat < c.toUds.length := by
  have hex : (run Reactor.step (Reactor.start 3 true false)
      (connectRun (ascii "CONNECT 1025\n") ++ responseRun ++
        [.poll [(.txEvt, ⟨true, false, false⟩)], .next true false])).any (fun r =>
          r.pc = .processTx false ∧
            (r.worker.conns.lookup FIRST_HOST_PORT).isSome = true) = true := by
    decide +kernel
  obtain ⟨r, hr, hd⟩ := (Option.any_eq_true _ _).mp hex
  obtain ⟨hpc, hsome⟩ := of_decide_eq_true hd
  obtain ⟨c, hc⟩ := Option.isSome_iff_exists.mp hsome
  obtain ⟨payload, hlen⟩ : ∃ payload : List UInt8, payload.length = HOST_BUF_ALLOC.toNat + 1 :=
    ⟨List.replicate _ 0, List.length_replicate⟩
  obtain ⟨r', c', hr', hpc', hc', huds⟩ := @step_rw r false c overrunHeader payload hpc hc rfl
    (by rw [hlen]; rfl)
  obtain ⟨r'', hr'', hc''⟩ := step_wouldBlock hpc' hc'
  refine ⟨_, r, _, r', r'', c', hr, hr', hr'', hc'', ?_⟩
  rw [huds, List.length_append, hlen]
  omega

end Reactor

end MicroMachines.Vsock
