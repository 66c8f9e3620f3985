import MicroMachines.Vsock.Connection

set_option autoImplicit false

/-! # From the guest to the host

The payload of an `OP_RW` packet goes into the queue `to_uds` of its connection, and from there to
the host socket, as much as the socket takes. The host sees the stream after the `OK` line.

Two things go wrong. A packet that comes before the guest has accepted the connection is written
before the line, and what comes after it begins in the middle of the stream. An `OP_SHUTDOWN` closes
the connection whatever is in the queue, so that what the socket did not take yet is lost.

* `guestStream_kept`: in a run without these steps, what was written after the line is a prefix of
  what was accepted, and all of it after a shutdown.
* `guestStream_shutdown`: a run with such a step.
-/

namespace MicroMachines.Vsock

open MicroMachines.Lib

/-! ## Streams -/

/-- The stream of a connection. -/
structure GuestStream where
  /-- The payloads of its `OP_RW` packets. -/
  accepted : List UInt8
  /-- Whether the `OK` line has been written, and what was written after it. -/
  ok : Bool
  written : List UInt8
  closed : Option CloseReason
  deriving DecidableEq, Repr

def GuestStream.note (port : UInt32) (s : GuestStream) : Effect → GuestStream
  | .opened p _ => if p = port then ⟨[], false, [], none⟩ else s
  | .accepted p bytes => if p = port then { s with accepted := s.accepted ++ bytes } else s
  | .wroteOk p _ => if p = port then { s with ok := true } else s
  | .wrote p bytes =>
    if p = port ∧ s.ok = true then { s with written := s.written ++ bytes } else s
  | .closed p why => if p = port then { s with closed := some why } else s
  | _ => s

/-- The stream of the last connection on a port. -/
def guestStream (log : List Effect) (port : UInt32) : GuestStream :=
  log.foldl (GuestStream.note port) ⟨[], false, [], none⟩

/-- The host sees a prefix of what was accepted, and everything if the guest shut the connection
down. -/
def GuestStream.Sound (s : GuestStream) : Prop :=
  s.written <+: s.accepted ∧ (s.closed = some .guestShutdown → s.written = s.accepted)

theorem GuestStream.note_other {port : UInt32} (s : GuestStream) (e : Effect)
    (h : e.touches port = false) : s.note port e = s := by
  cases e <;> simp_all [GuestStream.note, Effect.touches]

/-- What the queue of a connection has to do with its stream: before the guest has accepted it
nothing has come, and afterwards the queue holds what is accepted and not written. -/
def Flows : Option Conn → GuestStream → Prop
  | none, s => s.Sound
  | some c, s => s.closed = none ∧
      match c.state with
      | .connecting => s.ok = false ∧ s.accepted = [] ∧ s.written = [] ∧ c.toUds = []
      | .established => s.ok = true ∧ s.written ++ c.toUds = s.accepted

variable {c : Conn} {s : GuestStream}

theorem Flows.connecting (hc : c.state = .connecting) : Flows (some c) s ↔
      s.closed = none ∧ s.ok = false ∧ s.accepted = [] ∧ s.written = [] ∧ c.toUds = [] := by
  rw [Flows, hc]

theorem Flows.established (hc : c.state = .established) :
    Flows (some c) s ↔ s.closed = none ∧ s.ok = true ∧ s.written ++ c.toUds = s.accepted := by
  rw [Flows, hc]

/-- Nothing else of the connection matters. -/
theorem Flows.congr {c' : Conn} (hstate : c'.state = c.state)
    (huds : c'.toUds = c.toUds) (h : Flows (some c) s) : Flows (some c') s := by
  rw [Flows, hstate, huds]
  exact h

/-- With an empty queue, all has been written. -/
theorem Flows.written (h : Flows (some c) s) (huds : c.toUds = []) : s.written = s.accepted := by
  cases hc : c.state with
  | connecting =>
    obtain ⟨_, _, hacc, hwr, _⟩ := (Flows.connecting hc).mp h
    rw [hacc, hwr]
  | established =>
    obtain ⟨_, _, hflow⟩ := (Flows.established hc).mp h
    rw [← hflow, huds, List.append_nil]

theorem Flows.isPrefix (h : Flows (some c) s) : s.written <+: s.accepted := by
  cases hc : c.state with
  | connecting =>
    obtain ⟨_, _, _, hwr, _⟩ := (Flows.connecting hc).mp h
    rw [hwr]
    exact List.nil_prefix
  | established =>
    obtain ⟨_, _, hflow⟩ := (Flows.established hc).mp h
    exact ⟨c.toUds, hflow⟩

theorem Flows.sound : ∀ {c : Option Conn} {s : GuestStream}, Flows c s → s.Sound
  | none, _, h => h
  | some _, _, h => by
      refine ⟨h.isPrefix, fun hclosed => ?_⟩
      rw [h.1] at hclosed
      cases hclosed

/-! ## Runs -/

namespace Reactor

variable {r r' : Reactor} {i : Input}

/-- The guest sends no payload before it has accepted the connection, and shuts a connection down
only when its queue is empty. -/
def Orderly (r : Reactor) (i : Input) : Prop :=
  ∀ x ∈ r.handles i, ∀ c ∈ r.worker.conns.lookup x.1.dstPort,
    (x.1.op = OP_RW → c.state = .connecting → x.2 = []) ∧ (x.1.op = OP_SHUTDOWN → c.toUds = [])

instance (r : Reactor) (i : Input) : Decidable (r.Orderly i) :=
  inferInstanceAs (Decidable (∀ x ∈ r.handles i, ∀ c ∈ r.worker.conns.lookup x.1.dstPort, _))

/-- What happens to a connection keeps its stream in order, if the guest is orderly. -/
theorem flows_conn {port : UInt32} {c c' : Option Conn} {es : List Effect} {s : GuestStream}
    (hconn : ConnStep port r i r' c c' es)
    (horderly : ∀ x ∈ r.handles i, x.1.dstPort = port → ∀ d ∈ c,
      (x.1.op = OP_RW → d.state = .connecting → x.2 = []) ∧ (x.1.op = OP_SHUTDOWN → d.toUds = []))
    (h : Flows c s) : Flows c' (es.foldl (GuestStream.note port) s) := by
  cases hconn with
  | same c hflush hpacket => exact h
  | opened guestPort early hopens =>
    rw [List.foldl_cons, List.foldl_nil, GuestStream.note, if_pos rfl]
    exact (Flows.connecting rfl).mpr ⟨rfl, rfl, rfl, rfl, rfl⟩
  | response c hdr payload chain rx ok hh hi hport hop hstate =>
    -- The line goes out before any payload.
    obtain ⟨hclosed, _, hacc, hwr, hempty⟩ := (Flows.connecting hstate).mp h
    rw [List.foldl_cons, List.foldl_nil, GuestStream.note, if_pos rfl]
    refine (Flows.established rfl).mpr ⟨hclosed, rfl, ?_⟩
    show s.written ++ c.toUds = s.accepted
    rw [hempty, hwr, hacc, List.append_nil]
  | accepted c hdr payload hh hport hop =>
    rw [List.foldl_cons, List.foldl_nil, GuestStream.note, if_pos rfl]
    cases hcs : c.state with
    | connecting =>
      have hpayload : payload = [] := (horderly _ hh hport c rfl).1 hop hcs
      obtain ⟨hclosed, hok, hacc, hwr, hempty⟩ := (Flows.connecting hcs).mp h
      refine (Flows.connecting rfl).mpr ⟨hclosed, hok, ?_, hwr, ?_⟩
      · show s.accepted ++ payload = []
        rw [hacc, hpayload, List.append_nil]
      · show c.toUds ++ payload = []
        rw [hempty, hpayload, List.append_nil]
    | established =>
      obtain ⟨hclosed, hok, hflow⟩ := (Flows.established hcs).mp h
      refine (Flows.established rfl).mpr ⟨hclosed, hok, ?_⟩
      show s.written ++ (c.toUds ++ payload) = s.accepted ++ payload
      rw [← List.append_assoc, hflow]
  | update c hdr payload hh hport hop | told c hreq
  | sent c data hsends hne hstate hroom hmax => exact Flows.congr rfl rfl h
  | wrote c n advanced caller hpc hpc' hne =>
    cases hcs : c.state with
    | connecting =>
      obtain ⟨_, _, _, _, hempty⟩ := (Flows.connecting hcs).mp h
      exact absurd hempty hne
    | established =>
      obtain ⟨hclosed, hok, hflow⟩ := (Flows.established hcs).mp h
      rw [List.foldl_cons, List.foldl_nil, GuestStream.note, if_pos ⟨rfl, hok⟩]
      refine (Flows.established rfl).mpr ⟨hclosed, hok, ?_⟩
      show s.written ++ c.toUds.take n ++ c.toUds.drop n = s.accepted
      rw [List.append_assoc, List.take_append_drop, hflow]
  | closed c why hwhy =>
    rw [List.foldl_cons, List.foldl_nil, GuestStream.note, if_pos rfl]
    refine ⟨h.isPrefix, fun hshut => h.written ?_⟩
    obtain ⟨x, hx, hport, hop⟩ := hwhy (Option.some.inj hshut)
    exact (horderly x hx hport c rfl).2 hop

/-- **What the guest sends reaches the host, as long as the guest is orderly.** In every run in
which it is, for every connection, what was written after the `OK` line is a prefix of the accepted
payloads, and all of them if the guest has shut the connection down. -/
theorem guestStream_kept (cid : UInt64) (listener pause : Bool) (is : List Input) (r : Reactor)
    (horderly : Meets Reactor.step Orderly (Reactor.start cid listener pause) is)
    (hrun : run Reactor.step (Reactor.start cid listener pause) is = some r) (port : UInt32) :
    (guestStream r.log port).written <+: (guestStream r.log port).accepted ∧
      ((guestStream r.log port).closed = some .guestShutdown →
        (guestStream r.log port).written = (guestStream r.log port).accepted) := by
  have hend := run_conn GuestStream.note ⟨[], false, [], none⟩
    (fun _ _ => Flows) (fun _ => GuestStream.note_other) ?_ ?_ is r horderly hrun port
  · exact hend.sound
  · intro r i r' port es horderly hconn h
    refine flows_conn hconn ?_ h
    intro x hx hport
    rw [← hport]
    exact horderly x hx
  · intro port
    exact ⟨List.nil_prefix, nofun⟩

/-- The guest sends a payload, of which the socket takes so many bytes in each write. -/
def rwRun (payload : List UInt8) (taken : List Nat) : List Input :=
  .tx (some [some (guestPacket OP_RW payload)]) none 0 ::
    taken.map (fun n => .write (.wrote n) none) ++ [.write .wouldBlock none]

/-- The guest accepts the connection, sends a payload and shuts the connection down. -/
def shutdownRun (taken : List Nat) : List Input :=
  connectRun (ascii "CONNECT 1025\n") ++ responseRun ++
    txRun (rwRun (ascii "hello") taken ++
      [.tx (some [some (guestPacket OP_SHUTDOWN [])]) none 0])

theorem guestStream_kept_hello :
    ∃ r, run Reactor.step (Reactor.start 3 true false) (shutdownRun [2, 3]) = some r ∧
      guestStream r.log FIRST_HOST_PORT =
        ⟨ascii "hello", true, ascii "hello", some .guestShutdown⟩ ∧
      ((guestStream r.log FIRST_HOST_PORT).written <+:
          (guestStream r.log FIRST_HOST_PORT).accepted ∧
        ((guestStream r.log FIRST_HOST_PORT).closed = some .guestShutdown →
          (guestStream r.log FIRST_HOST_PORT).written =
            (guestStream r.log FIRST_HOST_PORT).accepted)) := by
  obtain ⟨r, hr, hd⟩ : ∃ r, run Reactor.step (Reactor.start 3 true false) (shutdownRun [2, 3]) = some r ∧
      guestStream r.log FIRST_HOST_PORT =
        ⟨ascii "hello", true, ascii "hello", some .guestShutdown⟩ :=
    exists_of_any (by decide +kernel)
  refine ⟨r, hr, hd, guestStream_kept 3 true false _ r ?_ hr FIRST_HOST_PORT⟩
  decide +kernel

/-- **A shutdown loses what is in the queue.** The socket takes two of five bytes and is full for
the moment; then the guest shuts the connection down, and the other three are never written. -/
theorem guestStream_shutdown : ∃ is r, run Reactor.step (Reactor.start 3 true false) is = some r ∧
      guestStream r.log FIRST_HOST_PORT =
        ⟨ascii "hello", true, ascii "he", some .guestShutdown⟩ :=
  ⟨shutdownRun [2], exists_of_any (by decide +kernel)⟩

end Reactor

end MicroMachines.Vsock
