import MicroMachines.Vsock.GuestToHost

set_option autoImplicit false

/-! # What the host client sees first

A host client that has asked for a connection waits for the line `OK` with the port of the bridge.
The bridge writes it when the guest accepts the connection.

The guest is not trusted, and the bridge does not wait: an `OP_RW` packet for a connection that the
guest has not accepted is passed on like any other. And the line is written to a non-blocking socket
with `write_all`, whose error is ignored, so that the line may be cut off.

* `handshake_first`: in a run in which neither happens, what was written to the socket of a
  connection is nothing, or the whole line, once, and then payload.
* `handshake_late`: a run in which payload comes first.
-/

namespace MicroMachines.Vsock

open MicroMachines.Lib

/-! ## The host socket of a connection -/

structure HostSocket where
  /-- Everything that was written to the socket. -/
  bytes : List UInt8
  /-- How often the line was written. -/
  lines : Nat
  /-- The payload of the guest that was written. -/
  payload : List UInt8
  deriving DecidableEq, Repr

def HostSocket.note (port : UInt32) (s : HostSocket) : Effect → HostSocket
  | .opened p _ => if p = port then ⟨[], 0, []⟩ else s
  | .wroteOk p line =>
    if p = port then { s with bytes := s.bytes ++ line, lines := s.lines + 1 } else s
  | .wrote p data =>
    if p = port then { s with bytes := s.bytes ++ data, payload := s.payload ++ data } else s
  | _ => s

/-- The socket of the last connection on a port. -/
def hostSocket (log : List Effect) (port : UInt32) : HostSocket :=
  log.foldl (HostSocket.note port) ⟨[], 0, []⟩

theorem HostSocket.note_other {port : UInt32} (s : HostSocket) (e : Effect)
    (h : e.touches port = false) : s.note port e = s := by
  cases e <;> simp_all [HostSocket.note, Effect.touches]

/-- Nothing, or the line and then payload. -/
def HostSocket.Greeted (s : HostSocket) (port : UInt32) : Prop :=
  s.lines = 0 ∧ s.bytes = [] ∨ s.lines = 1 ∧ s.bytes = VsockWorker.okLine port ++ s.payload

instance (s : HostSocket) (port : UInt32) : Decidable (s.Greeted port) :=
  inferInstanceAs (Decidable (_ ∨ _))

/-! ## The invariant -/

/-- What the state of a connection says about its socket. -/
def Greets (port : UInt32) : Option Conn → HostSocket → Prop
  | none, s => s.Greeted port
  | some c, s => c.localPort = port ∧
      match c.state with
      | .connecting => c.toUds = [] ∧ s = ⟨[], 0, []⟩
      | .established => s.lines = 1 ∧ s.bytes = VsockWorker.okLine port ++ s.payload

namespace Greets

variable {port : UInt32} {c c' : Conn} {s : HostSocket}

theorem connecting (hc : c.state = .connecting) :
    Greets port (some c) s ↔ c.localPort = port ∧ c.toUds = [] ∧ s = ⟨[], 0, []⟩ := by
  rw [Greets, hc]

theorem established (hc : c.state = .established) :
    Greets port (some c) s ↔ c.localPort = port ∧ s.lines = 1 ∧
      s.bytes = VsockWorker.okLine port ++ s.payload := by
  rw [Greets, hc]

theorem congr (hport : c'.localPort = c.localPort) (hstate : c'.state = c.state)
    (huds : c'.toUds = c.toUds) (h : Greets port (some c) s) : Greets port (some c') s := by
  rw [Greets, hport, hstate, huds]
  exact h

theorem greeted : ∀ {c : Option Conn}, Greets port c s → s.Greeted port
  | none, h => h
  | some c, h => by
      cases hc : c.state with
      | connecting =>
        obtain ⟨_, _, rfl⟩ := (connecting hc).mp h
        exact Or.inl ⟨rfl, rfl⟩
      | established => exact Or.inr ((established hc).mp h).2

end Greets

/-- How much of an `OK` line gets through in the step. -/
def Input.okRoom : Input → Nat
  | .tx _ _ ok => ok
  | _ => 0

namespace Reactor

variable {r r' : Reactor} {i : Input} {port : UInt32}

/-- The guest sends no payload before it has accepted the connection, and when it accepts, the whole
line gets through. -/
def Courteous (r : Reactor) (i : Input) : Prop :=
  ∀ x ∈ r.handles i, ∀ c ∈ r.worker.conns.lookup x.1.dstPort, c.state = .connecting →
    (x.1.op = OP_RW → x.2 = []) ∧
      (x.1.op = OP_RESPONSE → (VsockWorker.okLine c.localPort).length ≤ i.okRoom)

instance (r : Reactor) (i : Input) : Decidable (r.Courteous i) :=
  inferInstanceAs (Decidable (∀ x ∈ r.handles i, ∀ c ∈ r.worker.conns.lookup x.1.dstPort, _))

/-- What happens to a connection keeps its socket in order. -/
theorem greets_conn {c c' : Option Conn} {es : List Effect} {s : HostSocket}
    (hconn : ConnStep port r i r' c c' es)
    (hcourteous : ∀ x ∈ r.handles i, x.1.dstPort = port → ∀ d ∈ c, d.state = .connecting →
      (x.1.op = OP_RW → x.2 = []) ∧
        (x.1.op = OP_RESPONSE → (VsockWorker.okLine d.localPort).length ≤ i.okRoom))
    (h : Greets port c s) : Greets port c' (es.foldl (HostSocket.note port) s) := by
  cases hconn with
  | same c hflush hpacket => exact h
  | opened guestPort early hopens =>
    rw [List.foldl_cons, List.foldl_nil, HostSocket.note, if_pos rfl]
    exact (Greets.connecting rfl).mpr ⟨rfl, rfl, rfl⟩
  | response c hdr payload chain rx ok hh hi hport hop hstate =>
    obtain ⟨hlocal, _, rfl⟩ := (Greets.connecting hstate).mp h
    have hroom := (hcourteous _ hh hport c rfl hstate).2 hop
    rw [hi] at hroom
    have hline : (VsockWorker.okLine c.localPort).take ok = VsockWorker.okLine c.localPort :=
      List.take_of_length_le hroom
    rw [List.foldl_cons, List.foldl_nil, HostSocket.note, if_pos rfl, hline]
    refine (Greets.established rfl).mpr ⟨hlocal, rfl, ?_⟩
    show [] ++ VsockWorker.okLine c.localPort = VsockWorker.okLine port ++ []
    rw [hlocal, List.append_nil, List.nil_append]
  | accepted c hdr payload hh hport hop =>
    cases hcs : c.state with
    | connecting =>
      obtain ⟨hlocal, huds, hs⟩ := (Greets.connecting hcs).mp h
      have hpayload : payload = [] := (hcourteous _ hh hport c rfl hcs).1 hop
      refine (Greets.connecting rfl).mpr ⟨hlocal, ?_, hs⟩
      show c.toUds ++ payload = []
      rw [huds, hpayload, List.append_nil]
    | established => exact (Greets.established rfl).mpr ((Greets.established hcs).mp h)
  | update c hdr payload hh hport hop | told c hreq
  | sent c data hsends hne hstate hroom hmax => exact Greets.congr rfl rfl rfl h
  | wrote c n advanced caller hpc hpc' hne =>
    cases hcs : c.state with
    | connecting =>
      obtain ⟨_, hempty, _⟩ := (Greets.connecting hcs).mp h
      exact absurd hempty hne
    | established =>
      obtain ⟨hlocal, hlines, hbytes⟩ := (Greets.established hcs).mp h
      rw [List.foldl_cons, List.foldl_nil, HostSocket.note, if_pos rfl]
      refine (Greets.established rfl).mpr ⟨hlocal, hlines, ?_⟩
      show s.bytes ++ _ = _ ++ (s.payload ++ _)
      rw [hbytes, List.append_assoc]
  | closed c why hwhy => exact h.greeted

/-- **The line comes first.** In every run in which the guest sends no payload before it has
accepted a connection, and in which the line gets through, for every connection, what was written to
its host socket is nothing, or the line with its port, once, and then payload. -/
theorem handshake_first (cid : UInt64) (listener pause : Bool) (is : List Input) (r : Reactor)
    (hcourteous : Meets Reactor.step Courteous (Reactor.start cid listener pause) is)
    (hrun : run Reactor.step (Reactor.start cid listener pause) is = some r) (port : UInt32) :
    (hostSocket r.log port).lines = 0 ∧ (hostSocket r.log port).bytes = [] ∨
      (hostSocket r.log port).lines = 1 ∧ (hostSocket r.log port).bytes =
          VsockWorker.okLine port ++ (hostSocket r.log port).payload := by
  have hend := run_conn HostSocket.note ⟨[], 0, []⟩
    (fun port _ => Greets port) (fun _ => HostSocket.note_other) ?_ ?_ is r hcourteous hrun port
  · exact hend.greeted
  · intro r i r' port es hcourteous hconn h
    refine greets_conn hconn ?_ h
    intro x hx hport
    rw [← hport]
    exact hcourteous x hx
  · intro port
    exact Or.inl ⟨rfl, rfl⟩

theorem handshake_first_hello :
    ∃ r, run Reactor.step (Reactor.start 3 true false) (shutdownRun [2, 3]) = some r ∧
      (hostSocket r.log FIRST_HOST_PORT).bytes = ascii "OK 1073741824\nhello" ∧
      ((hostSocket r.log FIRST_HOST_PORT).lines = 0 ∧
          (hostSocket r.log FIRST_HOST_PORT).bytes = [] ∨
        (hostSocket r.log FIRST_HOST_PORT).lines = 1 ∧ (hostSocket r.log FIRST_HOST_PORT).bytes =
            VsockWorker.okLine FIRST_HOST_PORT ++ (hostSocket r.log FIRST_HOST_PORT).payload) := by
  obtain ⟨r, hr, hd⟩ : ∃ r, run Reactor.step (Reactor.start 3 true false) (shutdownRun [2, 3]) = some r ∧
      (hostSocket r.log FIRST_HOST_PORT).bytes = ascii "OK 1073741824\nhello" :=
    exists_of_any (by decide +kernel)
  refine ⟨r, hr, hd, handshake_first 3 true false _ r ?_ hr FIRST_HOST_PORT⟩
  decide +kernel

/-- **Payload before the line.** The guest sends it before it accepts the connection. -/
theorem handshake_late : ∃ is r, run Reactor.step (Reactor.start 3 true false) is = some r ∧
      hostSocket r.log FIRST_HOST_PORT = ⟨ascii "earlyOK 1073741824\n", 1, ascii "early"⟩ :=
  ⟨connectRun (ascii "CONNECT 1025\n") ++ txRun (rwRun (ascii "early") [5]) ++ responseRun, exists_of_any (by decide +kernel)⟩

end Reactor

end MicroMachines.Vsock
