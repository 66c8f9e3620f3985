import MicroMachines.Vsock.Reactor

set_option autoImplicit false

/-! # One connection of the bridge

A step of the reactor does at most one thing to the connection on a given port. `ConnStep` lists
these things, each with what it needs and with its effects, and `step_conn` shows that the list is
complete. What is proved about connections is proved from it, one case for each thing.
-/

namespace MicroMachines.Vsock

open MicroMachines.Lib

/-! ## What a step is about -/

namespace Reactor

/-- The port that the step opens, and what was read together with the `CONNECT` line. -/
def connects (r : Reactor) (i : Input) : Option (UInt32 × List UInt8) :=
  match r.pc, i with
  | .pending idx, .read (.bytes bs) _ => do
      let inbuf := r.worker.pending.getD idx [] ++ bs.take 256
      let line ← VsockWorker.parseConnect inbuf
      let _ ← line.2
      let found ← r.worker.allocPort
      some (found.1, inbuf.drop line.1)
  | _, _ => none

/-- The packet of the guest that the step handles, and its payload. -/
def handles (r : Reactor) (i : Input) : Option (VsockHeader × List UInt8) :=
  match r.pc, i with
  | .processTx _, .tx (some chain) _ _ => do
      let parts ← chain.mapM id
      let hdr ← VsockHeader.parse parts.flatten
      some (hdr, (parts.flatten.drop VSOCK_HDR_LEN).take hdr.len.toNat)
  | _, _ => none

/-- The port and the payload of the `OP_RW` packet that the step sends. -/
def sends (r : Reactor) (i : Input) : Option (UInt32 × List UInt8) :=
  match r.pc, i with
  | .pump port _ _, .read (.bytes bs) _ => do
      let room ← r.worker.pumpRoom port
      if bs = [] then none else some (port, bs.take room)
  | _, _ => none

variable {r : Reactor} {i : Input}

theorem handles_cases {x : VsockHeader × List UInt8} (h : r.handles i = some x) :
    ∃ dirty, r.pc = .processTx dirty := by
  unfold handles at h
  split at h
  · next dirty _ _ _ hpc => exact ⟨dirty, hpc⟩
  · cases h

theorem handles_of_ne (h : ∀ dirty, r.pc ≠ .processTx dirty) : r.handles i = none := by
  cases hx : r.handles i with
  | none => rfl
  | some x =>
    obtain ⟨dirty, hpc⟩ := handles_cases hx
    exact absurd hpc (h dirty)

theorem sends_cases {port : UInt32} {data : List UInt8} (h : r.sends i = some (port, data)) :
    ∃ dirty hangup bs rx room, r.pc = .pump port dirty hangup ∧ i = .read (.bytes bs) rx ∧
      r.worker.pumpRoom port = some room ∧ bs ≠ [] ∧ data = bs.take room := by
  unfold sends at h
  split at h
  · next p dirty hangup bs rx hpc =>
      obtain ⟨room, hroom, hdata⟩ := Option.bind_eq_some_iff.mp h
      split_ifs at hdata with hne
      cases hdata
      exact ⟨dirty, hangup, bs, rx, room, hpc, rfl, hroom, hne, rfl⟩
  · cases h

theorem handles_of_sends {port : UInt32} {data : List UInt8} (h : r.sends i = some (port, data)) :
    r.handles i = none := by
  obtain ⟨dirty, hangup, bs, rx, room, hpc, _⟩ := sends_cases h
  exact handles_of_ne (by simp [hpc])

end Reactor

/-- An effect on the connection of a port. -/
def Effect.touches (port : UInt32) : Effect → Bool
  | .opened p _ | .read p _ | .accepted p _ | .wroteOk p _ | .wrote p _ | .closed p _ => p == port
  | .placed _ | .usedTx | .markReady | .interrupt => false

/-- The connection takes the credit fields of the packet over. -/
def Conn.Heeds (c : Conn) (hdr : VsockHeader) : Prop :=
  hdr.op = OP_RW ∨ hdr.op = OP_CREDIT_UPDATE ∨ hdr.op = OP_RESPONSE ∧ c.state = .connecting

instance (c : Conn) (hdr : VsockHeader) : Decidable (c.Heeds hdr) :=
  inferInstanceAs (Decidable (_ ∨ _ ∨ _))

/-- The connection that `poll_pending` makes. -/
def Conn.fresh (localPort guestPort : UInt32) : Conn where
  localPort := localPort
  guestPort := guestPort
  state := .connecting
  credit := CreditTracker.new
  rxFwdCnt := 0
  lastCreditSent := 0
  toUds := []

/-- **What a step can do to the connection on a port.** The last two arguments are the connection
before and after it, and then come its effects. -/
inductive ConnStep (port : UInt32) (r : Reactor) (i : Input) (r' : Reactor) :
    Option Conn → Option Conn → List Effect → Prop
  /-- Nothing. If this is the end of a `flush_to_uds` that has written, there is nothing to tell the
  guest; if it is a packet, its credit fields are ignored. -/
  | same (c : Option Conn)
      (hflush : ∀ caller, r.pc = .flush port true caller → ∀ d ∈ c, d.rxFwdCnt = d.lastCreditSent)
      (hpacket : ∀ x ∈ r.handles i, x.1.dstPort = port → ∀ d ∈ c, ¬ d.Heeds x.1) :
      ConnStep port r i r' c c []
  | opened (guestPort : UInt32) (early : List UInt8) (h : r.connects i = some (port, early)) :
      ConnStep port r i r' none (some (Conn.fresh port guestPort)) [.opened port early]
  | response (c : Conn) (hdr : VsockHeader) (payload : List UInt8)
      (chain : List (Option (List UInt8))) (rx : Option (List RxDesc)) (ok : Nat)
      (h : r.handles i = some (hdr, payload)) (hi : i = .tx (some chain) rx ok)
      (hport : hdr.dstPort = port) (hop : hdr.op = OP_RESPONSE) (hstate : c.state = .connecting) :
      ConnStep port r i r' (some c)
        (some { c with
          state := .established, credit := c.credit.updatePeer hdr.bufAlloc hdr.fwdCnt })
        [.wroteOk port ((VsockWorker.okLine c.localPort).take ok)]
  | accepted (c : Conn) (hdr : VsockHeader) (payload : List UInt8)
      (h : r.handles i = some (hdr, payload)) (hport : hdr.dstPort = port) (hop : hdr.op = OP_RW) :
      ConnStep port r i r' (some c)
        (some { c with
          credit := c.credit.updatePeer hdr.bufAlloc hdr.fwdCnt, toUds := c.toUds ++ payload })
        [.accepted port payload]
  | update (c : Conn) (hdr : VsockHeader) (payload : List UInt8)
      (h : r.handles i = some (hdr, payload)) (hport : hdr.dstPort = port)
      (hop : hdr.op = OP_CREDIT_UPDATE) :
      ConnStep port r i r' (some c)
        (some { c with credit := c.credit.updatePeer hdr.bufAlloc hdr.fwdCnt }) []
  /-- A credit update for the guest, at the end of `flush_to_uds` or because it asked for one. -/
  | told (c : Conn) (h : ∀ x ∈ r.handles i, x.1.dstPort = port ∧ x.1.op = OP_CREDIT_REQUEST) :
      ConnStep port r i r' (some c) (some { c with lastCreditSent := c.rxFwdCnt }) []
  | wrote (c : Conn) (n : Nat) (advanced : Bool) (caller : FlushCaller)
      (hpc : r.pc = .flush port advanced caller) (hpc' : r'.pc = .flush port true caller)
      (hne : c.toUds ≠ []) :
      ConnStep port r i r' (some c)
        (some { c with
          toUds := c.toUds.drop n,
          rxFwdCnt := c.rxFwdCnt + UInt32.ofNat (min n c.toUds.length) })
        [.wrote port (c.toUds.take n)]
  | sent (c : Conn) (data : List UInt8) (h : r.sends i = some (port, data)) (hne : data ≠ [])
      (hstate : c.state = .established) (hroom : data.length ≤ c.credit.available)
      (hmax : data.length ≤ MAX_RW_PAYLOAD) :
      ConnStep port r i r' (some c)
        (some { c with credit := c.credit.recordSent (UInt32.ofNat data.length) })
        [.read port data]
  | closed (c : Conn) (why : CloseReason)
      (h : why = .guestShutdown → ∃ x, r.handles i = some x ∧ x.1.dstPort = port ∧
        x.1.op = OP_SHUTDOWN) :
      ConnStep port r i r' (some c) none [.closed port why]

/-! ## What the calls do to one connection -/

/-- A call that leaves the connection on a port alone. -/
def Untouched {α : Type} (port : UInt32) (w : VsockWorker) (d : Did α) : Prop :=
  d.worker.conns.lookup port = w.conns.lookup port ∧
    d.effects.filter (Effect.touches port) = []

namespace Untouched

variable {α β : Type} {port p : UInt32} {w : VsockWorker} {rx : Option (List RxDesc)}

variable {d : Did α}

theorem of_conns (hconns : d.worker.conns = w.conns)
    (hes : d.effects.filter (Effect.touches port) = []) : Untouched port w d :=
  ⟨by rw [hconns], hes⟩

theorem congr (h : Untouched port w d) (d' : Did β) (hw : d'.worker = d.worker)
    (he : d'.effects = d.effects) : Untouched port w d' := by
  rw [Untouched, hw, he]
  exact h

theorem andThen (hd : Untouched port w d) {f : VsockWorker → Did β}
    (hf : Untouched port d.worker (f d.worker)) : Untouched port w (d.andThen f) := by
  refine ⟨hf.1.trans hd.1, ?_⟩
  show (d.effects ++ (f d.worker).effects).filter (Effect.touches port) = []
  rw [List.filter_append, hd.2, hf.2, List.append_nil]

theorem writeRx (pkt : List UInt8) : Untouched port w (w.writeRx pkt rx) := by
  cases rx with
  | none => exact of_conns rfl rfl
  | some chain =>
    cases hcopy : copyInto chain pkt.length with
    | none =>
      rw [VsockWorker.writeRx_of_none hcopy]
      exact of_conns rfl rfl
    | some copied =>
      rw [VsockWorker.writeRx_of_some hcopy]
      exact of_conns rfl rfl

theorem push (pkt : List UInt8) : Untouched port w (w.pushToGuest pkt rx) := by
  refine of_conns (VsockWorker.pushToGuest_conns pkt) ?_
  rcases @VsockWorker.pushToGuest_cases w rx pkt with ⟨_, he⟩ | ⟨_, chain, _, _, he⟩
  · rw [he]
    rfl
  · rw [he]
    exact (@writeRx port w (some chain) pkt).2

theorem setConn {c : Conn} (r : Except Vmm.VmmError α) (hp : port ≠ p) :
    Untouched port w ⟨w.setConn p c, r, []⟩ :=
  ⟨AList.lookup_insert_ne hp, rfl⟩

theorem sendControl {op : UInt16} (h : port ≠ p ∨ op ≠ OP_CREDIT_UPDATE) :
    Untouched port w (w.sendControl p op rx) := by
  unfold VsockWorker.sendControl
  cases hc : w.conns.lookup p with
  | none => exact of_conns rfl rfl
  | some c =>
    dsimp only
    split_ifs with hop
    · have hp : port ≠ p := h.resolve_right (not_not.mpr hop)
      have hset : Untouched port w
          (⟨w.setConn p { c with lastCreditSent := c.rxFwdCnt }, .ok (), []⟩ : Did Unit) :=
        setConn (.ok ()) hp
      exact ⟨(push _).1.trans hset.1, (push _).2⟩
    · exact push _

theorem closeConn (hp : port ≠ p) (reset : Bool) (why : CloseReason) :
    Untouched port w (w.closeConn p reset why rx) := by
  unfold VsockWorker.closeConn
  cases hc : w.conns.lookup p with
  | none => exact of_conns rfl rfl
  | some c =>
    have hclosed : Untouched port w (⟨{ w with conns := w.conns.erase p }, .ok false,
        [.closed p why]⟩ : Did Bool) :=
      ⟨AList.lookup_erase_ne hp, by simp [Effect.touches, Ne.symm hp]⟩
    dsimp only
    split_ifs
    · exact hclosed.andThen (push _)
    · exact hclosed

theorem andClose (hd : Untouched port w d) (hp : port ≠ p) (why : CloseReason) :
    Untouched port w (d.andThen (fun w => w.closeConn p false why none)) :=
  hd.andThen (closeConn hp false why)

theorem ofBool {d : Did Bool} (hd : Untouched port w d) :
    Untouched port w (VsockWorker.Handled.ofBool d) := hd

end Untouched

/-- The connection on a port, and the effects on it, after a call. -/
def Leaves {α : Type} (port : UInt32) (d : Did α) (c : Option Conn) (es : List Effect) : Prop :=
  d.worker.conns.lookup port = c ∧ d.effects.filter (Effect.touches port) = es

namespace Leaves

variable {α β : Type} {port : UInt32} {w : VsockWorker} {rx : Option (List RxDesc)}
  {c : Option Conn} {es : List Effect}

variable {d : Did α}

theorem andThen (hd : Untouched port w d) {f : VsockWorker → Did β}
    (hf : Leaves port (f d.worker) c es) : Leaves port (d.andThen f) c es := by
  refine ⟨hf.1, ?_⟩
  show (d.effects ++ (f d.worker).effects).filter (Effect.touches port) = es
  rw [List.filter_append, hd.2, hf.2, List.nil_append]

theorem after (hd : Leaves port d c es) {f : VsockWorker → Did β}
    (hf : Untouched port d.worker (f d.worker)) : Leaves port (d.andThen f) c es := by
  refine ⟨hf.1.trans hd.1, ?_⟩
  show (d.effects ++ (f d.worker).effects).filter (Effect.touches port) = es
  rw [List.filter_append, hd.2, hf.2, List.append_nil]

theorem setConn (r : Except Vmm.VmmError α) (new : Conn) {e : Effect}
    (he : e.touches port = true) : Leaves port ⟨w.setConn port new, r, [e]⟩ (some new) [e] :=
  ⟨AList.lookup_insert w.conns, List.filter_cons_of_pos he⟩

theorem setConn_push (new : Conn) (pkt : List UInt8) :
    Leaves port ((w.setConn port new).pushToGuest pkt rx) (some new) [] := by
  have hpush := @Untouched.push port (w.setConn port new) rx pkt
  exact ⟨hpush.1.trans (AList.lookup_insert w.conns), hpush.2⟩

theorem told {d : Conn} (h : w.conns.lookup port = some d) :
    Leaves port (w.sendControl port OP_CREDIT_UPDATE rx)
      (some { d with lastCreditSent := d.rxFwdCnt }) [] := by
  unfold VsockWorker.sendControl
  rw [h]
  exact setConn_push _ _

theorem closed {d : Conn} (h : w.conns.lookup port = some d) (reset : Bool) (why : CloseReason) :
    Leaves port (w.closeConn port reset why rx) none [.closed port why] := by
  have herased : Leaves port (⟨{ w with conns := w.conns.erase port }, .ok false,
      [.closed port why]⟩ : Did Bool) none [.closed port why] :=
    ⟨AList.lookup_erase port w.conns, List.filter_cons_of_pos (beq_self_eq_true port)⟩
  unfold VsockWorker.closeConn
  rw [h]
  dsimp only
  split_ifs
  · exact herased.after (Untouched.push _)
  · exact herased

theorem andClose (hd : Untouched port w d) {x : Conn}
    (h : w.conns.lookup port = some x) (why : CloseReason) :
    Leaves port (d.andThen (fun w => w.closeConn port false why none)) none [.closed port why] :=
  andThen hd (closed (hd.1.trans h) false why)

end Leaves

variable {port : UInt32}

theorem Untouched.closeConn_of_none {w : VsockWorker} {rx : Option (List RxDesc)}
    (h : w.conns.lookup port = none) (reset : Bool) (why : CloseReason) :
    Untouched port w (w.closeConn port reset why rx) := by
  unfold VsockWorker.closeConn
  rw [h]
  exact of_conns rfl rfl

theorem Untouched.andCloseNone {α : Type} {w : VsockWorker} {d : Did α}
    (hd : Untouched port w d) (h : w.conns.lookup port = none) (why : CloseReason) :
    Untouched port w (d.andThen (fun w => w.closeConn port false why none)) :=
  hd.andThen (closeConn_of_none (hd.1.trans h) false why)

namespace VsockWorker

variable {w : VsockWorker} {port : UInt32} {rx : Option (List RxDesc)}

theorem handleGuestPacket_other {hdr : VsockHeader} (hport : port ≠ hdr.dstPort)
    (payload : List UInt8) (ok : Nat) :
    Untouched port w (w.handleGuestPacket hdr payload rx ok) := by
  have hsame : ∀ r : Except Vmm.VmmError Handled, Untouched port w ⟨w, r, []⟩ :=
    fun _ => .of_conns rfl rfl
  have hset : ∀ new (r : Except Vmm.VmmError Handled) es,
      es.filter (Effect.touches port) = [] → Untouched port w ⟨w.setConn hdr.dstPort new, r, es⟩ :=
    fun new r es hes => ⟨AList.lookup_insert_ne hport, hes⟩
  unfold handleGuestPacket
  dsimp only
  split
  · split
    · refine Untouched.ofBool (Untouched.andThen (Untouched.of_conns ?_ ?_) (Untouched.push _))
      · rfl
      · cases w.ready <;> rfl
    · exact Untouched.ofBool (Untouched.push _)
  split
  · cases w.conns.lookup hdr.dstPort with
    | none => exact hsame _
    | some c =>
      dsimp only
      split
      · refine hset _ _ _ ?_
        simp [Effect.touches, Ne.symm hport]
      · exact hsame _
  split
  · cases w.conns.lookup hdr.dstPort with
    | none => exact hsame _
    | some c =>
      refine hset _ _ _ ?_
      simp [Effect.touches, Ne.symm hport]
  split
  · cases w.conns.lookup hdr.dstPort with
    | none => exact hsame _
    | some c => exact hset _ _ _ rfl
  split
  · split
    · exact Untouched.ofBool (Untouched.sendControl (Or.inl hport))
    · exact hsame _
  split
  · have hrst : Untouched port w (w.sendRst hdr rx) := Untouched.push _
    exact (hrst.andClose hport .guestShutdown).congr _ rfl rfl
  split
  · exact (@Untouched.closeConn port hdr.dstPort w none hport false .guestReset).congr _ rfl rfl
  · exact hsame _

theorem flushTurn_other {p : UInt32} (hp : port ≠ p) (advanced : Bool) (res : WriteResult) :
    Untouched port w (w.flushTurn p advanced res rx) := by
  have htail : Untouched port w (w.flushTail p advanced rx) := by
    unfold flushTail
    cases w.conns.lookup p with
    | none => exact .of_conns rfl rfl
    | some c =>
      dsimp only
      split_ifs
      · exact Untouched.sendControl (Or.inl hp)
      · exact .of_conns rfl rfl
  unfold flushTurn
  cases w.conns.lookup p with
  | none => exact htail.congr _ rfl rfl
  | some c =>
    dsimp only
    split_ifs
    · exact htail.congr _ rfl rfl
    · cases res with
      | wouldBlock => exact htail.congr _ rfl rfl
      | wrote n =>
        cases n with
        | zero => exact htail.congr _ rfl rfl
        | succ n =>
          refine ⟨AList.lookup_insert_ne hp, ?_⟩
          simp [Effect.touches, Ne.symm hp]
      | error =>
        have hrst : Untouched port w (w.sendControl p OP_RST rx) :=
          Untouched.sendControl (Or.inl hp)
        exact (hrst.andClose hp .hostError).congr _ rfl rfl

/-- A turn of `flush_to_uds`: it leaves the connection alone, tells the guest, writes, or closes. -/
theorem flushTurn_cases (advanced : Bool) (res : WriteResult) :
    (Untouched port w (w.flushTurn port advanced res rx) ∧
      (advanced = true → ∀ c ∈ w.conns.lookup port, c.rxFwdCnt = c.lastCreditSent)) ∨
    ∃ c, w.conns.lookup port = some c ∧ (Leaves port (w.flushTurn port advanced res rx)
          (some { c with lastCreditSent := c.rxFwdCnt }) [] ∨
        (∃ n, c.toUds ≠ [] ∧ (w.flushTurn port advanced res rx).result = .ok none ∧
          Leaves port (w.flushTurn port advanced res rx)
            (some { c with
              toUds := c.toUds.drop n,
              rxFwdCnt := c.rxFwdCnt + UInt32.ofNat (min n c.toUds.length) })
            [.wrote port (c.toUds.take n)]) ∨
        Leaves port (w.flushTurn port advanced res rx) none [.closed port .hostError]) := by
  unfold flushTurn
  cases hc : w.conns.lookup port with
  | none =>
    refine Or.inl ⟨?_, fun _ _ h => by cases h⟩
    dsimp only [flushTail]
    rw [hc]
    exact Untouched.of_conns rfl rfl
  | some c =>
    -- The end of the loop, whatever led to it.
    have hleave :
        (Untouched port w (w.flushTail port advanced rx) ∧
          (advanced = true → ∀ d ∈ some c, d.rxFwdCnt = d.lastCreditSent)) ∨
        Leaves port (w.flushTail port advanced rx)
          (some { c with lastCreditSent := c.rxFwdCnt }) [] := by
      unfold flushTail
      rw [hc]
      dsimp only
      split_ifs with h
      · exact Or.inr (Leaves.told hc)
      · refine Or.inl ⟨Untouched.of_conns rfl rfl, fun hadv d hd => ?_⟩
        cases hd
        by_contra hne
        exact h ⟨hadv, hne⟩
    have hend : ∀ d : Did (Option Bool), d.worker = (w.flushTail port advanced rx).worker →
        d.effects = (w.flushTail port advanced rx).effects →
        (Untouched port w d ∧
          (advanced = true → ∀ d ∈ some c, d.rxFwdCnt = d.lastCreditSent)) ∨
        Leaves port d (some { c with lastCreditSent := c.rxFwdCnt }) [] := by
      intro d hw he
      rw [Untouched, Leaves, hw, he]
      exact hleave
    dsimp only
    split_ifs with hempty
    · exact (hend _ rfl rfl).imp id (fun h => ⟨c, rfl, Or.inl h⟩)
    · cases res with
      | wouldBlock => exact (hend _ rfl rfl).imp id (fun h => ⟨c, rfl, Or.inl h⟩)
      | wrote n =>
        cases n with
        | zero => exact (hend _ rfl rfl).imp id (fun h => ⟨c, rfl, Or.inl h⟩)
        | succ n =>
          refine Or.inr ⟨c, rfl, Or.inr (Or.inl ⟨n + 1, hempty, rfl, ?_⟩)⟩
          exact Leaves.setConn _ _ (beq_self_eq_true port)
      | error =>
        refine Or.inr ⟨c, rfl, Or.inr (Or.inr ?_)⟩
        have hrst : Untouched port w (w.sendControl port OP_RST rx) :=
          Untouched.sendControl (Or.inr (by decide))
        exact Leaves.andClose hrst hc .hostError

theorem sendRw_of_some {c : Conn} (hc : w.conns.lookup port = some c) (data : List UInt8) :
    w.sendRw port data rx =
      (w.setConn port { c with credit := c.credit.recordSent (UInt32.ofNat data.length)
        }).pushToGuest ((c.header w.cid OP_RW (UInt32.ofNat data.length)).toBytes ++ data) rx := by
  rw [sendRw, hc]

variable {room : Nat}

theorem pumpRoom_eq (h : w.pumpRoom port = some room) :
    ∃ c, w.conns.lookup port = some c ∧ c.state = .established ∧
      room = min c.credit.available MAX_RW_PAYLOAD ∧ 0 < room := by
  unfold pumpRoom at h
  cases hc : w.conns.lookup port with
  | none =>
    rw [hc] at h
    cases h
  | some c =>
    rw [hc] at h
    dsimp only at h
    split_ifs at h with hstate
    cases h
    exact ⟨c, rfl, hstate.1, rfl, hstate.2⟩

/-- A turn that has read something: it is sent, in a packet that the credit allows. -/
theorem pumpTurn_sent {c : Conn} {bs : List UInt8} (dirty : Bool)
    (hroom : w.pumpRoom port = some room) (hc : w.conns.lookup port = some c) (hne : bs ≠ []) :
    Leaves port (w.pumpTurn port dirty (.bytes bs) rx)
      (some { c with credit := c.credit.recordSent (UInt32.ofNat (bs.take room).length) })
      [.read port (bs.take room)] := by
  cases bs with
  | nil => exact absurd rfl hne
  | cons b bs =>
    have htouch : Effect.touches port (.read port ((b :: bs).take room)) = true :=
      beq_self_eq_true port
    unfold pumpTurn
    rw [hroom]
    dsimp only
    rw [sendRw_of_some hc]
    have hpush := @Leaves.setConn_push port w rx
      { c with credit := c.credit.recordSent (UInt32.ofNat ((b :: bs).take room).length) }
      ((c.header w.cid OP_RW (UInt32.ofNat ((b :: bs).take room).length)).toBytes ++
        (b :: bs).take room)
    refine ⟨hpush.1, ?_⟩
    dsimp only
    rw [List.filter_cons_of_pos htouch, hpush.2]

theorem take_room_ne_nil {bs : List UInt8} (hroom : w.pumpRoom port = some room)
    (hne : bs ≠ []) : bs.take room ≠ [] := by
  obtain ⟨_, _, _, _, hpos⟩ := pumpRoom_eq hroom
  rw [Ne, List.take_eq_nil_iff]
  rintro (hzero | hnil)
  · omega
  · exact hne hnil

/-- A turn of `pump_to_guest`: nothing, the end of the connection, or a packet. -/
theorem pumpTurn_cases (port : UInt32) (dirty : Bool) (res : ReadResult) :
    (w.pumpTurn port dirty res rx = ⟨w, .ok (dirty, some dirty), []⟩) ∨
    (∃ why c, why ≠ .guestShutdown ∧ w.conns.lookup port = some c ∧
      (w.pumpTurn port dirty res rx).worker = (w.hostGone port why rx).worker ∧
      (w.pumpTurn port dirty res rx).effects = (w.hostGone port why rx).effects ∧
      (w.pumpTurn port dirty res rx).result = .ok (true, some true)) ∨
    ∃ bs room c, res = .bytes bs ∧ bs ≠ [] ∧ w.pumpRoom port = some room ∧
      w.conns.lookup port = some c ∧ c.state = .established ∧
      room = min c.credit.available MAX_RW_PAYLOAD ∧ 0 < room ∧ w.pumpTurn port dirty res rx =
        ⟨(w.sendRw port (bs.take room) rx).worker,
          (w.sendRw port (bs.take room) rx).result.map (fun b => (dirty || b, none)),
          .read port (bs.take room) :: (w.sendRw port (bs.take room) rx).effects⟩ := by
  unfold pumpTurn
  cases hroom : w.pumpRoom port with
  | none => exact Or.inl rfl
  | some room =>
    obtain ⟨c, hc, hstate, hmin, hpos⟩ := pumpRoom_eq hroom
    cases res with
    | wouldBlock => exact Or.inl rfl
    | error => exact Or.inr (Or.inl ⟨.hostError, c, nofun, hc, rfl, rfl, rfl⟩)
    | bytes bs =>
      cases bs with
      | nil => exact Or.inr (Or.inl ⟨.hostEof, c, nofun, hc, rfl, rfl, rfl⟩)
      | cons b bs =>
        exact Or.inr (Or.inr ⟨b :: bs, room, c, rfl, List.cons_ne_nil b bs, rfl, hc, hstate,
          hmin, hpos, rfl⟩)

theorem findPort_free {conns : AList (fun _ : UInt32 => Conn)} {found : UInt32 × UInt32}
    (tries : Nat) (p : UInt32) (h : findPort conns tries p = some found) : found.1 ∉ conns := by
  induction tries generalizing p with
  | zero => cases h
  | succ tries ih =>
    rw [findPort] at h
    split at h
    · next hfree =>
        cases h
        exact hfree.1
    · exact ih _ h

theorem allocPort_free {found : UInt32 × UInt32} (h : w.allocPort = some found) :
    found.1 ∉ w.conns := findPort_free _ _ h

/-- A turn at a pending socket: it opens no connection, or opens one and asks the guest. -/
theorem pollPending_cases {d : Did Bool} (idx : Nat) (res : ReadResult)
    (h : w.pollPending idx res rx = some d) :
    (∃ pending result, d = ⟨{ w with pending := pending }, result, []⟩) ∨
    ∃ bs line guestPort found, res = .bytes bs ∧
      parseConnect (w.pending.getD idx [] ++ bs.take 256) = some line ∧
      line.2 = some guestPort ∧ w.allocPort = some found ∧
      d = Did.andThen (⟨{ w with pending := swapRemove w.pending idx, nextPort := found.2 }.setConn
          found.1 (Conn.fresh found.1 guestPort), .ok false,
          [.opened found.1 ((w.pending.getD idx [] ++ bs.take 256).drop line.1)]⟩ : Did Bool)
        (fun w => w.sendControl found.1 OP_REQUEST rx) := by
  unfold pollPending at h
  cases res with
  | wouldBlock =>
    cases h
    exact Or.inl ⟨w.pending, _, rfl⟩
  | error =>
    cases h
    exact Or.inl ⟨_, _, rfl⟩
  | bytes bs =>
    cases bs with
    | nil =>
      cases h
      exact Or.inl ⟨_, _, rfl⟩
    | cons b bs =>
      dsimp only at h
      cases hline : parseConnect (w.pending.getD idx [] ++ (b :: bs).take 256) with
      | none =>
        rw [hline] at h
        dsimp only at h
        split_ifs at h
        · cases h
          exact Or.inl ⟨_, _, rfl⟩
        · cases h
          exact Or.inl ⟨_, _, rfl⟩
      | some line =>
        obtain ⟨consumed, port⟩ := line
        rw [hline] at h
        cases port with
        | none =>
          cases h
          exact Or.inl ⟨_, _, rfl⟩
        | some guestPort =>
          obtain ⟨found, hfound, rfl⟩ := Option.map_eq_some_iff.mp h
          exact Or.inr ⟨b :: bs, (consumed, some guestPort), guestPort, found, rfl, hline,
            rfl, hfound, rfl⟩

end VsockWorker

/-! ## What a step does to one connection -/

/-- A call that does one of these steps. -/
abbrev ConnMove {α : Type} (port : UInt32) (r : Reactor) (i : Input) (r' : Reactor) (d : Did α) : Prop :=
  ConnStep port r i r' (r.worker.conns.lookup port) (d.worker.conns.lookup port)
    (d.effects.filter (Effect.touches port))

namespace Reactor

variable {r r' : Reactor} {i : Input} {port : UInt32} {α : Type} {d : Did α}

theorem conn_untouched (h : Untouched port r.worker d)
    (hflush : ∀ caller, r.pc = .flush port true caller →
      ∀ c ∈ r.worker.conns.lookup port, c.rxFwdCnt = c.lastCreditSent)
    (hpacket : ∀ x ∈ r.handles i, x.1.dstPort = port →
      ∀ c ∈ r.worker.conns.lookup port, ¬ c.Heeds x.1) : ConnMove port r i r' d := by
  rw [ConnMove, h.1, h.2]
  exact .same _ hflush hpacket

theorem conn_leaves {c c' : Option Conn} {es : List Effect} (h : Leaves port d c' es)
    (hc : r.worker.conns.lookup port = c) (hstep : ConnStep port r i r' c c' es) :
    ConnMove port r i r' d := by
  rw [ConnMove, hc, h.1, h.2]
  exact hstep

/-- The connection is closed, if there is one. -/
theorem conn_closeConn {reset : Bool} {why : CloseReason} {rx : Option (List RxDesc)}
    (hun : ∀ {α : Type} {d : Did α}, Untouched port r.worker d → ConnMove port r i r' d)
    (hwhy : why ≠ .guestShutdown) : ConnMove port r i r' (r.worker.closeConn port reset why rx) := by
  rcases Option.eq_none_or_eq_some (r.worker.conns.lookup port) with hc | ⟨c, hc⟩
  · exact hun (Untouched.closeConn_of_none hc reset why)
  · exact conn_leaves (Leaves.closed hc reset why) hc (.closed c why (fun h => absurd h hwhy))

variable {rx : Option (List RxDesc)} {dirty : Bool} {p : UInt32} {advanced : Bool}
  {caller : FlushCaller}

/-- A packet of the guest. -/
theorem conn_packet {hdr : VsockHeader} {payload : List UInt8}
    {chain : List (Option (List UInt8))} {ok : Nat}
    (hi : i = .tx (some chain) rx ok) (hh : r.handles i = some (hdr, payload)) :
    ConnMove port r i r' (r.worker.handleGuestPacket hdr payload rx ok) := by
  obtain ⟨dirty, hpc⟩ := handles_cases hh
  have hflush : ∀ caller, r.pc = .flush port true caller →
      ∀ c ∈ r.worker.conns.lookup port, c.rxFwdCnt = c.lastCreditSent := by
    simp [hpc]
  by_cases hport : hdr.dstPort = port
  swap
  · refine conn_untouched (VsockWorker.handleGuestPacket_other (Ne.symm hport) payload ok) hflush ?_
    simp [hh, hport]
  subst hport
  -- A packet that the connection does not heed leaves it alone.
  have hsame : ∀ {α : Type} {d : Did α}, Untouched hdr.dstPort r.worker d →
      (∀ c ∈ r.worker.conns.lookup hdr.dstPort, ¬ c.Heeds hdr) → ConnMove hdr.dstPort r i r' d := by
    intro α d hd hheeds
    exact conn_untouched hd hflush (by simpa [hh] using hheeds)
  unfold VsockWorker.handleGuestPacket
  dsimp only
  split
  · next hop =>
      have hheeds : ∀ c ∈ r.worker.conns.lookup hdr.dstPort, ¬ c.Heeds hdr := by
        intro c _
        simp [Conn.Heeds, hop, OP_REQUEST, OP_RW, OP_CREDIT_UPDATE, OP_RESPONSE]
      split
      · refine hsame (Untouched.ofBool (Untouched.andThen (Untouched.of_conns ?_ ?_)
          (Untouched.push _))) hheeds
        · rfl
        · cases r.worker.ready <;> rfl
      · exact hsame (Untouched.ofBool (Untouched.push _)) hheeds
  next hreq =>
  split
  · next hop =>
      split
      · next hc => exact hsame (.of_conns rfl rfl) (by simp [hc])
      · next c hc =>
          split
          · next hstate =>
              exact conn_leaves (Leaves.setConn _ _ (beq_self_eq_true _)) hc
                (.response c hdr payload chain rx ok hh hi rfl hop hstate)
          · next hstate =>
              refine hsame (.of_conns rfl rfl) ?_
              simp [hc, Conn.Heeds, hop, hstate, OP_RW, OP_CREDIT_UPDATE, OP_RESPONSE]
  next hresp =>
  split
  · next hop =>
      split
      · next hc => exact hsame (.of_conns rfl rfl) (by simp [hc])
      · next c hc =>
          exact conn_leaves (Leaves.setConn _ _ (beq_self_eq_true _)) hc (.accepted c hdr payload hh rfl hop)
  next hrw =>
  split
  · next hop =>
      split
      · next hc => exact hsame (.of_conns rfl rfl) (by simp [hc])
      · next c hc => exact conn_leaves ⟨AList.lookup_insert _, rfl⟩ hc (.update c hdr payload hh rfl hop)
  next hupdate =>
  have hheeds : ∀ c ∈ r.worker.conns.lookup hdr.dstPort, ¬ c.Heeds hdr := by
    intro c _ h
    rcases h with h | h | h
    · exact hrw h
    · exact hupdate h
    · exact hresp h.1
  split
  · next hop =>
      split
      · rcases Option.eq_none_or_eq_some (r.worker.conns.lookup hdr.dstPort) with hc | ⟨c, hc⟩
        · refine hsame (Untouched.ofBool ?_) hheeds
          unfold VsockWorker.sendControl
          rw [hc]
          exact .of_conns rfl rfl
        · have htold := @Leaves.told hdr.dstPort r.worker rx c hc
          exact conn_leaves ⟨htold.1, htold.2⟩ hc (.told c (by simp [hh, hop]))
      · exact hsame (.of_conns rfl rfl) hheeds
  split
  · next hop =>
      have hrst : Untouched hdr.dstPort r.worker (r.worker.sendRst hdr rx) := Untouched.push _
      rcases Option.eq_none_or_eq_some (r.worker.conns.lookup hdr.dstPort) with hc | ⟨c, hc⟩
      · exact hsame (hrst.andCloseNone hc .guestShutdown) hheeds
      · exact conn_leaves (Leaves.andClose hrst hc .guestShutdown) hc
          (.closed c .guestShutdown (fun _ => ⟨_, hh, rfl, hop⟩))
  split
  · exact conn_closeConn (fun h => hsame h hheeds) (by decide)
  · exact hsame (.of_conns rfl rfl) hheeds

theorem step_processTx (hpc : r.pc = .processTx dirty) (h : r.step i = some r') :
    ∃ chain rx ok, i = .tx chain rx ok ∧ r' = r.stepTx dirty chain rx ok := by
  unfold step at h
  rw [hpc] at h
  cases i <;> cases h
  exact ⟨_, _, _, rfl, rfl⟩

theorem step_flush (hpc : r.pc = .flush p advanced caller) (h : r.step i = some r') :
    ∃ res rx, i = .write res rx ∧ r' = r.stepFlush p advanced caller res rx := by
  unfold step at h
  rw [hpc] at h
  cases i <;> cases h
  exact ⟨_, _, rfl, rfl⟩

theorem stepFlush_pc {res : WriteResult}
    (h : (r.worker.flushTurn p advanced res rx).result = .ok none) :
    (r.stepFlush p advanced caller res rx).pc = .flush p true caller := by
  simp only [stepFlush, h]

theorem conn_tx {chain : Option (List (Option (List UInt8)))}
    {ok : Nat} (hpc : r.pc = .processTx dirty) (hi : i = .tx chain rx ok) :
    ∃ es, (r.stepTx dirty chain rx ok).log = r.log ++ es ∧
      ConnStep port r i r' (r.worker.conns.lookup port)
        ((r.stepTx dirty chain rx ok).worker.conns.lookup port)
        (es.filter (Effect.touches port)) := by
  have hsame : r.handles i = none → ConnStep port r i r' (r.worker.conns.lookup port)
      (r.worker.conns.lookup port) [] :=
    fun hh => .same _ (by simp [hpc]) (by simp [hh])
  cases chain with
  | none =>
    refine ⟨[], rfl, hsame ?_⟩
    rw [hi]
    simp only [handles, hpc]
  | some chain =>
    obtain ⟨hw, hlog⟩ := stepTx_worker (r := r) dirty chain rx ok
    refine ⟨_, hlog, ?_⟩
    rw [hw]
    unfold VsockWorker.txChain
    cases hparts : chain.mapM id with
    | none =>
      refine hsame ?_
      rw [hi]
      simp [handles, hpc, hparts]
    | some parts =>
      dsimp only
      cases hparse : VsockHeader.parse parts.flatten with
      | none =>
        refine hsame ?_
        rw [hi]
        simp [handles, hpc, hparts, hparse]
      | some hdr =>
        refine conn_packet hi ?_
        rw [hi]
        simp [handles, hpc, hparts, hparse]

theorem conn_flush {res : WriteResult} (hpc : r.pc = .flush p advanced caller)
    (hr' : r' = r.stepFlush p advanced caller res rx) : ∃ es, r'.log = r.log ++ es ∧
      ConnStep port r i r' (r.worker.conns.lookup port) (r'.worker.conns.lookup port)
        (es.filter (Effect.touches port)) := by
  have hhandles : r.handles i = none := handles_of_ne (by simp [hpc])
  obtain ⟨hw, hlog⟩ := stepFlush_worker (r := r) p advanced caller res rx
  rw [← hr'] at hw hlog
  refine ⟨_, hlog, ?_⟩
  rw [hw]
  by_cases hp : port = p
  swap
  · exact conn_untouched (VsockWorker.flushTurn_other hp advanced res) (by simp [hpc, Ne.symm hp])
      (by simp [hhandles])
  subst hp
  rcases @VsockWorker.flushTurn_cases r.worker port rx advanced res with
    ⟨hun, hadv⟩ | ⟨c, hc, htold | ⟨n, hne, hres, hwrote⟩ | hclosed⟩
  · refine conn_untouched hun ?_ (by simp [hhandles])
    intro caller' h
    rw [hpc] at h
    cases h
    exact hadv rfl
  · exact conn_leaves htold hc (.told c (by simp [hhandles]))
  · exact conn_leaves hwrote hc (.wrote c n advanced caller hpc (hr' ▸ stepFlush_pc hres) hne)
  · exact conn_leaves hclosed hc (.closed c .hostError nofun)

/-- A call in a place where no packet is handled and nothing is flushed leaves the connection
alone. -/
theorem conn_elsewhere (htx : ∀ dirty, r.pc ≠ .processTx dirty)
    (hflush : ∀ p advanced caller, r.pc ≠ .flush p advanced caller)
    (h : Untouched port r.worker d) : ConnMove port r i r' d := by
  refine conn_untouched h ?_ ?_
  · intro caller hpc
    exact absurd hpc (hflush port true caller)
  · rw [handles_of_ne htx]
    exact nofun

theorem conn_pump {hangup : Bool} {res : ReadResult}
    (hpc : r.pc = .pump p dirty hangup) (hi : i = .read res rx) :
    ConnMove port r i r' (r.worker.pumpTurn p dirty res rx) := by
  have helse : ∀ {α : Type} {d : Did α}, Untouched port r.worker d → ConnMove port r i r' d :=
    conn_elsewhere (by simp [hpc]) (by simp [hpc])
  rcases @VsockWorker.pumpTurn_cases r.worker rx p dirty res with
    heq | ⟨why, c, hwhy, hc, hw, he, _⟩ | ⟨bs, room, c, hbs, hne, hroom, hc, hstate, hmin, hpos,
      heq⟩
  · refine helse (Untouched.of_conns ?_ ?_)
    · rw [heq]
    · rw [heq]
      rfl
  · rw [ConnMove, hw, he, VsockWorker.hostGone]
    by_cases hp : port = p
    · subst hp
      have hshut : Untouched port r.worker (r.worker.sendControl port OP_SHUTDOWN rx) :=
        Untouched.sendControl (Or.inr (by decide))
      exact conn_leaves (Leaves.andClose hshut hc why) hc (.closed c why (fun h => absurd h hwhy))
    · have hshut : Untouched port r.worker (r.worker.sendControl p OP_SHUTDOWN rx) :=
        Untouched.sendControl (Or.inl hp)
      exact helse (hshut.andClose hp why)
  · by_cases hp : port = p
    · subst hp
      have hsends : r.sends i = some (port, bs.take room) := by
        rw [hi, hbs]
        simp [sends, hpc, hroom, hne]
      have hle : (bs.take room).length ≤ room := List.length_take_le room bs
      have hsent := @VsockWorker.pumpTurn_sent r.worker port rx room c bs dirty hroom hc hne
      rw [hbs]
      exact conn_leaves hsent hc
        (.sent c (bs.take room) hsends (VsockWorker.take_room_ne_nil hroom hne) hstate (by omega) (by omega))
    · have hset : Untouched port r.worker (⟨r.worker.setConn p
          { c with credit := c.credit.recordSent (UInt32.ofNat (bs.take room).length) },
          .ok (), [.read p (bs.take room)]⟩ : Did Unit) := by
        refine ⟨AList.lookup_insert_ne hp, ?_⟩
        simp [Effect.touches, Ne.symm hp]
      rw [ConnMove, heq, VsockWorker.sendRw_of_some hc]
      exact helse (hset.andThen (f := fun w => w.pushToGuest _ rx) (Untouched.push _))

theorem conn_pending {idx : Nat} {res : ReadResult} {d : Did Bool}
    (hpc : r.pc = .pending idx) (hi : i = .read res rx)
    (hd : r.worker.pollPending idx res rx = some d) : ConnMove port r i r' d := by
  have helse : ∀ {α : Type} {d : Did α}, Untouched port r.worker d → ConnMove port r i r' d :=
    conn_elsewhere (by simp [hpc]) (by simp [hpc])
  rcases VsockWorker.pollPending_cases idx res hd with
    ⟨pending, result, rfl⟩ | ⟨bs, line, guestPort, found, hbs, hline, hport, hfound, rfl⟩
  · exact helse (Untouched.of_conns rfl rfl)
  · have hopens : r.connects i = some (found.1, (r.worker.pending.getD idx [] ++ bs.take 256).drop
        line.1) := by
      rw [hi, hbs]
      simp only [connects, hpc, hline, hport, hfound, Option.bind_eq_bind, Option.bind_some]
    have hreq : ∀ w, Untouched port w (w.sendControl found.1 OP_REQUEST rx) :=
      fun w => Untouched.sendControl (Or.inr (by decide))
    by_cases hp : port = found.1
    · subst hp
      have hset : Leaves found.1 (⟨{ r.worker with
            pending := swapRemove r.worker.pending idx, nextPort := found.2 }.setConn found.1
              (Conn.fresh found.1 guestPort), .ok false,
            [.opened found.1
              ((r.worker.pending.getD idx [] ++ bs.take 256).drop line.1)]⟩ : Did Bool)
          (some (Conn.fresh found.1 guestPort))
          [.opened found.1 ((r.worker.pending.getD idx [] ++ bs.take 256).drop line.1)] :=
        Leaves.setConn _ _ (beq_self_eq_true found.1)
      exact conn_leaves (hset.after (f := fun w => w.sendControl found.1 OP_REQUEST rx) (hreq _))
        (AList.lookup_eq_none.mpr (VsockWorker.allocPort_free hfound)) (.opened guestPort _ hopens)
    · refine helse (Untouched.andThen ?_ (hreq _))
      refine ⟨AList.lookup_insert_ne hp, ?_⟩
      simp [Effect.touches, Ne.symm hp]

/-- **A step does one thing to the connection on a port.** -/
theorem step_conn (h : r.step i = some r') (port : UInt32) : ∃ es, r'.log = r.log ++ es ∧
      ConnStep port r i r' (r.worker.conns.lookup port) (r'.worker.conns.lookup port)
        (es.filter (Effect.touches port)) := by
  by_cases htx : ∃ dirty, r.pc = .processTx dirty
  · obtain ⟨dirty, hpc⟩ := htx
    obtain ⟨chain, rx, ok, hi, rfl⟩ := step_processTx hpc h
    exact conn_tx hpc hi
  by_cases hflush : ∃ p advanced caller, r.pc = .flush p advanced caller
  · obtain ⟨p, advanced, caller, hpc⟩ := hflush
    obtain ⟨res, rx, _, hr'⟩ := step_flush hpc h
    exact conn_flush hpc hr'
  -- What is left neither handles a packet nor flushes.
  have helse : ∀ {α : Type} {d : Did α}, Untouched port r.worker d → ConnMove port r i r' d := by
    refine conn_elsewhere ?_ ?_
    · exact fun dirty hpc => htx ⟨dirty, hpc⟩
    · exact fun p advanced caller hpc => hflush ⟨p, advanced, caller, hpc⟩
  rcases step_cases h with hidle | ⟨delivered, rx, pkt, rest, chain, hpc, _, _, rfl, hw, hlog⟩ |
    ⟨dirty, chain, rx, ok, hpc, _⟩ | ⟨idx, res, rx, d, hpc, hi, hpoll, hw, hlog⟩ |
    ⟨p, advanced, caller, res, rx, hpc, _⟩ | ⟨p, dirty, hangup, res, rx, hpc, hi, hw, hlog⟩ |
    ⟨p, rx, hpc, _, hw, hlog⟩
  · obtain ⟨hconns, _, hlog⟩ := hidle
    have hsame : ∀ es, es.filter (Effect.touches port) = [] →
        Untouched port r.worker (⟨r'.worker, .ok (), es⟩ : Did Unit) :=
      fun es hes => Untouched.of_conns hconns hes
    rcases hlog with hlog | hlog
    · exact ⟨[], by rw [hlog, List.append_nil], helse (hsame [] rfl)⟩
    · exact ⟨[.interrupt], hlog, helse (hsame [.interrupt] rfl)⟩
  · refine ⟨_, hlog, ?_⟩
    rw [hw]
    exact helse (@Untouched.writeRx port { r.worker with rxBacklog := rest } (some chain) pkt)
  · exact absurd ⟨dirty, hpc⟩ htx
  · refine ⟨_, hlog, ?_⟩
    rw [hw]
    exact conn_pending hpc hi hpoll
  · exact absurd ⟨p, advanced, caller, hpc⟩ hflush
  · refine ⟨_, hlog, ?_⟩
    rw [hw]
    exact conn_pump hpc hi
  · refine ⟨_, hlog, ?_⟩
    rw [hw]
    by_cases hp : port = p
    · subst hp
      exact conn_closeConn helse (by decide)
    · exact helse (Untouched.closeConn hp true .hangup)

end Reactor

/-- A step that sends does so within the credit of the connection. -/
theorem Reactor.step_sends {r r' : Reactor} {i : Input} {data : List UInt8}
    (hstep : r.step i = some r') (h : r.sends i = some (port, data)) :
    ∃ c es, r.worker.conns.lookup port = some c ∧ data ≠ [] ∧
      data.length ≤ c.credit.available ∧ r'.log = r.log ++ es ∧
      es.filter (Effect.touches port) = [.read port data] := by
  obtain ⟨dirty, hangup, bs, rx, room, hpc, rfl, hroom, hne, rfl⟩ := sends_cases h
  obtain ⟨c, hc, _, hmin, _⟩ := VsockWorker.pumpRoom_eq hroom
  have hle : (bs.take room).length ≤ room := List.length_take_le room bs
  have hsent := @VsockWorker.pumpTurn_sent r.worker port rx room c bs dirty hroom hc hne
  have hr' : r' = r.stepPump port dirty hangup (.bytes bs) rx := by
    unfold step at hstep
    rw [hpc] at hstep
    cases hstep
    rfl
  have hlog := (stepPump_worker (r := r) port dirty hangup (.bytes bs) rx).2
  rw [← hr'] at hlog
  refine ⟨c, _, hc, VsockWorker.take_room_ne_nil hroom hne, ?_, hlog, hsent.2⟩
  omega

/-- What a log says about a port is said by the effects on its connection. -/
theorem foldl_touches {β : Type} {note : β → Effect → β}
    (h : ∀ s e, Effect.touches port e = false → note s e = s) (es : List Effect) (s : β) :
    es.foldl note s = (es.filter (Effect.touches port)).foldl note s := by
  induction es generalizing s with
  | nil => rfl
  | cons e es ih =>
    cases he : Effect.touches port e with
    | false =>
      rw [List.foldl_cons, h s e he, ih, List.filter_cons_of_neg (by simp [he])]
    | true =>
      rw [List.foldl_cons, ih, List.filter_cons_of_pos he, List.foldl_cons]

/-- **The invariant rule for connections.** What is observed of a port are the effects on its
connection (`note`), and `I` relates the place of the thread, the connection and what was observed.
If `I` is kept by everything that can happen to a connection in a step that meets `P`, it holds at
the end of every run whose steps meet `P`. -/
theorem run_conn {S : Type} {P : Reactor → Input → Prop} (note : UInt32 → S → Effect → S) (s₀ : S)
    (I : UInt32 → Pc → Option Conn → S → Prop)
    (hother : ∀ port s e, Effect.touches port e = false → note port s e = s)
    (hconn : ∀ r i r' port es, P r i →
      ConnStep port r i r' (r.worker.conns.lookup port) (r'.worker.conns.lookup port) es →
      I port r.pc (r.worker.conns.lookup port) (r.log.foldl (note port) s₀) →
      I port r'.pc (r'.worker.conns.lookup port)
        (es.foldl (note port) (r.log.foldl (note port) s₀)))
    {cid : UInt64} {listener pause : Bool} (hstart : ∀ port, I port .waiting none s₀)
    (is : List Input) (r : Reactor)
    (hP : Meets Reactor.step P (Reactor.start cid listener pause) is)
    (hrun : run Reactor.step (Reactor.start cid listener pause) is = some r) (port : UInt32) :
    I port r.pc (r.worker.conns.lookup port) (r.log.foldl (note port) s₀) := by
  refine run_invariant
    (fun r => I port r.pc (r.worker.conns.lookup port) (r.log.foldl (note port) s₀)) ?_ is _ r
    (hstart port) hP hrun
  intro r i r' h hP hstep
  obtain ⟨es, hlog, hc⟩ := Reactor.step_conn hstep port
  rw [hlog, List.foldl_append, foldl_touches (hother port)]
  exact hconn r i r' port _ hP hc h

end MicroMachines.Vsock
