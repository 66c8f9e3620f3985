import MicroMachines.Vsock.Connection

set_option autoImplicit false

/-! # From the host to the guest

What a host client writes after its `CONNECT` line goes to the guest in `OP_RW` packets. A packet
goes into a receive chain at once if one is posted and nothing is waiting, and into the backlog
otherwise. The bridge loses bytes in three ways: those that were read together with the line are
thrown away, a packet is cut to the chain it is put into, and the oldest packet is dropped from a
full backlog.

* `hostStream_kept`: these are all the ways. In a run without them, for every open connection, what
  was placed in guest buffers and what is in the backlog are, one after the other, what was read.
* `hostStream_early`: bytes lost with the line.
-/

namespace MicroMachines.Vsock

open MicroMachines.Lib

/-! ## Streams -/

/-- The payload that a packet carries for the connection on a port. -/
def dataFor (port : UInt32) (pkt : List UInt8) : List UInt8 :=
  match VsockHeader.parse pkt with
  | none => []
  | some h => if h.op = OP_RW ∧ h.srcPort = port then pkt.drop VSOCK_HDR_LEN else []

/-- The two ends of the stream of a connection: the bytes read from its host socket after the
`CONNECT` line, and those placed in guest buffers. -/
structure HostStream where
  read : List UInt8
  placed : List UInt8
  deriving DecidableEq, Repr

def HostStream.note (port : UInt32) (s : HostStream) : Effect → HostStream
  | .opened p early => if p = port then ⟨early, []⟩ else s
  | .read p bytes => if p = port then { s with read := s.read ++ bytes } else s
  | .placed pkt => { s with placed := s.placed ++ dataFor port pkt }
  | _ => s

/-- The stream of the last connection on a port. -/
def hostStream (log : List Effect) (port : UInt32) : HostStream :=
  log.foldl (HostStream.note port) ⟨[], []⟩

/-- Nothing is lost, duplicated or reordered on its way. -/
def Delivered (backlog : List (List UInt8)) (log : List Effect) (port : UInt32) : Prop :=
  (hostStream log port).placed ++ backlog.flatMap (dataFor port) = (hostStream log port).read

instance (backlog : List (List UInt8)) (log : List Effect) (port : UInt32) :
    Decidable (Delivered backlog log port) := inferInstanceAs (Decidable (_ = _))

theorem hostStream_append (log es : List Effect) (port : UInt32) :
    hostStream (log ++ es) port = es.foldl (HostStream.note port) (hostStream log port) :=
  List.foldl_append

theorem dataFor_packet (h : VsockHeader) (data : List UInt8) (port : UInt32) :
    dataFor port (h.toBytes ++ data) = if h.op = OP_RW ∧ h.srcPort = port then data else [] := by
  rw [dataFor, VsockHeader.parse_toBytes]
  dsimp only
  rw [List.drop_left' h.toBytes_length]

/-- A packet no longer than a header carries nothing, in however short a chain it ends up. -/
theorem dataFor_take_short {pkt : List UInt8} (h : pkt.length ≤ VSOCK_HDR_LEN) (n : Nat)
    (port : UInt32) : dataFor port (pkt.take n) = [] := by
  have hdrop : (pkt.take n).drop VSOCK_HDR_LEN = [] := by
    rw [List.drop_eq_nil_iff, List.length_take]
    omega
  unfold dataFor
  split
  · rfl
  · rw [hdrop, ite_self]

theorem dataFor_short {pkt : List UInt8} (h : pkt.length ≤ VSOCK_HDR_LEN) (port : UInt32) :
    dataFor port pkt = [] := by
  have := dataFor_take_short h pkt.length port
  rwa [List.take_length] at this

theorem dataFor_header (h : VsockHeader) (port : UInt32) : dataFor port h.toBytes = [] :=
  dataFor_short h.toBytes_length.le port

/-! ## What a call does to the streams -/

/-- If the backlog is full, what is dropped is nothing of this connection. -/
def Spare (w : VsockWorker) (port : UInt32) : Prop :=
  w.rxBacklog.length < RX_BACKLOG_MAX ∨ ∀ pkt ∈ w.rxBacklog.head?, dataFor port pkt = []

instance (w : VsockWorker) (port : UInt32) : Decidable (Spare w port) :=
  inferInstanceAs (Decidable (_ ∨ _))

/-- The chain takes the packet without cutting its payload. -/
def Fits (chain : List RxDesc) (pkt : List UInt8) : Prop :=
  VSOCK_HDR_LEN < pkt.length → copyInto chain pkt.length = some pkt.length

instance (chain : List RxDesc) (pkt : List UInt8) : Decidable (Fits chain pkt) :=
  inferInstanceAs (Decidable (_ → _))

theorem Fits.header (chain : List RxDesc) (h : VsockHeader) : Fits chain h.toBytes := by
  intro hlong
  rw [h.toBytes_length] at hlong
  exact absurd hlong (Nat.lt_irrefl _)

/-- As `Delivered`, with bytes that have been read and are not yet on their way. -/
def Owes (backlog : List (List UInt8)) (log : List Effect) (port : UInt32) (data : List UInt8) :
    Prop :=
  (hostStream log port).placed ++ backlog.flatMap (dataFor port) ++ data =
    (hostStream log port).read

theorem Delivered.owes {backlog : List (List UInt8)} {log : List Effect} {port : UInt32}
    (h : Delivered backlog log port) : Owes backlog log port [] := by
  rw [Owes, List.append_nil]
  exact h

namespace VsockWorker

variable {w : VsockWorker} {port : UInt32} {log : List Effect} {rx : Option (List RxDesc)}

theorem enqueueBacklog_data (hspare : Spare w port) (pkt : List UInt8) :
    (w.enqueueBacklog pkt).rxBacklog.flatMap (dataFor port) =
      w.rxBacklog.flatMap (dataFor port) ++ dataFor port pkt := by
  unfold enqueueBacklog
  split_ifs with hfull
  · have hhead : ∀ pkt ∈ w.rxBacklog.head?, dataFor port pkt = [] :=
      hspare.resolve_left (Nat.not_lt.mpr hfull)
    cases hback : w.rxBacklog with
    | nil =>
      rw [hback] at hfull
      exact absurd hfull (by decide)
    | cons old rest =>
      have hold := hhead old (by rw [hback]; rfl)
      simp [hold]
  · simp

/-- A packet into a chain that cuts nothing off its payload. -/
theorem writeRx_data {chain : List RxDesc} {pkt : List UInt8} (hfits : Fits chain pkt) :
    (w.writeRx pkt (some chain)).worker = w ∧
      hostStream (log ++ (w.writeRx pkt (some chain)).effects) port =
        ⟨(hostStream log port).read, (hostStream log port).placed ++ dataFor port pkt⟩ := by
  cases hcopy : copyInto chain pkt.length with
  | none =>
    have hshort : pkt.length ≤ VSOCK_HDR_LEN := by
      by_contra hlong
      rw [hfits (Nat.not_le.mp hlong)] at hcopy
      cases hcopy
    rw [writeRx_of_none hcopy, dataFor_short hshort, List.append_nil, List.append_nil]
    exact ⟨rfl, rfl⟩
  | some copied =>
    have hdata : dataFor port (pkt.take copied) = dataFor port pkt := by
      by_cases hlong : VSOCK_HDR_LEN < pkt.length
      · rw [hfits hlong] at hcopy
        cases hcopy
        rw [List.take_length]
      · rw [dataFor_take_short (Nat.not_lt.mp hlong), dataFor_short (Nat.not_lt.mp hlong)]
    rw [writeRx_of_some hcopy, hostStream_append, ← hdata]
    exact ⟨rfl, rfl⟩

/-- Pushing the packet with the bytes that are owed. -/
theorem pushToGuest_data {pkt : List UInt8} (hspare : Spare w port)
    (hfits : w.rxBacklog = [] → ∀ chain ∈ rx, Fits chain pkt)
    (howes : Owes w.rxBacklog log port (dataFor port pkt)) :
    Delivered (w.pushToGuest pkt rx).worker.rxBacklog
      (log ++ (w.pushToGuest pkt rx).effects) port := by
  rcases @pushToGuest_cases w rx pkt with ⟨hw, he⟩ | ⟨hback, chain, hrx, hw, he⟩
  · rw [hw, he, Delivered, List.append_nil, enqueueBacklog_data hspare, ← List.append_assoc]
    exact howes
  · obtain ⟨_, hstream⟩ := @writeRx_data w port log chain pkt (hfits hback chain hrx)
    rw [Owes, hback, List.flatMap_nil, List.append_nil] at howes
    rw [hw, he, Delivered, hstream, hback, List.flatMap_nil, List.append_nil]
    exact howes

/-- A packet without payload. -/
theorem pushToGuest_header (hspare : Spare w port) (h : VsockHeader)
    (hd : Delivered w.rxBacklog log port) : Delivered (w.pushToGuest h.toBytes rx).worker.rxBacklog
      (log ++ (w.pushToGuest h.toBytes rx).effects) port := by
  refine pushToGuest_data hspare ?_ ?_
  · intro _ chain _
    exact Fits.header chain h
  · rw [dataFor_header]
    exact hd.owes

end VsockWorker

/-- A call that opens no connection and moves no host bytes. -/
structure Calm {α : Type} (w : VsockWorker) (d : Did α) : Prop where
  conns : ∀ port c', d.worker.conns.lookup port = some c' →
    ∃ c, w.conns.lookup port = some c ∧ c'.localPort = c.localPort
  delivered : ∀ port log, Spare w port → Delivered w.rxBacklog log port →
    Delivered d.worker.rxBacklog (log ++ d.effects) port

namespace Calm

variable {α β : Type} {w : VsockWorker} {rx : Option (List RxDesc)}

/-- The streams do not notice these effects. -/
def Silent (es : List Effect) : Prop :=
  ∀ port s, es.foldl (HostStream.note port) s = s

variable {port : UInt32} {d : Did α}

theorem delivered_silent {backlog : List (List UInt8)} {log es : List Effect}
    (hes : Silent es) (h : Delivered backlog log port) : Delivered backlog (log ++ es) port := by
  rw [Delivered, hostStream_append, hes]
  exact h

/-- A call that leaves the backlog alone, changes connections only in other fields, and has no
effect on a stream. -/
theorem of_silent (hback : d.worker.rxBacklog = w.rxBacklog) (hes : Silent d.effects)
    (hconns : ∀ port c', d.worker.conns.lookup port = some c' →
      ∃ c, w.conns.lookup port = some c ∧ c'.localPort = c.localPort) : Calm w d where
  conns := hconns
  delivered := by
    intro port log _ h
    rw [hback]
    exact delivered_silent hes h

theorem conns_refl (port : UInt32) (c' : Conn) (h : w.conns.lookup port = some c') :
    ∃ c, w.conns.lookup port = some c ∧ c'.localPort = c.localPort := ⟨c', h, rfl⟩

/-- Setting a connection to one with the same port. -/
theorem conns_setConn {c new : Conn} (hc : w.conns.lookup port = some c)
    (hnew : new.localPort = c.localPort) (p : UInt32) (c' : Conn)
    (h : (w.setConn port new).conns.lookup p = some c') :
    ∃ c, w.conns.lookup p = some c ∧ c'.localPort = c.localPort := by
  by_cases hp : p = port
  · subst hp
    rw [VsockWorker.setConn, AList.lookup_insert] at h
    cases h
    exact ⟨c, hc, hnew⟩
  · rw [VsockWorker.setConn, AList.lookup_insert_ne hp] at h
    exact ⟨c', h, rfl⟩

theorem conns_erase (p : UInt32) (c' : Conn) (h : (w.conns.erase port).lookup p = some c') :
    ∃ c, w.conns.lookup p = some c ∧ c'.localPort = c.localPort := by
  by_cases hp : p = port
  · subst hp
    rw [AList.lookup_erase] at h
    cases h
  · rw [AList.lookup_erase_ne hp] at h
    exact ⟨c', h, rfl⟩

/-- One call after another, of which the second pushes nothing. -/
theorem andThen (hd : Calm w d) {f : VsockWorker → Did β}
    (hback : (f d.worker).worker.rxBacklog = d.worker.rxBacklog) (hes : Silent (f d.worker).effects)
    (hconns : ∀ port c', (f d.worker).worker.conns.lookup port = some c' →
      ∃ c, d.worker.conns.lookup port = some c ∧ c'.localPort = c.localPort) :
    Calm w (d.andThen f) where
  conns := by
    intro port c' h
    obtain ⟨c, hc, hport⟩ := hconns port c' h
    obtain ⟨c₀, hc₀, hport₀⟩ := hd.conns port c hc
    exact ⟨c₀, hc₀, hport.trans hport₀⟩
  delivered := by
    intro port log hspare h
    show Delivered (f d.worker).worker.rxBacklog (log ++ (d.effects ++ (f d.worker).effects)) port
    rw [hback, ← List.append_assoc]
    exact delivered_silent hes (hd.delivered port log hspare h)

/-- One call after another, of which the first pushes nothing. -/
theorem after (hback : d.worker.rxBacklog = w.rxBacklog) (hes : Silent d.effects)
    (hconns : ∀ port c', d.worker.conns.lookup port = some c' →
      ∃ c, w.conns.lookup port = some c ∧ c'.localPort = c.localPort)
    {f : VsockWorker → Did β} (hf : Calm d.worker (f d.worker)) : Calm w (d.andThen f) where
  conns := by
    intro port c' h
    obtain ⟨c, hc, hport⟩ := hf.conns port c' h
    obtain ⟨c₀, hc₀, hport₀⟩ := hconns port c hc
    exact ⟨c₀, hc₀, hport.trans hport₀⟩
  delivered := by
    intro port log hspare h
    show Delivered (f d.worker).worker.rxBacklog (log ++ (d.effects ++ (f d.worker).effects)) port
    rw [← List.append_assoc]
    refine hf.delivered port _ ?_ ?_
    · rw [Spare, hback]
      exact hspare
    · rw [hback]
      exact delivered_silent hes h

theorem congr (hd : Calm w d) (d' : Did β) (hw : d'.worker = d.worker)
    (he : d'.effects = d.effects) : Calm w d' where
  conns := by
    rw [hw]
    exact hd.conns
  delivered := by
    rw [hw, he]
    exact hd.delivered

/-- A header pushed after a change to the connections. -/
theorem push {w' : VsockWorker} (hback : w'.rxBacklog = w.rxBacklog)
    (hconns : ∀ port c', w'.conns.lookup port = some c' →
      ∃ c, w.conns.lookup port = some c ∧ c'.localPort = c.localPort) (h : VsockHeader) :
    Calm w (w'.pushToGuest h.toBytes rx) where
  conns := by
    rw [VsockWorker.pushToGuest_conns]
    exact hconns
  delivered := by
    intro port log hspare hd
    refine VsockWorker.pushToGuest_header ?_ h ?_
    · rw [Spare, hback]
      exact hspare
    · rw [hback]
      exact hd

theorem sendControl (port : UInt32) (op : UInt16) : Calm w (w.sendControl port op rx) := by
  unfold VsockWorker.sendControl
  cases hc : w.conns.lookup port with
  | none => exact of_silent rfl (fun _ _ => rfl) conns_refl
  | some c =>
    dsimp only
    split_ifs
    · refine push ?_ ?_ _
      · rfl
      · exact conns_setConn hc rfl
    · exact push rfl conns_refl _

theorem sendRst (incoming : VsockHeader) : Calm w (w.sendRst incoming rx) := push rfl conns_refl _

/-- Closing without a reset does nothing to the backlog and the streams. -/
theorem closeConn_silent (port : UInt32) (why : CloseReason) :
    (w.closeConn port false why rx).worker.rxBacklog = w.rxBacklog ∧
      Silent (w.closeConn port false why rx).effects ∧
      ∀ p c', (w.closeConn port false why rx).worker.conns.lookup p = some c' →
        ∃ c, w.conns.lookup p = some c ∧ c'.localPort = c.localPort := by
  unfold VsockWorker.closeConn
  cases hc : w.conns.lookup port with
  | none => exact ⟨rfl, fun _ _ => rfl, conns_refl⟩
  | some c => exact ⟨rfl, fun _ _ => rfl, conns_erase⟩

theorem closeConn (port : UInt32) (why : CloseReason) : Calm w (w.closeConn port true why rx) := by
  unfold VsockWorker.closeConn
  cases hc : w.conns.lookup port with
  | none => exact of_silent rfl (fun _ _ => rfl) conns_refl
  | some c =>
    dsimp only
    rw [if_pos rfl]
    refine after ?_ ?_ ?_ (push rfl conns_refl _)
    · rfl
    · exact fun _ _ => rfl
    · exact conns_erase

theorem ofBool {d : Did Bool} (hd : Calm w d) : Calm w (VsockWorker.Handled.ofBool d) :=
  ⟨hd.conns, hd.delivered⟩

/-- Closing without a reset after another call. -/
theorem andClose (hd : Calm w d) (port : UInt32) (why : CloseReason) :
    Calm w (d.andThen (fun w => w.closeConn port false why none)) := by
  obtain ⟨hback, hes, hconns⟩ := @closeConn_silent d.worker none port why
  exact hd.andThen hback hes hconns

theorem hostGone (port : UInt32) (why : CloseReason) : Calm w (w.hostGone port why rx) :=
  (sendControl port OP_SHUTDOWN).andClose port why

theorem handleGuestPacket (hdr : VsockHeader) (payload : List UInt8) (ok : Nat) :
    Calm w (w.handleGuestPacket hdr payload rx ok) := by
  have hrst : ∀ w, Calm w (w.sendRst hdr rx) := fun _ => sendRst hdr
  have hsame : ∀ r : Except Vmm.VmmError VsockWorker.Handled, Calm w ⟨w, r, []⟩ :=
    fun _ => of_silent rfl (fun _ _ => rfl) conns_refl
  -- One effect at most, and the connection keeps its port.
  have hset : ∀ c new (r : Except Vmm.VmmError VsockWorker.Handled) es,
      w.conns.lookup hdr.dstPort = some c → new.localPort = c.localPort → Silent es →
      Calm w ⟨w.setConn hdr.dstPort new, r, es⟩ :=
    fun c new _ _ hc hnew hes => of_silent rfl hes (conns_setConn hc hnew)
  unfold VsockWorker.handleGuestPacket
  dsimp only
  split
  · split
    · refine ofBool (after ?_ ?_ ?_ (hrst _))
      · rfl
      · intro port s
        cases w.ready <;> rfl
      · exact conns_refl
    · exact (hrst w).ofBool
  split
  · cases hc : w.conns.lookup hdr.dstPort with
    | none => exact hsame _
    | some c =>
      dsimp only
      split
      · exact hset c _ _ _ hc rfl (fun _ _ => rfl)
      · exact hsame _
  split
  · cases hc : w.conns.lookup hdr.dstPort with
    | none => exact hsame _
    | some c => exact hset c _ _ _ hc rfl (fun _ _ => rfl)
  split
  · cases hc : w.conns.lookup hdr.dstPort with
    | none => exact hsame _
    | some c => exact hset c _ _ _ hc rfl (fun _ _ => rfl)
  split
  · split
    · exact (sendControl hdr.dstPort OP_CREDIT_UPDATE).ofBool
    · exact hsame _
  split
  · exact ((hrst w).andClose hdr.dstPort .guestShutdown).congr _ rfl rfl
  split
  · obtain ⟨hback, hes, hconns⟩ := @closeConn_silent w none hdr.dstPort .guestReset
    exact of_silent hback hes hconns
  · exact hsame _

theorem txChain (chain : List (Option (List UInt8))) (ok : Nat) :
    Calm w (w.txChain chain rx ok) := by
  unfold VsockWorker.txChain
  cases chain.mapM id with
  | none => exact of_silent rfl (fun _ _ => rfl) conns_refl
  | some parts =>
    dsimp only
    cases VsockHeader.parse parts.flatten with
    | none => exact of_silent rfl (fun _ _ => rfl) conns_refl
    | some hdr =>
      refine congr (after (d := ⟨w, .ok (), [.usedTx]⟩) rfl (fun _ _ => rfl) conns_refl
        (f := fun w => w.handleGuestPacket hdr _ rx ok) (handleGuestPacket hdr _ ok)) _ rfl rfl

theorem flushTail (port : UInt32) (advanced : Bool) : Calm w (w.flushTail port advanced rx) := by
  unfold VsockWorker.flushTail
  cases w.conns.lookup port with
  | none => exact of_silent rfl (fun _ _ => rfl) conns_refl
  | some c =>
    dsimp only
    split_ifs
    · exact sendControl port OP_CREDIT_UPDATE
    · exact of_silent rfl (fun _ _ => rfl) conns_refl

theorem flushTurn (port : UInt32) (advanced : Bool) (res : WriteResult) :
    Calm w (w.flushTurn port advanced res rx) := by
  have hleave := @flushTail w rx port advanced
  unfold VsockWorker.flushTurn
  cases hc : w.conns.lookup port with
  | none => exact hleave.congr _ rfl rfl
  | some c =>
    dsimp only
    split_ifs
    · exact hleave.congr _ rfl rfl
    · cases res with
      | wouldBlock => exact hleave.congr _ rfl rfl
      | wrote n =>
        cases n with
        | zero => exact hleave.congr _ rfl rfl
        | succ n =>
          refine of_silent ?_ ?_ (conns_setConn hc ?_)
          · rfl
          · exact fun _ _ => rfl
          · rfl
      | error =>
        exact ((@sendControl w rx port OP_RST).andClose port .hostError).congr _ rfl rfl

end Calm

/-! ## The steps that lose bytes, and those that do not -/

/-- Where the thread may push a packet to the guest. -/
def Pc.pushes : Pc → Bool
  | .processTx _ | .pending _ | .flush _ _ _ | .pump _ _ _ | .hangup _ => true
  | .waiting | .scanning | .drain _ | .accepting | .stopped => false

/-- The packet that a turn of `pump_to_guest` makes of the bytes it has read. -/
def VsockWorker.rwPacket (w : VsockWorker) (c : Conn) (data : List UInt8) : List UInt8 :=
  (c.header w.cid OP_RW (UInt32.ofNat data.length)).toBytes ++ data

namespace Reactor

/-- The chain that the step fills from the backlog or with bytes it has just read, and the
packet. -/
def fills (r : Reactor) (i : Input) : Option (List RxDesc × List UInt8) :=
  match r.pc, i with
  | .drain _, .drain rx => do
      let chain ← rx
      let pkt ← r.worker.rxBacklog.head?
      some (chain, pkt)
  | .pump port _ _, .read (.bytes bs) rx => do
      let chain ← rx
      let room ← r.worker.pumpRoom port
      let c ← r.worker.conns.lookup port
      if r.worker.rxBacklog = [] then some (chain, r.worker.rwPacket c (bs.take room)) else none
  | _, _ => none

/-- The step loses no bytes of an open connection: a packet pushed to a full backlog displaces none
of them, a chain that is filled takes its packet whole, and a new connection begins with nothing
read and nothing in the backlog. -/
def Lossless (r : Reactor) (i : Input) : Prop :=
  (r.pc.pushes = true → ∀ port ∈ r.worker.conns.keys, Spare r.worker port) ∧
    (∀ x ∈ r.fills i, Fits x.1 x.2) ∧
    ∀ x ∈ r.connects i, x.2 = [] ∧ r.worker.rxBacklog.flatMap (dataFor x.1) = []

-- Only the open ports are looked at, not all there are.
instance (r : Reactor) (i : Input) : Decidable (r.Lossless i) :=
  haveI : Decidable (∀ port ∈ r.worker.conns.keys, Spare r.worker port) := List.decidableBAll _ _
  inferInstanceAs (Decidable ((_ → _) ∧ (∀ x ∈ r.fills i, _) ∧ ∀ x ∈ r.connects i, _))

end Reactor

namespace VsockWorker

variable {w : VsockWorker} {rx : Option (List RxDesc)}

/-- A turn of `pump_to_guest` moves no bytes, or pushes a packet with those it has read. -/
theorem pumpTurn_calm (port : UInt32) (dirty : Bool) (res : ReadResult) :
    Calm w (w.pumpTurn port dirty res rx) ∨
    ∃ bs room c new, res = .bytes bs ∧ w.pumpRoom port = some room ∧
      w.conns.lookup port = some c ∧ new.localPort = c.localPort ∧
      (w.pumpTurn port dirty res rx).worker =
        ((w.setConn port new).pushToGuest (w.rwPacket c (bs.take room)) rx).worker ∧
      (w.pumpTurn port dirty res rx).effects = .read port (bs.take room) ::
        ((w.setConn port new).pushToGuest (w.rwPacket c (bs.take room)) rx).effects := by
  rcases @pumpTurn_cases w rx port dirty res with
    heq | ⟨why, c, _, _, hw, he, _⟩ | ⟨bs, room, c, hbs, _, hroom, hc, _, _, _, heq⟩
  · rw [heq]
    exact Or.inl (Calm.of_silent rfl (fun _ _ => rfl) Calm.conns_refl)
  · exact Or.inl ((@Calm.hostGone w rx port why).congr _ hw he)
  · rw [heq, sendRw_of_some hc]
    exact Or.inr ⟨bs, room, c, _, hbs, hroom, hc, by rfl, rfl, rfl⟩

/-- A turn at a pending socket opens no connection, or opens one and asks the guest. -/
theorem pollPending_calm {d : Did Bool} (idx : Nat) (res : ReadResult)
    (h : w.pollPending idx res rx = some d) : Calm w d ∨
    ∃ bs line guestPort found conn, res = .bytes bs ∧
      parseConnect (w.pending.getD idx [] ++ bs.take 256) = some line ∧
      line.2 = some guestPort ∧ w.allocPort = some found ∧ conn.localPort = found.1 ∧
      d = Did.andThen (⟨{ w with pending := swapRemove w.pending idx, nextPort := found.2 }.setConn
          found.1 conn, .ok false,
          [.opened found.1 ((w.pending.getD idx [] ++ bs.take 256).drop line.1)]⟩ : Did Bool)
        (fun w => w.sendControl found.1 OP_REQUEST rx) := by
  rcases pollPending_cases idx res h with
    ⟨pending, result, rfl⟩ | ⟨bs, line, guestPort, found, hbs, hline, hport, hfound, rfl⟩
  · exact Or.inl (Calm.of_silent rfl (fun _ _ => rfl) Calm.conns_refl)
  · exact Or.inr ⟨bs, line, guestPort, found, Conn.fresh found.1 guestPort, hbs, hline, hport,
      hfound, rfl, rfl⟩

end VsockWorker

/-! ## Runs -/

namespace Reactor

variable {r r' : Reactor} {i : Input}

variable {port : UInt32}

theorem keys_of_lookup {conns : AList (fun _ : UInt32 => Conn)} {c : Conn}
    (h : conns.lookup port = some c) : port ∈ conns.keys :=
  AList.mem_keys.mp (AList.lookup_isSome.mp (by rw [h]; rfl))

/-- Connections are stored under their port, and no stream has lost anything. -/
structure Streams (r : Reactor) : Prop where
  keyed : ∀ port c, r.worker.conns.lookup port = some c → c.localPort = port
  delivered : ∀ port c, r.worker.conns.lookup port = some c →
    Delivered r.worker.rxBacklog r.log port

theorem Streams.calm {α : Type} {d : Did α} (h : Streams r) (hd : Calm r.worker d)
    (hspare : ∀ port ∈ r.worker.conns.keys, Spare r.worker port) (hc : Comes r r' d) :
    Streams r' where
  keyed := by
    intro port c' hc'
    rw [hc.1] at hc'
    obtain ⟨c, hlook, hport⟩ := hd.conns port c' hc'
    exact hport.trans (h.keyed port c hlook)
  delivered := by
    intro port c' hc'
    rw [hc.1] at hc'
    obtain ⟨c, hlook, _⟩ := hd.conns port c' hc'
    rw [hc.1, hc.2]
    exact hd.delivered port r.log (hspare port (keys_of_lookup hlook)) (h.delivered port c hlook)

theorem Streams.idle (h : Streams r) (hidle : Idle r r') : Streams r' where
  keyed := by
    rw [hidle.1]
    exact h.keyed
  delivered := by
    intro port c hc
    rw [hidle.1] at hc
    rw [hidle.2.1]
    rcases hidle.2.2 with hlog | hlog
    · rw [hlog]
      exact h.delivered port c hc
    · rw [hlog]
      exact Calm.delivered_silent (fun _ _ => rfl) (h.delivered port c hc)

theorem Streams.drain {pkt : List UInt8} {rest : List (List UInt8)} {chain : List RxDesc}
    (h : Streams r) (hback : r.worker.rxBacklog = pkt :: rest) (hfits : Fits chain pkt)
    (hc : Comes r r' ({ r.worker with rxBacklog := rest }.writeRx pkt (some chain))) :
    Streams r' := by
  obtain ⟨hw, hlog⟩ := hc
  have hdata := fun port => @VsockWorker.writeRx_data { r.worker with rxBacklog := rest } port r.log
    chain pkt hfits
  rw [(hdata 0).1] at hw
  refine ⟨?_, ?_⟩
  · rw [hw]
    exact h.keyed
  · intro port c hc
    rw [hw] at hc
    have hd := h.delivered port c hc
    rw [Delivered, hback, List.flatMap_cons, ← List.append_assoc] at hd
    rw [hw, hlog, Delivered, (hdata port).2]
    exact hd

theorem Streams.pump {bs : List UInt8} {c new : Conn} {rx : Option (List RxDesc)} (h : Streams r)
    (hspare : ∀ port ∈ r.worker.conns.keys, Spare r.worker port)
    (hc : r.worker.conns.lookup port = some c) (hnew : new.localPort = c.localPort)
    (hfits : r.worker.rxBacklog = [] → ∀ chain ∈ rx, Fits chain (r.worker.rwPacket c bs))
    (hw : r'.worker = ((r.worker.setConn port new).pushToGuest (r.worker.rwPacket c bs) rx).worker)
    (hlog : r'.log = r.log ++ .read port bs ::
      ((r.worker.setConn port new).pushToGuest (r.worker.rwPacket c bs) rx).effects) :
    Streams r' := by
  have hconns : r'.worker.conns = (r.worker.setConn port new).conns := by
    rw [hw, VsockWorker.pushToGuest_conns]
  refine ⟨?_, ?_⟩
  · intro p c' hc'
    rw [hconns] at hc'
    obtain ⟨c₀, hlook, hport⟩ := Calm.conns_setConn hc hnew p c' hc'
    exact hport.trans (h.keyed p c₀ hlook)
  · intro p c' hc'
    rw [hconns] at hc'
    obtain ⟨c₀, hlook, _⟩ := Calm.conns_setConn hc hnew p c' hc'
    rw [hw, hlog, List.append_cons]
    refine VsockWorker.pushToGuest_data (hspare p (keys_of_lookup hlook)) hfits ?_
    -- The packet carries what has just been read, for the connection it was read for.
    have hd := h.delivered p c₀ hlook
    have hdata : dataFor p (r.worker.rwPacket c bs) = if port = p then bs else [] := by
      rw [VsockWorker.rwPacket, dataFor_packet]
      have hport : (c.header r.worker.cid OP_RW (UInt32.ofNat bs.length)).srcPort = port :=
        h.keyed port c hc
      rw [hport]
      exact if_congr (and_iff_right rfl) rfl rfl
    rw [Owes, hdata, hostStream_append, List.foldl_cons, List.foldl_nil, HostStream.note]
    split_ifs with hp
    · show _ ++ _ ++ bs = (hostStream r.log p).read ++ bs
      exact congrArg (· ++ bs) hd
    · exact hd.owes

theorem spare_of_no_data {w : VsockWorker}
    (h : w.rxBacklog.flatMap (dataFor port) = []) : Spare w port := by
  refine Or.inr (fun pkt hpkt => ?_)
  exact List.flatMap_eq_nil_iff.mp h pkt (List.mem_of_mem_head? hpkt)

theorem Streams.opened {conn : Conn} {pending : List (List UInt8)}
    {nextPort : UInt32} {rx : Option (List RxDesc)} (h : Streams r)
    (hspare : ∀ port ∈ r.worker.conns.keys, Spare r.worker port)
    (hconn : conn.localPort = port) (hback : r.worker.rxBacklog.flatMap (dataFor port) = [])
    (hc : Comes r r' (Did.andThen
      (⟨{ r.worker with pending := pending, nextPort := nextPort }.setConn port conn, .ok false,
        [.opened port []]⟩ : Did Bool) (fun w => w.sendControl port OP_REQUEST rx))) :
    Streams r' := by
  obtain ⟨hw, hlog⟩ := hc
  have hcalm := @Calm.sendControl
    ({ r.worker with pending := pending, nextPort := nextPort }.setConn port conn) rx port
    OP_REQUEST
  have hlook : ∀ p c, ((r.worker.conns.insert port conn).lookup p = some c) →
      p = port ∧ c = conn ∨ p ≠ port ∧ r.worker.conns.lookup p = some c := by
    intro p c hc
    by_cases hp : p = port
    · subst hp
      rw [AList.lookup_insert] at hc
      exact Or.inl ⟨rfl, (Option.some.inj hc).symm⟩
    · rw [AList.lookup_insert_ne hp] at hc
      exact Or.inr ⟨hp, hc⟩
  refine ⟨?_, ?_⟩
  · intro p c' hc'
    rw [hw] at hc'
    obtain ⟨c, hc, hport⟩ := hcalm.conns p c' hc'
    rw [hport]
    rcases hlook p c hc with ⟨rfl, rfl⟩ | ⟨_, hold⟩
    · exact hconn
    · exact h.keyed p c hold
  · intro p c' hc'
    rw [hw] at hc'
    obtain ⟨c, hc, _⟩ := hcalm.conns p c' hc'
    rw [hw, hlog]
    show Delivered _ (r.log ++ ([.opened port []] ++ _)) p
    rw [← List.append_assoc]
    rcases hlook p c hc with ⟨rfl, _⟩ | ⟨hp, hold⟩
    · refine hcalm.delivered p _ (spare_of_no_data hback) ?_
      rw [Delivered, hostStream_append, List.foldl_cons, List.foldl_nil, HostStream.note,
        if_pos rfl]
      exact hback
    · refine hcalm.delivered p _ (hspare p (keys_of_lookup hold)) ?_
      rw [Delivered, hostStream_append, List.foldl_cons, List.foldl_nil, HostStream.note,
        if_neg (Ne.symm hp)]
      exact h.delivered p c hold

/-- **A step that loses no bytes.** -/
theorem Streams.step (h : Streams r) (hless : r.Lossless i) (hstep : r.step i = some r') :
    Streams r' := by
  obtain ⟨hspare, hfills, hconnects⟩ := hless
  rcases step_cases hstep with hidle | ⟨delivered, rx, pkt, rest, chain, hpc, rfl, hback, rfl, hd⟩ |
    ⟨dirty, chain, rx, ok, hpc, rfl, hd⟩ | ⟨idx, res, rx, d, hpc, rfl, hpoll, hd⟩ |
    ⟨port, advanced, caller, res, rx, hpc, rfl, hd⟩ | ⟨port, dirty, hangup, res, rx, hpc, rfl, hd⟩ |
    ⟨port, rx, hpc, rfl, hd⟩
  · exact h.idle hidle
  · refine h.drain hback (hfills (chain, pkt) ?_) hd
    simp [fills, hpc, hback]
  · exact h.calm (Calm.txChain chain ok) (hspare (by rw [hpc]; rfl)) hd
  · rcases VsockWorker.pollPending_calm idx res hpoll with hcalm |
      ⟨bs, line, guestPort, found, conn, rfl, hline, hguest, hfound, hconn, rfl⟩
    · exact h.calm hcalm (hspare (by rw [hpc]; rfl)) hd
    · have hopens : r.connects (.read (.bytes bs) rx) =
          some (found.1, (r.worker.pending.getD idx [] ++ bs.take 256).drop line.1) := by
        simp only [connects, hpc, hline, hfound, Option.bind_eq_bind, Option.bind_some, hguest]
      obtain ⟨hearly, hback⟩ := hconnects _ hopens
      dsimp only at hearly
      rw [hearly] at hd
      exact h.opened (hspare (by rw [hpc]; rfl)) hconn hback hd
  · exact h.calm (Calm.flushTurn port advanced res) (hspare (by rw [hpc]; rfl)) hd
  · rcases @VsockWorker.pumpTurn_calm r.worker rx port dirty res with hcalm |
      ⟨bs, room, c, new, rfl, hroom, hc, hnew, hw, he⟩
    · exact h.calm hcalm (hspare (by rw [hpc]; rfl)) hd
    · refine h.pump (hspare (by rw [hpc]; rfl)) hc hnew ?_ (hd.1.trans hw) (by rw [hd.2, he])
      intro hback chain hchain
      rw [Option.mem_def.mp hchain] at hfills
      refine hfills (chain, r.worker.rwPacket c (bs.take room)) ?_
      simp only [fills, hpc, hroom, hc, hback, Option.bind_eq_bind, Option.bind_some, if_true,
        Option.mem_def]
  · exact h.calm (Calm.closeConn port .hangup) (hspare (by rw [hpc]; rfl)) hd

/-- **What the host writes reaches the guest, as long as no step loses bytes.** In every run whose
steps are all lossless, for every open connection, the bytes placed in guest buffers and then those
in the backlog are the bytes read from the host socket. -/
theorem hostStream_kept (cid : UInt64) (listener pause : Bool) (is : List Input) (r : Reactor)
    (hless : Meets Reactor.step Lossless (Reactor.start cid listener pause) is)
    (hrun : run Reactor.step (Reactor.start cid listener pause) is = some r) :
    ∀ port ∈ r.worker.conns, Delivered r.worker.rxBacklog r.log port := by
  have hstart : Streams (Reactor.start cid listener pause) := by
    refine ⟨?_, ?_⟩
    · intro port c hc
      cases hc
    · intro port c hc
      cases hc
  have hend : Streams r :=
    run_invariant Streams (fun _ _ _ h hl hs => h.step hl hs) is _ r hstart hless hrun
  intro port hport
  obtain ⟨c, hc⟩ := Option.isSome_iff_exists.mp (AList.lookup_isSome.mpr hport)
  exact hend.delivered port c hc

/-- A client writes its line, and then eleven bytes in two pieces. The guest has a chain for the
first piece and none for the second. -/
def helloRun (chain : List RxDesc) : List Input :=
  connectRun (ascii "CONNECT 1025\n") ++ pollRun .rxEvt [.drain (some [⟨64, 64⟩]), .drain none] ++
    responseRun ++
    pollRun (.conn FIRST_HOST_PORT)
      [.read (.bytes (ascii "hello ")) (some chain), .read (.bytes (ascii "guest")) none,
        .read .wouldBlock none]

theorem hostStream_kept_hello : ∃ r,
      run Reactor.step (Reactor.start 3 true false) (helloRun [⟨44, 44⟩, ⟨4096, 4096⟩]) = some r ∧
      FIRST_HOST_PORT ∈ r.worker.conns ∧
      hostStream r.log FIRST_HOST_PORT = ⟨ascii "hello guest", ascii "hello "⟩ ∧
      ∀ port ∈ r.worker.conns, Delivered r.worker.rxBacklog r.log port := by
  obtain ⟨r, hr, hopen, hstream⟩ : ∃ r, run Reactor.step (Reactor.start 3 true false)
      (helloRun [⟨44, 44⟩, ⟨4096, 4096⟩]) = some r ∧ FIRST_HOST_PORT ∈ r.worker.conns ∧
        hostStream r.log FIRST_HOST_PORT = ⟨ascii "hello guest", ascii "hello "⟩ :=
    exists_of_any (by decide +kernel)
  refine ⟨r, hr, hopen, hstream, hostStream_kept 3 true false _ r ?_ hr⟩
  decide +kernel

/-- **Bytes that come with the line are lost.** The client writes its line and two bytes at once; it
is connected, and they are neither in a guest buffer nor in the backlog. -/
theorem hostStream_early : ∃ is r, run Reactor.step (Reactor.start 3 true false) is = some r ∧
      FIRST_HOST_PORT ∈ r.worker.conns ∧ hostStream r.log FIRST_HOST_PORT = ⟨ascii "hi", []⟩ ∧
      ¬ Delivered r.worker.rxBacklog r.log FIRST_HOST_PORT :=
  ⟨connectRun (ascii "CONNECT 1025\nhi") ++ responseRun, exists_of_any (by decide +kernel)⟩

end Reactor

end MicroMachines.Vsock
