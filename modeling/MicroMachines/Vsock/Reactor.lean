import Mathlib.Data.List.AList
import MicroMachines.Lib.Runs
import MicroMachines.Vmm.Layout
import MicroMachines.Vsock.Proto

set_option autoImplicit false

/-! # The vsock reactor

The worker of `crates/mm-vmm/src/devices/vsock.rs`: a single thread that bridges host Unix sockets
to guest ports. It polls its eventfds and sockets and handles what is ready, one source after the
other.

The functions of `VsockWorker` that do not loop are functions here, with the answers of the guest's
queues and of the sockets as arguments: `rx` is what popping the receive queue gives, if the call
comes to it. The loops (the reactor itself, `process_tx`, `drain_rx_backlog`, `accept_uds`,
`flush_to_uds`, `pump_to_guest`) are the places of a program counter, one turn a step, since guest
and host go on between the turns. What the worker does to the outside is kept in a log.

Left out: the mapping of the queues (a chain is what the guest has put into it), the cursors that
are captured on a pause, and the texts of log messages. `alloc_port` looks at every port at most
once; if all are taken it does not return, and neither does the step.
-/

namespace MicroMachines.Vsock

open MicroMachines.Vmm (VmmError)

def BOOT_PORT : UInt32 := 1024
/-- The receive window we advertise: 256 KiB. -/
def HOST_BUF_ALLOC : UInt32 := 0x40000
def FIRST_HOST_PORT : UInt32 := 0x40000000
def RX_BACKLOG_MAX : Nat := 256
def MAX_RW_PAYLOAD : Nat := 4096

/-! ## The worker -/

inductive ConnState
  | connecting
  | established
  deriving DecidableEq, Repr

structure Conn where
  localPort : UInt32
  guestPort : UInt32
  state : ConnState
  credit : CreditTracker
  rxFwdCnt : UInt32
  lastCreditSent : UInt32
  /-- Guest bytes not yet written to the host socket. -/
  toUds : List UInt8
  deriving DecidableEq, Repr

def Conn.header (c : Conn) (guestCid : UInt64) (op : UInt16) (len : UInt32) : VsockHeader where
  srcCid := HOST_CID
  dstCid := guestCid
  srcPort := c.localPort
  dstPort := c.guestPort
  len := len
  type := TYPE_STREAM
  op := op
  flags := 0
  bufAlloc := HOST_BUF_ALLOC
  fwdCnt := c.rxFwdCnt

structure VsockWorker where
  cid : UInt64
  /-- Whether there is a host listener, and a pause handle. -/
  listener : Bool
  pause : Bool
  /-- The flag of `VsockReady`. -/
  ready : Bool
  /-- What was read from each accepted socket whose line is not complete. -/
  pending : List (List UInt8)
  conns : AList (fun _ : UInt32 => Conn)
  nextPort : UInt32
  rxBacklog : List (List UInt8)

def VsockWorker.new (cid : UInt64) (listener pause : Bool) : VsockWorker where
  cid := cid
  listener := listener
  pause := pause
  ready := false
  pending := []
  conns := ∅
  nextPort := FIRST_HOST_PORT
  rxBacklog := []

/-- Why a connection was closed. -/
inductive CloseReason
  | guestShutdown
  | guestReset
  | hostEof
  | hostError
  | hangup
  deriving DecidableEq, Repr

/-- What the worker does to the outside. -/
inductive Effect
  /-- A receive chain used, with these bytes in it. -/
  | placed (bytes : List UInt8)
  | usedTx
  | markReady
  /-- A connection on this port; `early` was read together with its `CONNECT` line. -/
  | opened (port : UInt32) (early : List UInt8)
  /-- Bytes read from the host socket of a connection. -/
  | read (port : UInt32) (bytes : List UInt8)
  /-- The payload of an `OP_RW` packet taken over. -/
  | accepted (port : UInt32) (bytes : List UInt8)
  /-- What got through of the `OK` line. -/
  | wroteOk (port : UInt32) (bytes : List UInt8)
  | wrote (port : UInt32) (bytes : List UInt8)
  | closed (port : UInt32) (why : CloseReason)
  | interrupt
  deriving DecidableEq, Repr

/-- What a function of the worker did: the worker afterwards, its result, and its effects. -/
structure Did (α : Type) where
  worker : VsockWorker
  result : Except VmmError α
  effects : List Effect

/-- One call after another, whose result is ignored. -/
def Did.andThen {α β : Type} (d : Did α) (f : VsockWorker → Did β) : Did β :=
  ⟨(f d.worker).worker, (f d.worker).result, d.effects ++ (f d.worker).effects⟩

/-! ## To the guest -/

/-- A descriptor of a receive chain: its length, and how far guest RAM goes from its address on. -/
structure RxDesc where
  len : Nat
  room : Nat
  deriving DecidableEq, Repr

/-- How many of `n` bytes go into a chain; `none` if a write goes outside guest RAM. -/
def copyInto : List RxDesc → Nat → Option Nat
  | [], _ => some 0
  | d :: ds, n =>
    if n = 0 then some 0
    else if min d.len n ≤ d.room then (copyInto ds (n - min d.len n)).map (min d.len n + ·)
    else none

namespace VsockWorker

/-- One packet into the chain that the guest has posted, if any. -/
def writeRx (w : VsockWorker) (pkt : List UInt8) (rx : Option (List RxDesc)) : Did Bool :=
  match rx with
  | none => ⟨w, .ok false, []⟩
  | some chain =>
    match copyInto chain pkt.length with
    | none => ⟨w, .error (.device "vsock rx write: invalid guest address"), []⟩
    | some copied => ⟨w, .ok true, [.placed (pkt.take copied)]⟩

/-- Queue a packet; the oldest is dropped if the backlog is full. -/
def enqueueBacklog (w : VsockWorker) (pkt : List UInt8) : VsockWorker :=
  if RX_BACKLOG_MAX ≤ w.rxBacklog.length then
    { w with rxBacklog := w.rxBacklog.tail ++ [pkt] }
  else { w with rxBacklog := w.rxBacklog ++ [pkt] }

def pushToGuest (w : VsockWorker) (pkt : List UInt8) (rx : Option (List RxDesc)) : Did Bool :=
  if w.rxBacklog ≠ [] then ⟨w.enqueueBacklog pkt, .ok false, []⟩
  else
    match w.writeRx pkt rx with
    | ⟨w, .ok true, es⟩ => ⟨w, .ok true, es⟩
    | ⟨w, .ok false, es⟩ => ⟨w.enqueueBacklog pkt, .ok false, es⟩
    | ⟨w, .error e, es⟩ => ⟨w, .error e, es⟩

def setConn (w : VsockWorker) (port : UInt32) (c : Conn) : VsockWorker :=
  { w with conns := w.conns.insert port c }

def sendControl (w : VsockWorker) (port : UInt32) (op : UInt16) (rx : Option (List RxDesc)) :
    Did Bool :=
  match w.conns.lookup port with
  | none => ⟨w, .ok false, []⟩
  | some c =>
    if op = OP_CREDIT_UPDATE then
      (w.setConn port { c with lastCreditSent := c.rxFwdCnt }).pushToGuest
        (c.header w.cid op 0).toBytes rx
    else w.pushToGuest (c.header w.cid op 0).toBytes rx

def sendRw (w : VsockWorker) (port : UInt32) (data : List UInt8) (rx : Option (List RxDesc)) :
    Did Bool :=
  match w.conns.lookup port with
  | none => ⟨w, .ok false, []⟩
  | some c =>
    (w.setConn port
      { c with credit := c.credit.recordSent (UInt32.ofNat data.length) }).pushToGuest
      ((c.header w.cid OP_RW (UInt32.ofNat data.length)).toBytes ++ data) rx

/-- The header of a reset. -/
def rst (dstCid : UInt64) (srcPort dstPort : UInt32) : VsockHeader where
  srcCid := HOST_CID
  dstCid := dstCid
  srcPort := srcPort
  dstPort := dstPort
  len := 0
  type := TYPE_STREAM
  op := OP_RST
  flags := 0
  bufAlloc := 0
  fwdCnt := 0

def sendRst (w : VsockWorker) (incoming : VsockHeader) (rx : Option (List RxDesc)) : Did Bool :=
  w.pushToGuest (rst incoming.srcCid incoming.dstPort incoming.srcPort).toBytes rx

def closeConn (w : VsockWorker) (port : UInt32) (reset : Bool) (why : CloseReason)
    (rx : Option (List RxDesc)) : Did Bool :=
  match w.conns.lookup port with
  | none => ⟨w, .ok false, []⟩
  | some c =>
    let closed : Did Bool :=
      ⟨{ w with conns := w.conns.erase port }, .ok false, [.closed port why]⟩
    if reset then
      closed.andThen (fun w => w.pushToGuest (rst w.cid c.localPort c.guestPort).toBytes rx)
    else closed

/-! ## Handshakes -/

/-- The table of well-formed UTF-8. -/
def validUtf8 : List UInt8 → Bool
  | [] => true
  | a :: rest =>
    if a < 0x80 then validUtf8 rest
    else
      let cont (b : UInt8) : Bool := 0x80 ≤ b && b ≤ 0xbf
      match rest with
      | b :: rest₁ =>
        if 0xc2 ≤ a && a ≤ 0xdf then cont b && validUtf8 rest₁
        else
          match rest₁ with
          | c :: rest₂ =>
            if 0xe0 ≤ a && a ≤ 0xef then
              cont b && cont c && (a != 0xe0 || 0xa0 ≤ b) && (a != 0xed || b ≤ 0x9f) &&
                validUtf8 rest₂
            else
              match rest₂ with
              | d :: rest₃ =>
                0xf0 ≤ a && a ≤ 0xf4 && cont b && cont c && cont d &&
                  (a != 0xf0 || 0x90 ≤ b) && (a != 0xf4 || b ≤ 0x8f) && validUtf8 rest₃
              | [] => false
          | [] => false
      | [] => false

def isAsciiWhitespace (b : UInt8) : Bool := b == 9 || b == 10 || b == 12 || b == 13 || b == 32

/-- `u32::from_str`: decimal digits, perhaps after a plus sign. -/
def parseU32 (s : List UInt8) : Option UInt32 :=
  let digits := if s.head? = some 43 then s.tail else s
  if digits ≠ [] ∧ digits.all (fun b => 48 ≤ b && b ≤ 57) then
    let n := digits.foldl (fun n b => 10 * n + (b.toNat - 48)) 0
    if n < 2 ^ 32 then some (UInt32.ofNat n) else none
  else none

/-- The bytes of `connect`. -/
def CONNECT : List UInt8 := [99, 111, 110, 110, 101, 99, 116]

def toAsciiLowercase (b : UInt8) : UInt8 := if 65 ≤ b && b ≤ 90 then b + 32 else b

/-- The length of the line at the front of the buffer and the port it names; `none` asks for more
bytes. -/
def parseConnect (buf : List UInt8) : Option (Nat × Option UInt32) := do
  let nl ← buf.findIdx? (· == 10)
  let line := buf.take nl
  let line := if line.getLast? = some 13 then line.dropLast else line
  if validUtf8 line then
    match (line.splitOnP isAsciiWhitespace).filter (· ≠ []) with
    | [] => none
    | verb :: args =>
      if verb.map toAsciiLowercase = CONNECT then some (nl + 1, args.head?.bind parseU32)
      else some (nl + 1, none)
  else none

/-- The `OK` line. -/
def okLine (port : UInt32) : List UInt8 :=
  (['O', 'K', ' '] ++ Nat.toDigits 10 port.toNat ++ ['\n']).map (fun c => UInt8.ofNat c.toNat)

/-- The loop of `alloc_port`: a free port, and the counter after it. -/
def findPort (conns : AList (fun _ : UInt32 => Conn)) : Nat → UInt32 → Option (UInt32 × UInt32)
  | 0, _ => none
  | tries + 1, p =>
    let next := if p = 0xffffffff then FIRST_HOST_PORT else p + 1
    if p ∉ conns ∧ p ≠ BOOT_PORT then some (p, next) else findPort conns tries next

def allocPort (w : VsockWorker) : Option (UInt32 × UInt32) := findPort w.conns (2 ^ 32) w.nextPort

end VsockWorker

/-- What reading a socket gives; no bytes are the end of the stream. -/
inductive ReadResult
  | bytes (bs : List UInt8)
  | wouldBlock
  | error
  deriving DecidableEq, Repr

/-- What writing to a socket gives. -/
inductive WriteResult
  | wrote (n : Nat)
  | wouldBlock
  | error
  deriving DecidableEq, Repr

/-- `Vec::swap_remove`. -/
def swapRemove {α : Type} (l : List α) (i : Nat) : List α :=
  match l.getLast? with
  | none => l
  | some last => (l.set i last).dropLast

namespace VsockWorker

/-- A complete line: a new connection, or none if it names no port. The outer `none` is a search
for a port that does not end. -/
def promote (w : VsockWorker) (inbuf : List UInt8) (consumed : Nat) (port : Option UInt32)
    (rx : Option (List RxDesc)) : Option (Did Bool) :=
  match port with
  | none => some ⟨w, .ok false, []⟩
  | some guestPort =>
    w.allocPort.map (fun (localPort, nextPort) =>
      let conn : Conn := {
        localPort := localPort
        guestPort := guestPort
        state := .connecting
        credit := CreditTracker.new
        rxFwdCnt := 0
        lastCreditSent := 0
        toUds := [] }
      let opened : Did Bool := ⟨{ w with nextPort := nextPort }.setConn localPort conn, .ok false,
        [.opened localPort (inbuf.drop consumed)]⟩
      opened.andThen (fun w => w.sendControl localPort OP_REQUEST rx))

def pollPending (w : VsockWorker) (idx : Nat) (res : ReadResult) (rx : Option (List RxDesc)) :
    Option (Did Bool) :=
  match res with
  | .bytes [] => some ⟨{ w with pending := swapRemove w.pending idx }, .ok false, []⟩
  | .bytes bs =>
    let inbuf := w.pending.getD idx [] ++ bs.take 256
    match parseConnect inbuf with
    | none =>
      if 1024 < inbuf.length then
        some ⟨{ w with pending := swapRemove w.pending idx }, .ok false, []⟩
      else some ⟨{ w with pending := w.pending.set idx inbuf }, .ok false, []⟩
    | some (consumed, port) =>
      { w with pending := swapRemove w.pending idx }.promote inbuf consumed port rx
  | .wouldBlock => some ⟨w, .ok false, []⟩
  | .error => some ⟨{ w with pending := swapRemove w.pending idx }, .error (.io "os error"), []⟩

/-! ## From the guest -/

/-- What is left to do after a packet: nothing, with what the call reports, or to write to the host
socket. -/
inductive Handled
  | dirty (d : Bool)
  | flush
  deriving DecidableEq, Repr

def Handled.ofBool (d : Did Bool) : Did Handled := ⟨d.worker, d.result.map .dirty, d.effects⟩

/-- One packet of the guest. `ok` bytes of an `OK` line get through. -/
def handleGuestPacket (w : VsockWorker) (hdr : VsockHeader) (payload : List UInt8)
    (rx : Option (List RxDesc)) (ok : Nat) : Did Handled :=
  let port := hdr.dstPort
  if hdr.op = OP_REQUEST then
    if port = BOOT_PORT then
      let marked : Did Bool :=
        ⟨{ w with ready := true }, .ok false, if w.ready then [] else [.markReady]⟩
      Handled.ofBool (marked.andThen (fun w => w.sendRst hdr rx))
    else Handled.ofBool (w.sendRst hdr rx)
  else if hdr.op = OP_RESPONSE then
    match w.conns.lookup port with
    | none => ⟨w, .ok (.dirty false), []⟩
    | some c =>
      if c.state = .connecting then
        ⟨w.setConn port { c with
            state := .established, credit := c.credit.updatePeer hdr.bufAlloc hdr.fwdCnt },
          .ok (.dirty false), [.wroteOk port ((okLine c.localPort).take ok)]⟩
      else ⟨w, .ok (.dirty false), []⟩
  else if hdr.op = OP_RW then
    match w.conns.lookup port with
    | none => ⟨w, .ok (.dirty false), []⟩
    | some c =>
      ⟨w.setConn port { c with
          credit := c.credit.updatePeer hdr.bufAlloc hdr.fwdCnt, toUds := c.toUds ++ payload },
        .ok .flush, [.accepted port payload]⟩
  else if hdr.op = OP_CREDIT_UPDATE then
    match w.conns.lookup port with
    | none => ⟨w, .ok (.dirty false), []⟩
    | some c =>
      ⟨w.setConn port { c with credit := c.credit.updatePeer hdr.bufAlloc hdr.fwdCnt },
        .ok (.dirty false), []⟩
  else if hdr.op = OP_CREDIT_REQUEST then
    if port ∈ w.conns then Handled.ofBool (w.sendControl port OP_CREDIT_UPDATE rx)
    else ⟨w, .ok (.dirty false), []⟩
  else if hdr.op = OP_SHUTDOWN then
    let done := (w.sendRst hdr rx).andThen (fun w => w.closeConn port false .guestShutdown none)
    ⟨done.worker, .ok (.dirty true), done.effects⟩
  else if hdr.op = OP_RST then
    let done := w.closeConn port false .guestReset none
    ⟨done.worker, .ok (.dirty false), done.effects⟩
  else ⟨w, .ok (.dirty false), []⟩

/-- One chain of the transmit queue; a descriptor outside guest RAM has no content. -/
def txChain (w : VsockWorker) (chain : List (Option (List UInt8))) (rx : Option (List RxDesc))
    (ok : Nat) : Did (Option (UInt32 × Handled)) :=
  match chain.mapM id with
  | none => ⟨w, .error (.device "vsock tx read: invalid guest address"), []⟩
  | some parts =>
    match VsockHeader.parse parts.flatten with
    | none => ⟨w, .ok none, [.usedTx]⟩
    | some hdr =>
      let d := w.handleGuestPacket hdr
        ((parts.flatten.drop VSOCK_HDR_LEN).take hdr.len.toNat) rx ok
      ⟨d.worker, d.result.map (fun h => some (hdr.dstPort, h)), .usedTx :: d.effects⟩

/-- What `flush_to_uds` does after its loop. -/
def flushTail (w : VsockWorker) (port : UInt32) (advanced : Bool) (rx : Option (List RxDesc)) :
    Did Bool :=
  match w.conns.lookup port with
  | none => ⟨w, .ok false, []⟩
  | some c =>
    if advanced = true ∧ c.rxFwdCnt ≠ c.lastCreditSent then w.sendControl port OP_CREDIT_UPDATE rx
    else ⟨w, .ok false, []⟩

/-- One turn of `flush_to_uds`, with the result of the write if it comes to one: `none` for another
turn, or what the call returns. -/
def flushTurn (w : VsockWorker) (port : UInt32) (advanced : Bool) (res : WriteResult)
    (rx : Option (List RxDesc)) : Did (Option Bool) :=
  let leave (d : Did Bool) : Did (Option Bool) := ⟨d.worker, d.result.map some, d.effects⟩
  match w.conns.lookup port with
  | none => leave (w.flushTail port advanced rx)
  | some c =>
    if c.toUds = [] then leave (w.flushTail port advanced rx)
    else
      match res with
      | .wrote 0 => leave (w.flushTail port advanced rx)
      | .wrote n =>
        ⟨w.setConn port { c with
            toUds := c.toUds.drop n,
            rxFwdCnt := c.rxFwdCnt + UInt32.ofNat (min n c.toUds.length) },
          .ok none, [.wrote port (c.toUds.take n)]⟩
      | .wouldBlock => leave (w.flushTail port advanced rx)
      | .error =>
        let done := (w.sendControl port OP_RST rx).andThen
          (fun w => w.closeConn port false .hostError none)
        ⟨done.worker, .ok (some false), done.effects⟩

/-- How much may be read for the guest; `none` leaves the loop. -/
def pumpRoom (w : VsockWorker) (port : UInt32) : Option Nat :=
  match w.conns.lookup port with
  | none => none
  | some c =>
    if c.state = .established ∧ 0 < min c.credit.available MAX_RW_PAYLOAD then
      some (min c.credit.available MAX_RW_PAYLOAD)
    else none

/-- The host is gone: tell the guest, and close. -/
def hostGone (w : VsockWorker) (port : UInt32) (why : CloseReason) (rx : Option (List RxDesc)) :
    Did Bool :=
  (w.sendControl port OP_SHUTDOWN rx).andThen (fun w => w.closeConn port false why none)

/-- One turn of `pump_to_guest`, with the result of the read if it comes to one: another turn
(`none`), or what the call returns; the flag is `dirty` so far. -/
def pumpTurn (w : VsockWorker) (port : UInt32) (dirty : Bool) (res : ReadResult)
    (rx : Option (List RxDesc)) : Did (Bool × Option Bool) :=
  match w.pumpRoom port with
  | none => ⟨w, .ok (dirty, some dirty), []⟩
  | some room =>
    match res with
    | .bytes [] =>
      let done := w.hostGone port .hostEof rx
      ⟨done.worker, .ok (true, some true), done.effects⟩
    | .bytes bs =>
      let sent := w.sendRw port (bs.take room) rx
      ⟨sent.worker, sent.result.map (fun b => (dirty || b, none)),
        .read port (bs.take room) :: sent.effects⟩
    | .wouldBlock => ⟨w, .ok (dirty, some dirty), []⟩
    | .error =>
      let done := w.hostGone port .hostError rx
      ⟨done.worker, .ok (true, some true), done.effects⟩

end VsockWorker

/-! ## The reactor -/

/-- What a poll found at a source: `hangup` stands for `POLLHUP` and `POLLERR`. -/
structure Revents where
  pollin : Bool
  pollout : Bool
  hangup : Bool
  deriving DecidableEq, Repr

inductive Source
  | rxEvt
  | txEvt
  | listener
  | pauseEvt
  | pending (idx : Nat)
  | conn (port : UInt32)
  deriving DecidableEq, Repr

def Source.rank : Source → Nat
  | .rxEvt => 0
  | .txEvt => 1
  | .listener => 2
  | .pauseEvt => 3
  | .pending _ => 4
  | .conn _ => 5

/-- The order in which the sources are pushed; connections come in any order. -/
def Source.before : Source → Source → Bool
  | .pending i, .pending j => decide (i < j)
  | .conn p, .conn q => decide (p ≠ q)
  | s, t => decide (s.rank < t.rank)

def Conn.wantsIn (c : Conn) : Bool :=
  decide (c.state = .established) && decide (0 < c.credit.available)

def Conn.wantsOut (c : Conn) : Bool := decide (c.toUds ≠ [])

/-- The poll may report this. -/
def VsockWorker.pollable (w : VsockWorker) (x : Source × Revents) : Bool :=
  (x.2.pollin || x.2.pollout || x.2.hangup) &&
    match x.1 with
    | .rxEvt => true
    | .txEvt => true
    | .listener => w.listener
    | .pauseEvt => w.pause
    | .pending idx => decide (idx < w.pending.length)
    | .conn port =>
      match w.conns.lookup port with
      | none => false
      | some c =>
        (c.wantsIn || c.wantsOut) && (!x.2.pollin || c.wantsIn) && (!x.2.pollout || c.wantsOut)

/-- Where `flush_to_uds` was called. -/
inductive FlushCaller
  | processTx (dirty : Bool)
  | conn (pollin hangup : Bool)
  deriving DecidableEq, Repr

/-- Where the thread is. -/
inductive Pc
  | waiting
  /-- At the head of the loop over the sources. -/
  | scanning
  | drain (delivered : Bool)
  | processTx (dirty : Bool)
  | accepting
  | pending (idx : Nat)
  | flush (port : UInt32) (advanced : Bool) (caller : FlushCaller)
  | pump (port : UInt32) (dirty : Bool) (hangup : Bool)
  | hangup (port : UInt32)
  | stopped
  deriving DecidableEq, Repr

structure Reactor where
  worker : VsockWorker
  pc : Pc
  /-- The sources that were ready and have not been handled. -/
  todo : List (Source × Revents)
  dirty : Bool
  stop : Bool
  log : List Effect

def Reactor.start (cid : UInt64) (listener pause : Bool) : Reactor :=
  ⟨VsockWorker.new cid listener pause, .waiting, [], false, false, []⟩

/-- What the thread learns from its environment at a step. -/
inductive Input
  | poll (ready : List (Source × Revents))
  | pollFailed (interrupted : Bool)
  /-- The next source: whether its eventfd could be read, and whether a checkpoint is requested. -/
  | next (readOk checkpoint : Bool)
  | drain (rx : Option (List RxDesc))
  | tx (chain : Option (List (Option (List UInt8)))) (rx : Option (List RxDesc)) (ok : Nat)
  /-- A socket that could be made non-blocking or not; `none` if there is no more. -/
  | accept (socket : Option Bool)
  | read (res : ReadResult) (rx : Option (List RxDesc))
  | write (res : WriteResult) (rx : Option (List RxDesc))
  | hangup (rx : Option (List RxDesc))
  deriving DecidableEq, Repr

namespace Reactor

/-- The outcome of a call that reports whether it placed a packet. -/
def settle (r : Reactor) (d : Did Bool) (pc : Pc) : Reactor :=
  { r with
    worker := d.worker
    log := r.log ++ d.effects
    dirty := r.dirty || (match d.result with | .ok b => b | .error _ => false)
    pc := pc }

/-- The rest of a connection's turn after `flush_to_uds`. -/
def afterFlush (port : UInt32) (pollin hangup : Bool) : Pc :=
  if pollin then .pump port false hangup else if hangup then .hangup port else .scanning

def afterPump (port : UInt32) (hangup : Bool) : Pc := if hangup then .hangup port else .scanning

/-- The end of `process_tx`. -/
def leaveTx (r : Reactor) (result : Except VmmError Bool) : Reactor :=
  r.settle ⟨r.worker, result, []⟩ .scanning

def scan (r : Reactor) (readOk checkpoint : Bool) : Reactor :=
  match r.todo with
  | [] =>
    { r with
      log := r.log ++ (if r.dirty then [.interrupt] else [])
      dirty := false
      pc := if r.stop then .stopped else .waiting }
  | (src, rev) :: todo =>
    let r := { r with todo := todo }
    match src with
    | .rxEvt =>
      if readOk then { r with pc := .drain false } else { r with todo := [], stop := true }
    | .txEvt =>
      if readOk then { r with pc := .processTx false } else { r with todo := [], stop := true }
    | .listener => { r with pc := .accepting }
    | .pending idx =>
      if idx < r.worker.pending.length ∧ rev.pollin = true then { r with pc := .pending idx }
      else r
    | .conn port =>
      if rev.pollout then { r with pc := .flush port false (.conn rev.pollin rev.hangup) }
      else { r with pc := afterFlush port rev.pollin rev.hangup }
    | .pauseEvt => { r with todo := [], stop := !checkpoint }

def stepDrain (r : Reactor) (delivered : Bool) (rx : Option (List RxDesc)) : Reactor :=
  match r.worker.rxBacklog with
  | [] => r.settle ⟨r.worker, .ok delivered, []⟩ .scanning
  | pkt :: rest =>
    let d := { r.worker with rxBacklog := rest }.writeRx pkt rx
    match d.result with
    | .ok true => { r with worker := d.worker, log := r.log ++ d.effects, pc := .drain true }
    | .ok false => r.settle ⟨r.worker, .ok delivered, []⟩ .scanning
    | .error _ => r.settle d .scanning

def stepTx (r : Reactor) (dirty : Bool) (chain : Option (List (Option (List UInt8))))
    (rx : Option (List RxDesc)) (ok : Nat) : Reactor :=
  match chain with
  | none => r.leaveTx (.ok dirty)
  | some chain =>
    let d := r.worker.txChain chain rx ok
    let r := { r with worker := d.worker, log := r.log ++ d.effects }
    match d.result with
    | .error e => r.leaveTx (.error e)
    | .ok none => { r with pc := .processTx dirty }
    | .ok (some (_, .dirty b)) => { r with pc := .processTx (dirty || b) }
    | .ok (some (port, .flush)) => { r with pc := .flush port false (.processTx dirty) }

def stepFlush (r : Reactor) (port : UInt32) (advanced : Bool) (caller : FlushCaller)
    (res : WriteResult) (rx : Option (List RxDesc)) : Reactor :=
  let d := r.worker.flushTurn port advanced res rx
  let r := { r with worker := d.worker, log := r.log ++ d.effects }
  match d.result with
  | .ok none => { r with pc := .flush port true caller }
  | .ok (some b) =>
    match caller with
    | .processTx dirty => { r with pc := .processTx (dirty || b) }
    | .conn pollin hangup => { r with dirty := r.dirty || b, pc := afterFlush port pollin hangup }
  | .error e =>
    match caller with
    | .processTx _ => r.leaveTx (.error e)
    | .conn pollin hangup => { r with pc := afterFlush port pollin hangup }

def stepPump (r : Reactor) (port : UInt32) (dirty hangup : Bool) (res : ReadResult)
    (rx : Option (List RxDesc)) : Reactor :=
  let d := r.worker.pumpTurn port dirty res rx
  let r := { r with worker := d.worker, log := r.log ++ d.effects }
  match d.result with
  | .ok (dirty, none) => { r with pc := .pump port dirty hangup }
  | .ok (_, some b) => { r with dirty := r.dirty || b, pc := afterPump port hangup }
  | .error _ => { r with pc := afterPump port hangup }

/-- A socket that was accepted, or the end of the loop. -/
def stepAccept (r : Reactor) (socket : Option Bool) : Reactor :=
  match socket with
  | none => { r with pc := .scanning }
  | some true => { r with worker := { r.worker with pending := r.worker.pending ++ [[]] } }
  | some false => r

/-- The poll may find these sources ready. -/
def Ready (r : Reactor) (ready : List (Source × Revents)) : Prop :=
  ready ≠ [] ∧ ready.Pairwise (fun x y => x.1.before y.1 = true) ∧
    ∀ x ∈ ready, r.worker.pollable x = true

instance (r : Reactor) (ready : List (Source × Revents)) : Decidable (r.Ready ready) :=
  inferInstanceAs (Decidable (_ ∧ _ ∧ _))

/-- **One step of the thread.** -/
def step (r : Reactor) (i : Input) : Option Reactor :=
  match r.pc, i with
  | .waiting, .poll ready =>
    if r.Ready ready then some { r with todo := ready, pc := .scanning } else none
  | .waiting, .pollFailed interrupted => some (if interrupted then r else { r with pc := .stopped })
  | .scanning, .next readOk checkpoint => some (r.scan readOk checkpoint)
  | .drain delivered, .drain rx => some (r.stepDrain delivered rx)
  | .processTx dirty, .tx chain rx ok => some (r.stepTx dirty chain rx ok)
  | .accepting, .accept socket => some (r.stepAccept socket)
  | .pending idx, .read res rx =>
    (r.worker.pollPending idx res rx).map (fun d => r.settle d .scanning)
  | .flush port advanced caller, .write res rx => some (r.stepFlush port advanced caller res rx)
  | .pump port dirty hangup, .read res rx => some (r.stepPump port dirty hangup res rx)
  | .hangup port, .hangup rx =>
    let d := r.worker.closeConn port true .hangup rx
    some (r.settle ⟨d.worker, d.result.map (fun _ => true), d.effects⟩ .scanning)
  | _, _ => none

end Reactor

/-! ## What one step can do -/

namespace VsockWorker

variable {w : VsockWorker} {rx : Option (List RxDesc)}

theorem enqueueBacklog_conns (pkt : List UInt8) : (w.enqueueBacklog pkt).conns = w.conns := by
  unfold enqueueBacklog
  split_ifs <;> rfl

theorem writeRx_of_some {pkt : List UInt8} {chain : List RxDesc} {copied : Nat}
    (h : copyInto chain pkt.length = some copied) :
    w.writeRx pkt (some chain) = ⟨w, .ok true, [.placed (pkt.take copied)]⟩ := by
  simp only [writeRx, h]

theorem writeRx_of_none {pkt : List UInt8} {chain : List RxDesc}
    (h : copyInto chain pkt.length = none) : w.writeRx pkt (some chain) =
      ⟨w, .error (.device "vsock rx write: invalid guest address"), []⟩ := by
  simp only [writeRx, h]

/-- A packet to the guest: it waits, or a chain takes it. -/
theorem pushToGuest_cases (pkt : List UInt8) :
    (w.pushToGuest pkt rx).worker = w.enqueueBacklog pkt ∧ (w.pushToGuest pkt rx).effects = [] ∨
    w.rxBacklog = [] ∧ ∃ chain, rx = some chain ∧ (w.pushToGuest pkt rx).worker = w ∧
      (w.pushToGuest pkt rx).effects = (w.writeRx pkt (some chain)).effects := by
  unfold pushToGuest
  split_ifs with hback
  · exact Or.inl ⟨rfl, rfl⟩
  · rw [not_not] at hback
    cases rx with
    | none => exact Or.inl ⟨rfl, rfl⟩
    | some chain =>
      refine Or.inr ⟨hback, chain, rfl, ?_⟩
      cases hcopy : copyInto chain pkt.length with
      | none => rw [writeRx_of_none hcopy]; exact ⟨rfl, rfl⟩
      | some copied => rw [writeRx_of_some hcopy]; exact ⟨rfl, rfl⟩

theorem pushToGuest_conns (pkt : List UInt8) : (w.pushToGuest pkt rx).worker.conns = w.conns := by
  rcases @pushToGuest_cases w rx pkt with ⟨hw, _⟩ | ⟨_, _, _, hw, _⟩
  · rw [hw, enqueueBacklog_conns]
  · rw [hw]

end VsockWorker

namespace Reactor

variable {r r' : Reactor} {i : Input}

theorem stepTx_worker (dirty : Bool) (chain : List (Option (List UInt8)))
    (rx : Option (List RxDesc)) (ok : Nat) :
    (r.stepTx dirty (some chain) rx ok).worker = (r.worker.txChain chain rx ok).worker ∧
      (r.stepTx dirty (some chain) rx ok).log =
        r.log ++ (r.worker.txChain chain rx ok).effects := by
  simp only [stepTx]
  split <;> simp [leaveTx, settle]

theorem stepFlush_worker (port : UInt32) (advanced : Bool) (caller : FlushCaller)
    (res : WriteResult) (rx : Option (List RxDesc)) :
    (r.stepFlush port advanced caller res rx).worker =
        (r.worker.flushTurn port advanced res rx).worker ∧
      (r.stepFlush port advanced caller res rx).log =
        r.log ++ (r.worker.flushTurn port advanced res rx).effects := by
  simp only [stepFlush]
  cases caller <;> split <;> simp [leaveTx, settle]

theorem stepPump_worker (port : UInt32) (dirty hangup : Bool) (res : ReadResult)
    (rx : Option (List RxDesc)) :
    (r.stepPump port dirty hangup res rx).worker = (r.worker.pumpTurn port dirty res rx).worker ∧
      (r.stepPump port dirty hangup res rx).log =
        r.log ++ (r.worker.pumpTurn port dirty res rx).effects := by
  simp only [stepPump]
  split <;> simp

/-- A step that leaves the connections and the backlog alone, and does nothing but perhaps raise
the interrupt. -/
def Idle (r r' : Reactor) : Prop :=
  r'.worker.conns = r.worker.conns ∧ r'.worker.rxBacklog = r.worker.rxBacklog ∧
    (r'.log = r.log ∨ r'.log = r.log ++ [.interrupt])

/-- The state of the worker and the log come from this call. -/
def Comes {α : Type} (r r' : Reactor) (d : Did α) : Prop :=
  r'.worker = d.worker ∧ r'.log = r.log ++ d.effects

theorem idle_scan (readOk checkpoint : Bool) : Idle r (r.scan readOk checkpoint) := by
  unfold scan
  split
  · refine ⟨rfl, rfl, ?_⟩
    cases r.dirty
    · exact Or.inl (List.append_nil r.log)
    · exact Or.inr rfl
  · next src rev todo htodo =>
      cases src <;> dsimp only <;> (try split_ifs) <;> exact ⟨rfl, rfl, Or.inl rfl⟩

/-- Draining: there is nothing to do, or a packet goes into a chain. -/
theorem stepDrain_cases (delivered : Bool) (rx : Option (List RxDesc)) :
    Idle r (r.stepDrain delivered rx) ∨
    ∃ pkt rest chain, r.worker.rxBacklog = pkt :: rest ∧ rx = some chain ∧
      Comes r (r.stepDrain delivered rx) ({ r.worker with rxBacklog := rest }.writeRx pkt rx) := by
  unfold stepDrain
  cases hback : r.worker.rxBacklog with
  | nil => exact Or.inl ⟨rfl, rfl, Or.inl (List.append_nil r.log)⟩
  | cons pkt rest =>
    cases rx with
    | none => exact Or.inl ⟨rfl, rfl, Or.inl (List.append_nil r.log)⟩
    | some chain =>
      refine Or.inr ⟨pkt, rest, chain, rfl, rfl, ?_⟩
      dsimp only
      split
      · exact ⟨rfl, rfl⟩
      · next h =>
          simp only [VsockWorker.writeRx] at h
          split at h <;> cases h
      · exact ⟨rfl, rfl⟩

/-- **The inversion of a step.** -/
theorem step_cases (h : r.step i = some r') : Idle r r' ∨
    (∃ delivered rx pkt rest chain, r.pc = .drain delivered ∧ i = .drain rx ∧
      r.worker.rxBacklog = pkt :: rest ∧ rx = some chain ∧
      Comes r r' ({ r.worker with rxBacklog := rest }.writeRx pkt rx)) ∨
    (∃ dirty chain rx ok, r.pc = .processTx dirty ∧ i = .tx (some chain) rx ok ∧
      Comes r r' (r.worker.txChain chain rx ok)) ∨
    (∃ idx res rx d, r.pc = .pending idx ∧ i = .read res rx ∧
      r.worker.pollPending idx res rx = some d ∧ Comes r r' d) ∨
    (∃ port advanced caller res rx, r.pc = .flush port advanced caller ∧ i = .write res rx ∧
      Comes r r' (r.worker.flushTurn port advanced res rx)) ∨
    (∃ port dirty hangup res rx, r.pc = .pump port dirty hangup ∧ i = .read res rx ∧
      Comes r r' (r.worker.pumpTurn port dirty res rx)) ∨
    (∃ port rx, r.pc = .hangup port ∧ i = .hangup rx ∧
      Comes r r' (r.worker.closeConn port true .hangup rx)) := by
  unfold step at h
  split at h
  · split_ifs at h
    cases h
    exact Or.inl ⟨rfl, rfl, Or.inl rfl⟩
  · cases h
    refine Or.inl ?_
    split_ifs <;> exact ⟨rfl, rfl, Or.inl rfl⟩
  · cases h
    exact Or.inl (idle_scan _ _)
  · next delivered rx hpc =>
      cases h
      rcases stepDrain_cases (r := r) delivered rx with hidle | ⟨pkt, rest, chain, hback, hrx, hd⟩
      · exact Or.inl hidle
      · exact Or.inr (Or.inl ⟨delivered, rx, pkt, rest, chain, hpc, rfl, hback, hrx, hd⟩)
  · next dirty chain rx ok hpc =>
      cases h
      cases chain with
      | none => exact Or.inl ⟨rfl, rfl, Or.inl (List.append_nil r.log)⟩
      | some chain =>
        exact Or.inr (Or.inr (Or.inl
          ⟨dirty, chain, rx, ok, hpc, rfl, stepTx_worker dirty chain rx ok⟩))
  · next socket hpc =>
      cases h
      refine Or.inl ?_
      rcases socket with _ | _ | _ <;> exact ⟨rfl, rfl, Or.inl rfl⟩
  · next idx res rx hpc =>
      obtain ⟨d, hd, rfl⟩ := Option.map_eq_some_iff.mp h
      exact Or.inr (Or.inr (Or.inr (Or.inl ⟨idx, res, rx, d, hpc, rfl, hd, rfl, rfl⟩)))
  · next port advanced caller res rx hpc =>
      cases h
      exact Or.inr (Or.inr (Or.inr (Or.inr (Or.inl ⟨port, advanced, caller, res, rx, hpc, rfl,
        stepFlush_worker port advanced caller res rx⟩))))
  · next port dirty hangup res rx hpc =>
      cases h
      exact Or.inr (Or.inr (Or.inr (Or.inr (Or.inr (Or.inl ⟨port, dirty, hangup, res, rx, hpc, rfl,
        stepPump_worker port dirty hangup res rx⟩)))))
  · next port rx hpc =>
      cases h
      exact Or.inr (Or.inr (Or.inr (Or.inr (Or.inr (Or.inr ⟨port, rx, hpc, rfl, rfl, rfl⟩)))))
  · cases h

end Reactor

/-! ## Runs with one connection -/

def ascii (s : String) : List UInt8 := s.toList.map (fun c => UInt8.ofNat c.toNat)

/-- A packet from port 1025 of the guest to the first connection. -/
def guestPacket (op : UInt16) (payload : List UInt8) : List UInt8 :=
  VsockHeader.toBytes {
    srcCid := 3
    dstCid := HOST_CID
    srcPort := 1025
    dstPort := FIRST_HOST_PORT
    len := UInt32.ofNat payload.length
    type := TYPE_STREAM
    op := op
    flags := 0
    bufAlloc := HOST_BUF_ALLOC
    fwdCnt := 0 } ++ payload

/-- A poll that finds one source readable, and the steps at that source. -/
def pollRun (src : Source) (steps : List Input) : List Input :=
  .poll [(src, ⟨true, false, false⟩)] :: .next true false :: steps ++ [.next true false]

/-- A client connects and writes these bytes at once. -/
def connectRun (bytes : List UInt8) : List Input :=
  pollRun .listener [.accept (some true), .accept none] ++
    pollRun (.pending 0) [.read (.bytes bytes) none]

/-- The guest sends packets; the steps are those of `process_tx` before it runs out of chains. -/
def txRun (steps : List Input) : List Input := pollRun .txEvt (steps ++ [.tx none none 0])

/-- The guest accepts the connection, and the whole `OK` line gets through. -/
def responseRun : List Input := txRun [.tx (some [some (guestPacket OP_RESPONSE [])]) none 64]

end MicroMachines.Vsock
