import MicroMachines.Vmm.Vcpu

set_option autoImplicit false

/-! # The device workers

The loops of `block_worker`, `NetWorker::process`, `VsockWorker::run` and of the two balloon
threads (`crates/mm-vmm/src/devices`). A worker polls, and for each event that is ready does a
fixed list of things; what is left of them is its `todo`. One step is one read of an eventfd,
one descriptor chain taken, one store to guest RAM, one used entry, one interrupt, one access
to the capture slot or to the checkpoint.

The three snapshottable devices answer the pause eventfd in different ways: block and net drain
their request queue before they fill the slot, vsock does not; block leaves its loop at once
when no checkpoint is requested, net and vsock at the end of the batch; vsock raises its
interrupt at the end of the batch, after it has been parked. The balloon threads have no pause
eventfd.

Avail and used indices, 16 bits wide and wrapping in the source, are counters here: a queue has
far fewer than `2^16` entries, so two of them agree exactly if the counters do.
-/

namespace MicroMachines.Vmm

open MicroMachines.Lib

/-- The threads that serve virtqueues. -/
inductive Kind
  | block
  | vsock
  | net
  | inflate
  | deflate
  deriving DecidableEq, Repr

/-- The device has a pause handle. -/
def Kind.pausable : Kind → Bool
  | .block => true
  | .vsock => true
  | .net => true
  | .inflate => false
  | .deflate => false

/-- The queue on which the guest makes requests: the only block queue, net tx, vsock tx. -/
def Kind.requestQueue : Kind → Nat
  | .block => 0
  | .vsock => 1
  | .net => 1
  | .inflate => 0
  | .deflate => 0

/-- What a poll can report: a queue notification, the pause eventfd, or the TAP, a listener or
a socket of the host. -/
inductive Source
  | notify (q : Nat)
  | pause
  | host
  deriving DecidableEq, Repr

/-- The things a worker does. -/
inductive WOp
  | readNotify (q : Nat)
  | readPause
  | readHost
  /-- Take and serve chains of queue `q` until it is empty. -/
  | drain (q : Nat)
  /-- Store to the buffers of the current chain. -/
  | dma
  | addUsed (q : Nat)
  /-- Deliver what the host sent to buffers of queue 0. -/
  | rx
  | signal
  | fillSlot
  | batchEnd
  deriving DecidableEq, Repr

/-- The operations of a handler that can fail. -/
def WOp.isService : WOp → Bool
  | .drain _ => true
  | .dma => true
  | .addUsed _ => true
  | .rx => true
  | _ => false

/-- The operations of the pause handlers. -/
def WOp.isPause : WOp → Bool
  | .readPause => true
  | .fillSlot => true
  | _ => false

/-- The order in which the events of a batch are handled: fixed for `poll`, any for the epoll
of net. After a pause event vsock looks at no further one. -/
def Kind.accepts : Kind → List Source → Bool
  | .block, srcs => srcs != [] && srcs.isSublist [.notify 0, .pause]
  | .vsock, srcs => srcs != [] &&
      (srcs.isSublist [.notify 0, .notify 1, .host] || srcs.isSublist [.notify 0, .notify 1, .pause])
  | .net, srcs => srcs != [] && decide srcs.Nodup &&
      srcs.all (fun src => src ∈ [.notify 0, .notify 1, .host, .pause])
  | .inflate, srcs => srcs == [.notify 0]
  | .deflate, srcs => srcs == [.notify 0]

/-- What each worker does on an event. -/
def Kind.handler : Kind → Source → List WOp
  | .block, .notify q => [.readNotify q, .drain 0, .signal]
  | .block, .pause => [.readPause, .drain 0, .signal, .fillSlot]
  | .block, .host => []
  | .vsock, .notify 0 => [.readNotify 0, .rx]
  | .vsock, .notify q => [.readNotify q, .drain 1]
  | .vsock, .pause => [.readPause, .fillSlot]
  | .vsock, .host => [.readHost, .rx]
  | .net, .notify 0 => [.readNotify 0, .rx, .signal]
  | .net, .notify q => [.readNotify q, .drain 1, .signal]
  | .net, .pause => [.readPause, .drain 1, .signal, .rx, .signal, .fillSlot]
  | .net, .host => [.rx, .signal]
  | .inflate, .notify q => [.readNotify q, .drain 0, .signal]
  | .inflate, _ => []
  | .deflate, .notify q => [.readNotify q, .drain 0, .signal]
  | .deflate, _ => []

/-- What follows the events of a batch. -/
def Kind.finish : Kind → List WOp
  | .vsock => [.signal, .batchEnd]
  | .net => [.batchEnd]
  | _ => []

def Kind.batch (k : Kind) (srcs : List Source) : List WOp := srcs.flatMap k.handler ++ k.finish

/-- How one chain of a request queue is served: block writes data and a status byte, the
inflating balloon gives pages back (which zeroes them), vsock answers on its rx queue. -/
def Kind.serve : Kind → Nat → List WOp
  | .block, q => [.dma, .addUsed q]
  | .vsock, q => [.addUsed q, .rx]
  | .net, q => [.addUsed q]
  | .inflate, q => [.dma, .addUsed q]
  | .deflate, q => [.addUsed q]

/-- A used entry of the queue makes the worker raise its interrupt. Entries of the vsock tx
queue do not. -/
def Kind.marks : Kind → Nat → Bool
  | .vsock, q => q == 0
  | _, _ => true

/-- Why a worker left its loop. -/
inductive WorkerExit
  | frozen
  | fdFailed
  deriving DecidableEq, Repr

/-- A captured cursor: `next_avail` of each queue, and the number of checkpoint requests made
before the capture. -/
structure QueueCapture where
  next : Nat → Nat
  gen : Nat

inductive WorkerPc
  | serving
  | check (g : Nat)
  | park (p : Park) (g : Nat)
  | exited (r : WorkerExit)
  deriving DecidableEq, Repr

/-- A worker and its eventfds. `stop` is `pause_done` of net and the local `stop` of vsock;
`dirty` says that the interrupt is to be raised. -/
structure Worker where
  active : Bool := false
  pc : WorkerPc := .serving
  todo : List WOp := []
  stop : Option WorkerExit := none
  dirty : Bool := false
  next : Nat → Nat := fun _ => 0
  notify : Nat → Bool := fun _ => false
  pauseEvt : Bool := false
  slot : Option QueueCapture := none

inductive WorkerAct
  | go
  | poll (srcs : List Source)
  | dma (a x : Nat)
  | deliver
  /-- Raise the interrupt; it goes to the LAPIC of a vCPU. -/
  | signal (vcpu : Nat)
  /-- A used entry whose delivery vsock does not report to its loop. -/
  | unmarked
  /-- vsock raises an interrupt for a connection it has torn down. -/
  | mark
  /-- A handler fails; what it had marked may be lost. -/
  | abort (lose : Bool)
  /-- A descriptor fails. -/
  | fdFail
  deriving DecidableEq, Repr

namespace Worker

def ready (w : Worker) : Source → Bool
  | .notify q => w.notify q
  | .pause => w.pauseEvt
  | .host => true

/-- What is left after a handler has failed: the rest of the batch, without the interrupt of
the failed handler except for vsock, which has one for the whole batch. -/
def afterAbort (k : Kind) (todo : List WOp) : List WOp :=
  match k, todo.dropWhile WOp.isService with
  | .vsock, rest => rest
  | _, .signal :: rest => rest
  | _, rest => rest

/-- A notification that cannot be read: net ignores that, vsock ends the batch and stops, the
others leave their loop. -/
def readFails (k : Kind) (w : Worker) (rest : List WOp) : Worker :=
  match k with
  | .net => { w with todo := rest }
  | .vsock => { w with stop := some .fdFailed, todo := Kind.vsock.finish }
  | _ => { w with pc := .exited .fdFailed }

/-- No checkpoint is requested: this is a freeze. -/
def freeze (k : Kind) (w : Worker) : Worker :=
  match k with
  | .block => { w with pc := .exited .frozen }
  | _ => { w with pc := .serving, stop := some .frozen }

/-- One step in the serving loop. -/
def serve (k : Kind) (gen : Nat) (avail : Nat → Nat) (w : Worker) (act : WorkerAct) :
    Option (Worker × Effect) :=
  match w.todo, act with
  | [], .poll srcs =>
    if k.accepts srcs && srcs.all w.ready then some ({ w with todo := k.batch srcs }, .none)
    else none
  | [], .fdFail => some ({ w with pc := .exited .fdFailed }, .none)
  | .readNotify q :: rest, .go =>
    some ({ w with todo := rest, notify := Function.update w.notify q false }, .none)
  | .readNotify _ :: rest, .fdFail => some (w.readFails k rest, .none)
  | .readPause :: rest, .go => some ({ w with todo := rest, pauseEvt := false }, .none)
  | .readHost :: rest, .go => some ({ w with todo := rest }, .none)
  | .drain q :: rest, .go =>
    if w.next q < avail q then
      some ({ w with
        next := Function.update w.next q (w.next q + 1)
        todo := k.serve q ++ .drain q :: rest }, .none)
    else some ({ w with todo := rest }, .none)
  | .dma :: _, .dma a x => some (w, .write a x)
  | .dma :: rest, .go => some ({ w with todo := rest }, .none)
  | .addUsed q :: rest, .go =>
    some ({ w with todo := rest, dirty := w.dirty || k.marks q }, .addUsed q)
  | .addUsed q :: rest, .unmarked =>
    if k = .vsock then some ({ w with todo := rest }, .addUsed q) else none
  | .rx :: rest, .deliver =>
    if w.next 0 < avail 0 then
      some ({ w with
        next := Function.update w.next 0 (w.next 0 + 1)
        todo := .dma :: .addUsed 0 :: .rx :: rest }, .none)
    else none
  | .rx :: _, .mark => if k = .vsock then some ({ w with dirty := true }, .none) else none
  | .rx :: rest, .go => some ({ w with todo := rest }, .none)
  | .signal :: rest, .go => if w.dirty then none else some ({ w with todo := rest }, .none)
  | .signal :: rest, .signal i =>
    if w.dirty then some ({ w with todo := rest, dirty := false }, .raise i) else none
  | .fillSlot :: rest, .go =>
    if k.pausable then
      some ({ w with todo := rest, slot := some ⟨w.next, gen⟩, pc := .check gen }, .none)
    else none
  | .batchEnd :: rest, .go =>
    match w.stop with
    | some r => some ({ w with pc := .exited r }, .none)
    | none => some ({ w with todo := rest }, .none)
  | op :: rest, .abort lose =>
    if op.isService then
      some ({ w with
        todo := afterAbort k (op :: rest)
        dirty := decide (k = .vsock) && w.dirty && !lose }, .none)
    else none
  | _, _ => none

/-- One step of the worker. `avail` are the avail indices of its queues in guest RAM. -/
def step (k : Kind) (requested released : Bool) (gen : Nat) (avail : Nat → Nat) (w : Worker)
    (act : WorkerAct) : Option (Worker × Effect) :=
  match w.pc, act with
  | .serving, act => if w.active then w.serve k gen avail act else none
  | .check g, .go =>
    some (if requested then { w with pc := .park .add g } else w.freeze k, .none)
  | .park .add g, .go => some ({ w with pc := .park .wait g }, .enter)
  | .park .wait g, .go => if released then some ({ w with pc := .park .sub g }, .none) else none
  | .park .sub _, .go => some ({ w with pc := .serving }, .leave)
  | _, _ => none

end Worker

/-! ## What a step can do -/

/-- The operations that a step may simply pass over. -/
def WOp.isSkip : WOp → Bool
  | .readHost => true
  | .dma => true
  | .rx => true
  | .signal => true
  | _ => false

/-- The steps of a worker in its serving loop. -/
inductive ServeStep (k : Kind) (gen : Nat) (avail : Nat → Nat) (w : Worker) :
    WorkerAct → Worker → Effect → Prop
  | poll (srcs : List Source) (htodo : w.todo = []) (hacc : k.accepts srcs = true)
      (hready : ∀ src ∈ srcs, w.ready src = true) :
      ServeStep k gen avail w (.poll srcs) { w with todo := k.batch srcs } .none
  | pollFails (htodo : w.todo = []) :
      ServeStep k gen avail w .fdFail { w with pc := .exited .fdFailed } .none
  | readNotify (q : Nat) (rest : List WOp) (htodo : w.todo = .readNotify q :: rest) :
      ServeStep k gen avail w .go
        { w with todo := rest, notify := Function.update w.notify q false } .none
  | readFails (q : Nat) (rest : List WOp) (htodo : w.todo = .readNotify q :: rest) :
      ServeStep k gen avail w .fdFail (w.readFails k rest) .none
  | readPause (rest : List WOp) (htodo : w.todo = .readPause :: rest) :
      ServeStep k gen avail w .go { w with todo := rest, pauseEvt := false } .none
  | skip (op : WOp) (rest : List WOp) (htodo : w.todo = op :: rest) (hop : op.isSkip = true) :
      ServeStep k gen avail w .go { w with todo := rest } .none
  | chain (q : Nat) (rest : List WOp) (htodo : w.todo = .drain q :: rest)
      (h : w.next q < avail q) :
      ServeStep k gen avail w .go
        { w with
          next := Function.update w.next q (w.next q + 1)
          todo := k.serve q ++ .drain q :: rest } .none
  | drained (q : Nat) (rest : List WOp) (htodo : w.todo = .drain q :: rest)
      (h : ¬ w.next q < avail q) : ServeStep k gen avail w .go { w with todo := rest } .none
  | write (a x : Nat) (rest : List WOp) (htodo : w.todo = .dma :: rest) :
      ServeStep k gen avail w (.dma a x) w (.write a x)
  | addUsed (act : WorkerAct) (q : Nat) (rest : List WOp) (dirty : Bool)
      (htodo : w.todo = .addUsed q :: rest) :
      ServeStep k gen avail w act { w with todo := rest, dirty := dirty } (.addUsed q)
  | deliver (rest : List WOp) (htodo : w.todo = .rx :: rest) (h : w.next 0 < avail 0) :
      ServeStep k gen avail w .deliver
        { w with
          next := Function.update w.next 0 (w.next 0 + 1)
          todo := .dma :: .addUsed 0 :: .rx :: rest } .none
  | mark (rest : List WOp) (htodo : w.todo = .rx :: rest) :
      ServeStep k gen avail w .mark { w with dirty := true } .none
  | signal (i : Nat) (rest : List WOp) (htodo : w.todo = .signal :: rest) :
      ServeStep k gen avail w (.signal i) { w with todo := rest, dirty := false } (.raise i)
  | fillSlot (rest : List WOp) (htodo : w.todo = .fillSlot :: rest) (hk : k.pausable = true) :
      ServeStep k gen avail w .go
        { w with todo := rest, slot := some ⟨w.next, gen⟩, pc := .check gen } .none
  | batchEnd (rest : List WOp) (htodo : w.todo = .batchEnd :: rest) (hstop : w.stop = none) :
      ServeStep k gen avail w .go { w with todo := rest } .none
  | stopped (r : WorkerExit) (rest : List WOp) (htodo : w.todo = .batchEnd :: rest)
      (hstop : w.stop = some r) : ServeStep k gen avail w .go { w with pc := .exited r } .none
  | abort (lose dirty : Bool) (hop : ∃ op rest, w.todo = op :: rest ∧ op.isService = true) :
      ServeStep k gen avail w (.abort lose)
        { w with todo := Worker.afterAbort k w.todo, dirty := dirty } .none

/-- The steps of a worker. -/
inductive WorkerStep (k : Kind) (requested released : Bool) (gen : Nat) (avail : Nat → Nat)
    (w : Worker) : WorkerAct → Worker → Effect → Prop
  | serve (act : WorkerAct) (w' : Worker) (e : Effect) (hpc : w.pc = .serving)
      (hactive : w.active = true) (h : ServeStep k gen avail w act w' e) :
      WorkerStep k requested released gen avail w act w' e
  | toPark (g : Nat) (hpc : w.pc = .check g) (h : requested = true) :
      WorkerStep k requested released gen avail w .go { w with pc := .park .add g } .none
  | freeze (g : Nat) (hpc : w.pc = .check g) (h : requested = false) :
      WorkerStep k requested released gen avail w .go (w.freeze k) .none
  | enter (g : Nat) (hpc : w.pc = .park .add g) :
      WorkerStep k requested released gen avail w .go { w with pc := .park .wait g } .enter
  | see (g : Nat) (hpc : w.pc = .park .wait g) (h : released = true) :
      WorkerStep k requested released gen avail w .go { w with pc := .park .sub g } .none
  | leave (g : Nat) (hpc : w.pc = .park .sub g) :
      WorkerStep k requested released gen avail w .go { w with pc := .serving } .leave

section Cases

variable {k : Kind} {requested released : Bool} {gen : Nat} {avail : Nat → Nat} {w w' : Worker}
  {act : WorkerAct} {e : Effect}

theorem Worker.serve_cases (h : w.serve k gen avail act = some (w', e)) :
    ServeStep k gen avail w act w' e := by
  unfold Worker.serve at h
  split at h
  case h_1 srcs htodo =>
      split at h
      next hc =>
          cases h
          rw [Bool.and_eq_true, List.all_eq_true] at hc
          exact .poll srcs htodo hc.1 hc.2
      next => cases h
  case h_2 htodo => cases h; exact .pollFails htodo
  case h_3 q rest htodo => cases h; exact .readNotify q rest htodo
  case h_4 q rest htodo => cases h; exact .readFails q rest htodo
  case h_5 rest htodo => cases h; exact .readPause rest htodo
  case h_6 rest htodo => cases h; exact .skip _ rest htodo rfl
  case h_7 q rest htodo =>
      split at h
      next hlt => cases h; exact .chain q rest htodo hlt
      next hlt => cases h; exact .drained q rest htodo hlt
  case h_8 a x rest htodo => cases h; exact .write _ _ _ htodo
  case h_9 rest htodo => cases h; exact .skip _ rest htodo rfl
  case h_10 q rest htodo => cases h; exact .addUsed _ q rest _ htodo
  case h_11 q rest htodo =>
      split at h
      next => cases h; exact .addUsed _ q rest w.dirty htodo
      next => cases h
  case h_12 rest htodo =>
      split at h
      next hlt => cases h; exact .deliver rest htodo hlt
      next => cases h
  case h_13 rest htodo =>
      split at h
      next => cases h; exact .mark rest htodo
      next => cases h
  case h_14 rest htodo => cases h; exact .skip _ rest htodo rfl
  case h_15 rest htodo =>
      split at h
      next => cases h
      next => cases h; exact .skip _ rest htodo rfl
  case h_16 rest i htodo =>
      split at h
      next => cases h; exact .signal i rest htodo
      next => cases h
  case h_17 rest htodo =>
      split at h
      next hk => cases h; exact .fillSlot rest htodo hk
      next => cases h
  case h_18 rest htodo =>
      split at h
      next r hstop => cases h; exact .stopped r rest htodo hstop
      next hstop => cases h; exact .batchEnd rest htodo hstop
  case h_19 op rest lose htodo =>
      split at h
      next hop =>
          cases h
          rw [← htodo]
          exact .abort lose _ ⟨op, rest, htodo, hop⟩
      next => cases h
  case h_20 => cases h

/-- A step in the loop fills the slot, or leaves it alone and stays in the loop or ends it. -/
theorem ServeStep.slot_cases (hpc : w.pc = .serving) (h : ServeStep k gen avail w act w' e) :
    (w'.slot = w.slot ∧ (w'.pc = .serving ∨ ∃ r, w'.pc = .exited r)) ∨
    ∃ rest, w.todo = .fillSlot :: rest ∧ act = .go ∧ e = .none ∧
      w' = { w with todo := rest, slot := some ⟨w.next, gen⟩, pc := .check gen } := by
  cases h with
  | fillSlot rest htodo => exact Or.inr ⟨rest, htodo, rfl, rfl, rfl⟩
  | pollFails => exact Or.inl ⟨rfl, Or.inr ⟨_, rfl⟩⟩
  | stopped r => exact Or.inl ⟨rfl, Or.inr ⟨r, rfl⟩⟩
  | readFails q rest htodo =>
    cases k with
    | net | vsock => exact Or.inl ⟨rfl, Or.inl hpc⟩
    | _ => exact Or.inl ⟨rfl, Or.inr ⟨_, rfl⟩⟩
  | _ => exact Or.inl ⟨rfl, Or.inl hpc⟩

/-- **What one step can do.** -/
theorem Worker.step_cases (h : w.step k requested released gen avail act = some (w', e)) :
    WorkerStep k requested released gen avail w act w' e := by
  unfold Worker.step at h
  split at h
  case h_1 hpc =>
      split at h
      next hactive => exact .serve _ w' e hpc hactive (Worker.serve_cases h)
      next => cases h
  case h_2 g hpc =>
      cases h
      split_ifs with hr
      · exact .toPark g hpc hr
      · exact .freeze g hpc (by simpa using hr)
  case h_3 g hpc => cases h; exact .enter g hpc
  case h_4 g hpc =>
      split at h
      next hrel => cases h; exact .see g hpc hrel
      next => cases h
  case h_5 g hpc => cases h; exact .leave g hpc
  case h_6 => cases h

/-- A parked worker does nothing before the release. -/
theorem WorkerStep.of_waiting {g : Nat} (h : WorkerStep k requested released gen avail w act w' e)
    (hpc : w.pc = .park .wait g) : released = true := by
  cases h with
  | see _ _ hrel => exact hrel
  | _ => cases hpc.symm.trans (by assumption)

end Cases

/-! ## A participant of the barrier -/

/-- The worker has been asked to pause, and has not filled its slot yet. -/
def Worker.pausing (w : Worker) : Bool := w.pauseEvt || w.todo.any WOp.isPause

/-- Where the worker stands at the checkpoint barrier. -/
def Worker.phase (w : Worker) : Phase :=
  match w.pc with
  | .serving => if w.pausing then .called else .out
  | .check g => .ready g
  | .park .add g => .ready g
  | .park .wait g => .waiting g
  | .park .sub g => .leaving g
  | .exited _ => .out

section Phase

variable {k : Kind} {requested released : Bool} {gen : Nat} {avail : Nat → Nat} {w w' : Worker}
  {act : WorkerAct} {e : Effect}

theorem Worker.phase_serving (h : w.pc = .serving) :
    w.phase = if w.pausing then .called else .out := by
  unfold Worker.phase
  rw [h]

theorem Worker.phase_of_pc {p : WorkerPc} (h : w.pc = p) :
    w.phase = ({ w with pc := p } : Worker).phase := by
  rw [← h]

theorem Worker.phase_out_or_called (h : w.pc = .serving ∨ ∃ r, w.pc = .exited r) :
    w.phase = .out ∨ w.phase = .called := by
  rcases h with h | ⟨r, h⟩
  · rw [Worker.phase_serving h]
    by_cases hp : w.pausing = true
    · exact Or.inr (if_pos hp)
    · exact Or.inl (if_neg hp)
  · left
    unfold Worker.phase
    rw [h]

/-- Writing the pause eventfd calls a worker to the barrier, or changes nothing. -/
theorem Worker.phase_wake (w : Worker) :
    (w.phase = .out ∧ ({ w with pauseEvt := true } : Worker).phase = .called) ∨
      ({ w with pauseEvt := true } : Worker).phase = w.phase := by
  obtain ⟨active, pc, todo, stop, dirty, next, notify, pauseEvt, slot⟩ := w
  cases pc with
  | serving =>
    by_cases hp : (Worker.mk active .serving todo stop dirty next notify pauseEvt slot).pausing
    · exact Or.inr (if_pos hp).symm
    · exact Or.inl ⟨if_neg hp, rfl⟩
  | check g | exited r => exact Or.inr rfl
  | park p g => cases p <;> exact Or.inr rfl

/-- A worker that stays in its loop, or leaves it, without having been asked to pause. -/
theorem Worker.move_serving (hpc : w.pc = .serving)
    (hpc' : w'.pc = .serving ∨ ∃ r, w'.pc = .exited r)
    (hp : w'.pc = .serving → w'.pausing = true → w.pausing = true) :
    Move false requested released gen w.phase w'.phase .same := by
  rcases Worker.phase_out_or_called (Or.inl hpc) with h | h
  · have hout : w'.phase = .out := by
      rcases hpc' with hs | ⟨r, hr⟩
      · rw [Worker.phase_serving hs]
        refine if_neg (fun hc => ?_)
        rw [Worker.phase_serving hpc, if_pos (hp hs hc)] at h
        cases h
      · unfold Worker.phase
        rw [hr]
    rw [h, hout]
    exact .stay _
  · rcases Worker.phase_out_or_called hpc' with h' | h'
    · rw [h, h']
      exact .forget
    · rw [h, h']
      exact .stay _

/-- Only the handler of the pause event reads it and fills the slot. -/
theorem Kind.handler_isPause {src : Source} (h : src ≠ .pause) :
    (k.handler src).any WOp.isPause = false := by
  cases src with
  | pause => exact absurd rfl h
  | host => cases k <;> rfl
  | notify q => cases k <;> cases q <;> rfl

theorem Kind.batch_isPause {srcs : List Source} (h : (k.batch srcs).any WOp.isPause = true) :
    .pause ∈ srcs := by
  rw [Kind.batch, List.any_append, List.any_flatMap, Bool.or_eq_true] at h
  rcases h with h | h
  · obtain ⟨src, hsrc, hany⟩ := List.any_eq_true.mp h
    by_cases hp : src = .pause
    · rw [← hp]
      exact hsrc
    · rw [Kind.handler_isPause hp] at hany
      cases hany
  · cases k <;> cases h

theorem Kind.serve_isPause (q : Nat) : (k.serve q).any WOp.isPause = false := by
  cases k <;> rfl

/-- What is left after a failed handler is an end of what there was. -/
theorem Worker.afterAbort_suffix (k : Kind) (todo : List WOp) :
    Worker.afterAbort k todo <:+ todo := by
  have hdrop := List.dropWhile_suffix (l := todo) WOp.isService
  unfold Worker.afterAbort
  split
  · exact hdrop
  · rename_i rest _ heq
    rw [heq] at hdrop
    exact (List.suffix_cons _ _).trans hdrop
  · exact hdrop

theorem any_isPause_of_suffix {todo todo' : List WOp} (h : todo' <:+ todo)
    (hp : todo'.any WOp.isPause = true) : todo.any WOp.isPause = true := by
  rw [List.any_eq_true] at hp ⊢
  obtain ⟨op, hop, hpause⟩ := hp
  exact ⟨op, h.subset hop, hpause⟩

/-- A step that only shortens the `todo` asks for no pause. -/
theorem Worker.pausing_of_suffix (hp : w'.pausing = true) (h : w'.todo <:+ w.todo)
    (he : w'.pauseEvt = w.pauseEvt) : w.pausing = true := by
  unfold Worker.pausing at hp ⊢
  rw [Bool.or_eq_true] at hp ⊢
  rcases hp with hp | hp
  · exact Or.inl (by rw [← he]; exact hp)
  · exact Or.inr (any_isPause_of_suffix h hp)

theorem Worker.todo_suffix {op : WOp} {rest : List WOp} (htodo : w.todo = op :: rest) :
    rest <:+ w.todo := by
  rw [htodo]
  exact List.suffix_cons op rest

/-- Only the eventfd asks for a pause. -/
theorem ServeStep.pausing (h : ServeStep k gen avail w act w' e) (hp : w'.pausing = true) :
    w.pausing = true := by
  cases h with
  | poll srcs htodo _ hready =>
    refine (Bool.or_eq_true _ _).mpr (Or.inl ?_)
    rcases (Bool.or_eq_true _ _).mp hp with hp | hp
    · exact hp
    · exact hready _ (Kind.batch_isPause hp)
  | pollFails | write | mark | stopped => exact hp
  | readNotify q rest htodo | skip op rest htodo _ | drained q rest htodo _
  | addUsed _ q rest _ htodo | signal i rest htodo | fillSlot rest htodo _
  | batchEnd rest htodo _ => exact Worker.pausing_of_suffix hp (Worker.todo_suffix htodo) rfl
  | readFails q rest htodo =>
    cases k with
    | net => exact Worker.pausing_of_suffix hp (Worker.todo_suffix htodo) rfl
    | vsock =>
      refine (Bool.or_eq_true _ _).mpr (Or.inl ?_)
      exact ((Bool.or_eq_true _ _).mp hp).resolve_right (fun h => by cases h)
    | _ => exact hp
  | readPause rest htodo =>
    refine (Bool.or_eq_true _ _).mpr (Or.inr ?_)
    rw [htodo]
    rfl
  | chain q rest htodo _ =>
    unfold Worker.pausing at hp ⊢
    rw [List.any_append, Kind.serve_isPause, Bool.false_or] at hp
    rw [htodo]
    exact hp
  | deliver rest htodo _ =>
    unfold Worker.pausing at hp ⊢
    rw [htodo]
    exact hp
  | abort => exact Worker.pausing_of_suffix hp (Worker.afterAbort_suffix k w.todo) rfl

theorem Worker.pausing_of_fillSlot {rest : List WOp} (htodo : w.todo = .fillSlot :: rest) :
    w.pausing = true := by
  refine (Bool.or_eq_true _ _).mpr (Or.inr ?_)
  rw [htodo]
  rfl

theorem Worker.serve_move (hpc : w.pc = .serving) (h : ServeStep k gen avail w act w' e) :
    Move false requested released gen w.phase w'.phase e.count := by
  rcases h.slot_cases hpc with ⟨-, hpc'⟩ | ⟨rest, htodo, -, rfl, rfl⟩
  · have hcount : e.count = .same := by
      cases h <;> rfl
    rw [hcount]
    exact Worker.move_serving hpc hpc' (fun _ => h.pausing)
  · rw [Worker.phase_serving hpc, if_pos (Worker.pausing_of_fillSlot htodo)]
    exact .capture

/-- After a freeze or a release the worker is out of the barrier or called again. -/
theorem Worker.phase_freeze : (w.freeze k).phase = .out ∨ (w.freeze k).phase = .called := by
  cases k with
  | block => exact Worker.phase_out_or_called (Or.inr ⟨_, rfl⟩)
  | vsock | net | inflate | deflate => exact Worker.phase_out_or_called (Or.inl rfl)

/-- **Every step of a worker is a move at the barrier.** -/
theorem Worker.step_move (h : WorkerStep k requested released gen avail w act w' e) :
    Move false requested released gen w.phase w'.phase e.count := by
  cases h with
  | serve _ _ _ hpc _ hs => exact Worker.serve_move hpc hs
  | toPark g hpc _ =>
    rw [Worker.phase_of_pc hpc]
    exact .stay _
  | freeze g hpc hreq =>
    rw [Worker.phase_of_pc hpc]
    exact .drop g _ hreq Worker.phase_freeze
  | enter g hpc =>
    rw [Worker.phase_of_pc hpc]
    exact .enter g
  | see g hpc hrel =>
    rw [Worker.phase_of_pc hpc]
    exact .see g hrel
  | leave g hpc =>
    rw [Worker.phase_of_pc hpc]
    exact .leave g _ (Worker.phase_out_or_called (Or.inl rfl))

theorem Worker.pc_of_waiting {x : Worker} {g : Nat} (h : x.phase = .waiting g) :
    x.pc = .park .wait g := by
  unfold Worker.phase at h
  cases hpc : x.pc with
  | park p g' =>
    rw [hpc] at h
    cases p <;> cases h
    rfl
  | check g' | exited r => rw [hpc] at h; cases h
  | serving => rw [hpc] at h; simp only at h; split at h <;> cases h

end Phase

end MicroMachines.Vmm
