import MicroMachines.Vmm.Worker
import MicroMachines.Vmm.Orchestrator

set_option autoImplicit false

/-! # The running machine

The threads of a machine together: its vCPUs, the workers of its devices, and the thread that
makes the calls of `Orchestrator.lean`, interleaved at the grain of their steps.

Guest RAM has one cell for the avail index and one for the used index of each queue, and cells
for everything else. The image of guest RAM is copied chunk by chunk; how cells are spread over
chunks is a parameter. For `branch`, of which `Branch.lean` has the copying, the last copy takes
each chunk as it is or as it was when the barrier was reached.

Some fields are not in the source and only recorded: the number of requests made (`gen`), the
barrier reached last and guest RAM at that moment (`held`, `barrierRam`), how many used entries
of a queue the guest has been interrupted for (`signalled`), and for how many of them it has
taken the interrupt (`taken`).
-/

namespace MicroMachines.Vmm

open MicroMachines.Lib

/-- A place in guest RAM. -/
inductive Cell
  | avail (w q : Nat)
  | used (w q : Nat)
  | data (a : Nat)
  deriving DecidableEq, Repr

/-- The worker of a device that gets a pause handle when it is attached. -/
def DeviceKind.capturing : DeviceKind → Option Kind
  | .block => some .block
  | .vsock => some .vsock
  | .net => some .net
  | .balloon => none

/-- The workers of a device that gets none. -/
def DeviceKind.detached : DeviceKind → List Kind
  | .balloon => [.inflate, .deflate]
  | _ => []

/-- A machine: its vCPUs, configured devices, memory slots, and the chunks of its image. -/
structure Cfg where
  nVcpu : Nat
  devices : List ConfigDevice
  nSlot : Nat
  nChunks : Nat
  chunkOf : Cell → Nat
  chunkOf_lt : ∀ c, chunkOf c < nChunks

namespace Cfg

/-- The snapshottable devices, in attach order (`device_captures`). -/
def captures (cfg : Cfg) : List Kind := (bootDevices cfg.devices).filterMap DeviceKind.capturing

def balloons (cfg : Cfg) : List Kind := (bootDevices cfg.devices).flatMap DeviceKind.detached

/-- All workers: the snapshottable ones first. -/
def workers (cfg : Cfg) : List Kind := cfg.captures ++ cfg.balloons

def nDev (cfg : Cfg) : Nat := cfg.captures.length

/-- The interrupt line of a worker. The two threads of a balloon share one. -/
def line (cfg : Cfg) (w : Nat) : Nat := if w < cfg.nDev then w else cfg.nDev + (w - cfg.nDev) / 2

def shape (cfg : Cfg) : Shape := ⟨cfg.nVcpu, cfg.nDev, cfg.nSlot⟩

/-- How many threads `quiesce_at_barrier` waits for. -/
def total (cfg : Cfg) (devices : Bool) : Nat := cfg.nVcpu + if devices then cfg.nDev else 0

end Cfg

/-- What a call has saved so far. `copied` counts the chunks of the image; `taken` is recorded
with the chunk of the used index. -/
structure Saved where
  vcpus : Nat → Option VcpuState := fun _ => none
  devs : Nat → Option QueueCapture := fun _ => none
  ram : Cell → Nat := fun _ => 0
  taken : Nat → Nat → Nat := fun _ _ => 0
  copied : Nat := 0

structure Sys where
  requested : Bool := false
  released : Bool := false
  parked : Nat := 0
  pause : Bool := false
  vcpus : Nat → Vcpu
  workers : Nat → Worker
  ram : Cell → Nat
  saved : Saved := {}
  call : Option Call := none
  gen : Nat := 0
  held : Option Bool := none
  barrierRam : Cell → Nat
  signalled : Nat → Nat → Nat
  taken : Nat → Nat → Nat
  /-- `pause_devices` has written an eventfd. -/
  pausedDevices : Bool := false

namespace Sys

def flags (s : Sys) : Flags := ⟨false, s.pause, s.requested, s.released⟩

def setVcpu (s : Sys) (i : Nat) (v : Vcpu) : Sys :=
  { s with vcpus := Function.update s.vcpus i v }

def setWorker (s : Sys) (w : Nat) (x : Worker) : Sys :=
  { s with workers := Function.update s.workers w x }

/-- What a step of a thread does to the rest; `w` is the worker that took it, if it was one. -/
def effect (cfg : Cfg) (s : Sys) (w : Nat) : Effect → Sys
  | .none => s
  | .write a x => { s with ram := Function.update s.ram (.data a) x }
  | .publish w' q =>
    { s with ram := Function.update s.ram (.avail w' q) (s.ram (.avail w' q) + 1) }
  | .takeIrq line =>
    { s with taken := fun w' q => if cfg.line w' = line then s.signalled w' q else s.taken w' q }
  | .notify w' q =>
    s.setWorker w'
      { s.workers w' with notify := Function.update (s.workers w').notify q true }
  | .activate line =>
    { s with
      workers := fun w' =>
        if cfg.line w' = line then { s.workers w' with active := true } else s.workers w' }
  | .addUsed q => { s with ram := Function.update s.ram (.used w q) (s.ram (.used w q) + 1) }
  | .raise i =>
    -- an edge: the bit is set in the LAPIC of the vCPU the line is routed to
    { s with
      vcpus := Function.update s.vcpus i
        { s.vcpus i with lapic := (s.vcpus i).lapic.insert (cfg.line w) }
      signalled := fun w' q =>
        if cfg.line w' = cfg.line w then s.ram (.used w' q) else s.signalled w' q }
  | .enter => { s with parked := s.parked + 1 }
  | .leave => { s with parked := s.parked - 1 }

/-- Copy the next chunk of the image. -/
def copyChunk (cfg : Cfg) (s : Sys) (src : Cell → Nat) : Sys :=
  { s with
    saved :=
      { s.saved with
        ram := fun c => if cfg.chunkOf c = s.saved.copied then src c else s.saved.ram c
        taken := fun w q =>
          if cfg.chunkOf (.used w q) = s.saved.copied then s.taken w q else s.saved.taken w q
        copied := s.saved.copied + 1 } }

/-- Write the pause eventfd of a device. -/
def wakeDevice (s : Sys) (d : Nat) : Sys :=
  { s with
    workers := Function.update s.workers d { s.workers d with pauseEvt := true }
    pausedDevices := s.pausedDevices || decide (s.call = some .snapshot) }

/-- Move a vCPU state out of its slot. -/
def takeVcpu (s : Sys) (i : Nat) (st : VcpuState) : Sys :=
  { s with
    vcpus := Function.update s.vcpus i { s.vcpus i with slot := none }
    saved := { s.saved with vcpus := Function.update s.saved.vcpus i (some st) } }

/-- Move the cursors of a device out of their slot. -/
def takeDevice (s : Sys) (d : Nat) (cap : QueueCapture) : Sys :=
  { s with
    workers := Function.update s.workers d { s.workers d with slot := none }
    saved := { s.saved with devs := Function.update s.saved.devs d (some cap) } }

end Sys

/-- A step of a vCPU or of a worker. -/
inductive SysAct
  | vcpu (i : Nat) (act : VcpuAct)
  | worker (w : Nat) (act : WorkerAct)
  deriving DecidableEq, Repr

/-- An interrupt goes to a vCPU that exists. -/
def WorkerAct.targets (n : Nat) : WorkerAct → Bool
  | .signal i => decide (i < n)
  | _ => true

/-- The steps of the vCPUs and workers. -/
def Sys.env (cfg : Cfg) (s : Sys) : SysAct → Option Sys
  | .vcpu i act =>
    if i < cfg.nVcpu then
      ((s.vcpus i).step s.flags s.gen act).map (fun r =>
        (s.setVcpu i r.1).effect cfg 0 r.2)
    else none
  | .worker w act =>
    match cfg.workers[w]? with
    | none => none
    | some k =>
      if act.targets cfg.nVcpu then
        ((s.workers w).step k s.requested s.released s.gen (fun q => s.ram (.avail w q))
          act).map (fun r => (s.setWorker w r.1).effect cfg w r.2)
      else none

/-- The operations of the orchestrating thread. A deadline can pass at any time. -/
def Sys.op (cfg : Cfg) : Op → Outcome → Sys → Option Sys
  | .clearReleased, .ok, s => some { s with released := false }
  | .clearReleased, _, _ => none
  | .setRequested _, .ok, s => some { s with requested := true, gen := s.gen + 1 }
  | .setRequested _, _, _ => none
  | .wakeDevice d, .ok, s => some (s.wakeDevice d)
  | .waitUntilParked devices, .ok, s =>
    if cfg.total devices ≤ s.parked then
      some { s with held := some devices, barrierRam := s.ram }
    else none
  | .clearRequested, .ok, s => some { s with requested := false, held := none }
  | .clearRequested, _, _ => none
  | .setReleased, .ok, s => some { s with released := true }
  | .setReleased, _, _ => none
  | .waitUntilResumed, .ok, s => if s.parked = 0 then some s else none
  | .takeVcpu i, .ok, s => (s.vcpus i).slot.map (s.takeVcpu i)
  | .takeVcpu i, .err, s => if (s.vcpus i).slot.isNone then some s else none
  | .takeDevice d, .ok, s => (s.workers d).slot.map (s.takeDevice d)
  | .takeDevice d, .err, s => if (s.workers d).slot.isNone then some s else none
  | .waitForCapture d, .ok, s => (s.workers d).slot.map (s.takeDevice d)
  | .createMemoryFile, .ok, s => some { s with saved := { s.saved with copied := 0 } }
  | .openForRecopy, .ok, s => some { s with saved := { s.saved with copied := 0 } }
  | .dumpGuestMemory, .progress _, s =>
    if s.saved.copied < cfg.nChunks then some (s.copyChunk cfg s.ram) else none
  | .dumpGuestMemory, .ok, s => if s.saved.copied = cfg.nChunks then some s else none
  | .recopyBranchPages, .progress n, s =>
    if s.saved.copied < cfg.nChunks then
      some (s.copyChunk cfg (if n = 0 then s.ram else s.barrierRam))
    else none
  | .recopyBranchPages, .ok, s => if s.saved.copied = cfg.nChunks then some s else none
  | .setVcpuPause, .ok, s => some { s with pause := true }
  | .setVcpuPause, _, _ => none
  | .joinVcpu i, .ok, s =>
    -- a handle that an earlier call has joined is no longer there
    if (s.vcpus i).handle = false then some s
    else match (s.vcpus i).pc with
      | .returned .error => none
      | .returned _ =>
        some (s.setVcpu i { s.vcpus i with handle := false })
      | _ => none
  | .joinVcpu i, .err, s =>
    if (s.vcpus i).handle = true ∧ (s.vcpus i).pc = .returned .error then
      some (s.setVcpu i { s.vcpus i with handle := false })
    else none
  | .writeBranchImage, .progress _, s => some s
  | _, .progress _, _ => none
  | _, _, s => some s

/-- The machine: a new call starts with nothing saved. -/
def sysMachine (cfg : Cfg) : Machine Sys SysAct Op Call (Except VmmError Unit) where
  env := Sys.env cfg
  op := Sys.op cfg
  enter call s := { s with saved := {}, call := some call }
  script := Call.script cfg.shape

abbrev SysConfig : Type := Config Sys Op (Except VmmError Unit)
abbrev SysAction : Type := Action SysAct Call

/-- What a machine starts with, freshly booted or restored: guest RAM, the LAPICs, and which
workers are active and where in their queues they are. -/
structure Start where
  ram : Cell → Nat
  lapic : Nat → List Nat
  active : Nat → Bool
  next : Nat → Nat → Nat

def Start.state (start : Start) : Sys :=
  { vcpus := fun i => { lapic := start.lapic i }
    workers := fun w => { active := start.active w, next := start.next w }
    ram := start.ram
    barrierRam := start.ram
    signalled := fun w q => start.ram (.used w q)
    taken := fun w q => start.ram (.used w q) }

/-- Before the first call. -/
def Start.config (start : Start) : SysConfig := ⟨start.state, .done (.ok ())⟩

/-! ## Small machines

What concrete runs are written with. -/

/-- One vCPU, block and vsock, and an image of one chunk. -/
def oneVcpu : Cfg := ⟨1, [], 1, 1, fun _ => 0, fun _ => Nat.zero_lt_one⟩

/-- Empty guest RAM; the devices have been activated or not. -/
def blank (active : Bool) : Start := ⟨fun _ => 0, fun _ => [], fun _ => active, fun _ _ => 0⟩

namespace Act

/-- The next operation succeeds. -/
def ok : SysAction := .op .ok

/-- The next operation fails. -/
def err : SysAction := .op .err

/-- The only vCPU takes a step. -/
def vcpu (act : VcpuAct) : SysAction := .env (.vcpu 0 act)

def worker (w : Nat) (act : WorkerAct) : SysAction := .env (.worker w act)

/-- The vCPU enters the guest from the top of its loop. -/
def enterGuest : List SysAction := List.replicate 3 (vcpu .go)

/-- The guest writes a register. -/
def mmioWrite (a : Access) : List SysAction := [vcpu (.exit (.mmioWrite a)), vcpu .go]

/-- The block and the vsock worker answer their pause eventfds and park. -/
def parkDevices : List SysAction :=
  [worker 0 (.poll [.pause])] ++ List.replicate 6 (worker 0 .go) ++
  [worker 1 (.poll [.pause])] ++ List.replicate 4 (worker 1 .go)

/-- The vCPU is kicked out of the guest and parks. -/
def parkVcpu : List SysAction := [vcpu (.exit .eintr)] ++ List.replicate 6 (vcpu .go)

/-- Everybody sees the release. -/
def resume : List SysAction :=
  List.replicate 2 (vcpu .go) ++ List.replicate 2 (worker 0 .go) ++ List.replicate 2 (worker 1 .go)

/-- A checkpoint with devices runs into its deadline before the vCPU has entered the guest and
before the devices are active; then the guest activates its block device. -/
def missedCheckpoint : List SysAction :=
  [.call .checkpointFullInPlace] ++ List.replicate 4 ok ++ [err] ++ List.replicate 3 ok ++
  enterGuest ++ mmioWrite (.activate 0)

end Act

/-! ## What a step of a thread can do -/

/-- The fields that only the orchestrating thread changes are the same. -/
structure Sys.Frame (s s' : Sys) : Prop where
  requested : s'.requested = s.requested
  released : s'.released = s.released
  pause : s'.pause = s.pause
  saved : s'.saved = s.saved
  call : s'.call = s.call
  gen : s'.gen = s.gen
  held : s'.held = s.held
  barrierRam : s'.barrierRam = s.barrierRam
  pausedDevices : s'.pausedDevices = s.pausedDevices

theorem Sys.Frame.trans {s s' s'' : Sys} (h : s.Frame s') (h' : s'.Frame s'') : s.Frame s'' :=
  ⟨h'.requested.trans h.requested, h'.released.trans h.released, h'.pause.trans h.pause,
    h'.saved.trans h.saved, h'.call.trans h.call, h'.gen.trans h.gen, h'.held.trans h.held,
    h'.barrierRam.trans h.barrierRam, h'.pausedDevices.trans h.pausedDevices⟩

section Steps

variable {cfg : Cfg} {s s' : Sys} {t : SysAct}

@[simp] theorem Sys.setVcpu_self (i : Nat) (v : Vcpu) : (s.setVcpu i v).vcpus i = v :=
  Function.update_self _ _ _

theorem Sys.setVcpu_ne {i j : Nat} (h : j ≠ i) (v : Vcpu) : (s.setVcpu i v).vcpus j = s.vcpus j :=
  Function.update_of_ne h _ _

@[simp] theorem Sys.setWorker_self (w : Nat) (x : Worker) : (s.setWorker w x).workers w = x :=
  Function.update_self _ _ _

theorem Sys.setWorker_ne {w w' : Nat} (h : w' ≠ w) (x : Worker) :
    (s.setWorker w x).workers w' = s.workers w' :=
  Function.update_of_ne h _ _

theorem Sys.effect_frame (cfg : Cfg) (s : Sys) (w : Nat) (e : Effect) :
    s.Frame (s.effect cfg w e) := by
  cases e <;> exact ⟨rfl, rfl, rfl, rfl, rfl, rfl, rfl, rfl, rfl⟩

theorem Sys.effect_parked (cfg : Cfg) (s : Sys) (w : Nat) (e : Effect) :
    (s.effect cfg w e).parked = e.count.apply s.parked := by
  cases e <;> rfl

/-- Other threads change nothing of a vCPU but its LAPIC. -/
theorem Sys.effect_vcpu (cfg : Cfg) (s : Sys) (w : Nat) (e : Effect) (i : Nat) :
    ∃ l, (s.effect cfg w e).vcpus i = { s.vcpus i with lapic := l } := by
  cases e with
  | raise j =>
    by_cases hij : i = j
    · subst hij
      exact ⟨_, Function.update_self _ _ _⟩
    · exact ⟨_, Function.update_of_ne hij _ _⟩
  | _ => exact ⟨_, rfl⟩

/-- Other threads change nothing of a worker but whether it is active and notified. -/
theorem Sys.effect_worker (cfg : Cfg) (s : Sys) (w : Nat) (e : Effect) (w' : Nat) :
    ∃ a n, (s.effect cfg w e).workers w' = { s.workers w' with active := a, notify := n } := by
  cases e with
  | notify x q =>
    by_cases hx : w' = x
    · subst hx
      exact ⟨_, _, Sys.setWorker_self _ _⟩
    · exact ⟨_, _, Sys.setWorker_ne hx _⟩
  | activate line =>
    by_cases hl : cfg.line w' = line
    · exact ⟨true, (s.workers w').notify, if_pos hl⟩
    · exact ⟨(s.workers w').active, (s.workers w').notify, if_neg hl⟩
  | _ => exact ⟨_, _, rfl⟩

/-- **What a step of a thread can do**: a step of one vCPU or one worker, and its effect. -/
theorem Sys.env_cases (h : s.env cfg t = some s') : (∃ i act v e, t = .vcpu i act ∧ i < cfg.nVcpu ∧
      VcpuStep s.flags s.gen (s.vcpus i) act v e ∧ s' = (s.setVcpu i v).effect cfg 0 e) ∨
    (∃ w k act x e, t = .worker w act ∧ cfg.workers[w]? = some k ∧ act.targets cfg.nVcpu = true ∧
      WorkerStep k s.requested s.released s.gen (fun q => s.ram (.avail w q)) (s.workers w) act x e ∧
      s' = (s.setWorker w x).effect cfg w e) := by
  cases t with
  | vcpu i act =>
    unfold Sys.env at h
    simp only at h
    split at h
    next hi =>
        obtain ⟨⟨v, e⟩, hstep, rfl⟩ := Option.map_eq_some_iff.mp h
        exact Or.inl ⟨i, act, v, e, rfl, hi, Vcpu.step_cases hstep, rfl⟩
    next => cases h
  | worker w act =>
    unfold Sys.env at h
    simp only at h
    split at h
    next => cases h
    next k hk =>
        split at h
        next htarget =>
            obtain ⟨⟨x, e⟩, hstep, rfl⟩ := Option.map_eq_some_iff.mp h
            exact Or.inr ⟨w, k, act, x, e, rfl, hk, htarget, Worker.step_cases hstep, rfl⟩
        next => cases h

theorem Sys.env_frame (h : s.env cfg t = some s') : s.Frame s' := by
  rcases Sys.env_cases h with ⟨i, act, v, e, -, -, -, rfl⟩ | ⟨w, k, act, x, e, -, -, -, -, rfl⟩
  · have hset : s.Frame (s.setVcpu i v) := ⟨rfl, rfl, rfl, rfl, rfl, rfl, rfl, rfl, rfl⟩
    exact hset.trans (Sys.effect_frame cfg _ 0 e)
  · have hset : s.Frame (s.setWorker w x) := ⟨rfl, rfl, rfl, rfl, rfl, rfl, rfl, rfl, rfl⟩
    exact hset.trans (Sys.effect_frame cfg _ w e)

/-- What a step of a thread means for one vCPU: its own step, or at most a change of its LAPIC. -/
theorem Sys.env_vcpu_cases (h : s.env cfg t = some s') (i : Nat) :
    (∃ l, s'.vcpus i = { s.vcpus i with lapic := l } ∧ ∀ act, t ≠ .vcpu i act) ∨
    ∃ act x e l, t = .vcpu i act ∧ VcpuStep s.flags s.gen (s.vcpus i) act x e ∧
      s'.vcpus i = { x with lapic := l } := by
  rcases Sys.env_cases h with ⟨j, act, v, e, rfl, -, hv, rfl⟩ | ⟨w, k, act, x, e, rfl, -, -, -, rfl⟩
  · obtain ⟨l, hl⟩ := Sys.effect_vcpu cfg (s.setVcpu j v) 0 e i
    rw [hl]
    by_cases hij : i = j
    · subst hij
      rw [Sys.setVcpu_self]
      exact Or.inr ⟨act, v, e, l, rfl, hv, rfl⟩
    · rw [Sys.setVcpu_ne hij]
      exact Or.inl ⟨l, rfl, fun act h => hij (SysAct.vcpu.inj h).1.symm⟩
  · obtain ⟨l, hl⟩ := Sys.effect_vcpu cfg (s.setWorker w x) w e i
    exact Or.inl ⟨l, hl, nofun⟩

/-- A property of the vCPUs that their steps keep, whatever happens to their LAPICs. -/
theorem Sys.env_forall_vcpu {P : Nat → Vcpu → Prop} (h : s.env cfg t = some s')
    (hlapic : ∀ i v l, P i v → P i { v with lapic := l })
    (hstep : ∀ i act v e, t = .vcpu i act → VcpuStep s.flags s.gen (s.vcpus i) act v e →
      P i (s.vcpus i) → P i v)
    (hP : ∀ i, P i (s.vcpus i)) (i : Nat) : P i (s'.vcpus i) := by
  rcases Sys.env_vcpu_cases h i with ⟨l, hi, -⟩ | ⟨act, x, e, l, ht, hx, hi⟩
  · rw [hi]
    exact hlapic i _ l (hP i)
  · rw [hi]
    exact hlapic i x l (hstep i act x e ht hx (hP i))

/-- What a step of a thread means for one worker: its own step, or at most a notification. -/
theorem Sys.env_worker_cases (h : s.env cfg t = some s') (w : Nat) :
    (∃ a n, s'.workers w = { s.workers w with active := a, notify := n } ∧
      ∀ act, t ≠ .worker w act) ∨
    ∃ k act x e a n, t = .worker w act ∧ cfg.workers[w]? = some k ∧
      WorkerStep k s.requested s.released s.gen (fun q => s.ram (.avail w q)) (s.workers w) act x e ∧
      s'.workers w = { x with active := a, notify := n } := by
  rcases Sys.env_cases h with ⟨j, act, v, e, rfl, -, -, rfl⟩ | ⟨j, k, act, x, e, rfl, hk, -, hx, rfl⟩
  · obtain ⟨a, n, hw⟩ := Sys.effect_worker cfg (s.setVcpu j v) 0 e w
    exact Or.inl ⟨a, n, hw, nofun⟩
  · obtain ⟨a, n, hw⟩ := Sys.effect_worker cfg (s.setWorker j x) j e w
    rw [hw]
    by_cases hwj : w = j
    · subst hwj
      rw [Sys.setWorker_self]
      exact Or.inr ⟨k, act, x, e, a, n, rfl, hk, hx, rfl⟩
    · rw [Sys.setWorker_ne hwj]
      exact Or.inl ⟨a, n, rfl, fun act h => hwj (SysAct.worker.inj h).1.symm⟩

/-- A property of the workers that their steps keep, however they are notified. -/
theorem Sys.env_forall_worker {P : Nat → Worker → Prop} (h : s.env cfg t = some s')
    (hnotify : ∀ w x a n, P w x → P w { x with active := a, notify := n })
    (hstep : ∀ w k act x e, t = .worker w act → cfg.workers[w]? = some k →
      WorkerStep k s.requested s.released s.gen (fun q => s.ram (.avail w q)) (s.workers w) act x e →
      P w (s.workers w) → P w x)
    (hP : ∀ w, P w (s.workers w)) (w : Nat) : P w (s'.workers w) := by
  rcases Sys.env_worker_cases h w with ⟨a, n, hw, -⟩ | ⟨k, act, x, e, a, n, ht, hk, hx, hw⟩
  · rw [hw]
    exact hnotify w _ a n (hP w)
  · rw [hw]
    exact hnotify w x a n (hstep w k act x e ht hk hx (hP w))

/-- Only the guest publishes chains. -/
theorem Sys.effect_avail {w : Nat} {e : Effect} (he : ∀ w' q, e ≠ .publish w' q) (w' q : Nat) :
    (s.effect cfg w e).ram (.avail w' q) = s.ram (.avail w' q) := by
  cases e with
  | publish x y => exact absurd rfl (he x y)
  | write a x =>
    show Function.update s.ram (.data a) x (.avail w' q) = _
    rw [Function.update_of_ne (by simp)]
  | addUsed x =>
    show Function.update s.ram (.used w x) (s.ram (.used w x) + 1) (.avail w' q) = _
    rw [Function.update_of_ne (by simp)]
  | _ => rfl

theorem Sys.env_avail (h : s.env cfg t = some s') :
    (∃ i w q, t = .vcpu i (.publish w q) ∧ s'.workers = s.workers ∧
      s'.ram = Function.update s.ram (.avail w q) (s.ram (.avail w q) + 1)) ∨
    ∀ w q, s'.ram (.avail w q) = s.ram (.avail w q) := by
  rcases Sys.env_cases h with ⟨i, act, v, e, rfl, -, hv, rfl⟩ | ⟨w, k, act, x, e, -, -, -, hx, rfl⟩
  · cases hv with
    | publish w q => exact Or.inl ⟨i, w, q, rfl, rfl, rfl⟩
    | dispatch a => exact Or.inr (Sys.effect_avail (fun w' q => by cases a <;> nofun))
    | _ => exact Or.inr (Sys.effect_avail nofun)
  · refine Or.inr (Sys.effect_avail (fun w' q => ?_))
    cases hx with
    | serve _ _ _ _ _ hs => cases hs <;> nofun
    | _ => nofun

end Steps

/-! ## The workers of a machine -/

theorem Cfg.captures_pausable (cfg : Cfg) {k : Kind} (h : k ∈ cfg.captures) :
    k.pausable = true := by
  obtain ⟨kind, -, hk⟩ := List.mem_filterMap.mp h
  cases kind <;> cases hk <;> rfl

theorem Cfg.balloons_not_pausable (cfg : Cfg) {k : Kind} (h : k ∈ cfg.balloons) :
    k.pausable = false := by
  obtain ⟨kind, -, hk⟩ := List.mem_flatMap.mp h
  cases kind <;> simp only [DeviceKind.detached, List.mem_cons, List.not_mem_nil, or_false] at hk
  rcases hk with rfl | rfl <;> rfl

theorem Cfg.workers_of_captures {cfg : Cfg} {d : Nat} {k : Kind} (h : cfg.captures[d]? = some k) :
    cfg.workers[d]? = some k ∧ d < cfg.nDev := by
  have hd : d < cfg.captures.length := (List.getElem?_eq_some_iff.mp h).1
  refine ⟨?_, hd⟩
  rw [Cfg.workers, List.getElem?_append_left hd]
  exact h

/-- The first workers are those with a pause handle. -/
theorem Cfg.pausable_iff {cfg : Cfg} {w : Nat} {k : Kind} (h : cfg.workers[w]? = some k) :
    k.pausable = true ↔ w < cfg.nDev := by
  rw [Cfg.workers, List.getElem?_append] at h
  by_cases hw : w < cfg.captures.length
  · rw [if_pos hw] at h
    exact ⟨fun _ => hw, fun _ => cfg.captures_pausable (List.mem_of_getElem? h)⟩
  · rw [if_neg hw] at h
    constructor
    · intro hp
      rw [cfg.balloons_not_pausable (List.mem_of_getElem? h)] at hp
      cases hp
    · exact fun h => absurd h hw

end MicroMachines.Vmm
