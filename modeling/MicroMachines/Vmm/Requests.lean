import MicroMachines.Vmm.HeldRam

set_option autoImplicit false

/-! # Requests at a snapshot

A snapshot saves the cursor `next_avail` of each queue as its worker captured it, and guest RAM
with the avail index the guest has published. If they differ for a queue on which the guest makes
requests, a published request waits after a restore and nobody is notified of it.

Block and net drain that queue before they capture. In place the vCPUs are still running then, and
vsock does not drain at all.

* `Worker.Tracks`: what a worker knows about its request queue between its final drain and the
  collection of its cursor.
* `request_lost`: a chain published after the final drain of the block worker is lost.
* `requests_saved`: no request is lost in runs in which requests come in time.
-/

namespace MicroMachines.Vmm

open MicroMachines.Lib

/-! ## What is left to do before the capture -/

/-- Of what is left to do, the capture comes before the next drain of queue `q`. -/
def drainOver (q : Nat) (todo : List WOp) : Bool :=
  todo.find? (fun op => op == .fillSlot || op == .drain q) == some .fillSlot

/-- The operations of a worker's handlers: it drains only its request queue, and delivers to
queue 0 only if that is another one. -/
def Kind.does (k : Kind) : WOp → Bool
  | .drain q => q == k.requestQueue
  | .rx => k.requestQueue != 0
  | _ => true

section Todo

variable {k : Kind} {q : Nat} {op : WOp} {todo rest : List WOp}

theorem drainOver_cons (h : op ≠ .fillSlot) (hq : op ≠ .drain q) :
    drainOver q (op :: rest) = drainOver q rest := by
  unfold drainOver
  rw [List.find?_cons_of_neg (by simp [h, hq])]

theorem drainOver_drain : drainOver q (.drain q :: rest) = false := by
  simp [drainOver]

theorem drainOver_append (h : ∀ op ∈ todo, op ≠ .fillSlot ∧ op ≠ .drain q) :
    drainOver q (todo ++ rest) = drainOver q rest := by
  induction todo with
  | nil => rfl
  | cons op todo ih =>
    have hop := h op (List.mem_cons_self ..)
    rw [List.cons_append, drainOver_cons hop.1 hop.2]
    exact ih (fun op' h' => h op' (List.mem_cons_of_mem _ h'))

/-- Without a pause in the list there is no capture in it. -/
theorem drainOver_of_not_isPause (h : todo.any WOp.isPause = false) : drainOver q todo = false := by
  rw [Bool.eq_false_iff]
  intro hd
  have hmem := List.mem_of_find?_eq_some (beq_iff_eq.mp hd)
  rw [List.any_eq_false] at h
  exact h _ hmem rfl

/-- The handlers of block and net drain before they capture. -/
theorem Kind.drainOver_handler (hk : k ≠ .vsock) (src : Source) :
    drainOver k.requestQueue (k.handler src ++ rest) = true →
      drainOver k.requestQueue rest = true := by
  cases k with
  | vsock => exact absurd rfl hk
  | block | inflate | deflate => cases src <;> simp [Kind.handler, Kind.requestQueue, drainOver]
  | net =>
    cases src with
    | notify q => cases q <;> simp [Kind.handler, Kind.requestQueue, drainOver]
    | _ => simp [Kind.handler, Kind.requestQueue, drainOver]

theorem Kind.drainOver_batch (hk : k ≠ .vsock) (srcs : List Source) :
    drainOver k.requestQueue (k.batch srcs) = false := by
  unfold Kind.batch
  induction srcs with
  | nil => cases k <;> rfl
  | cons src srcs ih =>
    rw [List.flatMap_cons, List.append_assoc, Bool.eq_false_iff]
    intro h
    rw [Kind.drainOver_handler hk src h] at ih
    cases ih

theorem Kind.does_batch (srcs : List Source) : (k.batch srcs).all k.does = true := by
  have hhandler : ∀ src, (k.handler src).all k.does = true := by
    intro src
    cases src with
    | notify q => cases k <;> cases q <;> rfl
    | pause | host => cases k <;> rfl
  rw [Kind.batch, List.all_append, List.all_flatMap, Bool.and_eq_true]
  refine ⟨List.all_eq_true.mpr (fun src _ => hhandler src), ?_⟩
  cases k <;> rfl

theorem Kind.does_serve (k : Kind) (q : Nat) : (k.serve q).all k.does = true := by
  cases k <;> rfl

theorem Kind.serve_drains (k : Kind) (q q' : Nat) :
    ∀ op ∈ k.serve q, op ≠ .fillSlot ∧ op ≠ .drain q' := by
  cases k <;> simp [Kind.serve]

theorem WOp.isSkip_drains (h : op.isSkip = true) : op ≠ .fillSlot ∧ op ≠ .drain q := by
  cases op <;> cases h <;> exact ⟨nofun, nofun⟩

theorem all_does_suffix (h : rest <:+ todo) (hall : todo.all k.does = true) :
    rest.all k.does = true := by
  rw [List.all_eq_true] at hall ⊢
  exact fun op hop => hall op (h.subset hop)

end Todo

/-! ## The request queue of a worker -/

/-- The cursor is behind the avail index; when what is left to do is the capture, and in a slot
filled for this request or in this freeze, it has reached it. -/
structure Worker.Tracks (k : Kind) (gen : Nat) (avail : Nat → Nat) (cyc paus : Bool) (w : Worker) :
    Prop where
  does : w.todo.all k.does = true
  le : ∀ q, w.next q ≤ avail q
  stamp : ∀ cap, w.slot = some cap → cap.gen ≤ gen
  reached : cyc = true ∨ paus = true → (∀ r, w.pc ≠ .exited r) → k ≠ .vsock →
    drainOver k.requestQueue w.todo = true → w.next k.requestQueue = avail k.requestQueue
  cycle : cyc = true → ∀ cap, w.slot = some cap → cap.gen = gen →
    w.pc.captured = some gen ∧ cap.next k.requestQueue = avail k.requestQueue
  paused : paus = true → ∀ cap, w.slot = some cap →
    cap.next k.requestQueue = avail k.requestQueue

section Tracks

variable {k : Kind} {requested released : Bool} {gen : Nat} {avail : Nat → Nat} {w w' : Worker}
  {act : WorkerAct} {e : Effect} {cyc paus : Bool}

/-- What a step in the loop does to the cursors and to what is left. -/
theorem ServeStep.tracks {stage : Prop} (hdoes : w.todo.all k.does = true)
    (hle : ∀ q, w.next q ≤ avail q)
    (hreached : stage → k ≠ .vsock → drainOver k.requestQueue w.todo = true →
      w.next k.requestQueue = avail k.requestQueue)
    (hact : ∀ lose, act ≠ .abort lose) (h : ServeStep k gen avail w act w' e) :
    w'.todo.all k.does = true ∧ (∀ q, w'.next q ≤ avail q) ∧
      (stage → (∀ r, w'.pc ≠ .exited r) → k ≠ .vsock → drainOver k.requestQueue w'.todo = true →
        w'.next k.requestQueue = avail k.requestQueue) := by
  have hrest : ∀ {op rest}, w.todo = op :: rest → rest.all k.does = true :=
    fun htodo => all_does_suffix (Worker.todo_suffix htodo) hdoes
  -- most steps drop an operation that has nothing to do with the cursor
  have hdrop : ∀ {op rest}, w.todo = op :: rest →
      op ≠ .fillSlot ∧ op ≠ .drain k.requestQueue → stage → k ≠ .vsock →
      drainOver k.requestQueue rest = true → w.next k.requestQueue = avail k.requestQueue := by
    intro op rest htodo hop hs hk hd
    refine hreached hs hk ?_
    rw [htodo, drainOver_cons hop.1 hop.2]
    exact hd
  cases h with
  | poll srcs =>
    refine ⟨Kind.does_batch srcs, hle, fun _ _ hk hd => ?_⟩
    cases (Kind.drainOver_batch hk srcs).symm.trans hd
  | pollFails | stopped => exact ⟨hdoes, hle, fun _ hex => absurd rfl (hex _)⟩
  | readNotify q rest htodo | readPause rest htodo | signal i rest htodo
  | batchEnd rest htodo | addUsed _ q rest _ htodo =>
    exact ⟨hrest htodo, hle, fun hs _ => hdrop htodo ⟨nofun, nofun⟩ hs⟩
  | readFails q rest htodo =>
    cases k with
    | net =>
      exact ⟨hrest htodo, hle, fun hs _ => hdrop htodo ⟨nofun, nofun⟩ hs⟩
    | vsock => exact ⟨rfl, hle, fun _ _ hk => absurd rfl hk⟩
    | _ => exact ⟨hdoes, hle, fun _ hex => absurd rfl (hex _)⟩
  | skip op rest htodo hop =>
    exact ⟨hrest htodo, hle, fun hs _ => hdrop htodo (WOp.isSkip_drains hop) hs⟩
  | chain q rest htodo hlt =>
    have hq : q = k.requestQueue := by
      rw [htodo, List.all_cons, Bool.and_eq_true] at hdoes
      exact beq_iff_eq.mp hdoes.1
    refine ⟨?_, ?_, fun _ _ _ hd => ?_⟩
    · rw [List.all_append, Kind.does_serve, Bool.true_and, ← htodo]
      exact hdoes
    · refine (Function.forall_update_iff w.next (p := fun q n => n ≤ avail q)).mpr
        ⟨hlt, fun q' _ => hle q'⟩
    · rw [drainOver_append (Kind.serve_drains k q _), hq, drainOver_drain] at hd
      cases hd
  | drained q rest htodo hge =>
    have hq : q = k.requestQueue := by
      rw [htodo, List.all_cons, Bool.and_eq_true] at hdoes
      exact beq_iff_eq.mp hdoes.1
    subst hq
    exact ⟨hrest htodo, hle, fun _ _ _ _ => Nat.le_antisymm (hle _) (Nat.le_of_not_lt hge)⟩
  | write | mark => exact ⟨hdoes, hle, fun hs _ => hreached hs⟩
  | deliver rest htodo hlt =>
    have hq : k.requestQueue ≠ 0 := by
      rw [htodo, List.all_cons, Bool.and_eq_true] at hdoes
      exact bne_iff_ne.mp hdoes.1
    refine ⟨?_, ?_, fun hs _ hk hd => ?_⟩
    · rw [htodo] at hdoes
      exact hdoes
    · exact (Function.forall_update_iff w.next (p := fun q n => n ≤ avail q)).mpr
        ⟨hlt, fun q' _ => hle q'⟩
    · show Function.update w.next 0 _ k.requestQueue = _
      rw [Function.update_of_ne hq]
      refine hreached hs hk ?_
      rw [htodo]
      rwa [drainOver_cons (by simp) (by simp), drainOver_cons (by simp) (by simp)] at hd
  | fillSlot rest htodo =>
    refine ⟨hrest htodo, hle, fun hs _ hk _ => hreached hs hk ?_⟩
    rw [htodo]
    rfl
  | abort lose => exact absurd rfl (hact lose)

/-- A step from one place of the barrier to another. -/
theorem Worker.Tracks.move (hT : w.Tracks k gen avail cyc paus) {p : WorkerPc} (hpc : w.pc = p)
    (htodo : w'.todo = w.todo) (hnext : w'.next = w.next) (hslot : w'.slot = w.slot)
    (hin : cyc = true → w'.pc.captured = p.captured) (hp : ∀ r, p ≠ .exited r) :
    w'.Tracks k gen avail cyc paus := by
  refine ⟨?_, ?_, ?_, fun hst _ => ?_, fun hc => ?_, ?_⟩
  · rw [htodo]
    exact hT.does
  · rw [hnext]
    exact hT.le
  · rw [hslot]
    exact hT.stamp
  · rw [htodo, hnext]
    exact hT.reached hst (by rw [hpc]; exact hp)
  · rw [hslot, hin hc, ← hpc]
    exact hT.cycle hc
  · rw [hslot]
    exact hT.paused

/-- A step of the worker. In a cycle nobody is on the way out of the barrier. -/
theorem Worker.tracks_step (hT : w.Tracks k gen avail cyc paus) (hreq : requested = cyc)
    (hcyc : cyc = true → released = false ∧ ∀ g, w.pc ≠ .park .sub g)
    (hact : ∀ lose, act ≠ .abort lose)
    (hvsock : k = .vsock → w.todo.head? = some .fillSlot → act = .go →
      w.next k.requestQueue = avail k.requestQueue)
    (h : WorkerStep k requested released gen avail w act w' e) :
    w'.Tracks k gen avail cyc paus := by
  cases h with
  | serve _ _ _ hpc _ hs =>
    have hlive : ∀ r, w.pc ≠ .exited r := by
      intro r
      rw [hpc]
      nofun
    obtain ⟨hdoes, hle, hreached⟩ := hs.tracks hT.does hT.le (fun hst => hT.reached hst hlive) hact
    rcases hs.slot_cases hpc with ⟨hslot, -⟩ | ⟨rest, htodo, hgo, -, rfl⟩
    · refine ⟨hdoes, hle, ?_, hreached, ?_, ?_⟩
      · rw [hslot]
        exact hT.stamp
      · intro hc cap hcap hgen
        have hin := (hT.cycle hc cap (by rw [← hslot]; exact hcap) hgen).1
        rw [hpc] at hin
        cases hin
      · rw [hslot]
        exact hT.paused
    · have hnext : cyc = true ∨ paus = true →
          w.next k.requestQueue = avail k.requestQueue := by
        intro hstage
        by_cases hk : k = .vsock
        · exact hvsock hk (by rw [htodo]; rfl) hgo
        · refine hT.reached hstage hlive hk ?_
          rw [htodo]
          rfl
      refine ⟨hdoes, hle, ?_, hreached, ?_, ?_⟩
      · rintro cap ⟨rfl⟩
        exact Nat.le_refl _
      · rintro hc cap ⟨rfl⟩ -
        exact ⟨rfl, hnext (Or.inl hc)⟩
      · rintro hp cap ⟨rfl⟩
        exact hnext (Or.inr hp)
  | toPark g hpc _ | enter g hpc => exact hT.move hpc rfl rfl rfl (fun _ => rfl) nofun
  | freeze g hpc hno =>
    have hc : cyc ≠ true := by
      rw [← hreq, hno]
      nofun
    cases k with
    | block => exact ⟨hT.does, hT.le, hT.stamp, fun _ hex => absurd rfl (hex _),
        fun h => absurd h hc, hT.paused⟩
    | _ => exact hT.move hpc rfl rfl rfl (fun h => absurd h hc) nofun
  | see g hpc hrel =>
    refine hT.move hpc rfl rfl rfl (fun hc => ?_) nofun
    cases (hcyc hc).1.symm.trans hrel
  | leave g hpc => exact hT.move hpc rfl rfl rfl (fun hc => absurd hpc ((hcyc hc).2 g)) nofun

/-- A worker that is out of the barrier is not about to capture. -/
theorem Worker.not_drainOver_of_out (hout : w.phase = .out) (hlive : ∀ r, w.pc ≠ .exited r)
    (q : Nat) : drainOver q w.todo = false := by
  refine drainOver_of_not_isPause ?_
  unfold Worker.phase at hout
  cases hpc : w.pc with
  | serving =>
    rw [hpc] at hout
    rw [Bool.eq_false_iff]
    intro hp
    have hpausing : w.pausing = true := (Bool.or_eq_true _ _).mpr (Or.inr hp)
    rw [hpausing] at hout
    cases hout
  | check g => rw [hpc] at hout; cases hout
  | park p g => rw [hpc] at hout; cases p <;> cases hout
  | exited r => exact absurd hpc (hlive r)

theorem Worker.Tracks.weaken (hT : w.Tracks k gen avail cyc paus) {cyc' paus' : Bool}
    (hc : cyc' = true → cyc = true) (hp : paus' = true → paus = true) :
    w.Tracks k gen avail cyc' paus' :=
  ⟨hT.does, hT.le, hT.stamp, fun hst => hT.reached (hst.imp hc hp), fun h => hT.cycle (hc h),
    fun h => hT.paused (hp h)⟩

/-- A request or a freeze that finds the worker out of the barrier. -/
theorem Worker.Tracks.begin (hT : w.Tracks k gen avail cyc paus) (hout : w.phase = .out)
    {gen' : Nat} {cyc' paus' : Bool} (hgen : gen ≤ gen')
    (hc : cyc' = true → gen < gen' ∨ cyc = true ∧ gen' = gen) (hp : paus' = true → w.slot = none) :
    w.Tracks k gen' avail cyc' paus' := by
  refine ⟨hT.does, hT.le, fun cap hcap => ?_, fun _ hlive _ hd => ?_, fun h cap hcap hg => ?_,
    fun h cap hcap => ?_⟩
  · exact Nat.le_trans (hT.stamp cap hcap) hgen
  · cases (Worker.not_drainOver_of_out hout hlive _).symm.trans hd
  · rcases hc h with hlt | ⟨hcyc, rfl⟩
    · have := hT.stamp cap hcap
      omega
    · exact hT.cycle hcyc cap hcap hg
  · cases (hp h).symm.trans hcap

end Tracks

/-! ## Requests in time -/

/-- The cursor has been captured, or will be before the queue is drained again. -/
def Worker.isSealed (k : Kind) (w : Worker) : Bool :=
  match w.pc with
  | .serving => k != .vsock && drainOver k.requestQueue w.todo
  | .check _ => true
  | .park _ _ => true
  | .exited _ => false

/-- The queue on which the guest publishes a chain in this step. -/
def publishes : SysAction → Option (Nat × Nat)
  | .env (.vcpu _ (.publish w q)) => some (w, q)
  | _ => none

/-- The worker that goes on in this step. -/
def goesOn : SysAction → Option Nat
  | .env (.worker w .go) => some w
  | _ => none

/-- A handler fails in this step. -/
def aborts : SysAction → Bool
  | .env (.worker _ (.abort _)) => true
  | _ => false

/-- While a checkpoint is requested the guest publishes requests only to workers that will still
take them. -/
def TimelyPublish (cfg : Cfg) (c : SysConfig) (a : SysAction) : Prop :=
  c.state.requested = true → ∀ x ∈ publishes a, ∀ k ∈ cfg.captures[x.1]?, x.2 = k.requestQueue →
    (c.state.workers x.1).isSealed k = false

/-- vsock captures only when it has taken all requests. -/
def DrainedVsock (cfg : Cfg) (c : SysConfig) (a : SysAction) : Prop :=
  ∀ w ∈ goesOn a, cfg.captures[w]? = some .vsock →
    (c.state.workers w).todo.head? = some .fillSlot →
    (c.state.workers w).next Kind.vsock.requestQueue =
      c.state.ram (.avail w Kind.vsock.requestQueue)

def Op.isFreeze : Op → Bool
  | .setVcpuPause => true
  | _ => false

/-- A freeze begins when no worker is in the barrier and no cursor of an earlier call is left. -/
def CalmDevices (cfg : Cfg) (c : SysConfig) (a : SysAction) : Prop :=
  (completes c a).any Op.isFreeze = true →
    ∀ d < cfg.nDev, (c.state.workers d).phase = .out ∧ (c.state.workers d).slot.isNone = true

instance (cfg : Cfg) (c : SysConfig) (a : SysAction) : Decidable (TimelyPublish cfg c a) :=
  inferInstanceAs (Decidable (_ → _))

instance (cfg : Cfg) (c : SysConfig) (a : SysAction) : Decidable (DrainedVsock cfg c a) :=
  inferInstanceAs (Decidable (∀ w ∈ goesOn a, _))

instance (cfg : Cfg) (c : SysConfig) (a : SysAction) : Decidable (CalmDevices cfg c a) :=
  inferInstanceAs (Decidable (_ → _))

/-- Requests come in time. Chains are well formed and file, TAP and socket I/O succeeds, so that
no handler fails. -/
def InTime (cfg : Cfg) (c : SysConfig) (a : SysAction) : Prop :=
  CleanRequests cfg c a ∧ CalmDevices cfg c a ∧ TimelyPublish cfg c a ∧ DrainedVsock cfg c a ∧
    aborts a = false

instance (cfg : Cfg) (c : SysConfig) (a : SysAction) : Decidable (InTime cfg c a) :=
  inferInstanceAs (Decidable (_ ∧ _))

/-- The cursors of the snapshottable workers, in their hands, in the slots, and saved. -/
structure RequestInv (cfg : Cfg) (v : View) (s : Sys) : Prop where
  slots : SlotInv cfg v s
  tracks : ∀ d k, cfg.captures[d]? = some k →
    (s.workers d).Tracks k s.gen (fun q => s.ram (.avail d q)) v.cycle.isSome v.pausing
  calm : v.pausing = true → v.joined ≠ cfg.nVcpu →
    v.devs = 0 ∧ ∀ d, d < cfg.nDev → (s.workers d).phase = .out ∧ (s.workers d).slot = none
  barrier : v.held = true → ∀ w q, s.barrierRam (.avail w q) = s.ram (.avail w q)
  collected : (v.held = true ∧ v.cycle = some true) ∨ v.pausing = true →
    ∀ d k cap, cfg.captures[d]? = some k → s.saved.devs d = some cap →
      cap.next k.requestQueue = s.ram (.avail d k.requestQueue)
  image : ∀ d k cap, cfg.captures[d]? = some k → s.saved.devs d = some cap →
    cfg.chunkOf (.avail d k.requestQueue) < s.saved.copied →
      cap.next k.requestQueue = s.saved.ram (.avail d k.requestQueue)

section RequestInv

variable {cfg : Cfg} {v : View} {c : SysConfig} {s s' : Sys} {t : SysAct} {o : Op} {ok : Bool}

/-- The guest publishes a chain to a worker that will still see it, or on another queue. -/
theorem Worker.Tracks.publish {k : Kind} {gen q n : Nat} {avail : Nat → Nat} {cyc paus : Bool}
    {w : Worker} (hT : w.Tracks k gen avail cyc paus) (hn : avail q ≤ n)
    (hcyc : cyc = true → q = k.requestQueue → w.isSealed k = false)
    (hpaus : paus = true → w.phase = .out ∧ w.slot = none) :
    w.Tracks k gen (Function.update avail q n) cyc paus := by
  have hle : ∀ q', avail q' ≤ Function.update avail q n q' :=
    (Function.forall_update_iff avail (p := fun q' m => avail q' ≤ m)).mpr
      ⟨hn, fun _ _ => Nat.le_refl _⟩
  by_cases hq : q = k.requestQueue
  · refine ⟨hT.does, fun q' => Nat.le_trans (hT.le q') (hle q'), hT.stamp, ?_, ?_, ?_⟩
    · intro hst hlive hk hd
      exfalso
      rcases hst with hc | hp
      · have hs := hcyc hc hq
        unfold Worker.isSealed at hs
        cases hpc : w.pc with
        | serving => rw [hpc] at hs; simp [hk, hd] at hs
        | check g | park p g => rw [hpc] at hs; cases hs
        | exited r => exact hlive r hpc
      · cases (Worker.not_drainOver_of_out (hpaus hp).1 hlive _).symm.trans hd
    · intro hc cap hcap hg
      exfalso
      have hin := (hT.cycle hc cap hcap hg).1
      have hs := hcyc hc hq
      unfold Worker.isSealed at hs
      cases hpc : w.pc with
      | serving | exited r => rw [hpc] at hin; cases hin
      | check g | park p g => rw [hpc] at hs; cases hs
    · intro hp cap hcap
      cases (hpaus hp).2.symm.trans hcap
  · have hrq : Function.update avail q n k.requestQueue = avail k.requestQueue :=
      Function.update_of_ne (Ne.symm hq) _ _
    refine ⟨hT.does, fun q' => Nat.le_trans (hT.le q') (hle q'), hT.stamp, ?_, ?_, ?_⟩
    · rw [hrq]
      exact hT.reached
    · rw [hrq]
      exact hT.cycle
    · rw [hrq]
      exact hT.paused

/-- A worker that is out stays out and fills no slot. -/
theorem Worker.out_step {k : Kind} {requested released : Bool} {gen : Nat} {avail : Nat → Nat}
    {w w' : Worker} {act : WorkerAct} {e : Effect}
    (h : WorkerStep k requested released gen avail w act w' e)
    (hout : w.phase = .out ∧ w.slot = none) : w'.phase = .out ∧ w'.slot = none := by
  have hmove := Worker.step_move h
  rw [hout.1] at hmove
  refine ⟨hmove.of_out.1, ?_⟩
  cases h with
  | serve _ _ _ hpc _ hs =>
    rcases hs.slot_cases hpc with ⟨hslot, -⟩ | ⟨rest, htodo, -, -, -⟩
    · rw [hslot]
      exact hout.2
    · have hphase := Worker.phase_serving hpc
      rw [if_pos (Worker.pausing_of_fillSlot htodo), hout.1] at hphase
      cases hphase
  | freeze => cases k <;> exact hout.2
  | _ => exact hout.2

/-- In a cycle the release flag is down and nobody is leaving. -/
theorem BarrierInv.in_cycle (hB : BarrierInv cfg v s) (hc : v.cycle.isSome = true) :
    s.released = false ∧ ∀ d < cfg.nDev, ∀ g, (s.workers d).pc ≠ .park .sub g := by
  obtain ⟨devices, hcycle⟩ := Option.isSome_iff_exists.mp hc
  obtain ⟨hrel, -, hwithin⟩ := hB.barrier.within (cfg.participants devices) (by rw [hcycle]; rfl)
  refine ⟨hrel, fun d hd g hpc => ?_⟩
  have hphase : (s.workers d).phase.Within (cfg.participants devices) s.gen (.inr ⟨d, hd⟩) :=
    hwithin (.inr ⟨d, hd⟩)
  rw [Worker.phase_of_pc hpc] at hphase
  exact hphase

theorem RequestInv.tracks_env (hB : Base cfg v c.state) (hI : RequestInv cfg v c.state)
    (hP : InTime cfg c (.env t)) (h : c.state.env cfg t = some s') :
    ∀ d k, cfg.captures[d]? = some k →
      (s'.workers d).Tracks k s'.gen (fun q => s'.ram (.avail d q)) v.cycle.isSome v.pausing := by
  obtain ⟨-, -, hpub, hvsock, habort⟩ := hP
  rw [(Sys.env_frame h).gen]
  intro d k hk
  have hd := (Cfg.workers_of_captures hk).2
  rcases Sys.env_avail h with ⟨i, w, q, rfl, hworkers, hram⟩ | havail
  · -- the guest publishes a chain on queue `q` of worker `w`
    rw [hworkers, hram]
    by_cases hdw : d = w
    · subst hdw
      have heq : (fun q' => Function.update c.state.ram (.avail d q)
            (c.state.ram (.avail d q) + 1) (.avail d q')) =
          Function.update (fun q' => c.state.ram (.avail d q')) q
            (c.state.ram (.avail d q) + 1) := by
        funext q'
        by_cases hq : q' = q
        · subst hq
          rw [Function.update_self, Function.update_self]
        · rw [Function.update_of_ne hq, Function.update_of_ne (by simp [hq])]
      rw [heq]
      refine (hI.tracks d k hk).publish (Nat.le_succ _) (fun hcyc hq => ?_) (fun hp => ?_)
      · refine hpub ?_ (d, q) rfl k hk hq
        rw [hB.rel.requested]
        exact hcyc
      · refine (hI.calm hp (fun hj => ?_)).2 d hd
        obtain ⟨w, k, act, x, e, ht, -⟩ := hB.rel.frozen_env ⟨hp, hj⟩ h
        cases ht
    · have heq : (fun q' => Function.update c.state.ram (.avail w q)
          (c.state.ram (.avail w q) + 1) (.avail d q')) = fun q' => c.state.ram (.avail d q') := by
        funext q'
        rw [Function.update_of_ne (by simp [hdw])]
      rw [heq]
      exact hI.tracks d k hk
  · simp only [havail]
    refine Sys.env_forall_worker (P := fun d x => ∀ k, cfg.captures[d]? = some k →
      x.Tracks k c.state.gen (fun q => c.state.ram (.avail d q)) v.cycle.isSome v.pausing)
      h ?_ ?_ (fun d => hI.tracks d) d k hk
    · intro d x a n hx k hk
      exact ⟨(hx k hk).does, (hx k hk).le, (hx k hk).stamp, (hx k hk).reached, (hx k hk).cycle,
        (hx k hk).paused⟩
    · intro d k' act x e ht hk' hx hT k hk
      obtain ⟨hk'', hd'⟩ := Cfg.workers_of_captures hk
      obtain rfl : k = k' := Option.some.inj (hk''.symm.trans hk')
      refine Worker.tracks_step (hT k hk) hB.rel.requested (fun hc => ?_) ?_ ?_ hx
      · exact ⟨(hB.barrier.in_cycle hc).1, (hB.barrier.in_cycle hc).2 d hd'⟩
      · rintro lose rfl
        rw [ht] at habort
        cases habort
      · rintro rfl hhead rfl
        rw [ht] at hvsock
        exact hvsock d rfl hk hhead

/-- While the barrier is held no chain is published. -/
theorem Base.avail_held (hB : Base cfg v s) (hheld : v.held = true) (h : s.env cfg t = some s')
    (w q : Nat) : s'.ram (.avail w q) = s.ram (.avail w q) := by
  obtain ⟨devices, hcycle⟩ := Option.ne_none_iff_exists'.mp (hB.rel.cycle hheld)
  obtain ⟨w', k, act, x, e, -, -, hx, rfl⟩ := hB.barrier.held_env hheld hcycle h
  refine Sys.effect_avail (fun _ _ => ?_) w q
  cases hx with
  | serve _ _ _ _ _ hs => cases hs <;> nofun
  | _ => nofun

/-- Nor once the machine is frozen. -/
theorem Rel.avail_frozen (hR : Rel cfg v s) (hf : v.Frozen cfg.shape) (h : s.env cfg t = some s')
    (w q : Nat) : s'.ram (.avail w q) = s.ram (.avail w q) := by
  rcases Sys.env_avail h with ⟨i, w', q', rfl, -, -⟩ | havail
  · obtain ⟨w, k, act, x, e, ht, -⟩ := hR.frozen_env hf h
    cases ht
  · exact havail w q

theorem RequestInv.env (hB : Base cfg v c.state) (hI : RequestInv cfg v c.state)
    (hP : InTime cfg c (.env t)) (h : c.state.env cfg t = some s') : RequestInv cfg v s' := by
  have hf := Sys.env_frame h
  refine ⟨hI.slots.env h, hI.tracks_env hB hP h, ?_, ?_, ?_, ?_⟩
  · intro hp hj
    refine ⟨(hI.calm hp hj).1, ?_⟩
    refine Sys.env_forall_worker
      (P := fun d x => d < cfg.nDev → x.phase = .out ∧ x.slot = none) h ?_ ?_ (hI.calm hp hj).2
    · exact fun d x a n hx => hx
    · exact fun d k act x e _ _ hx hout hd => Worker.out_step hx (hout hd)
  · intro hh w q
    rw [hf.barrierRam, hB.avail_held hh h]
    exact hI.barrier hh w q
  · rw [hf.saved]
    intro hst d k cap hk hcap
    have hcol := hI.collected hst d k cap hk hcap
    rcases hst with ⟨hh, -⟩ | hp
    · rw [hB.avail_held hh h]
      exact hcol
    · by_cases hj : v.joined = cfg.nVcpu
      · rw [hB.rel.avail_frozen ⟨hp, hj⟩ h]
        exact hcol
      · -- nothing has been collected before the vCPUs have stopped
        have hsome := (hB.rel.devs d).mp (by rw [hcap]; rfl)
        rw [(hI.calm hp hj).1] at hsome
        exact absurd hsome (Nat.not_lt_zero d)
  · rw [hf.saved]
    exact hI.image

/-- The chunk with an avail index is copied when the machine stands still. -/
theorem RequestInv.copy (hI : RequestInv cfg v s) (hpre : View.pre cfg.shape o v)
    (ho : o = .dumpGuestMemory ∨ o = .recopyBranchPages) {src : Cell → Nat}
    (hsrc : src = s.ram ∨ (o = .recopyBranchPages ∧ src = s.barrierRam)) :
    RequestInv cfg v (s.copyChunk cfg src) := by
  refine ⟨⟨hI.slots.vcpus, hI.slots.devs⟩, hI.tracks, hI.calm, hI.barrier, hI.collected, ?_⟩
  intro d k cap hk hcap hlt
  have hlt' : cfg.chunkOf (.avail d k.requestQueue) < s.saved.copied + 1 := hlt
  show cap.next k.requestQueue = if cfg.chunkOf (.avail d k.requestQueue) = s.saved.copied
    then src (.avail d k.requestQueue) else s.saved.ram (.avail d k.requestQueue)
  split_ifs with hc
  · have hstill : (v.held = true ∧ v.cycle = some true) ∨ v.pausing = true := by
      rcases ho with rfl | rfl
      · exact hpre.2.2.2.imp_right (fun hf => hf.1)
      · exact Or.inl hpre.2.2.2
    rw [hI.collected hstill d k cap hk hcap]
    rcases hsrc with rfl | ⟨rfl, rfl⟩
    · rfl
    · exact (hI.barrier hpre.2.2.2.1 d _).symm
  · exact hI.image d k cap hk hcap (by omega)

/-- A cursor that has reached the avail index is collected. -/
theorem RequestInv.takeDevice (hB : Base cfg v s) (hI : RequestInv cfg v s) {d : Nat}
    {cap : QueueCapture} (hcopy : v.copying = false)
    (hcalm : v.pausing = true → v.joined = cfg.nVcpu) (hcap : ∀ k, cfg.captures[d]? = some k →
      cap.next k.requestQueue = s.ram (.avail d k.requestQueue)) :
    RequestInv cfg { v with devs := d + 1, fresh := false } (s.takeDevice d cap) := by
  refine ⟨hI.slots.takeDevice d cap, ?_, fun hp hj => absurd (hcalm hp) hj, hI.barrier, ?_, ?_⟩
  · refine (Function.forall_update_iff s.workers (p := fun d x => ∀ k, cfg.captures[d]? = some k →
      x.Tracks k s.gen (fun q => s.ram (.avail d q)) v.cycle.isSome v.pausing)).mpr
        ⟨fun k hk => ?_, fun d' _ => hI.tracks d'⟩
    have hT := hI.tracks d k hk
    exact ⟨hT.does, hT.le, nofun, hT.reached, nofun, nofun⟩
  · intro hst
    refine (Function.forall_update_iff s.saved.devs (p := fun d x => ∀ k cap,
      cfg.captures[d]? = some k → x = some cap →
      cap.next k.requestQueue = s.ram (.avail d k.requestQueue))).mpr ⟨?_, fun d' _ => ?_⟩
    · rintro k _ hk ⟨rfl⟩
      exact hcap k hk
    · exact hI.collected hst d'
  · intro d' k cap' _ _ hlt
    have hlt' : cfg.chunkOf (.avail d' k.requestQueue) < s.saved.copied := hlt
    rw [hB.rel.copying hcopy] at hlt'
    exact absurd hlt' (Nat.not_lt_zero _)

/-- Nothing has been saved of the devices yet. -/
theorem Rel.devs_none (hR : Rel cfg v s) (h0 : v.devs = 0) (d : Nat) : s.saved.devs d = none := by
  rw [← Option.not_isSome_iff_eq_none, hR.devs d, h0]
  exact Nat.not_lt_zero d

theorem RequestInv.op (hB : Base cfg v s) (hI : RequestInv cfg v s)
    (hpre : View.pre cfg.shape o v) (hout : o.isRequest = true → AllOut cfg s)
    (hcalm : ok = true → o.isFreeze = true →
      ∀ d < cfg.nDev, (s.workers d).phase = .out ∧ (s.workers d).slot.isNone = true)
    (h : OpStep cfg s o ok s') : RequestInv cfg (View.next o ok v) s' := by
  have hslots := hI.slots.op hout h
  cases h with
  | quiet _ _ hnext => rw [hnext]; exact hI
  | clearReleased =>
    exact ⟨hslots, hI.tracks, hI.calm, hI.barrier, hI.collected, hI.image⟩
  | setRequested devices =>
    obtain ⟨-, hheld, hp, -⟩ := hpre
    have hno : ¬ ((v.held = true ∧ some devices = some true) ∨ v.pausing = true) := by
      rw [hheld, hp]
      simp
    refine ⟨hslots, fun d k hk => ?_, fun h => ?_, fun h => ?_, fun h => absurd h hno, hI.image⟩
    · refine (hI.tracks d k hk).begin ((hout rfl).2 d (Cfg.workers_of_captures hk).2)
        (Nat.le_succ _) (fun _ => Or.inl (Nat.lt_succ_self _)) (fun h => ?_)
      cases hp.symm.trans h
    · cases hp.symm.trans h
    · cases hheld.symm.trans h
  | wakeDevice d =>
    refine ⟨hslots, ?_, fun hp hj => ?_, hI.barrier, hI.collected, hI.image⟩
    · refine (Function.forall_update_iff s.workers
        (p := fun d x => ∀ k, cfg.captures[d]? = some k →
          x.Tracks k s.gen (fun q => s.ram (.avail d q)) v.cycle.isSome v.pausing)).mpr
        ⟨fun k hk => ?_, fun d' _ => hI.tracks d'⟩
      have hT := hI.tracks d k hk
      exact ⟨hT.does, hT.le, hT.stamp, hT.reached, hT.cycle, hT.paused⟩
    · -- in a freeze devices are woken only when the vCPUs have stopped
      rcases hpre.2 with ⟨-, hp'⟩ | ⟨-, hf, -⟩
      · cases hp'.symm.trans hp
      · exact absurd hf.2 hj
  | parked devices _ =>
    obtain ⟨-, -, hp, -, -, hdevs⟩ := hpre
    refine ⟨hslots, hI.tracks, hI.calm, fun _ _ _ => rfl, fun _ d k cap _ hcap => ?_, hI.image⟩
    cases (hB.rel.devs_none hdevs d).symm.trans hcap
  | clearRequested =>
    have hp : v.pausing = false := hpre
    refine ⟨hslots, fun d k hk => ?_, hI.calm, nofun, fun h => ?_, hI.image⟩
    · exact (hI.tracks d k hk).weaken nofun id
    · rcases h with ⟨h, -⟩ | h
      · cases h
      · cases hp.symm.trans h
  | setReleased | takeVcpu i st _ => exact ⟨hslots, hI.tracks, hI.calm, hI.barrier, hI.collected, hI.image⟩
  | takeDevice d cap hslot =>
    obtain ⟨hd, -, hcopy, hheld, hcycle⟩ := hpre
    refine hI.takeDevice hB hcopy (fun hp => ?_) (fun k hk => ?_)
    · cases hheld.symm.trans (hB.rel.pausing hp).2
    · have hwait := hB.barrier.waiting hheld true hcycle (.inr ⟨d, hd⟩)
        (Cfg.mem_participants.mpr (Or.inr rfl))
      rcases hI.slots.dev_gen hd hwait with hgen | ⟨hnone, -⟩
      · rw [hslot] at hgen
        exact ((hI.tracks d k hk).cycle (by rw [hcycle]; rfl) cap hslot
          (Option.some.inj hgen)).2
      · rw [hslot] at hnone
        cases hnone
  | waitForCapture d cap hslot =>
    obtain ⟨-, -, hcopy, hf⟩ := hpre
    exact hI.takeDevice hB hcopy (fun _ => hf.2)
      (fun k hk => (hI.tracks d k hk).paused hf.1 cap hslot)
  | newImage _ ho =>
    have himage : ∀ d k cap, cfg.captures[d]? = some k → s.saved.devs d = some cap →
        cfg.chunkOf (.avail d k.requestQueue) < 0 →
        cap.next k.requestQueue = s.saved.ram (.avail d k.requestQueue) :=
      fun _ _ _ _ _ h => absurd h (Nat.not_lt_zero _)
    rcases ho with rfl | rfl <;>
      exact ⟨hslots, hI.tracks, hI.calm, hI.barrier, hI.collected, himage⟩
  | imageDone _ ho _ =>
    rcases ho with rfl | rfl <;>
      exact ⟨hslots, hI.tracks, hI.calm, hI.barrier, hI.collected, hI.image⟩
  | setVcpuPause =>
    obtain ⟨-, hheld, -, -, hdevs, -⟩ := hpre
    have hcalm' := hcalm rfl rfl
    refine ⟨hslots, fun d k hk => ?_, fun _ _ => ⟨hdevs, fun d hd => ?_⟩, hI.barrier,
      fun _ d k cap _ hcap => ?_, hI.image⟩
    · have hd := (Cfg.workers_of_captures hk).2
      exact (hI.tracks d k hk).begin (hcalm' d hd).1 (Nat.le_refl _)
        (fun h => Or.inr ⟨h, rfl⟩) (fun _ => Option.isNone_iff_eq_none.mp (hcalm' d hd).2)
    · exact ⟨(hcalm' d hd).1, Option.isNone_iff_eq_none.mp (hcalm' d hd).2⟩
    · cases (hB.rel.devs_none hdevs d).symm.trans hcap
  | join i _ _ =>
    refine ⟨hslots, hI.tracks, fun hp _ => hI.calm hp ?_, hI.barrier, hI.collected, hI.image⟩
    rw [hpre.2.2]
    exact Nat.ne_of_lt hpre.1

theorem RequestInv.enter (hI : RequestInv cfg v s) (hrest : v.Rest) (call : Call) :
    RequestInv cfg (v.enter call) { s with saved := {}, call := some call } := by
  refine ⟨⟨hI.slots.vcpus, hI.slots.devs⟩, fun d k hk => ?_, nofun, fun h => ?_, nofun, nofun⟩
  · exact (hI.tracks d k hk).weaken id nofun
  · cases hrest.held.symm.trans h

theorem RequestInv.start (start : Start)
    (hstart : ∀ w q, start.next w q ≤ start.ram (.avail w q)) : RequestInv cfg {} start.state := by
  refine ⟨SlotInv.start start, fun d k _ => ?_, nofun, nofun, nofun, nofun⟩
  exact ⟨rfl, fun q => hstart d q, nofun, nofun, nofun, nofun⟩

end RequestInv

/-- **No request is lost in a snapshot** if requests come in time: when `snapshot`,
`snapshot_in_place` or `branch` has returned `Ok`, the saved cursor of every request queue equals
the avail index in the saved guest RAM. -/
theorem requests_saved (cfg : Cfg) (start : Start)
    (hstart : ∀ w q, start.next w q ≤ start.ram (.avail w q)) (as : List SysAction) (c : SysConfig)
    (hP : Meets (sysMachine cfg).step (InTime cfg) start.config as)
    (hrun : run (sysMachine cfg).step start.config as = some c)
    (hdone : c.script = .done (.ok ())) (call : Call) (hcall : c.state.call = some call)
    (hsaves : call.saves = true) (d : Nat) (k : Kind) (hk : cfg.captures[d]? = some k) :
    ∃ cap, c.state.saved.devs d = some cap ∧
      cap.next k.requestQueue = c.state.saved.ram (.avail d k.requestQueue) := by
  obtain ⟨v, ⟨hB, hI⟩, hsafe⟩ := run_base (RequestInv cfg) (InTime cfg) (fun _ _ h => h.1)
    (fun v c t s' hB hI hP hs => hI.env hB hP hs)
    (fun v c o k n src _ hI _ hpre _ ho hsrc => hI.copy hpre ho hsrc)
    (fun v c o k ok s' hB hI hk hpre hP hout hs _ =>
      hI.op hB hpre hout (fun hok ho => hP.2.1 (any_completes hk hok ho)) hs)
    (fun v s call _ hI hrest => hI.enter hrest call)
    start (RequestInv.start start hstart) as c hP hrun
  rw [hdone] at hsafe
  obtain ⟨-, hdevs, hcopied, -⟩ := hsafe.2 rfl call (hB.rel.call.symm.trans hcall) hsaves
  obtain ⟨cap, hcap⟩ := Option.isSome_iff_exists.mp
    ((hB.rel.devs d).mpr (by rw [hdevs]; exact (Cfg.workers_of_captures hk).2))
  refine ⟨cap, hcap, hI.image d k cap hk hcap ?_⟩
  rw [hB.rel.copied hcopied]
  exact cfg.chunkOf_lt _

/-- A request is published before the call, and served before the capture. -/
def servedRun : List SysAction :=
  Act.enterGuest ++ [Act.vcpu (.publish 0 0)] ++ Act.mmioWrite (.notify 0 0) ++ Act.enterGuest ++
  [.call .snapshotInPlace] ++ List.replicate 5 Act.ok ++
  [Act.worker 0 (.poll [.notify 0, .pause])] ++ List.replicate 5 (Act.worker 0 .go) ++
  [Act.worker 0 (.signal 0)] ++ List.replicate 6 (Act.worker 0 .go) ++
  [Act.worker 1 (.poll [.pause])] ++ List.replicate 4 (Act.worker 1 .go) ++
  Act.parkVcpu ++ [Act.ok] ++ saveRun

theorem requests_saved_servedRun :
    ∃ c cap, run (sysMachine oneVcpu).step (blank true).config servedRun = some c ∧
      c.state.saved.devs 0 = some cap ∧ c.state.saved.ram (.avail 0 0) = 1 ∧
      cap.next 0 = c.state.saved.ram (.avail 0 0) := by
  obtain ⟨c, hrun, hdone, hcall, hone⟩ : ∃ c, run (sysMachine oneVcpu).step (blank true).config servedRun = some c ∧
      returnedOk c ∧ c.state.call = some .snapshotInPlace ∧
        c.state.saved.ram (.avail 0 0) = 1 := exists_of_any (by decide +kernel)
  obtain ⟨cap, hcap, heq⟩ := requests_saved oneVcpu (blank true) (fun _ _ => Nat.le_refl 0)
    servedRun c (by decide +kernel) hrun (script_of_returnedOk hdone) .snapshotInPlace hcall rfl
    0 .block rfl
  exact ⟨c, cap, hrun, hcap, hone, heq⟩

/-- Both workers have captured and are parked when the guest publishes a request; then the vCPU
parks too. -/
def lostRun : List SysAction :=
  Act.enterGuest ++ [.call .snapshotInPlace] ++ List.replicate 5 Act.ok ++ Act.parkDevices ++
  [Act.vcpu (.publish 0 0)] ++ Act.mmioWrite (.notify 0 0) ++ List.replicate 6 (Act.vcpu .go) ++
  [Act.ok] ++ saveRun

/-- **A request is lost**: `snapshot_in_place` returns `Ok`, the saved cursor of the block device
is 0, and the saved guest RAM has one published request. -/
theorem request_lost : ∃ c, run (sysMachine oneVcpu).step (blank true).config lostRun = some c ∧
      c.script = .done (.ok ()) ∧ oneVcpu.captures[0]? = some .block ∧
      (c.state.saved.devs 0).map (fun cap => cap.next 0) = some 0 ∧
      c.state.saved.ram (.avail 0 0) = 1 := by
  obtain ⟨c, hrun, hdone, hrest⟩ : ∃ c, run (sysMachine oneVcpu).step (blank true).config lostRun = some c ∧
      returnedOk c ∧ oneVcpu.captures[0]? = some .block ∧
        (c.state.saved.devs 0).map (fun cap => cap.next 0) = some 0 ∧
        c.state.saved.ram (.avail 0 0) = 1 := exists_of_any (by decide +kernel)
  exact ⟨c, hrun, script_of_returnedOk hdone, hrest⟩

end MicroMachines.Vmm
