import MicroMachines.Vsock.Connection

set_option autoImplicit false

/-! # Interrupts for what was used

The bridge returns chains to the guest through the used rings of both queues, and raises the
interrupt at the end of a round of its loop if a handler has reported that there is a reason to.
What a handler reports is whether it has put a packet into a receive chain. So a round is silent if

* `process_tx` has used transmit chains and put nothing into a receive chain,
* a handler has put packets into receive chains and then fails, since an error replaces its report,
* `flush_to_uds` has put a reset into a receive chain after a failed write, for which it reports
  `false`,

unless something else in the round is reported.

* `signalled`: these are all the ways. In a run without them, no used entry is without its interrupt
  when the bridge waits.
* `silent_tx`: a run of the first kind.
-/

namespace MicroMachines.Vsock

open MicroMachines.Lib
open MicroMachines.Vmm (VmmError)

/-! ## Entries and interrupts -/

/-- A used entry. -/
def Effect.isUsed : Effect → Bool
  | .placed _ | .usedTx => true
  | _ => false

def noteUsed (owed : Bool) : Effect → Bool
  | .placed _ | .usedTx => true
  | .interrupt => false
  | _ => owed

/-- There are used entries since the last interrupt. -/
def owed (log : List Effect) : Bool := log.foldl noteUsed false

theorem owed_append {log es : List Effect} (h : owed (log ++ es) = true) :
    owed log = true ∨ es.any Effect.isUsed = true := by
  induction es using List.reverseRecOn with
  | nil =>
    rw [List.append_nil] at h
    exact Or.inl h
  | append_singleton es e ih =>
    rw [← List.append_assoc, owed, List.foldl_append] at h
    rw [List.any_append]
    cases e with
    | placed bytes | usedTx => exact Or.inr (by simp [Effect.isUsed])
    | interrupt => cases h
    | _ => exact (ih h).imp id (fun hes => by rw [hes]; rfl)

theorem owed_interrupt (log : List Effect) : owed (log ++ [.interrupt]) = false := by
  rw [owed, List.foldl_append]
  rfl

/-- A call that has added a used entry says so. -/
def Reports (d : Did Bool) : Prop := d.effects.any Effect.isUsed = true → d.result = .ok true

namespace Reports

variable {w : VsockWorker} {rx : Option (List RxDesc)}

theorem of_nil (w : VsockWorker) (result : Except VmmError Bool) : Reports ⟨w, result, []⟩ := nofun

theorem push (pkt : List UInt8) : Reports (w.pushToGuest pkt rx) := by
  unfold VsockWorker.pushToGuest
  split_ifs
  · exact of_nil _ _
  · cases rx with
    | none => exact of_nil _ _
    | some chain =>
      cases hcopy : copyInto chain pkt.length with
      | none =>
        rw [VsockWorker.writeRx_of_none hcopy]
        exact of_nil _ _
      | some copied =>
        rw [VsockWorker.writeRx_of_some hcopy]
        exact fun _ => rfl

theorem sendControl (port : UInt32) (op : UInt16) : Reports (w.sendControl port op rx) := by
  unfold VsockWorker.sendControl
  cases w.conns.lookup port with
  | none => exact of_nil _ _
  | some c =>
    dsimp only
    split_ifs <;> exact push _

theorem sendRw (port : UInt32) (data : List UInt8) : Reports (w.sendRw port data rx) := by
  unfold VsockWorker.sendRw
  cases w.conns.lookup port with
  | none => exact of_nil _ _
  | some c => exact push _

/-- A call after one that adds no entry. -/
theorem after {α : Type} {d : Did α} {f : VsockWorker → Did Bool}
    (hd : d.effects.any Effect.isUsed = false) (hf : Reports (f d.worker)) :
    Reports (d.andThen f) := by
  intro h
  refine hf ?_
  have hany : (d.effects ++ (f d.worker).effects).any Effect.isUsed = true := h
  rw [List.any_append, hd, Bool.false_or] at hany
  exact hany

theorem closeConn (port : UInt32) (why : CloseReason) : Reports (w.closeConn port true why rx) := by
  unfold VsockWorker.closeConn
  cases w.conns.lookup port with
  | none => exact of_nil _ _
  | some c =>
    dsimp only
    rw [if_pos rfl]
    exact after rfl (push _)

theorem flushTail (port : UInt32) (advanced : Bool) : Reports (w.flushTail port advanced rx) := by
  unfold VsockWorker.flushTail
  cases w.conns.lookup port with
  | none => exact of_nil _ _
  | some c =>
    dsimp only
    split_ifs
    · exact sendControl port OP_CREDIT_UPDATE
    · exact of_nil _ _

theorem pollPending {d : Did Bool} (idx : Nat) (res : ReadResult)
    (h : w.pollPending idx res rx = some d) : Reports d := by
  rcases VsockWorker.pollPending_cases idx res h with
    ⟨pending, result, rfl⟩ | ⟨bs, line, guestPort, found, _, _, _, _, rfl⟩
  · exact of_nil _ _
  · exact after rfl (sendControl found.1 OP_REQUEST)

end Reports

/-- A turn of `flush_to_uds` whose write does not fail. -/
theorem flushTurn_reports {w : VsockWorker} {port : UInt32} {advanced : Bool} {res : WriteResult}
    {rx : Option (List RxDesc)} (hres : res ≠ .error)
    (h : (w.flushTurn port advanced res rx).effects.any Effect.isUsed = true) :
    (w.flushTurn port advanced res rx).result = .ok (some true) := by
  have htail := @Reports.flushTail w rx port advanced
  have hleave : ∀ d : Did (Option Bool),
      d.result = (w.flushTail port advanced rx).result.map some →
      d.effects = (w.flushTail port advanced rx).effects →
      d.effects.any Effect.isUsed = true → d.result = .ok (some true) := by
    intro d hr he hany
    rw [he] at hany
    rw [hr, htail hany]
    rfl
  revert h
  unfold VsockWorker.flushTurn
  cases w.conns.lookup port with
  | none => exact hleave _ rfl rfl
  | some c =>
    dsimp only
    split_ifs
    · exact hleave _ rfl rfl
    · cases res with
      | error => exact absurd rfl hres
      | wouldBlock => exact hleave _ rfl rfl
      | wrote n =>
        cases n with
        | zero => exact hleave _ rfl rfl
        | succ n => exact nofun

/-! ## The invariant -/

/-- What the handler that is running will report so far. -/
def Pc.flag : Pc → Bool
  | .drain delivered => delivered
  | .processTx dirty => dirty
  | .flush _ _ (.processTx dirty) => dirty
  | .pump _ dirty _ => dirty
  | _ => false

/-- Inside `process_tx`. -/
def Pc.inTx : Pc → Bool
  | .processTx _ | .flush _ _ (.processTx _) => true
  | _ => false

namespace Reactor

variable {r r' : Reactor} {i : Input}

/-- The step is none of those that lose a report, or the interrupt is due anyway. -/
def heard (r : Reactor) (i : Input) : Bool :=
  r.dirty ||
    match r.pc, i with
    | .drain delivered, .drain rx =>
      !delivered || rx.all (fun chain => r.worker.rxBacklog.head?.all (fun pkt =>
        (copyInto chain pkt.length).isSome))
    | .processTx dirty, .tx none _ _ => dirty || !owed r.log
    | .processTx _, .tx (some chain) rx ok =>
      let d := r.worker.txChain chain rx ok
      d.result.isOk || !owed (r.log ++ d.effects)
    | .flush port advanced (.processTx _), .write res rx =>
      let d := r.worker.flushTurn port advanced res rx
      d.result.isOk || !owed (r.log ++ d.effects)
    | .flush port advanced (.conn _ _), .write .error rx =>
      !(r.worker.flushTurn port advanced .error rx).effects.any Effect.isUsed
    | .pump port dirty _, .read res rx =>
      !dirty || (r.worker.pumpTurn port dirty res rx).result.isOk
    | _, _ => true

/-- Used entries since the last interrupt are known to somebody: the loop, or the handler that is
running; `process_tx` may know of them by itself. -/
def Known (r : Reactor) : Prop :=
  owed r.log = true → r.dirty = true ∨ r.pc.flag = true ∨ r.pc.inTx = true

/-- The loop waits with nothing left to report. -/
def Settled (r : Reactor) : Prop := Known r ∧ (r.pc = .waiting → r.dirty = false)

theorem Known.outside (h : Known r) (htx : r.pc.inTx = false) (howed : owed r.log = true) :
    r.dirty = true ∨ r.pc.flag = true := by
  rcases h howed with hd | hf | ht
  · exact Or.inl hd
  · exact Or.inr hf
  · rw [htx] at ht
    cases ht

theorem Known.dirty (h : Known r) (htx : r.pc.inTx = false) (hflag : r.pc.flag = false)
    (howed : owed r.log = true) : r.dirty = true := by
  rcases h.outside htx howed with hd | hf
  · exact hd
  · rw [hflag] at hf
    cases hf

/-- The outcome of a handler that reports what it has added. -/
theorem Known.settle {d : Did Bool} {pc : Pc} (hdirty : owed r.log = true → r.dirty = true)
    (hd : Reports d) : Known (r.settle d pc) := by
  intro howed
  refine Or.inl ?_
  show (r.dirty || _) = true
  rcases owed_append howed with hlog | hes
  · rw [hdirty hlog, Bool.true_or]
  · rw [hd hes, Bool.or_true]

/-- The steps of the loop itself. -/
theorem Settled.scan (h : Known r) (hpc : r.pc = .scanning) (readOk checkpoint : Bool) :
    Settled (r.scan readOk checkpoint) := by
  have hdirty : owed r.log = true → r.dirty = true := h.dirty (by rw [hpc]; rfl) (by rw [hpc]; rfl)
  unfold Reactor.scan
  split
  · refine ⟨?_, fun _ => rfl⟩
    intro howed
    -- Nothing is owed after the interrupt, and without one nothing was.
    cases hd : r.dirty with
    | true =>
      simp only [hd, if_pos] at howed
      rw [owed_interrupt] at howed
      cases howed
    | false =>
      simp only [hd, Bool.false_eq_true, if_false, List.append_nil] at howed
      rw [hdirty howed] at hd
      cases hd
  · next src rev todo htodo =>
      -- The log and the flag stay, and the new place is not `waiting`.
      have hstay : ∀ r' : Reactor, r'.log = r.log → r'.dirty = r.dirty → r'.pc ≠ .waiting →
          Settled r' := by
        intro r' hlog hd hne
        refine ⟨?_, fun hw => absurd hw hne⟩
        intro howed
        rw [hlog] at howed
        exact Or.inl (hd.trans (hdirty howed))
      cases src with
      | rxEvt | txEvt | pending idx => dsimp only; split_ifs <;> exact hstay _ rfl rfl (by simp [hpc])
      | listener => exact hstay _ rfl rfl nofun
      | pauseEvt => exact hstay _ rfl rfl (by simp [hpc])
      | conn port =>
        dsimp only
        unfold afterFlush
        split_ifs <;> exact hstay _ rfl rfl nofun

variable {rx : Option (List RxDesc)}

theorem Known.drain {delivered : Bool} (h : Known r)
    (hpc : r.pc = .drain delivered) (hheard : r.heard (.drain rx) = true) :
    Known (r.stepDrain delivered rx) := by
  have hknown : owed r.log = true → r.dirty = true ∨ delivered = true := by
    have := h.outside (by rw [hpc]; rfl)
    rw [hpc] at this
    exact this
  -- A turn that ends the call without an error hands its flag over.
  have hleave : Known (r.settle ⟨r.worker, .ok delivered, []⟩ .scanning) := by
    intro howed
    refine Or.inl ?_
    show (r.dirty || delivered) = true
    have hlog : owed r.log = true := (owed_append howed).resolve_right nofun
    rw [Bool.or_eq_true]
    exact hknown hlog
  unfold stepDrain
  cases hback : r.worker.rxBacklog with
  | nil => exact hleave
  | cons pkt rest =>
    dsimp only
    cases rx with
    | none => exact hleave
    | some chain =>
      cases hcopy : copyInto chain pkt.length with
      | some copied =>
        rw [VsockWorker.writeRx_of_some hcopy]
        exact fun _ => Or.inr (Or.inl rfl)
      | none =>
        rw [VsockWorker.writeRx_of_none hcopy]
        refine Known.settle ?_ (Reports.of_nil _ _)
        intro howed
        simp only [heard, hpc, hback, hcopy, Option.all_some, List.head?_cons,
          Option.isSome_none, Bool.or_false, Bool.or_eq_true, Bool.not_eq_true'] at hheard
        rcases hheard with hd | hdel
        · exact hd
        · rcases hknown howed with hd | hdel'
          · exact hd
          · rw [hdel] at hdel'
            cases hdel'

theorem Known.tx {dirty : Bool} {chain : Option (List (Option (List UInt8)))}
    {ok : Nat} (hpc : r.pc = .processTx dirty)
    (hheard : r.heard (.tx chain rx ok) = true) : Known (r.stepTx dirty chain rx ok) := by
  unfold stepTx
  cases chain with
  | none =>
    intro howed
    refine Or.inl ?_
    show (r.dirty || dirty) = true
    have hlog : owed r.log = true := (owed_append howed).resolve_right nofun
    simp only [heard, hpc, hlog, Bool.not_true, Bool.or_false] at hheard
    exact hheard
  | some chain =>
    dsimp only
    split
    · next e he =>
        intro howed
        refine Or.inl ?_
        show (r.dirty || false) = true
        have hlog : owed (r.log ++ (r.worker.txChain chain rx ok).effects) = true :=
          (owed_append howed).resolve_right nofun
        simp only [heard, hpc, he, hlog, Except.isOk, Except.toBool, Bool.not_true,
          Bool.or_false] at hheard
        rw [hheard, Bool.true_or]
    · exact fun _ => Or.inr (Or.inr rfl)
    · exact fun _ => Or.inr (Or.inr rfl)
    · exact fun _ => Or.inr (Or.inr rfl)

theorem Known.flush {port : UInt32} {advanced : Bool} {caller : FlushCaller} {res : WriteResult}
    (h : Known r) (hpc : r.pc = .flush port advanced caller)
    (hheard : r.heard (.write res rx) = true) :
    Known (r.stepFlush port advanced caller res rx) := by
  unfold stepFlush
  cases caller with
  | processTx dirty =>
    dsimp only
    split
    · exact fun _ => Or.inr (Or.inr rfl)
    · exact fun _ => Or.inr (Or.inr rfl)
    · next e he =>
        intro howed
        refine Or.inl ?_
        show (r.dirty || false) = true
        have hlog : owed (r.log ++ (r.worker.flushTurn port advanced res rx).effects) = true :=
          (owed_append howed).resolve_right nofun
        simp only [heard, hpc, he, hlog, Except.isOk, Except.toBool, Bool.not_true,
          Bool.or_false] at hheard
        rw [hheard, Bool.true_or]
  | conn pollin hangup =>
    have hdirty : owed r.log = true → r.dirty = true :=
      h.dirty (by rw [hpc]; rfl) (by rw [hpc]; rfl)
    -- An entry added by a failed write is excluded, and any other is reported.
    have hknown : owed (r.log ++ (r.worker.flushTurn port advanced res rx).effects) = true →
        r.dirty = true ∨
          (r.worker.flushTurn port advanced res rx).result = .ok (some true) := by
      intro howed
      rcases owed_append howed with hlog | hany
      · exact Or.inl (hdirty hlog)
      · by_cases hres : res = .error
        · subst hres
          simp only [heard, hpc, hany, Bool.not_true, Bool.or_false] at hheard
          exact Or.inl hheard
        · exact Or.inr (flushTurn_reports hres hany)
    dsimp only
    split
    · next he =>
        refine fun howed => Or.inl ((hknown howed).resolve_right ?_)
        rw [he]
        exact nofun
    · next b he =>
        refine fun howed => Or.inl ?_
        show (r.dirty || b) = true
        rcases hknown howed with hd | hres
        · rw [hd, Bool.true_or]
        · rw [he] at hres
          cases hres
          exact Bool.or_true _
    · next e he =>
        refine fun howed => Or.inl ((hknown howed).resolve_right ?_)
        rw [he]
        exact nofun

theorem Known.pump {port : UInt32} {dirty hangup : Bool} {res : ReadResult}
    (h : Known r) (hpc : r.pc = .pump port dirty hangup) (hheard : r.heard (.read res rx) = true) :
    Known (r.stepPump port dirty hangup res rx) := by
  have hknown : owed r.log = true → r.dirty = true ∨ dirty = true := by
    have := h.outside (by rw [hpc]; rfl)
    rw [hpc] at this
    exact this
  unfold stepPump
  rcases @VsockWorker.pumpTurn_cases r.worker rx port dirty res with
    heq | ⟨why, c, _, _, hw, he, hres⟩ | ⟨bs, room, c, hbs, _, hroom, hc, _, _, _, heq⟩
  · rw [heq]
    intro howed
    refine Or.inl ?_
    show (r.dirty || dirty) = true
    have hlog : owed r.log = true := (owed_append howed).resolve_right nofun
    rw [Bool.or_eq_true]
    exact hknown hlog
  · dsimp only
    rw [hres]
    exact fun _ => Or.inl (Bool.or_true _)
  · have hsent := @Reports.sendRw r.worker rx port (bs.take room)
    have hadds : ∀ log, owed (log ++ (r.worker.pumpTurn port dirty res rx).effects) = true →
        owed log = true ∨ (r.worker.sendRw port (bs.take room) rx).result = .ok true := by
      intro log howed
      rcases owed_append howed with hlog | hany
      · exact Or.inl hlog
      · rw [heq] at hany
        exact Or.inr (hsent hany)
    cases hresult : (r.worker.sendRw port (bs.take room) rx).result with
    | ok b =>
      rw [hresult] at hadds
      have hpump : (r.worker.pumpTurn port dirty res rx).result = .ok (dirty || b, none) := by
        rw [heq, hresult]
        rfl
      dsimp only
      rw [hpump]
      intro howed
      rcases hadds _ howed with hlog | hb
      · rcases hknown hlog with hd | hd
        · exact Or.inl hd
        · refine Or.inr (Or.inl ?_)
          show (dirty || b) = true
          rw [hd, Bool.true_or]
      · cases hb
        exact Or.inr (Or.inl (Bool.or_true _))
    | error e =>
      rw [hresult] at hadds
      have hpump : (r.worker.pumpTurn port dirty res rx).result = .error e := by
        rw [heq, hresult]
        rfl
      dsimp only
      rw [hpump]
      intro howed
      refine Or.inl ?_
      have hlog : owed r.log = true := (hadds _ howed).resolve_right nofun
      simp only [heard, hpc, hpump, Except.isOk, Except.toBool, Bool.or_false, Bool.or_eq_true,
        Bool.not_eq_true'] at hheard
      rcases hheard with hd | hd
      · exact hd
      · rcases hknown hlog with hd' | hd'
        · exact hd'
        · rw [hd] at hd'
          cases hd'

/-- Where a handler leaves off, the loop does not wait. -/
theorem afterFlush_ne (port : UInt32) (pollin hangup : Bool) :
    afterFlush port pollin hangup ≠ .waiting := by
  unfold afterFlush
  split_ifs <;> exact nofun

theorem afterPump_ne (port : UInt32) (hangup : Bool) : afterPump port hangup ≠ .waiting := by
  unfold afterPump
  split_ifs <;> exact nofun

/-- **A step in which no report is lost.** -/
theorem Settled.step (h : Settled r) (hheard : r.heard i = true) (hstep : r.step i = some r') :
    Settled r' := by
  obtain ⟨hknown, hwait⟩ := h
  unfold Reactor.step at hstep
  split at hstep
  · split_ifs at hstep
    cases hstep
    next hpc _ =>
      refine ⟨fun howed => Or.inl ?_, nofun⟩
      exact hknown.dirty (by rw [hpc]; rfl) (by rw [hpc]; rfl) howed
  · next hpc =>
      cases hstep
      have hdirty := hknown.dirty (by rw [hpc]; rfl) (by rw [hpc]; rfl)
      split_ifs
      · exact ⟨hknown, hwait⟩
      · exact ⟨fun howed => Or.inl (hdirty howed), nofun⟩
  · next hpc =>
      cases hstep
      exact Settled.scan hknown hpc _ _
  · next delivered rx hpc =>
      cases hstep
      refine ⟨hknown.drain hpc hheard, ?_⟩
      unfold stepDrain
      split
      · exact nofun
      · dsimp only
        split <;> exact nofun
  · next dirty chain rx ok hpc =>
      cases hstep
      refine ⟨Known.tx hpc hheard, ?_⟩
      unfold stepTx
      split
      · exact nofun
      · dsimp only
        split <;> exact nofun
  · next socket hpc =>
      cases hstep
      have hdirty := hknown.dirty (by rw [hpc]; rfl) (by rw [hpc]; rfl)
      rcases socket with _ | _ | _
      · exact ⟨fun howed => Or.inl (hdirty howed), nofun⟩
      · exact ⟨hknown, hwait⟩
      · exact ⟨fun howed => Or.inl (hdirty howed), fun hw => hwait hw⟩
  · next idx res rx hpc =>
      obtain ⟨d, hd, rfl⟩ := Option.map_eq_some_iff.mp hstep
      refine ⟨Known.settle ?_ (Reports.pollPending idx res hd), nofun⟩
      exact hknown.dirty (by rw [hpc]; rfl) (by rw [hpc]; rfl)
  · next port advanced caller res rx hpc =>
      cases hstep
      refine ⟨hknown.flush hpc hheard, fun hw => ?_⟩
      unfold stepFlush at hw
      dsimp only at hw
      cases caller with
      | processTx dirty =>
        split at hw <;> cases hw
      | conn pollin hangup =>
        split at hw
        · cases hw
        · exact absurd hw (afterFlush_ne _ _ _)
        · exact absurd hw (afterFlush_ne _ _ _)
  · next port dirty hangup res rx hpc =>
      cases hstep
      refine ⟨hknown.pump hpc hheard, fun hw => ?_⟩
      unfold stepPump at hw
      dsimp only at hw
      split at hw
      · cases hw
      · exact absurd hw (afterPump_ne _ _)
      · exact absurd hw (afterPump_ne _ _)
  · next port rx hpc =>
      cases hstep
      refine ⟨Known.settle ?_ ?_, nofun⟩
      · exact hknown.dirty (by rw [hpc]; rfl) (by rw [hpc]; rfl)
      · intro hany
        rw [Reports.closeConn port .hangup hany]
        rfl
  · cases hstep

/-- **Used entries are followed by an interrupt**, as long as no report is lost. In every run in
which none is, whenever the bridge waits, there are no used entries since the last interrupt. -/
theorem signalled (cid : UInt64) (listener pause : Bool) (is : List Input) (r : Reactor)
    (hheard : Meets Reactor.step (fun r i => r.heard i = true)
      (Reactor.start cid listener pause) is)
    (hrun : run Reactor.step (Reactor.start cid listener pause) is = some r)
    (hpc : r.pc = .waiting) : owed r.log = false := by
  have hstart : Settled (Reactor.start cid listener pause) := ⟨nofun, fun _ => rfl⟩
  obtain ⟨hknown, hwait⟩ := run_invariant Settled (fun _ _ _ h hh hs => h.step hh hs) is _ r hstart
    hheard hrun
  have hdirty := hknown.dirty (by rw [hpc]; rfl) (by rw [hpc]; rfl)
  rw [hwait hpc] at hdirty
  exact Bool.eq_false_iff.mpr (fun howed => Bool.false_ne_true (hdirty howed))

/-- The guest asks for a connection and is answered with a reset. -/
theorem signalled_request : ∃ r, run Reactor.step (Reactor.start 3 true false)
        (txRun [.tx (some [some (guestPacket OP_REQUEST [])]) (some [⟨64, 64⟩]) 0]) = some r ∧
      r.log.length = 3 ∧ .usedTx ∈ r.log ∧ r.pc = .waiting ∧ owed r.log = false := by
  obtain ⟨r, hr, hlen, hused, hpc⟩ : ∃ r, run Reactor.step (Reactor.start 3 true false)
      (txRun [.tx (some [some (guestPacket OP_REQUEST [])]) (some [⟨64, 64⟩]) 0]) = some r ∧
        r.log.length = 3 ∧ .usedTx ∈ r.log ∧ r.pc = .waiting := exists_of_any (by decide +kernel)
  refine ⟨r, hr, hlen, hused, hpc, signalled 3 true false _ r ?_ hr hpc⟩
  decide +kernel

/-- **A used transmit chain without an interrupt.** The guest answers a request that the bridge has
not made. The bridge takes the packet, has nothing to say to it, and waits again. -/
theorem silent_tx : ∃ is r, run Reactor.step (Reactor.start 3 true false) is = some r ∧
      r.pc = .waiting ∧ r.log = [.usedTx] ∧ owed r.log = true :=
  ⟨txRun [.tx (some [some (guestPacket OP_RESPONSE [])]) none 0], exists_of_any (by decide +kernel)⟩

end Reactor

end MicroMachines.Vsock
