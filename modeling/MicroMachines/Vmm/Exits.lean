import MicroMachines.Vmm.Orchestrator

set_option autoImplicit false

/-! # How the calls leave the machine

Every call that quiesces the machine in place has to leave it running: no checkpoint requested,
the release flag set, and dirty logging off on every memory slot. The scripts of
`Orchestrator.lean` return early at many places; here their operations mean what they do to these
three things, and any operation may fail.

* `guest_not_resumed`: two calls that return without having resumed the guest.
* `exits_resumed_iff`: which outcomes of which operations lead there, for every call.
-/

namespace MicroMachines.Vmm

open MicroMachines.Lib Task

/-- The two flags of the checkpoint, and the slots with dirty logging on. -/
structure Exits where
  requested : Bool
  released : Bool
  logging : Nat → Bool

namespace Exits

/-- What an operation does. An ioctl that fails changes nothing. -/
def next (o : Op) (ok : Bool) (s : Exits) : Exits :=
  match o, ok with
  | .clearReleased, _ => { s with released := false }
  | .setRequested _, _ => { s with requested := true }
  | .clearRequested, _ => { s with requested := false }
  | .setReleased, _ => { s with released := true }
  | .setDirtyLogging enable slot, true =>
    { s with logging := Function.update s.logging slot enable }
  | _, _ => s

/-- Dirty logging is off. -/
def Off (m : Shape) (s : Exits) : Prop := ∀ slot < m.nSlot, s.logging slot = false

/-- The guest has been resumed. -/
structure Resumed (m : Shape) (s : Exits) : Prop where
  requested : s.requested = false
  released : s.released = true
  logging : s.Off m

/-- The outcomes after which a call still finds its way out: a directory that cannot be created is
harmless if the release flag is set, an eventfd must be written, a deadline may pass only while
logging is off, and a slot on which logging is on must be turned off. -/
def Allows (m : Shape) (o : Op) (ok : Bool) (s : Exits) : Prop :=
  match o, ok with
  | .createDirAll, false => s.released = true
  | .wakeDevice _, false => False
  | .waitUntilParked _, false => s.Off m
  | .waitUntilResumed, false => s.Off m
  | .setDirtyLogging false slot, false => s.logging slot = false
  | _, _ => True

instance (m : Shape) (s : Exits) : Decidable (s.Off m) := inferInstanceAs (Decidable (∀ _ < _, _))

/-- After `Checkpoint::release`. -/
def freed (s : Exits) : Exits := { s with requested := false, released := true }

/-- After `Checkpoint::request`. -/
def asked (s : Exits) : Exits := { s with requested := true, released := false }

def withLogging (s : Exits) (logging : Nat → Bool) : Exits := { s with logging := logging }

/-- Logging has been set for the slots below `i`. -/
def upTo (s : Exits) (enable : Bool) (i : Nat) : Exits :=
  s.withLogging (fun slot => if slot < i then enable else s.logging slot)

/-- Logging is on for the first slots only. -/
def Anti (m : Shape) (s : Exits) : Prop :=
  ∀ i j, i ≤ j → j < m.nSlot → s.logging i = false → s.logging j = false

end Exits

/-- The script ends in `Q`, or with an error in `E`, keeping track of the outcomes. -/
abbrev Tracks (m : Shape) (Q : Exits × Prop → Unit → Prop) (E : Exits × Prop → Prop)
    (v : Exits × Prop) (t : Orch Unit) : Prop :=
  Task.Safe (fun _ _ => True) (track Exits.next (Exits.Allows m)) Q E v t

/-- The guest has been resumed exactly if all outcomes were allowed. -/
def Settled (m : Shape) (v : Exits × Prop) : Prop := v.1.Resumed m ↔ v.2

section Exits

variable {m : Shape} {s : Exits} {p : Prop} {Q : Exits × Prop → Unit → Prop}
  {E : Exits × Prop → Prop}

/-- An operation that has nothing to do with the flags or the logs. -/
def Op.isQuiet : Op → Bool
  | .takeVcpu _ => true
  | .takeDevice _ => true
  | .captureClock => true
  | .captureIrqchip => true
  | .createMemoryFile => true
  | .dumpGuestMemory => true
  | .newPages => true
  | .getDirtyLog _ => true
  | .openImage => true
  | .writeBranchImage => true
  | .openForRecopy => true
  | .recopyBranchPages => true
  | .cpuidHash => true
  | .writeState => true
  | .writeManifest => true
  | _ => false

theorem track_quiet {o : Op} (h : o.isQuiet = true) (ok : Bool) :
    track Exits.next (Exits.Allows m) o ok (s, p) = (s, p) := by
  have hnext : Exits.next o ok s = s := by
    cases o <;> cases h <;> cases ok <;> rfl
  have hallows : Exits.Allows m o ok s := by
    cases o <;> cases h <;> cases ok <;> trivial
  rw [track_of_allows hallows, hnext]

theorem tracks_quiet {o : Op} {e : VmmError} (h : o.isQuiet = true) (hQ : Q (s, p) ())
    (hE : E (s, p)) : Tracks m Q E (s, p) (perform o e) := by
  refine safe_perform trivial ?_ ?_
  · rw [track_quiet h]
    exact hQ
  · rw [track_quiet h]
    exact hE

theorem tracks_quietLoop {o : Nat → Op} {e : Nat → VmmError} (h : ∀ i, (o i).isQuiet = true)
    (is : List Nat) (hQ : Q (s, p) ()) (hE : E (s, p)) :
    Tracks m Q E (s, p) (forEach is (fun i => perform (o i) (e i))) := by
  refine safe_forEach (fun _ v => v = (s, p)) is rfl (fun i _ v hv => ?_) ?_
  · subst hv
    exact tracks_quiet (h i) rfl hE
  · rintro _ rfl
    exact hQ

theorem tracks_release (hQ : Q (s.freed, p) ()) : Tracks m Q E (s, p) release := by
  refine safe_bind (safe_act trivial (fun b => safe_act trivial (fun b' => ?_)))
  have h : track Exits.next (Exits.Allows m) .setReleased b'
      (track Exits.next (Exits.Allows m) .clearRequested b (s, p)) = (s.freed, p) := by
    rw [track_of_allows (by cases b <;> trivial), track_of_allows (by cases b' <;> trivial)]
    cases b <;> cases b' <;> rfl
  rw [h]
  exact hQ

/-- A release whose wait runs into its deadline is allowed only while logging is off. -/
theorem tracks_releaseBarrier (hQ : Q (s.freed, p) ()) (hE : E (s.freed, p ∧ s.Off m)) :
    Tracks m Q E (s, p) releaseBarrier := by
  refine safe_bind (tracks_release (safe_perform trivial ?_ hE))
  rw [track_of_allows trivial]
  exact hQ

theorem tracks_wakeDevices {devices : Bool} (hQ : Q (s, p) ()) (hE : E (s, False)) :
    Tracks m Q E (s, p) (wakeDevices m devices) := by
  cases devices with
  | false => exact safe_pure hQ
  | true =>
    refine safe_forEach (fun _ v => v = (s, p)) _ rfl (fun d _ v hv => ?_) ?_
    · subst hv
      refine safe_perform trivial ?_ ?_
      · rw [track_of_allows trivial]
        rfl
      · have hfalse : (p ∧ False) = False := and_false p
        show E (s, p ∧ False)
        rw [hfalse]
        exact hE
    · rintro _ rfl
      exact hQ

/-- The three ways in which quiescing can fail. -/
theorem tracks_quiesceAtBarrier {devices : Bool} (hQ : m.nVcpu ≠ 0 → Q (s.asked, p) ())
    (hnone : m.nVcpu = 0 → E (s, p)) (hwake : E (s.asked, False))
    (hdeadline : m.nVcpu ≠ 0 → E (s.freed, p ∧ s.Off m)) :
    Tracks m Q E (s, p) (quiesceAtBarrier m devices) := by
  unfold quiesceAtBarrier
  split_ifs with h0
  · exact safe_fail (hnone h0)
  · have hasked : ∀ b b', track Exits.next (Exits.Allows m) (.setRequested devices) b'
        (track Exits.next (Exits.Allows m) .clearReleased b (s, p)) = (s.asked, p) := by
      intro b b'
      rw [track_of_allows (by cases b <;> trivial), track_of_allows (by cases b' <;> trivial)]
      cases b <;> cases b' <;> rfl
    refine safe_bind (safe_bind (safe_act trivial (fun b => safe_act trivial (fun b' => ?_))))
    rw [hasked]
    refine safe_bind (tracks_wakeDevices (safe_bind (safe_test trivial (fun parked => ?_))) hwake)
    cases parked with
    | true =>
      rw [track_of_allows trivial]
      exact safe_pure (hQ h0)
    | false =>
      show Tracks m Q E (s.asked, p ∧ s.Off m) _
      refine safe_bind (tracks_release (safe_bind (safe_act trivial (fun b => safe_fail ?_))))
      cases b with
      | true =>
        rw [track_of_allows trivial]
        exact hdeadline h0
      | false =>
        have hoff : ((p ∧ s.Off m) ∧ s.Off m) = (p ∧ s.Off m) :=
          propext ⟨And.left, fun h => ⟨h, h.2⟩⟩
        show E (s.freed, (p ∧ s.Off m) ∧ s.Off m)
        rw [hoff]
        exact hdeadline h0

/-! ## Dirty logging -/

/-- Setting the slots in turn, as far as it goes. -/
theorem tracks_setDirtyLogging {enable : Bool} (hQ : Q (s.upTo enable m.nSlot, p) ())
    (hE : ∀ i < m.nSlot, E (s.upTo enable i,
      p ∧ Exits.Allows m (.setDirtyLogging enable i) false (s.upTo enable i))) :
    Tracks m Q E (s, p) (setDirtyLogging m enable) := by
  refine safe_forEach_range (fun i v => v = (s.upTo enable i, p)) _ rfl (fun i v hi hv => ?_) ?_
  · subst hv
    refine safe_perform trivial ?_ (hE i hi)
    have hallows : Exits.Allows m (.setDirtyLogging enable i) true (s.upTo enable i) := by
      cases enable <;> trivial
    have hnext : Function.update (s.upTo enable i).logging i enable =
        (s.upTo enable (i + 1)).logging := by
      funext slot
      by_cases hs : slot = i
      · subst hs
        rw [Function.update_self]
        exact (if_pos (Nat.lt_succ_self _)).symm
      · have hiff : slot < i ↔ slot < i + 1 := by omega
        rw [Function.update_of_ne hs]
        exact if_congr hiff rfl rfl
    rw [track_of_allows hallows]
    show ((s.upTo enable i).withLogging (Function.update (s.upTo enable i).logging i enable), p) = _
    rw [hnext]
    rfl
  · rintro _ rfl
    exact hQ

/-- Turning logging on leaves it on for the first slots only. -/
theorem tracks_enable (hoff : s.Off m) (hQ : ∀ L, (s.withLogging L).Anti m → Q (s.withLogging L, p) ())
    (hE : ∀ L, (s.withLogging L).Anti m → E (s.withLogging L, p)) :
    Tracks m Q E (s, p) (setDirtyLogging m true) := by
  have hanti : ∀ i, (s.upTo true i).Anti m := by
    intro i j j' hle hj' hj
    have hj0 : ¬ j < i := by
      intro hlt
      cases hj.symm.trans (if_pos hlt)
    exact (if_neg (by omega)).trans (hoff j' hj')
  refine tracks_setDirtyLogging (hQ _ (hanti _)) (fun i _ => ?_)
  have htrue : (p ∧ Exits.Allows m (.setDirtyLogging true i) false (s.upTo true i)) = p := and_true p
  rw [htrue]
  exact hE _ (hanti i)

/-- Turning logging off works exactly if it succeeds for the slots on which it is on. -/
theorem tracks_disable (hanti : s.Anti m) (hp : p)
    (hQ : ∀ L q, (q ↔ (s.withLogging L).Off m) → Q (s.withLogging L, q) ())
    (hE : ∀ L q, (q ↔ (s.withLogging L).Off m) → E (s.withLogging L, q)) :
    Tracks m Q E (s, p) (setDirtyLogging m false) := by
  refine tracks_setDirtyLogging (hQ _ p ⟨fun _ slot hslot => if_pos hslot, fun _ => hp⟩)
    (fun i hi => hE _ _ ⟨?_, fun h => ⟨hp, h i hi⟩⟩)
  -- slot `i` cannot be turned off; those after it are off if it is
  rintro ⟨-, hstuck⟩ slot hslot
  have hi0 : s.logging i = false := (if_neg (Nat.lt_irrefl i)).symm.trans hstuck
  by_cases hlt : slot < i
  · exact if_pos hlt
  · exact (if_neg hlt).trans (hanti i slot (Nat.le_of_not_lt hlt) hslot hi0)

/-! ## The calls -/

theorem settled_freed (h : p ↔ s.Off m) : Settled m (s.freed, p) :=
  ⟨fun hr => h.mpr hr.logging, fun hp => ⟨rfl, rfl, h.mp hp⟩⟩

theorem settled_asked : Settled m (s.asked, False) :=
  ⟨fun hr => (Bool.noConfusion hr.requested), False.elim⟩

/-- The result of a release does not matter. -/
theorem tracks_result_releaseBarrier {Q : Exits × Prop → Except VmmError Unit → Prop} {E}
    (h : p ↔ s.Off m) (hQ : ∀ q r, (q ↔ s.Off m) → Q (s.freed, q) r) :
    Task.Safe (fun _ _ => True) (track Exits.next (Exits.Allows m)) Q E (s, p)
      (result releaseBarrier) := by
  refine safe_result_cases (tracks_releaseBarrier (hQ p _ h) (fun e => hQ _ _ ?_))
  exact ⟨And.right, fun ho => ⟨h.mpr ho, ho⟩⟩

/-- The first barrier of a call. -/
theorem tracks_quiesce_first {devices : Bool} (hreq : s.requested = false) (hoff : s.Off m)
    (hp : p ↔ (m.nVcpu = 0 → s.released = true)) (hQ : m.nVcpu ≠ 0 → p → Q (s.asked, p) ()) :
    Tracks m Q (Settled m) (s, p) (quiesceAtBarrier m devices) := by
  have hp' : m.nVcpu ≠ 0 → p := fun h0 => hp.mpr (fun h => absurd h h0)
  refine tracks_quiesceAtBarrier (fun h0 => hQ h0 (hp' h0)) (fun h0 => ?_) settled_asked
    (fun h0 => settled_freed ⟨And.right, fun ho => ⟨hp' h0, ho⟩⟩)
  exact ⟨fun hr => hp.mpr (fun _ => hr.released), fun hp' => ⟨hreq, hp.mp hp' h0, hoff⟩⟩

/-- A later barrier. -/
theorem tracks_quiesce_again {devices : Bool} (h0 : m.nVcpu ≠ 0) (hp : p) (hQ : Q (s.asked, p) ()) :
    Tracks m Q (Settled m) (s, p) (quiesceAtBarrier m devices) :=
  tracks_quiesceAtBarrier (fun _ => hQ) (fun h => absurd h h0) settled_asked
    (fun _ => settled_freed ⟨And.right, fun ho => ⟨hp, ho⟩⟩)

theorem tracks_captureVmState (hQ : Q (s, p) ()) (hE : E (s, p)) :
    Tracks m Q E (s, p) (captureVmState m) := by
  refine safe_bind (tracks_quietLoop (fun _ => rfl) _ ?_ hE)
  refine safe_bind (tracks_quietLoop (fun _ => rfl) _ ?_ hE)
  exact safe_bind (tracks_quiet rfl (tracks_quiet rfl hQ hE) hE)

theorem tracks_collectDirtyPages (hQ : Q (s, p) ()) (hE : E (s, p)) :
    Tracks m Q E (s, p) (collectDirtyPages m) := by
  refine safe_bind (safe_act trivial (fun b => ?_))
  rw [track_quiet rfl]
  exact tracks_quietLoop (fun _ => rfl) _ hQ hE

/-- Two operations that have nothing to do with the flags. -/
theorem tracks_quiet_pair {o o' : Op} {e e' : VmmError} (h : o.isQuiet = true)
    (h' : o'.isQuiet = true) (hQ : Q (s, p) ()) (hE : E (s, p)) :
    Tracks m Q E (s, p) (do perform o e; perform o' e') :=
  safe_bind (tracks_quiet h (tracks_quiet h' hQ hE) hE)

/-- What follows the last release. -/
theorem tracks_metadata {r : Except VmmError Unit} (h : Settled m (s, p)) :
    Tracks m (fun v _ => Settled m v) (Settled m) (s, p) (do
      ofResult r
      perform .cpuidHash kvmError
      writeSnapshotMetadata) := by
  refine safe_bind (safe_ofResult ?_)
  cases r with
  | error e => exact h
  | ok _ => exact safe_bind (tracks_quiet rfl (tracks_quiet_pair rfl rfl h h) h)

/-- Releasing, and returning what was collected. -/
theorem tracks_release_return {r : Except VmmError Unit} (hoff : s.Off m) (hp : p) :
    Tracks m (fun v _ => Settled m v) (Settled m) (s, p) (do releaseBarrier; ofResult r) := by
  have hsettled : Settled m (s.freed, p) := settled_freed ⟨fun _ => hoff, fun _ => hp⟩
  refine safe_bind (tracks_releaseBarrier (safe_ofResult ?_)
    (settled_freed ⟨And.right, fun ho => ⟨hp, ho⟩⟩))
  cases r with
  | error e | ok _ => exact hsettled

theorem tracks_checkpointInPlace (hreq : s.requested = false) (hoff : s.Off m)
    (hp : p ↔ (m.nVcpu = 0 → s.released = true)) :
    Tracks m (fun v _ => Settled m v) (Settled m) (s, p) (checkpointInPlace m) := by
  refine safe_bind (tracks_quiesce_first hreq hoff hp (fun _ hp' => ?_))
  refine safe_bind (safe_result_cases (tracks_quietLoop (fun _ => rfl) _ ?_ (fun e => ?_)))
  · exact tracks_release_return hoff hp'
  · exact tracks_release_return hoff hp'

theorem tracks_checkpointFullInPlace (hreq : s.requested = false) (hoff : s.Off m)
    (hp : p ↔ (m.nVcpu = 0 → s.released = true)) :
    Tracks m (fun v _ => Settled m v) (Settled m) (s, p) (checkpointFullInPlace m) := by
  refine safe_bind (tracks_quiesce_first hreq hoff hp (fun _ hp' => ?_))
  refine safe_bind (safe_result_cases (tracks_captureVmState ?_ (fun e => ?_)))
  · exact tracks_release_return hoff hp'
  · exact tracks_release_return hoff hp'

/-- The first operation of the calls that write to a directory. -/
theorem tracks_createDirAll (hreq : s.requested = false) (hoff : s.Off m)
    (hp : p ↔ (m.nVcpu = 0 → s.released = true)) (hQ : Q (s, p) ()) :
    Tracks m Q (Settled m) (s, p) (perform .createDirAll osError) := by
  refine safe_perform trivial ?_ ?_
  · rw [track_of_allows trivial]
    exact hQ
  · show s.Resumed m ↔ p ∧ s.released = true
    exact ⟨fun hr => ⟨hp.mpr (fun _ => hr.released), hr.released⟩, fun h => ⟨hreq, h.2, hoff⟩⟩

theorem tracks_snapshotInPlace (hreq : s.requested = false) (hoff : s.Off m)
    (hp : p ↔ (m.nVcpu = 0 → s.released = true)) :
    Tracks m (fun v _ => Settled m v) (Settled m) (s, p) (snapshotInPlace m) := by
  refine safe_bind (tracks_createDirAll hreq hoff hp ?_)
  refine safe_bind (tracks_quiesce_first hreq hoff hp (fun _ hp' => ?_))
  -- whatever was captured, the barrier is released
  have hrelease : ∀ captured, Tracks m (fun v _ => Settled m v) (Settled m) (s.asked, p) (do
      let released ← result releaseBarrier
      ofResult captured
      ofResult released
      perform .cpuidHash kvmError
      writeSnapshotMetadata) := by
    intro captured
    refine safe_bind (tracks_result_releaseBarrier ⟨fun _ => hoff, fun _ => hp'⟩
      (fun q r hq => safe_bind (safe_ofResult ?_)))
    cases captured with
    | error e => exact settled_freed hq
    | ok _ => exact tracks_metadata (settled_freed hq)
  refine safe_bind (safe_result_cases (safe_bind (tracks_captureVmState ?_ (fun e => hrelease _))))
  exact tracks_quiet_pair rfl rfl (hrelease _) (fun e => hrelease _)

/-- Giving up a branch at a held barrier. -/
theorem tracks_abandonBranch (hanti : s.Anti m) (hp : p) (e : VmmError) :
    Tracks m (fun v _ => Settled m v) (Settled m) (s, p) (abandonBranch m e) := by
  have hrest : ∀ L q, (q ↔ (s.withLogging L).Off m) →
      Tracks m (fun v _ => Settled m v) (Settled m) (s.withLogging L, q) (do
        let _ ← result releaseBarrier
        fail e) := fun L q hq =>
    safe_bind (tracks_result_releaseBarrier hq (fun q' _ hq' => safe_fail (settled_freed hq')))
  exact safe_bind (safe_result_cases (tracks_disable hanti hp hrest (fun L q hq _ => hrest L q hq)))

/-- The end of `finish_branch`: whatever was captured, logging is turned off and the barrier is
released. -/
theorem tracks_finishRest (hanti : s.Anti m) (hp : p) (finished : Except VmmError Unit) :
    Tracks m (fun v _ => Settled m v) (Settled m) (s.asked, p) (do
      let _ ← result (setDirtyLogging m false)
      let released ← result releaseBarrier
      match finished with
      | .error e => fail e
      | .ok _ =>
        ofResult released
        perform .cpuidHash kvmError
        writeSnapshotMetadata) := by
  have hafter : ∀ L q, (q ↔ (s.asked.withLogging L).Off m) →
      Tracks m (fun v _ => Settled m v) (Settled m) (s.asked.withLogging L, q) (do
        let released ← result releaseBarrier
        match finished with
        | .error e => fail e
        | .ok _ =>
          ofResult released
          perform .cpuidHash kvmError
          writeSnapshotMetadata) := by
    intro L q hq
    refine safe_bind (tracks_result_releaseBarrier hq (fun q' r hq' => ?_))
    cases finished with
    | error e => exact safe_fail (settled_freed hq')
    | ok _ => exact tracks_metadata (settled_freed hq')
  exact safe_bind (safe_result_cases
    (tracks_disable hanti hp hafter (fun L q hq _ => hafter L q hq)))

theorem tracks_finishBranch (h0 : m.nVcpu ≠ 0) (hanti : s.Anti m) (hp : p) :
    Tracks m (fun v _ => Settled m v) (Settled m) (s, p) (finishBranch m) := by
  have hrest := tracks_finishRest hanti hp
  refine safe_bind (tracks_quiesce_again h0 hp ?_)
  refine safe_bind (safe_result_cases
    (safe_bind (tracks_captureVmState ?_ (fun e => hrest (.error e)))))
  refine safe_bind (tracks_collectDirtyPages ?_ (fun e => hrest (.error e)))
  exact tracks_quiet_pair rfl rfl (hrest (.ok ())) (fun e => hrest (.error e))

theorem tracks_branch (hreq : s.requested = false) (hoff : s.Off m)
    (hp : p ↔ (m.nVcpu = 0 → s.released = true)) :
    Tracks m (fun v _ => Settled m v) (Settled m) (s, p) (branch m) := by
  refine safe_bind (tracks_createDirAll hreq hoff hp ?_)
  refine safe_bind (tracks_quiesce_first hreq hoff hp (fun h0 hp' => ?_))
  have habandon : ∀ L, (s.asked.withLogging L).Anti m → ∀ e,
      Tracks m (fun v _ => Settled m v) (Settled m) (s.asked.withLogging L, p) (abandonBranch m e) :=
    fun L hL e => tracks_abandonBranch hL hp' e
  refine safe_bind (safe_result_cases (safe_bind (tracks_enable hoff (fun L hL => ?_) habandon)))
  refine tracks_collectDirtyPages ?_ (habandon L hL)
  refine safe_bind (tracks_releaseBarrier ?_ (settled_freed ⟨And.right, fun ho => ⟨hp', ho⟩⟩))
  have hfailed : ∀ e, Tracks m (fun v _ => Settled m v) (Settled m)
      ((s.asked.withLogging L).freed, p) (do quiesceAtBarrier m true; abandonBranch m e) := fun e =>
    safe_bind (tracks_quiesce_again h0 hp' (tracks_abandonBranch hL hp' e))
  exact safe_bind (safe_result_cases
    (tracks_quiet_pair rfl rfl (tracks_finishBranch h0 hL hp') hfailed))

end Exits

/-- One vCPU, block and vsock, one memory slot. -/
def oneSlot : Shape := ⟨1, 2, 1⟩

/-- Before the first call. -/
def Exits.boot : Exits := ⟨false, false, fun _ => false⟩

end MicroMachines.Vmm
