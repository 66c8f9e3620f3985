import MicroMachines.Exec.Session

set_option autoImplicit false

/-! # The answer to a command

* `answered_iff`: when the client gets all output of the command and one exit frame at the end. Once
  the child has ended, the threads of the agent come to rest, and then it depends on the pipes: the
  exit frame comes when both of them are closed, however long that takes.
* `unanswered`: runs in which there is no exit frame.
-/

namespace MicroMachines.Exec

open MicroMachines.Lib

/-! ## How long the threads go on -/

/-- The calls that `handle_exec` still makes once the child has ended, and two for the readers that
it starts. -/
def Pc.rank : Pc → Nat
  | .spawning => 12
  | .spawned => 11
  | .tracked => 10
  | .cloneFailed => 3
  | .abandoning => 2
  | .forgetting => 1
  | .gaveUp => 0
  | .checking => 7
  | .polling => 6
  | .killed => 6
  | .joiningOut _ _ => 5
  | .joiningErr _ _ => 4
  | .untracking _ => 3
  | .writing _ => 2
  | .returned _ => 0

def Reader.rank : Reader → Nat
  | .idle => 0
  | .reading => 1
  | .holding _ => 2
  | .finished => 0

/-- What a reader still does. -/
def Side.rank (side : Side) : Nat := 2 * side.unread.length + side.reader.rank

namespace Session

def work (s : Session) : Nat := s.pc.rank + (s.sides .stdout).rank + (s.sides .stderr).rank

variable {s : Session} {status : ExitStatus} {pc : Pc}

theorem work_setSide {stream : Stream} {side : Side}
    (h : side.rank < (s.sides stream).rank) : (s.setSide stream side).work < s.work := by
  cases stream with
  | stdout =>
    have hother : Function.update s.sides .stdout side .stderr = s.sides .stderr :=
      Function.update_of_ne Stream.noConfusion ..
    simp only [work, setSide, Function.update_self, hother]
    omega
  | stderr =>
    have hother : Function.update s.sides .stderr side .stdout = s.sides .stdout :=
      Function.update_of_ne Stream.noConfusion ..
    simp only [work, setSide, Function.update_self, hother]
    omega

theorem work_main (h : Sound s) (hchild : s.child = .ended status) {call : Call}
    (hnext : Pc.Next s.timeoutMs s.pc call pc) (hallows : s.Allows call) :
    (s.perform call).child = .ended status ∧ { s.perform call with pc := pc }.work < s.work := by
  generalize hpc : s.pc = pc₀ at hnext
  cases hnext with
  | spawned =>
    have hnone := h.spawning hpc
    rw [hchild] at hnone
    cases hnone
  | notEnded =>
    -- `try_wait` finds no child running any more
    have hrunning : s.child = .running := hallows
    rw [hchild] at hrunning
    cases hrunning
  | cloned =>
    -- both readers get something to do, which the rank of `tracked` has counted
    refine ⟨hchild, ?_⟩
    have hidle := h.early (by rw [hpc]; rfl)
    simp only [work, perform, Side.rank, hpc, hidle, Pc.rank, Reader.rank]
    omega
  | sent code =>
    have hperform : s.perform .send = s.put (.exit s.id code) := by
      unfold perform
      rw [hpc]
    have hput : (s.put (.exit s.id code)).sides = s.sides ∧
        (s.put (.exit s.id code)).child = s.child := by
      unfold put
      split <;> exact ⟨rfl, rfl⟩
    rw [hperform]
    refine ⟨hput.2.trans hchild, ?_⟩
    simp only [work, hput.1, hpc, Pc.rank]
    omega
  | _ =>
    refine ⟨hchild, ?_⟩
    simp only [work, perform, hpc, Pc.rank]
    omega

/-- Once the child has ended, every step of a thread brings the end nearer. -/
theorem work_step {s' : Session} (h : Sound s)
    (hchild : s.child = .ended status) {a : Action} (ha : a.ofAgent = true)
    (hstep : s.step a = some s') : s'.child = .ended status ∧ s'.work < s.work := by
  cases a with
  | main call =>
    unfold Session.step at hstep
    cases hnext : s.pc.next s.timeoutMs call with
    | none => simp [hnext] at hstep
    | some pc =>
      simp only [hnext] at hstep
      obtain ⟨hallows, rfl⟩ := Option.ite_some_none_eq_some.mp hstep
      exact work_main h hchild (Pc.next_cases hnext) hallows
  | read stream n =>
    obtain ⟨⟨hreader, hpos, _, hlen⟩, hs⟩ := Option.ite_none_right_eq_some.mp hstep
    cases hs
    refine ⟨hchild, work_setSide ?_⟩
    simp only [Side.rank, hreader, Reader.rank, List.length_drop]
    omega
  | readFails stream =>
    obtain ⟨hreader, rfl⟩ := Option.ite_some_none_eq_some.mp hstep
    refine ⟨hchild, work_setSide ?_⟩
    simp [Side.rank, hreader, Reader.rank]
  | eof stream =>
    obtain ⟨⟨hreader, _, _⟩, hs⟩ := Option.ite_none_right_eq_some.mp hstep
    cases hs
    refine ⟨hchild, work_setSide ?_⟩
    simp [Side.rank, hreader, Reader.rank]
  | forward stream =>
    cases hreader : (s.sides stream).reader with
    | holding data =>
      simp only [Session.step, hreader] at hstep
      by_cases haccepts : s.accepts = true
      · rw [if_pos haccepts] at hstep
        cases hstep
        unfold put
        rw [if_pos haccepts]
        refine ⟨hchild, @work_setSide { s with sent := s.sent ++ _ } stream _ ?_⟩
        simp [Side.rank, hreader, Reader.rank]
      · rw [if_neg haccepts] at hstep
        cases hstep
        refine ⟨hchild, work_setSide ?_⟩
        simp [Side.rank, hreader, Reader.rank]
    | _ => simp [Session.step, hreader] at hstep
  | _ => cases ha

/-- Once the child has ended and nothing more is written, the threads come to rest. -/
theorem length_le_work {s' : Session} (h : Sound s)
    (hchild : s.child = .ended status) {as : List Action} (has : ∀ a ∈ as, a.ofAgent = true)
    (hrun : run step s as = some s') : as.length + s'.work ≤ s.work := by
  induction as generalizing s with
  | nil =>
    cases hrun
    simp
  | cons a as ih =>
    obtain ⟨m, hm, hrest⟩ := run_cons.mp hrun
    obtain ⟨hended, hless⟩ := work_step h hchild (has a List.mem_cons_self) hm
    have hle := ih (h.step hm) hended (fun b hb => has b (List.mem_cons_of_mem a hb)) hrest
    rw [List.length_cons]
    omega

/-! ## At rest -/

/-- A thread that could go on. -/
theorem Resting.main (h : Resting s) (call : Call)
    (hfails : (Action.main call).fails = false) (hnext : s.pc.next s.timeoutMs call = some pc) :
    ¬ s.Allows call := by
  intro hallows
  have hstill := h.still (.main call) rfl hfails
  simp [step, hnext, hallows] at hstill

/-- A reader that does not go on waits at an open pipe. -/
theorem Resting.not_drained (h : Resting s) (hsound : Sound s) {stream : Stream}
    (hidle : (s.sides stream).reader ≠ .idle) (hfinished : (s.sides stream).reader ≠ .finished) :
    ¬ s.Drained stream := by
  rintro ⟨hunread, hended⟩
  cases hreader : (s.sides stream).reader with
  | idle => exact hidle hreader
  | finished => exact hfinished hreader
  | holding data =>
    have hstill := h.still (.forward stream) rfl rfl
    simp [step, hreader, h.accepts] at hstill
  | reading =>
    have hstill := h.still (.eof stream) rfl rfl
    rcases hended with hclosed | hfailed
    · simp [step, hreader, hunread, hclosed] at hstill
    · exact hfinished (hsound.stopped stream hfailed)

/-- Without an exit frame there is no answer. -/
theorem not_answered (h : ∀ f ∈ s.sent, f.isOutput s.id = true) : ¬ s.Answered := by
  rintro ⟨outs, code, hsent, _⟩
  have hexit := h (.exit s.id code) (by simp [hsent])
  cases hexit

/-- After the exit frame, the answer is complete if nothing is left in the pipes. -/
theorem answered_of_returned (h : Sound s) (haccepts : s.accepts = true)
    {code : Int32} (hpc : s.pc = .returned code) : s.Answered ↔ ∀ stream, s.Drained stream := by
  have hframes := h.frames haccepts
  rw [hpc] at hframes
  obtain ⟨outs, hsent, houts⟩ := hframes
  have hreader : ∀ stream, (s.sides stream).reader.held = [] ∧
      ((s.sides stream).closed = true ∨ (s.sides stream).failed = true) := by
    intro stream
    rcases h.late (by rw [hpc]; rfl) with hnone | hall
    · rw [h.unborn hnone stream]
      exact ⟨rfl, Or.inl rfl⟩
    · rw [hall stream]
      refine ⟨rfl, ?_⟩
      rcases h.drained haccepts stream (hall stream) with hfailed | ⟨hclosed, _⟩
      · exact Or.inr hfailed
      · exact Or.inl hclosed
  have hdata : ∀ stream, received s.id stream outs ++ (s.sides stream).unread =
      (s.sides stream).written := by
    intro stream
    have hconserved := h.conserved haccepts stream
    rw [hsent, (hreader stream).1] at hconserved
    simpa [received, Frame.dataOn] using hconserved
  constructor
  · rintro ⟨outs', code', hsent', _, hwritten⟩ stream
    have hsame : outs' = outs :=
      (List.append_inj_left' (hsent'.symm.trans hsent) rfl)
    have hall := hdata stream
    rw [← hwritten stream, hsame] at hall
    exact ⟨by simpa using hall, (hreader stream).2⟩
  · intro hdrained
    refine ⟨outs, code, hsent, houts, ?_⟩
    intro stream
    have hall := hdata stream
    rwa [(hdrained stream).1, List.append_nil] at hall

/-- A session that rests at the join of a reader: the reader waits at an open pipe, and the exit frame
has not been written. -/
theorem answered_of_joining (h : Sound s) (hrest : Resting s) (stream : Stream)
    (hstreaming : s.pc.streaming = true) (hnext : s.pc.next s.timeoutMs (.join stream) = some pc)
    (hframes : ∀ f ∈ s.sent, f.isOutput s.id = true) :
    s.Answered ↔ s.pc ≠ .gaveUp ∧ ∀ stream, s.Drained stream := by
  have hidle := h.streaming hstreaming stream
  have hfinished : (s.sides stream).reader ≠ .finished := hrest.main (.join stream) rfl hnext
  have hopen := hrest.not_drained h hidle hfinished
  exact iff_of_false (not_answered hframes) (fun hall => hopen (hall.2 stream))

/-- **When a session that has come to rest has been answered.** -/
theorem answered_of_resting (h : Sound s) (hrest : Resting s) :
    s.Answered ↔ s.pc ≠ .gaveUp ∧ ∀ stream, s.Drained stream := by
  have hended : s.pc.childless = false → ∃ status, s.child = .ended status := by
    intro hpc
    cases hchild : s.child with
    | none =>
      have hchildless := h.childless hchild
      rw [hpc] at hchildless
      cases hchildless
    | running => exact absurd hchild hrest.child
    | ended status => exact ⟨status, rfl⟩
  have hframes := h.frames hrest.accepts
  -- `handle_exec` can rest at its end, where it has given up, or at the join of a reader; everywhere
  -- else it could go on
  cases hpc : s.pc with
  | returned code =>
    rw [answered_of_returned h hrest.accepts hpc]
    simp
  | gaveUp =>
    rw [hpc] at hframes
    simp [not_answered hframes]
  | joiningOut status timedOut =>
    rw [hpc] at hframes
    rw [← hpc]
    exact answered_of_joining h hrest .stdout (by rw [hpc]; rfl) (by rw [hpc]; rfl) hframes
  | joiningErr status timedOut =>
    rw [hpc] at hframes
    rw [← hpc]
    exact answered_of_joining h hrest .stderr (by rw [hpc]; rfl) (by rw [hpc]; rfl) hframes
  | polling =>
    obtain ⟨status, hchild⟩ := hended (by rw [hpc]; rfl)
    exact absurd hchild (hrest.main (.tryWait (.ok (some status))) rfl (by rw [hpc]; rfl))
  | killed | abandoning =>
    obtain ⟨status, hchild⟩ := hended (by rw [hpc]; rfl)
    exact absurd hchild (hrest.main (.wait (some status)) rfl (by rw [hpc]; rfl))
  | spawning => exact absurd trivial (hrest.main (.spawn true) rfl (by rw [hpc]; rfl))
  | spawned => exact absurd trivial (hrest.main .trackChild rfl (by rw [hpc]; rfl))
  | tracked => exact absurd trivial (hrest.main (.tryClone true) rfl (by rw [hpc]; rfl))
  | cloneFailed => exact absurd trivial (hrest.main .kill rfl (by rw [hpc]; rfl))
  | forgetting => exact absurd trivial (hrest.main .untrackChild rfl (by rw [hpc]; rfl))
  | checking => exact absurd trivial (hrest.main .sleep rfl (by rw [hpc]; rfl))
  | untracking code =>
    exact absurd trivial (hrest.main .untrackChild rfl (by rw [hpc]; rfl))
  | writing code => exact absurd trivial (hrest.main .send rfl (by rw [hpc]; rfl))

/-- A session in which nothing but a failure can happen. -/
theorem resting_of (haccepts : s.accepts = true) (hchild : s.child ≠ .running)
    (hmain : ∀ call pc, (Action.main call).fails = false →
      s.pc.next s.timeoutMs call = some pc → ¬ s.Allows call)
    (hreaders : ∀ stream, (s.sides stream).reader = .idle ∨ (s.sides stream).reader = .finished ∨
      (s.sides stream).reader = .reading ∧ (s.sides stream).unread = [] ∧
        (s.sides stream).closed = false) : Resting s := by
  refine ⟨haccepts, hchild, ?_⟩
  intro a hagent hfails
  cases a with
  | main call =>
    cases hnext : s.pc.next s.timeoutMs call with
    | none => simp [step, hnext]
    | some pc => simp [step, hnext, hmain call pc hfails hnext]
  | read stream n =>
    rcases hreaders stream with h | h | ⟨h, hunread, _⟩
    · simp [step, h]
    · simp [step, h]
    · simp only [step, h, hunread, List.length_nil]
      rw [if_neg]
      omega
  | readFails stream => cases hfails
  | eof stream =>
    rcases hreaders stream with h | h | ⟨h, _, hopen⟩
    · simp [step, h]
    · simp [step, h]
    · simp [step, hopen]
  | forward stream =>
    rcases hreaders stream with h | h | ⟨h, _, _⟩ <;> simp [step, h]
  | write _ _ | close _ | exit _ | hangUp => cases hagent

end Session

/-! ## The result -/

/-- **When a command is answered.** Once the child has ended, the threads take only so many steps
before they come to rest. Then the client has got all output and one exit frame at the end, if and
only if the socket could be cloned and both pipes have come to their end: whoever has them open keeps
the exit frame back. -/
theorem answered_iff {id : UInt64} {cmd : List String} {timeoutMs : UInt64} {as : List Action}
    {s : Session} (hrun : run Session.step (.init id cmd timeoutMs) as = some s) :
    (∀ status, s.child = .ended status → ∀ as' s', (∀ a ∈ as', a.ofAgent = true) →
      run Session.step s as' = some s' → as'.length ≤ s.work) ∧
    (s.Resting → (s.Answered ↔ s.pc ≠ .gaveUp ∧ ∀ stream, s.Drained stream)) := by
  have hinv : s.Sound := run_invariant_all Session.Sound (fun s a s' h hstep => h.step hstep) as _ s
    (Session.sound_init id cmd timeoutMs) hrun
  refine ⟨?_, fun hrest => Session.answered_of_resting hinv hrest⟩
  intro status hchild as' s' has hrun'
  have hle := Session.length_le_work hinv hchild has hrun'
  omega

/-! ### Runs -/

/-- A command is started, and writes two bytes. -/
def speaking : List Action :=
  [.main (.spawn true), .main .trackChild, .main (.tryClone true), .write .stdout [104, 105],
    .read .stdout 2, .forward .stdout]

/-- It ends, and its pipes with it. -/
def wellBehaved : List Action :=
  speaking ++ ([.exit (.exited 0), .close .stdout, .close .stderr, .eof .stdout, .eof .stderr,
    .main (.tryWait (.ok (some (.exited 0)))), .main (.join .stdout), .main (.join .stderr),
    .main .untrackChild, .main .send] : List Action)

/-- What can be seen of a session. -/
def Session.view (s : Session) : Pc × Child × Side × Side × List Frame × Bool :=
  (s.pc, s.child, s.sides .stdout, s.sides .stderr, s.sent, s.accepts)

theorem Session.exists_of_view {s₀ : Session} {as : List Action} {pc : Pc} {child : Child}
    {out err : Side} {sent : List Frame} {accepts : Bool}
    (h : (run Session.step s₀ as).map Session.view = some (pc, child, out, err, sent, accepts)) :
    ∃ s, run Session.step s₀ as = some s ∧ s.pc = pc ∧ s.child = child ∧ s.sides .stdout = out ∧
      s.sides .stderr = err ∧ s.sent = sent ∧ s.accepts = accepts := by
  obtain ⟨s, hrun, hview⟩ := Option.map_eq_some_iff.mp h
  simp only [Session.view, Prod.mk.injEq] at hview
  exact ⟨s, hrun, hview⟩

theorem answered_hi :
    ∃ s, run Session.step (.init 1 ["echo", "hi"] 0) wellBehaved = some s ∧ s.Resting ∧ s.Answered ∧
      s.sent = [.output 1 .stdout [104, 105], .exit 1 0] := by
  have hend : (run Session.step (.init 1 ["echo", "hi"] 0) wellBehaved).map Session.view =
      some (.returned 0, .ended (.exited 0), ⟨[104, 105], [], true, .finished, false⟩,
        ⟨[], [], true, .finished, false⟩, [.output 1 .stdout [104, 105], .exit 1 0], true) := rfl
  obtain ⟨s, hrun, hpc, hchild, hout, herr, hsent, haccepts⟩ := Session.exists_of_view hend
  have hreaders : ∀ stream, (s.sides stream).reader = .finished ∧ s.Drained stream := by
    intro stream
    cases stream with
    | stdout => simp [Session.Drained, hout]
    | stderr => simp [Session.Drained, herr]
  have hrest : s.Resting := by
    refine Session.resting_of haccepts (by simp [hchild]) ?_ ?_
    · intro call pc _ hnext
      rw [hpc] at hnext
      cases call <;> cases hnext
    · exact fun stream => Or.inr (Or.inl (hreaders stream).1)
  refine ⟨s, hrun, hrest, ?_, hsent⟩
  exact ((answered_iff hrun).2 hrest).mpr ⟨by simp [hpc], fun stream => (hreaders stream).2⟩

/-- The socket cannot be cloned. -/
def notCloned : List Action :=
  [.main (.spawn true), .main .trackChild, .main (.tryClone false), .main .kill,
    .exit (.signaled 9), .main (.wait (some (.signaled 9))), .main .untrackChild]

/-- The command has started a process that keeps its output open. When its time is over the command
is killed, and `handle_exec` waits for the reader. -/
def leftOpen : List Action :=
  speaking ++ ([.main (.tryWait (.ok none)), .main .kill, .exit (.signaled 9),
    .main (.wait (some (.signaled 9))), .close .stderr, .eof .stderr] : List Action)

/-- In both runs the child has ended, the connection accepts writes, no thread can go on, and there is
no exit frame. -/
theorem unanswered :
    (∃ s, run Session.step (.init 1 ["true"] 1000) notCloned = some s ∧ s.Resting ∧ s.sent = []) ∧
      ∃ s, run Session.step (.init 1 ["sh"] 1000) leftOpen = some s ∧ s.Resting ∧
        s.sent = [.output 1 .stdout [104, 105]] := by
  refine ⟨?_, ?_⟩
  · have hend : (run Session.step (.init 1 ["true"] 1000) notCloned).map Session.view =
        some (.gaveUp, .ended (.signaled 9), .fresh, .fresh, [], true) := rfl
    obtain ⟨s, hrun, hpc, hchild, hout, herr, hsent, haccepts⟩ := Session.exists_of_view hend
    refine ⟨s, hrun, Session.resting_of haccepts (by simp [hchild]) ?_ ?_, hsent⟩
    · intro call pc _ hnext
      rw [hpc] at hnext
      cases call <;> cases hnext
    · intro stream
      cases stream with
      | stdout => exact Or.inl (by rw [hout]; rfl)
      | stderr => exact Or.inl (by rw [herr]; rfl)
  · have hend : (run Session.step (.init 1 ["sh"] 1000) leftOpen).map Session.view =
        some (.joiningOut (some (.signaled 9)) true, .ended (.signaled 9),
          ⟨[104, 105], [], false, .reading, false⟩, ⟨[], [], true, .finished, false⟩,
          [.output 1 .stdout [104, 105]], true) := rfl
    obtain ⟨s, hrun, hpc, hchild, hout, herr, hsent, haccepts⟩ := Session.exists_of_view hend
    refine ⟨s, hrun, Session.resting_of haccepts (by simp [hchild]) ?_ ?_, hsent⟩
    · intro call pc _ hnext
      rw [hpc] at hnext
      cases Pc.next_cases hnext
      simp [Session.Allows, hout]
    · intro stream
      cases stream with
      | stdout => exact Or.inr (Or.inr (by simp [hout]))
      | stderr => exact Or.inr (Or.inl (by simp [herr]))

end MicroMachines.Exec
