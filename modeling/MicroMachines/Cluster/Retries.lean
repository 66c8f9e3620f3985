import MicroMachines.Cluster.System

set_option autoImplicit false

/-! # The retry budget

A tick counts a retry because the last report it has seen says `failed`, and then sends the
assignment. Whether the assignment gets to the agent, and whether the agent is still busy with the one
before, it does not know. So neither the boots nor the failures are bounded by the count:

while the agent is busy, ticks send one start after the other, and it tries them all; while it is not
connected, ticks count retries for one and the same failure and send nothing (`budget_miscounted`).

An observer writes down what concerns one machine (`Entry`). If a tick reads the machines only when every
start that was sent has come back as a failure, and gets its own starts sent, then what the observer writes is
the beginning of one fixed text (`history`): four boots, each after a start of its own, and between
them three retries, each after a failure of its own and before a start of its own (`retries_matched`).
-/

namespace MicroMachines.Cluster

open MicroMachines.Lib MicroMachines.Controller MicroMachines.HostAgent

/-! ## What the observer sees -/

inductive Entry
  /-- An assignment that starts the machine was put into the queue of an agent. -/
  | sent
  /-- An agent tried to boot it. -/
  | attempted
  /-- The controller took a report that it failed. -/
  | heard
  /-- A tick raised the retry count. -/
  | counted
  deriving DecidableEq, Repr

/-- What a step adds, as far as the machine `u` is concerned. -/
def note (u : Nat) (c : State) : Action → List Entry → List Entry
  | .act delivered, log =>
    match c.tick with
    | .acting _ (.incrementRetry v :: _) => if v = u then log ++ [.counted] else log
    | .acting _ (.send _ a :: _) =>
      if delivered = true ∧ a.starts = true ∧ a.uid = some u then log ++ [.sent] else log
    | _ => log
  | .handle host _, log =>
    match c.links host with
    | a :: _ =>
      if a.starts = true ∧ a.uid = some u ∧ (c.agents host).store.runs u = false then
        log ++ [.attempted]
      else log
    | [] => log
  | .deliver host, log =>
    match (c.agents host).outbox with
    | .event ev :: _ =>
      if ev.uid = u ∧ protoStateName ev.state = some .failed then log ++ [.heard] else log
    | _ => log
  | _, log => log

/-- The cluster with the observer. -/
abbrev watched (u : Nat) : State × List Entry → Action → Option (State × List Entry) :=
  Lib.observe State.step (note u)

/-- The machine is not deleted, and does not come to run. -/
def Hopeless (u : Nat) (x : State × List Entry) : Action → Prop
  | .delete ns name => ∀ m ∈ row x.1.db u, MachineRow.isAt ns name m = false
  | .handle host outcome => ∀ a ∈ (x.1.links host).head?,
      (handleAssignment (x.1.agents host).store a outcome).1.runs u = false
  | _ => True

instance (u : Nat) (x : State × List Entry) : DecidablePred (Hopeless u x)
  | .delete _ _ => inferInstanceAs (Decidable (∀ m ∈ row x.1.db u, _))
  | .handle _ _ => inferInstanceAs (Decidable (∀ a ∈ (x.1.links _).head?, _))
  | .create .. | .setRunning .. | .loadMachines _ | .loadHosts _ | .act _ | .abandon | .lose .. |
    .report _ | .deliver _ | .drop _ | .forget .. => instDecidableTrue

/-- The loop reads the machines when every start has come back as a failure; it sends what it
decides to send, and is not given up between a count and the start that belongs to it. -/
def Steady (u : Nat) (x : State × List Entry) : Action → Prop
  | .loadMachines _ => x.2.count .sent = x.2.count .heard
  | .act delivered =>
    match x.1.tick with
    | .acting _ (.send _ a :: _) => a.uid = some u → delivered = true
    | _ => True
  | .abandon => x.2.getLast? ≠ some .counted
  | _ => True

instance (u : Nat) (x : State × List Entry) : DecidablePred (Steady u x)
  | .loadMachines _ => inferInstanceAs (Decidable (x.2.count .sent = x.2.count .heard))
  | .act delivered => by
      unfold Steady
      dsimp only
      split <;> infer_instance
  | .abandon => inferInstanceAs (Decidable (x.2.getLast? ≠ some .counted))
  | .create .. | .setRunning .. | .delete _ _ | .loadHosts _ | .lose .. | .handle .. | .report _ |
    .deliver _ | .drop _ | .forget .. => instDecidableTrue

/-- All that can be written about a machine that never boots. -/
def history : List Entry :=
  [.sent, .attempted, .heard] ++ (List.replicate MAX_RETRIES [.counted, .sent, .attempted, .heard]).flatten

/-! ## Reading the history

Its entries repeat with period four, so how much of it was written says what comes next.
-/

variable {log : List Entry} {n u : Nat} {c : State}

theorem history_next (h : log <+: history) {e : Entry}
    (he : history[log.length]? = some e) : log ++ [e] <+: history := by
  obtain ⟨rest, hrest⟩ := h
  rw [← hrest, List.getElem?_append_right (Nat.le_refl _), Nat.sub_self] at he
  cases rest with
  | nil => cases he
  | cons x rest =>
    obtain rfl : x = e := by simpa using he
    exact ⟨rest, by rw [← hrest]; simp⟩

theorem history_sent : ∀ n < 15, n % 4 = 0 → history[n]? = some .sent := by decide

theorem history_attempted : ∀ n < 15, n % 4 = 1 → history[n]? = some .attempted := by decide

theorem history_heard : ∀ n < 15, n % 4 = 2 → history[n]? = some .heard := by decide

theorem history_counted : ∀ n < 15, n % 4 = 3 → history[n]? = some .counted := by decide

theorem history_counts : ∀ n ≤ 15, (history.take n).count .attempted = (n + 2) / 4 ∧
    (history.take n).count .counted = n / 4 ∧ (history.take n).count .sent = (n + 3) / 4 ∧
    (history.take n).count .heard = (n + 1) / 4 := by decide

theorem history_last : ∀ n ≤ 15, n % 4 = 0 → n ≠ 0 →
    (history.take n).getLast? = some .counted := by decide

theorem length_le (h : log <+: history) : log.length ≤ 15 := h.length_le

theorem eq_take (h : log <+: history) : log = history.take log.length :=
  List.prefix_iff_eq_take.mp h

/-! ## Counts over all hosts -/

/-- At most `n` altogether, on one host. -/
def AtMost (n : Nat) (count : String → Nat) : Prop :=
  ∃ host, ∀ h, count h ≤ if h = host then n else 0

section AtMost

variable {n : Nat} {count count' : String → Nat}

theorem AtMost.mono (h : AtMost n count) (hle : ∀ x, count' x ≤ count x) : AtMost n count' := by
  obtain ⟨host, hhost⟩ := h
  exact ⟨host, fun x => (hle x).trans (hhost x)⟩

theorem AtMost.pos (h : AtMost n count) {x : String} (hx : 0 < count x) : 0 < n := by
  obtain ⟨host, hhost⟩ := h
  have hle := hhost x
  split_ifs at hle <;> omega

theorem AtMost.eq_zero (h : AtMost 0 count) (x : String) : count x = 0 := by
  obtain ⟨host, hhost⟩ := h
  simpa using hhost x

theorem AtMost.of_zero (h : AtMost 0 count) (n : Nat) : AtMost n count :=
  ⟨"", fun x => (h.eq_zero x).le.trans (Nat.zero_le _)⟩

/-- One more where there was none. -/
theorem AtMost.put (h : AtMost 0 count) (host : String) (hhost : count' host ≤ count host + 1)
    (hother : ∀ x, x ≠ host → count' x ≤ count x) : AtMost 1 count' := by
  refine ⟨host, fun x => ?_⟩
  have hzero := h.eq_zero x
  split_ifs with hx
  · subst hx
    omega
  · exact (hother x hx).trans hzero.le

/-- The one there was is taken. -/
theorem AtMost.take (h : AtMost 1 count) (host : String) (hhost : count' host + 1 ≤ count host)
    (hother : ∀ x, x ≠ host → count' x ≤ count x) : AtMost 0 count' := by
  obtain ⟨y, hy⟩ := h
  obtain rfl : host = y := by
    by_contra hne
    have := hy host
    rw [if_neg hne] at this
    omega
  refine ⟨host, fun x => ?_⟩
  have hx := hy x
  split_ifs at hx ⊢ with heq
  · subst heq
    omega
  · exact (hother x heq).trans hx

end AtMost

/-! ## What a tick has in store for a machine -/

/-- The operation is about the machine. -/
def about (u : Nat) : Op → Bool
  | .incrementRetry v => v = u
  | .assignHost v _ => v = u
  | .send _ a => a.uid = some u

/-- What the tick will still do for the machine. -/
def mine (u : Nat) : Tick → List Op
  | .acting _ ops => ops.filter (about u)
  | _ => []

/-- What it can be when `n` entries were written, and whether the machine is known and placed. A start is
due only where the history has one. -/
inductive Todo (u n : Nat) : Option (Option String) → List Op → Prop
  | nothing {host : Option (Option String)} (h : n % 4 = 0 → n = 0) : Todo u n host []
  | place {host : String} {a : Proto.Assignment} (h : n = 0) (huid : a.uid = some u)
      (hstarts : a.starts = true) : Todo u n (some none) [.assignHost u host, .send host a]
  | start {host : String} {a : Proto.Assignment} (h : n % 4 = 0) (huid : a.uid = some u)
      (hstarts : a.starts = true) : Todo u n (some (some host)) [.send host a]
  | retry {host : String} {a : Proto.Assignment} (h : n % 4 = 3) (hn : n < 15) (huid : a.uid = some u)
      (hstarts : a.starts = true) : Todo u n (some (some host)) [.incrementRetry u, .send host a]

section Todo

/-! What is next says where the history is. -/

variable {u v n : Nat} {host : Option (Option String)} {target : String} {a : Proto.Assignment} {ops : List Op}

theorem Todo.of_nil (h : Todo u n host []) : n % 4 = 0 → n = 0 := by
  cases h with
  | nothing h => exact h

theorem Todo.of_incrementRetry (h : Todo u n host (.incrementRetry v :: ops)) :
    n % 4 = 3 ∧ n < 15 ∧ ∃ x a, host = some (some x) ∧ ops = [.send x a] ∧ a.uid = some u ∧
      a.starts = true := by
  cases h with
  | retry h hn huid hstarts => exact ⟨h, hn, _, _, rfl, rfl, huid, hstarts⟩

theorem Todo.of_assignHost (h : Todo u n host (.assignHost v target :: ops)) :
    n = 0 ∧ host = some none ∧ ∃ a, ops = [.send target a] ∧ a.uid = some u ∧ a.starts = true := by
  cases h with
  | place h huid hstarts => exact ⟨h, rfl, _, rfl, huid, hstarts⟩

theorem Todo.of_send (h : Todo u n host (.send target a :: ops)) :
    n % 4 = 0 ∧ host = some (some target) ∧ ops = [] ∧ a.uid = some u ∧ a.starts = true := by
  cases h with
  | start h huid hstarts => exact ⟨h, rfl, rfl, huid, hstarts⟩

/-- While an assignment or a report is on its way, nothing is to be done. -/
theorem Todo.eq_nil (h : Todo u n host ops) (hn : n % 4 = 1 ∨ n % 4 = 2) : ops = [] := by
  cases h with
  | nothing => rfl
  | place h | start h | retry h => omega

/-- After a count, a start is due. -/
theorem Todo.due (h : Todo u n host ops) (hn : n % 4 = 0) (hne : n ≠ 0) :
    ∃ x a, ops = [.send x a] ∧ a.uid = some u ∧ a.starts = true := by
  cases h with
  | nothing h => exact absurd (h hn) hne
  | place h => exact absurd h hne
  | retry h => omega
  | start h huid hstarts => exact ⟨_, _, rfl, huid, hstarts⟩

end Todo

/-- A plan for a machine is about that machine. -/
theorem about_of_plan {hosts : List HostCapacity} {m : MachineRow} {ops : List Op}
    (hplan : Plan hosts m ops) (u : Nat) : ∀ op ∈ ops, about u op = decide (m.uid = u) := by
  have hstart : ∀ host, about u (.send host (m.startAssignment host)) = decide (m.uid = u) := by
    intro host
    simp [about, MachineRow.startAssignment, Proto.Assignment.uid, machineToProto]
  induction hplan with
  | nothing => simp
  | retry _ ih =>
    intro op hop
    rcases List.mem_cons.mp hop with rfl | hop
    · rfl
    · exact ih op hop
  | start host _ _ =>
    intro op hop
    obtain rfl := List.mem_singleton.mp hop
    exact hstart host
  | place cap _ _ _ =>
    intro op hop
    rcases List.mem_cons.mp hop with rfl | hop
    · rfl
    · obtain rfl := List.mem_singleton.mp hop
      exact hstart cap.hostId
  | stop host _ _ =>
    intro op hop
    obtain rfl := List.mem_singleton.mp hop
    simp [about, MachineRow.stopAssignment, Proto.Assignment.uid, machineToProto]

theorem filter_machineOps (hosts : List HostCapacity) (m : MachineRow) (u : Nat) :
    (machineOps hosts m).filter (about u) = if m.uid = u then machineOps hosts m else [] := by
  have habout := about_of_plan (plan_machineOps hosts m) u
  split_ifs with hu
  · exact List.filter_eq_self.mpr (fun op hop => by simp [habout op hop, hu])
  · exact List.filter_eq_nil_iff.mpr (fun op hop => by simp [habout op hop, hu])

/-- Of what a tick decides, what is about a machine is what it decides for that machine. -/
theorem filter_reconcileOnce {machines : List MachineRow} (hosts : List HostCapacity) (u : Nat)
    (hkeys : (machines.map MachineRow.uid).Nodup) :
    (reconcileOnce machines hosts).filter (about u) =
      ((Table.lookup MachineRow.uid machines u).map (machineOps hosts)).getD [] := by
  induction machines with
  | nil => rfl
  | cons m machines ih =>
    obtain ⟨hm, hkeys⟩ := List.nodup_cons.mp hkeys
    have hsplit : reconcileOnce (m :: machines) hosts =
        machineOps hosts m ++ reconcileOnce machines hosts := rfl
    rw [hsplit, List.filter_append, filter_machineOps, ih hkeys]
    by_cases hu : m.uid = u
    · subst hu
      have hnone : Table.lookup MachineRow.uid machines m.uid = none :=
        Table.lookup_eq_none.mpr (fun n hn heq => hm (heq ▸ List.mem_map_of_mem hn))
      rw [if_pos rfl, hnone]
      simp [Table.lookup]
    · simp [Table.lookup, hu]

/-- The observed state and the host of a machine about which `n` entries were written. -/
structure RowAt (n : Nat) (status : MachineStatus) (host : Option String) : Prop where
  retries : status.retryCount = n / 4
  state : status.state = if n ≤ 2 then .created else .failed
  placed : n ≠ 0 → host ≠ none

/-- A start that is sent, or taken, changes nothing about the row. -/
theorem RowAt.next {status : MachineStatus} {host : Option String} (h : RowAt n status host)
    (hn : n % 4 = 0 ∨ n % 4 = 1) (hhost : host ≠ none) : RowAt (n + 1) status host where
  retries := by
    rw [h.retries]
    omega
  state := by
    have hearly : n ≤ 2 ↔ n + 1 ≤ 2 := by omega
    simp only [h.state, hearly]
  placed := fun _ => hhost

theorem todo_startOps (hosts : List HostCapacity) (m : MachineRow) (hn : n = 0) :
    Todo m.uid n (some m.hostId) (startOps hosts m) := by
  unfold startOps MachineRow.target
  cases hhost : m.hostId with
  | some host => simpa using Todo.start (by omega) rfl rfl
  | none =>
    cases place hosts m.demand with
    | none => exact .nothing (fun _ => hn)
    | some cap => simpa using Todo.place hn rfl rfl

/-- **What a tick decides** for a machine of which all starts have failed. -/
theorem todo_machineOps (hosts : List HostCapacity) {m : MachineRow}
    (hrow : RowAt n m.status m.hostId) (hn : n = 0 ∨ n % 4 = 3) (hle : n ≤ 15) :
    Todo m.uid n (some m.hostId) (machineOps hosts m) := by
  have hnothing : Todo m.uid n (some m.hostId) [] := .nothing (by omega)
  have hstate := hrow.state
  unfold machineOps MachineRow.action Reconcile.decide
  rcases hn with hn | hn
  · rw [if_pos (by omega)] at hstate
    cases hrunning : m.spec.running with
    | true => simpa [hstate] using todo_startOps hosts m hn
    | false => simpa [hstate] using hnothing
  · rw [if_neg (by omega)] at hstate
    cases hrunning : m.spec.running with
    | false => simpa [hstate] using hnothing
    | true =>
      obtain ⟨host, hhost⟩ := Option.ne_none_iff_exists'.mp (hrow.placed (by omega))
      by_cases hretry : m.status.retryCount < MAX_RETRIES
      · have hlt : n < 15 := by
          rw [hrow.retries] at hretry
          unfold MAX_RETRIES at hretry
          omega
        rw [hhost]
        simpa [hstate, hretry, startOps, MachineRow.target, hhost] using
          Todo.retry hn hlt (a := m.startAssignment host) rfl rfl
      · simpa [hstate, hretry] using hnothing

/-! ## The invariant -/

/-- What the table says of the machine, as far as the loop decides by it. -/
def seen (db : Db) (u : Nat) : Option (MachineStatus × Option String) :=
  (row db u).map (fun m => (m.status, m.hostId))

/-- The assignments for the machine that wait for an agent. -/
def queue (u : Nat) (c : State) (host : String) : List Proto.Assignment :=
  (c.links host).filter (fun a => a.uid = some u)

/-- A report on the machine. -/
def reportsOn (u : Nat) : Report → Bool
  | .event ev => ev.uid = u
  | .capacity _ => false

/-- The reports on it that wait for the controller. -/
def pending (u : Nat) (c : State) (host : String) : List Report :=
  (c.agents host).outbox.filter (reportsOn u)

/-- What a run keeps true: how much was written says where the machine is. -/
structure Following (u : Nat) (c : State) (log : List Entry) : Prop where
  keyed : Keyed c.db
  begun : log <+: history
  idle : ∀ host, (c.agents host).store.runs u = false
  absent : seen c.db u = none → log.length = 0
  known : ∀ status host, seen c.db u = some (status, host) → RowAt log.length status host
  /-- After `sent` there may be an assignment on its way, and at no other time. -/
  queued : AtMost (if log.length % 4 = 1 then 1 else 0) (fun host => (queue u c host).length)
  starts : ∀ host, ∀ a ∈ queue u c host, a.starts = true
  /-- After `attempted` there may be a report on its way, and at no other time. -/
  reports : AtMost (if log.length % 4 = 2 then 1 else 0) (fun host => (pending u c host).length)
  failures : ∀ host ev, .event ev ∈ pending u c host → ev.state = apiStateToProto .failed
  loaded : ∀ machines, c.tick = .loaded machines →
    (machines.map MachineRow.uid).Nodup ∧ (log.length = 0 ∨ log.length % 4 = 3) ∧
      ∀ m ∈ machines, m.uid = u → seen c.db u = some (m.status, m.hostId)
  todo : Todo u log.length ((seen c.db u).map Prod.snd) (mine u c.tick)

theorem following_init (u : Nat) (namespaces : List String) (resources : String → HostResources) :
    Following u (.init namespaces resources) [] where
  keyed := List.nodup_nil
  begun := List.nil_prefix
  idle := fun _ => rfl
  absent := fun _ => rfl
  known := fun _ _ h => by cases h
  queued := ⟨"", fun _ => Nat.zero_le _⟩
  starts := fun _ _ h => by cases h
  reports := ⟨"", fun _ => Nat.zero_le _⟩
  failures := fun _ _ h => by cases h
  loaded := fun _ h => by cases h
  todo := .nothing (fun _ => rfl)

/-- An agent's new state, and the others as they are. -/
theorem idle_update {agents : String → Agent} {host : String} {agent : Agent}
    (h : ∀ x, (agents x).store.runs u = false) (hagent : agent.store.runs u = false) (x : String) :
    (Function.update agents host agent x).store.runs u = false := by
  exact (Function.forall_update_iff agents (fun _ agent => agent.store.runs u = false)).mpr
    ⟨hagent, fun x _ => h x⟩ x

/-- What is about other machines, or only loses something, keeps the invariant. -/
theorem Following.frame {c' : State} (h : Following u c log)
    (hkeyed : Keyed c'.db) (hseen : seen c'.db u = seen c.db u)
    (hidle : ∀ host, (c'.agents host).store.runs u = false)
    (hqueue : ∀ host, (queue u c' host).Sublist (queue u c host))
    (hpending : ∀ host, (pending u c' host).Sublist (pending u c host))
    (hloaded : ∀ machines, c'.tick = .loaded machines → c.tick = .loaded machines)
    (htodo : Todo u log.length ((seen c.db u).map Prod.snd) (mine u c'.tick)) :
    Following u c' log where
  keyed := hkeyed
  begun := h.begun
  idle := hidle
  absent := hseen ▸ h.absent
  known := hseen ▸ h.known
  queued := h.queued.mono (fun host => (hqueue host).length_le)
  starts := fun host a ha => h.starts host a ((hqueue host).subset ha)
  reports := h.reports.mono (fun host => (hpending host).length_le)
  failures := fun host ev hev => h.failures host ev ((hpending host).subset hev)
  loaded := fun machines hm => hseen ▸ h.loaded machines (hloaded machines hm)
  todo := hseen ▸ htodo

/-! What the changes of a row mean for what is seen of the machine. -/

section Seen

variable {db : Db} {u n : Nat} {status : MachineStatus} {host : Option String}

theorem seen_edit {g : MachineRow → MachineRow} (hg : ∀ m, (g m).uid = m.uid)
    (hsame : ∀ m, m.uid = u → (g m).status = m.status ∧ (g m).hostId = m.hostId) (db : Db) :
    seen (edit g db) u = seen db u := by
  unfold seen
  rw [row_edit hg]
  cases hrow : row db u with
  | none => rfl
  | some m =>
    obtain ⟨hstatus, hhost⟩ := hsame m (Table.mem_of_lookup hrow).2
    simp [hstatus, hhost]

theorem seen_eq_some (h : seen db u = some (status, host)) :
    ∃ m, row db u = some m ∧ m.uid = u ∧ m.status = status ∧ m.hostId = host := by
  obtain ⟨m, hm, heq⟩ := Option.map_eq_some_iff.mp h
  obtain ⟨rfl, rfl⟩ := Prod.mk.inj heq
  exact ⟨m, hm, (Table.mem_of_lookup hm).2, rfl, rfl⟩

/-- A machine that is known has a row. -/
theorem seen_of_host (h : (seen db u).map Prod.snd = some host) : ∃ status, seen db u = some (status, host) := by
  obtain ⟨⟨status, x⟩, hseen, rfl⟩ := Option.map_eq_some_iff.mp h
  exact ⟨status, hseen⟩

/-- There is one row. -/
theorem RowAt.only (h : RowAt n status host) (hseen : seen db u = some (status, host)) :
    ∀ status' host', seen db u = some (status', host') → RowAt n status' host' := by
  intro status' host' hseen'
  obtain ⟨rfl, rfl⟩ := Prod.mk.inj (Option.some.inj (hseen.symm.trans hseen'))
  exact h

theorem seen_countRetry (h : seen db u = some (status, host)) : seen (edit (countRetry u) db) u =
      some ({ status with retryCount := status.retryCount + 1 }, host) := by
  obtain ⟨m, hm, huid, rfl, rfl⟩ := seen_eq_some h
  unfold seen
  rw [row_edit (countRetry_uid u), hm]
  simp [countRetry, huid]

theorem seen_settle (h : seen db u = some (status, host)) (target : String) :
    seen (edit (settle u target) db) u = some (status, some target) := by
  obtain ⟨m, hm, huid, rfl, rfl⟩ := seen_eq_some h
  unfold seen
  rw [row_edit (settle_uid u target), hm]
  simp [settle, huid]

theorem seen_failed (h : seen db u = some (status, host)) {ev : Proto.MachineEvent} (huid : ev.uid = u)
    (hstate : ev.state = apiStateToProto .failed) :
    ∃ ip, seen (edit (observe ev) db) u = some ({ status with state := .failed, ip := ip }, host) := by
  obtain ⟨m, hm, rfl, rfl, rfl⟩ := seen_eq_some h
  refine ⟨if ev.ip = "" then m.status.ip else some ev.ip, ?_⟩
  unfold seen
  rw [row_edit (observe_uid ev), hm]
  simp [observe, hstate, protoStateName_apiStateToProto, huid]

end Seen

/-! ## The steps that are about the machine -/

section Steps

variable {u v : Nat} {c c' : State} {log : List Entry} {hosts : List HostCapacity} {op : Op} {ops : List Op}
  {host target : String} {a : Proto.Assignment} {ev : Proto.MachineEvent} {rest : List Report}

theorem length_snoc (log : List Entry) (e : Entry) : (log ++ [e]).length = log.length + 1 := by
  simp

/-- The machine is created. -/
theorem Following.created (h : Following u c log) {ns fleet name : String} {spec : MachineSpec}
    (hfresh : row c.db u = none) :
    Following u { c with db := append (fresh ns fleet name spec u) c.db } log := by
  have hnone : seen c.db u = none := by rw [seen, hfresh, Option.map_none]
  have hempty := h.absent hnone
  have hseen : seen (append (fresh ns fleet name spec u) c.db) u = some ({}, none) := by
    rw [seen, row_append (m := fresh ns fleet name spec u) hfresh u]
    simp [fresh]
  have htodo : mine u c.tick = [] := by
    have htodo := h.todo
    rw [hnone] at htodo
    generalize mine u c.tick = ops at htodo
    cases htodo with
    | nothing => rfl
  refine { h with
    keyed := keyed_append (m := fresh ns fleet name spec u) hfresh h.keyed
    absent := fun _ => hempty
    known := RowAt.only ?_ hseen
    loaded := ?_
    todo := ?_ }
  · rw [hempty]
    exact ⟨rfl, rfl, fun hne => absurd rfl hne⟩
  · intro machines hm
    obtain ⟨hkeys, hn, hrows⟩ := h.loaded machines hm
    refine ⟨hkeys, hn, fun m hmem huid => ?_⟩
    rw [hnone] at hrows
    cases hrows m hmem huid
  · show Todo u _ _ (mine u c.tick)
    rw [htodo]
    exact .nothing (fun _ => hempty)

/-- A tick reads the machines, and every start has failed. -/
theorem Following.read (h : Following u c log) {machines : List MachineRow} (htick : c.tick = .idle)
    (hperm : machines.Perm c.db.machines) (hback : log.count .sent = log.count .heard) :
    Following u { c with tick := .loaded machines } log := by
  have hdue : log.length % 4 = 0 → log.length = 0 := by
    have htodo := h.todo
    rw [htick] at htodo
    exact htodo.of_nil
  have hcounts := history_counts log.length (length_le h.begun)
  rw [← eq_take h.begun] at hcounts
  refine { h with
    loaded := ?_
    todo := .nothing hdue }
  intro ms hms
  cases hms
  refine ⟨(hperm.map _).nodup_iff.mpr h.keyed, by omega, fun m hm huid => ?_⟩
  have hrow : row c.db m.uid = some m := Table.lookup_of_mem h.keyed (hperm.subset hm)
  rw [huid] at hrow
  simp [seen, hrow]

/-- It decides. -/
theorem Following.planned (h : Following u c log) {machines : List MachineRow}
    (htick : c.tick = .loaded machines) (hosts : List HostCapacity) :
    Following u { c with tick := .acting hosts (reconcileOnce machines hosts) } log := by
  obtain ⟨hkeys, hn, hrows⟩ := h.loaded machines htick
  refine { h with
    loaded := fun ms hms => by cases hms
    todo := ?_ }
  show Todo u log.length ((seen c.db u).map Prod.snd) ((reconcileOnce machines hosts).filter (about u))
  rw [filter_reconcileOnce hosts u hkeys]
  cases hlookup : Table.lookup MachineRow.uid machines u with
  | none => exact .nothing (by omega)
  | some m =>
    obtain ⟨hmem, rfl⟩ := Table.mem_of_lookup hlookup
    have hseen := hrows m hmem rfl
    rw [hseen]
    exact todo_machineOps hosts (h.known _ _ hseen) hn (length_le h.begun)

/-- What a tick that is acting has in store. -/
theorem Following.acting (h : Following u c log) (htick : c.tick = .acting hosts (op :: ops)) (hop : about u op = true) :
    Todo u log.length ((seen c.db u).map Prod.snd) (op :: ops.filter (about u)) := by
  have htodo := h.todo
  rw [htick] at htodo
  simpa [mine, hop] using htodo

theorem Following.none_queued (h : Following u c log) (hn : log.length % 4 ≠ 1) :
    AtMost 0 (fun host => (queue u c host).length) := by
  have := h.queued
  rwa [if_neg hn] at this

theorem Following.none_pending (h : Following u c log) (hn : log.length % 4 ≠ 2) :
    AtMost 0 (fun host => (pending u c host).length) := by
  have := h.reports
  rwa [if_neg hn] at this

theorem Following.length_lt (h : Following u c log) (hn : log.length % 4 ≠ 3) : log.length < 15 := by
  have := length_le h.begun
  omega

/-- A queue changes: only starts are in it. -/
theorem Following.starts_update (h : Following u c log) {link : List Proto.Assignment}
    (hlink : ∀ a ∈ link.filter (fun a => a.uid = some u), a.starts = true) (x : String) :
    ∀ a ∈ (Function.update c.links host link x).filter (fun a => a.uid = some u), a.starts = true := by
  refine (Function.forall_update_iff c.links (fun _ link =>
    ∀ a ∈ link.filter (fun a => decide (a.uid = some u)), a.starts = true)).mpr ⟨hlink, fun x _ => ?_⟩ x
  exact h.starts x

/-- An outbox changes: only failures are in it. -/
theorem Following.failures_update (h : Following u c log) {outbox : List Report}
    (houtbox : ∀ ev, .event ev ∈ outbox.filter (reportsOn u) → ev.state = apiStateToProto .failed)
    (x : String) : ∀ ev, .event ev ∈ ((Function.update c.agents host
      { c.agents host with outbox := outbox } x).outbox.filter (reportsOn u)) →
    ev.state = apiStateToProto .failed := by
  refine (Function.forall_update_iff c.agents (fun _ agent => ∀ ev, .event ev ∈ agent.outbox.filter (reportsOn u) →
    ev.state = apiStateToProto .failed)).mpr ⟨?_, fun x _ => ?_⟩ x
  · exact houtbox
  · exact h.failures x

/-- It counts a retry. -/
theorem Following.counted (h : Following u c log) (htick : c.tick = .acting hosts (.incrementRetry u :: ops)) :
    Following u { c with db := edit (countRetry u) c.db, tick := .acting hosts ops }
      (log ++ [.counted]) := by
  obtain ⟨hn, hlt, host, a, hhost, hops, huid, hstarts⟩ :=
    (h.acting htick (by simp [about])).of_incrementRetry
  obtain ⟨status, hseen⟩ := seen_of_host hhost
  have hrow := h.known status _ hseen
  have hseen' := seen_countRetry hseen
  refine { h with
    keyed := keyed_edit (countRetry_uid u) h.keyed
    begun := history_next h.begun (history_counted _ hlt hn)
    absent := fun hnone => by simp [hseen'] at hnone
    known := RowAt.only ⟨?_, ?_, fun _ => by simp⟩ hseen'
    queued := (h.none_queued (by omega)).of_zero _
    reports := (h.none_pending (by omega)).of_zero _
    loaded := fun ms hms => by cases hms
    todo := ?_ }
  · show status.retryCount + 1 = _
    rw [hrow.retries, length_snoc]
    omega
  · show status.state = _
    rw [hrow.state, length_snoc, if_neg (by omega), if_neg (by omega)]
  · show Todo u _ ((seen (edit (countRetry u) c.db) u).map Prod.snd) (ops.filter (about u))
    rw [hseen', hops, length_snoc]
    exact .start (by omega) huid hstarts

/-- It places the machine. -/
theorem Following.placed (h : Following u c log) (htick : c.tick = .acting hosts (.assignHost u target :: ops)) :
    Following u { c with db := edit (settle u target) c.db, tick := .acting hosts ops } log := by
  obtain ⟨hn, hhost, a, hops, huid, hstarts⟩ := (h.acting htick (by simp [about])).of_assignHost
  obtain ⟨status, hseen⟩ := seen_of_host hhost
  have hrow := h.known status _ hseen
  have hseen' := seen_settle hseen target
  refine { h with
    keyed := keyed_edit (settle_uid u target) h.keyed
    absent := fun _ => hn
    known := RowAt.only ⟨hrow.retries, hrow.state, fun hne => absurd hn hne⟩ hseen'
    loaded := fun ms hms => by cases hms
    todo := ?_ }
  show Todo u _ ((seen (edit (settle u target) c.db) u).map Prod.snd) (ops.filter (about u))
  rw [hseen', hops]
  exact .start (by omega) huid hstarts

/-- It sends a start. -/
theorem Following.sent (h : Following u c log) (htick : c.tick = .acting hosts (.send target a :: ops))
    (ha : a.uid = some u) : a.starts = true ∧ Following u { c with
        links := Function.update c.links target (c.links target ++ [a])
        tick := .acting hosts ops } (log ++ [.sent]) := by
  obtain ⟨hn, hhost, hops, -, hstarts⟩ := (h.acting htick (by simp [about, ha])).of_send
  obtain ⟨status, hseen⟩ := seen_of_host hhost
  refine ⟨hstarts, { h with
    begun := history_next h.begun (history_sent _ (h.length_lt (by omega)) hn)
    absent := fun hnone => by simp [hseen] at hnone
    known := RowAt.only ?_ hseen
    queued := ?_
    starts := ?_
    reports := (h.none_pending (by omega)).of_zero _
    loaded := fun ms hms => by cases hms
    todo := ?_ }⟩
  · rw [length_snoc]
    exact (h.known status _ hseen).next (Or.inl hn) (Option.some_ne_none target)
  · rw [length_snoc, if_pos (by omega)]
    refine (h.none_queued (by omega)).put target ?_ ?_
    · simp [queue, ha]
    · intro x hx
      simp [queue, hx]
  · apply h.starts_update
    intro x hx
    rw [List.filter_append, List.mem_append] at hx
    rcases hx with hx | hx
    · exact h.starts target x hx
    · obtain rfl := List.mem_singleton.mp (List.mem_of_mem_filter hx)
      exact hstarts
  · show Todo u _ ((seen c.db u).map Prod.snd) (ops.filter (about u))
    rw [hops, length_snoc]
    exact .nothing (by omega)

/-- An agent tries to boot the machine, and fails. -/
theorem Following.attempted (h : Following u c log) {rest : List Proto.Assignment} {e : String}
    (hlink : c.links host = a :: rest) (ha : a.uid = some u) : Following u { c with
        links := Function.update c.links host rest
        agents := Function.update c.agents host { c.agents host with
          outbox := (c.agents host).outbox ++ [Report.event (event u .failed e "")] } }
      (log ++ [.attempted]) := by
  have hqueue : queue u c host = a :: rest.filter (fun a => a.uid = some u) := by
    simp [queue, hlink, ha]
  have hn : log.length % 4 = 1 := by
    by_contra hne
    have := (h.none_queued hne).pos (x := host) (by simp [hqueue])
    omega
  refine { h with
    begun := history_next h.begun (history_attempted _ (h.length_lt (by omega)) hn)
    idle := idle_update h.idle (h.idle host)
    absent := fun hnone => ?_
    known := ?_
    queued := ?_
    starts := ?_
    reports := ?_
    failures := ?_
    loaded := ?_
    todo := ?_ }
  · have := h.absent hnone
    omega
  · intro status x hrow
    have hat := h.known status x hrow
    rw [length_snoc]
    exact hat.next (Or.inr hn) (hat.placed (by omega))
  · rw [length_snoc, if_neg (by omega)]
    have hone := h.queued
    rw [if_pos hn] at hone
    refine hone.take host ?_ ?_
    · rw [hqueue]
      simp [queue]
    · intro x hx
      simp [queue, hx]
  · apply h.starts_update
    intro b hb
    apply h.starts host b
    rw [hqueue]
    exact List.mem_cons_of_mem a hb
  · rw [length_snoc, if_pos (by omega)]
    refine (h.none_pending (by omega)).put host ?_ ?_
    · simp [pending, reportsOn, event]
    · intro x hx
      simp [pending, hx]
  · apply h.failures_update
    intro ev hev
    rw [List.filter_append, List.mem_append] at hev
    rcases hev with hev | hev
    · exact h.failures host ev hev
    · have heq := List.mem_singleton.mp (List.mem_of_mem_filter hev)
      obtain rfl := Report.event.inj heq
      rfl
  · intro machines hm
    have := (h.loaded machines hm).2.1
    omega
  · show Todo u _ _ (mine u c.tick)
    rw [h.todo.eq_nil (Or.inl hn), length_snoc]
    exact .nothing (by omega)

/-- The controller hears of the failure. -/
theorem Following.heard (h : Following u c log) (houtbox : (c.agents host).outbox = .event ev :: rest) (hev : ev.uid = u) :
    ev.state = apiStateToProto .failed ∧ Following u { c with
        db := edit (observe ev) c.db
        agents := Function.update c.agents host { c.agents host with outbox := rest } }
      (log ++ [.heard]) := by
  have hpending : pending u c host = .event ev :: rest.filter (reportsOn u) := by
    simp [pending, houtbox, reportsOn, hev]
  have hfailed : ev.state = apiStateToProto .failed := by
    apply h.failures host ev
    rw [hpending]
    exact List.mem_cons_self
  have hn : log.length % 4 = 2 := by
    by_contra hne
    have := (h.none_pending hne).pos (x := host) (by simp [hpending])
    omega
  obtain ⟨⟨status, placed⟩, hseen⟩ : ∃ x, seen c.db u = some x := by
    cases hseen : seen c.db u with
    | none =>
      have := h.absent hseen
      omega
    | some x => exact ⟨x, rfl⟩
  have hrow := h.known status placed hseen
  obtain ⟨ip, hseen'⟩ := seen_failed hseen hev hfailed
  refine ⟨hfailed, { h with
    keyed := keyed_edit (observe_uid ev) h.keyed
    begun := history_next h.begun (history_heard _ (h.length_lt (by omega)) hn)
    idle := idle_update h.idle (h.idle host)
    absent := fun hnone => by simp [hseen'] at hnone
    known := RowAt.only ⟨?_, ?_, fun _ => hrow.placed (by omega)⟩ hseen'
    queued := (h.none_queued (by omega)).of_zero _
    reports := ?_
    failures := ?_
    loaded := ?_
    todo := ?_ }⟩
  · show status.retryCount = _
    rw [hrow.retries, length_snoc]
    omega
  · show MachineState.failed = _
    rw [length_snoc, if_neg (by omega)]
  · rw [length_snoc, if_neg (by omega)]
    have hone := h.reports
    rw [if_pos hn] at hone
    refine hone.take host ?_ ?_
    · rw [hpending]
      simp [pending]
    · intro x hx
      simp [pending, hx]
  · apply h.failures_update
    intro ev' hev'
    apply h.failures host ev'
    rw [hpending]
    exact List.mem_cons_of_mem _ hev'
  · intro machines hm
    have := (h.loaded machines hm).2.1
    omega
  · show Todo u _ _ (mine u c.tick)
    rw [h.todo.eq_nil (Or.inr hn), length_snoc]
    exact .nothing (by omega)

/-! ## Every step -/

variable {db : Db} {events : List Proto.MachineEvent}

/-- A change of the tables that is not about the machine. -/
theorem Following.of_db (h : Following u c log) (hkeyed : Keyed db)
    (hseen : seen db u = seen c.db u) : Following u { c with db := db } log :=
  h.frame hkeyed hseen h.idle (fun _ => .refl _) (fun _ => .refl _) (fun _ => id) h.todo

/-- An operation of the tick that is not about the machine. -/
theorem Following.of_tick (h : Following u c log) (htick : c.tick = .acting hosts (op :: ops))
    (hop : about u op = false) : Following u { c with tick := .acting hosts ops } log := by
  refine h.frame h.keyed rfl h.idle (fun _ => .refl _) (fun _ => .refl _) (fun _ hm => by cases hm) ?_
  have htodo := h.todo
  rw [htick] at htodo
  simpa [mine, hop] using htodo

/-- A new queue of an agent. -/
theorem Following.of_link (h : Following u c log) {link : List Proto.Assignment}
    (hlink : (link.filter (fun a => a.uid = some u)).Sublist (queue u c host)) :
    Following u { c with links := Function.update c.links host link } log := by
  refine h.frame h.keyed rfl h.idle (fun x => ?_) (fun _ => .refl _) (fun _ => id) h.todo
  by_cases hx : x = host
  · subst hx
    simpa [queue] using hlink
  · simp [queue, hx]

/-- A new state of an agent. -/
theorem Following.of_agent (h : Following u c log) (host : String) (agent : Agent)
    (hidle : agent.store.runs u = false)
    (houtbox : (agent.outbox.filter (reportsOn u)).Sublist (pending u c host)) :
    Following u { c with agents := Function.update c.agents host agent } log := by
  refine h.frame h.keyed rfl (idle_update h.idle hidle) (fun _ => .refl _) (fun x => ?_) (fun _ => id)
    h.todo
  by_cases hx : x = host
  · subst hx
    simpa [pending] using houtbox
  · simp [pending, hx]

theorem seen_append {m : MachineRow} (hfresh : row db m.uid = none) (hne : u ≠ m.uid) :
    seen (append m db) u = seen db u := by
  unfold seen
  rw [row_append hfresh, if_neg hne]

theorem seen_remove (hkeyed : Keyed db) {ns name : String}
    (hkept : ∀ m, row db u = some m → MachineRow.isAt ns name m = false) :
    seen (remove ns name db) u = seen db u := by
  unfold seen
  rw [row_remove hkeyed]
  cases hrow : row db u with
  | none => rfl
  | some m => simp [hkept m hrow]

/-- The reports of an agent on another machine. -/
theorem filter_other (h : ∀ ev ∈ events, ev.uid ≠ u) :
    (events.map Report.event).filter (reportsOn u) = [] := by
  rw [List.filter_eq_nil_iff]
  intro report hreport
  obtain ⟨ev, hev, rfl⟩ := List.mem_map.mp hreport
  simp [reportsOn, h ev hev]

/-- What becomes of an assignment for another machine. -/
theorem handled_other {store store' : LocalStore} (h : Handled store a store' events) (ha : a.uid ≠ some u)
    (hidle : store.runs u = false) : store'.runs u = false ∧ ∀ ev ∈ events, ev.uid ≠ u := by
  have hne : ∀ {v : Nat}, a.uid = some v → v ≠ u := by
    rintro v hv rfl
    exact ha hv
  cases h with
  | refused _ | converged _ _ _ _ | unknown _ _ _ _ => exact ⟨hidle, by simp⟩
  | failed v e hv _ _ => exact ⟨hidle, by simpa [event] using hne hv⟩
  | booted v machine ip hv _ _ hmachine _ | stopped v machine hv _ _ hmachine _ =>
    refine ⟨?_, by simpa [event] using hne hv⟩
    rw [runs_put, if_neg (by rw [hmachine]; exact (hne hv).symm)]
    exact hidle

/-- What becomes of a start of the machine, when it does not come to run. -/
theorem handled_start {store store' : LocalStore} (h : Handled store a store' events) (ha : a.uid = some u)
    (hstarts : a.starts = true) (hidle : store.runs u = false) (hidle' : store'.runs u = false) :
    ∃ e, store' = store ∧ events = [event u .failed e ""] := by
  cases h with
  | refused h =>
    rcases h with h | h
    · rw [ha] at h
      cases h
    · simp [Proto.Assignment.starts, h] at hstarts
  | converged v hv _ hruns =>
    obtain rfl : u = v := Option.some.inj (ha.symm.trans hv)
    rw [hidle] at hruns
    cases hruns
  | unknown _ _ hstops _ | stopped _ _ _ hstops _ _ _ =>
    rw [hstarts] at hstops
    cases hstops
  | failed v e hv _ _ =>
    obtain rfl : u = v := Option.some.inj (ha.symm.trans hv)
    exact ⟨e, rfl, rfl⟩
  | booted v machine ip hv _ _ hmachine hstate =>
    obtain rfl : u = v := Option.some.inj (ha.symm.trans hv)
    rw [runs_put, if_pos hmachine.symm, hstate] at hidle'
    cases hidle'

/-- The agent takes an assignment. -/
theorem Following.handled (h : Following u c log) {outcome : Except String LaunchOutcome}
    (hhopeless : Hopeless u (c, log) (.handle host outcome))
    (hstep : c.step (.handle host outcome) = some c') :
    Following u c' (note u c (.handle host outcome) log) := by
  cases hlink : c.links host with
  | nil => simp [State.step, hlink] at hstep
  | cons a rest =>
    simp only [State.step, hlink, State.setAgent] at hstep
    cases hstep
    have hidle' : (handleAssignment (c.agents host).store a outcome).1.runs u = false :=
      hhopeless a (by simp [hlink])
    have hhandled := HostAgent.handled (c.agents host).store a outcome
    generalize (handleAssignment (c.agents host).store a outcome).1 = store at hhandled hidle'
    generalize (handleAssignment (c.agents host).store a outcome).2 = events at hhandled
    by_cases ha : a.uid = some u
    · have hstarts : a.starts = true := h.starts host a (by simp [queue, hlink, ha])
      obtain ⟨e, rfl, rfl⟩ := handled_start hhandled ha hstarts (h.idle host) hidle'
      have hnote : note u c (.handle host outcome) log = log ++ [.attempted] := by
        simp [note, hlink, ha, hstarts, h.idle host]
      rw [hnote]
      exact h.attempted hlink ha
    · have hnote : note u c (.handle host outcome) log = log := by
        simp [note, hlink, ha]
      rw [hnote]
      obtain ⟨hidle, hevents⟩ := handled_other hhandled ha (h.idle host)
      have hrest : (rest.filter (fun a => a.uid = some u)).Sublist (queue u c host) := by
        simp [queue, hlink, ha]
      refine (h.of_link hrest).of_agent host _ hidle ?_
      rw [List.filter_append, filter_other hevents, List.append_nil]
      exact .refl _

/-- The tick counts a retry of this machine or another. -/
theorem Following.counts (h : Following u c log) (htick : c.tick = .acting hosts (.incrementRetry v :: ops))
    (delivered : Bool) :
    Following u { c with db := edit (countRetry v) c.db, tick := .acting hosts ops }
      (note u c (.act delivered) log) := by
  simp only [note, htick]
  split_ifs with hv
  · subst hv
    exact h.counted htick
  · refine (h.of_tick htick (by simp [about, hv])).of_db (keyed_edit (countRetry_uid v) h.keyed) ?_
    refine seen_edit (countRetry_uid v) (fun m hm => ?_) _
    have hne : m.uid ≠ v := fun heq => hv (heq.symm.trans hm)
    simp [countRetry, hne]

/-- It places this machine or another. -/
theorem Following.places (h : Following u c log) (htick : c.tick = .acting hosts (.assignHost v target :: ops))
    (delivered : Bool) :
    Following u { c with db := edit (settle v target) c.db, tick := .acting hosts ops }
      (note u c (.act delivered) log) := by
  simp only [note, htick]
  by_cases hv : v = u
  · subst hv
    exact h.placed htick
  · refine (h.of_tick htick (by simp [about, hv])).of_db (keyed_edit (settle_uid v target) h.keyed) ?_
    refine seen_edit (settle_uid v target) (fun m hm => ?_) _
    have hne : m.uid ≠ v := fun heq => hv (heq.symm.trans hm)
    simp [settle, hne]

/-- It sends an assignment for this machine or another. -/
theorem Following.sends (h : Following u c log) (htick : c.tick = .acting hosts (.send target a :: ops)) :
    Following u { c with
        links := Function.update c.links target (c.links target ++ [a])
        tick := .acting hosts ops } (note u c (.act true) log) := by
  by_cases ha : a.uid = some u
  · obtain ⟨hstarts, hsent⟩ := h.sent htick ha
    have hnote : note u c (.act true) log = log ++ [.sent] := by simp [note, htick, ha, hstarts]
    rw [hnote]
    exact hsent
  · have hnote : note u c (.act true) log = log := by simp [note, htick, ha]
    rw [hnote]
    refine (h.of_tick htick (by simp [about, ha])).of_link ?_
    rw [List.filter_append, List.filter_cons_of_neg (by simpa using ha), List.filter_nil,
      List.append_nil]
    exact .refl _

/-- The controller hears of this machine or another. -/
theorem Following.hears (h : Following u c log) (houtbox : (c.agents host).outbox = .event ev :: rest) :
    Following u { c with
        db := edit (observe ev) c.db
        agents := Function.update c.agents host { c.agents host with outbox := rest } }
      (note u c (.deliver host) log) := by
  by_cases hev : ev.uid = u
  · obtain ⟨hfailed, hheard⟩ := h.heard houtbox hev
    have hnote : note u c (.deliver host) log = log ++ [.heard] := by
      simp [note, houtbox, hev, hfailed, protoStateName_apiStateToProto]
    rw [hnote]
    exact hheard
  · have hnote : note u c (.deliver host) log = log := by simp [note, houtbox, hev]
    rw [hnote]
    have hagent := h.of_agent host { c.agents host with outbox := rest }
      (h.idle host) (by simp [pending, houtbox, reportsOn, hev])
    refine hagent.of_db (keyed_edit (observe_uid ev) h.keyed) ?_
    refine seen_edit (observe_uid ev) (fun m hm => ⟨?_, observe_hostId ev m⟩) _
    have hne : m.uid ≠ ev.uid := fun heq => hev (heq.symm.trans hm)
    unfold observe
    cases protoStateName ev.state <;> simp [hne]

/-- **Every step** of a steady run keeps the invariant. -/
theorem Following.step (h : Following u c log) {a : Action} (hhopeless : Hopeless u (c, log) a) (hsteady : Steady u (c, log) a)
    (hstep : c.step a = some c') : Following u c' (note u c a log) := by
  -- the agent is the one case that depends on how the launch ends
  by_cases hhandle : ∃ host outcome, a = .handle host outcome
  · obtain ⟨host, outcome, rfl⟩ := hhandle
    exact h.handled hhopeless hstep
  cases step_cases hstep with
  | handled host outcome => exact absurd ⟨host, outcome, rfl⟩ hhandle
  | refused _ _ _ _ _ => exact h
  | created ns fleet name spec v hfresh =>
    by_cases hv : v = u
    · subst hv
      exact h.created hfresh
    · exact h.of_db (keyed_append (m := fresh ns fleet name spec v) hfresh h.keyed)
        (seen_append (m := fresh ns fleet name spec v) hfresh (fun heq => hv heq.symm))
  | desired ns name running =>
    refine h.of_db (keyed_edit (desire_uid ns name running) h.keyed) ?_
    exact seen_edit (desire_uid ns name running) (fun m _ => ⟨desire_status .., desire_hostId ..⟩) _
  | deleted ns name =>
    exact h.of_db (keyed_remove ns name h.keyed) (seen_remove h.keyed hhopeless)
  | read machines htick hperm => exact h.read htick hperm hsteady
  | planned live machines htick _ => exact h.planned htick _
  | counted delivered hosts v ops htick => exact h.counts htick delivered
  | placed delivered hosts v target ops htick => exact h.places htick delivered
  | sent hosts target a ops htick => exact h.sends htick
  | unsent hosts target a ops htick =>
    have ha : a.uid ≠ some u := by
      intro ha
      simp only [Steady, htick] at hsteady
      cases hsteady ha
    simp only [note, htick]
    exact h.of_tick htick (by simp [about, ha])
  | finished delivered hosts htick =>
    simp only [note, htick]
    have htodo := h.todo
    rw [htick] at htodo
    exact h.frame h.keyed rfl h.idle (fun _ => .refl _) (fun _ => .refl _) (fun _ hm => by cases hm) htodo
  | abandoned =>
    refine h.frame h.keyed rfl h.idle (fun _ => .refl _) (fun _ => .refl _) (fun _ hm => by cases hm) ?_
    refine .nothing (fun hn => ?_)
    by_contra hne
    apply hsteady
    show log.getLast? = _
    rw [eq_take h.begun]
    exact history_last _ (length_le h.begun) hn hne
  | lost host i => exact h.of_link ((List.eraseIdx_sublist _ i).filter _)
  | reported host cap =>
    refine h.of_agent host _ (h.idle host) ?_
    simp [reportsOn, pending]
  | observed host ev rest houtbox => exact h.hears houtbox
  | measured host cap rest houtbox =>
    simp only [note, houtbox]
    refine Following.frame (c := { c with agents := _ }) (h.of_agent host
      { c.agents host with outbox := rest } (h.idle host) ?_)
      h.keyed rfl (idle_update h.idle (h.idle host)) (fun _ => .refl _) (fun _ => .refl _)
      (fun _ => id) h.todo
    simp [pending, houtbox, reportsOn]
  | dropped host report rest houtbox =>
    refine h.of_agent host _ (h.idle host) ?_
    show (rest.filter (reportsOn u)).Sublist _
    rw [pending, houtbox]
    exact (List.sublist_cons_self report rest).filter _
  | forgotten host v =>
    refine h.of_agent host _ ?_ (.refl _)
    have hidle := h.idle host
    unfold LocalStore.runs LocalStore.get LocalStore.delete at *
    rw [Table.lookup_erase]
    split_ifs with hv
    · rfl
    · exact hidle

end Steps

/-! ## The budget -/

theorem following_run {namespaces : List String} {resources : String → HostResources}
    {as : List Action} (hrun : run (watched u) (.init namespaces resources, []) as = some (c, log))
    (hhopeless : Meets (watched u) (Hopeless u) (.init namespaces resources, []) as)
    (hsteady : Meets (watched u) (Steady u) (.init namespaces resources, []) as) :
    Following u c log := by
  refine run_invariant (fun x : State × List Entry => Following u x.1 x.2) ?_ as _ (c, log)
    (following_init u namespaces resources) (hhopeless.and hsteady) hrun
  rintro ⟨c, log⟩ a ⟨c', log'⟩ h ⟨hhopeless, hsteady⟩ hstep
  obtain ⟨hs, hlog⟩ := observe_cases hstep
  dsimp only at hs hlog
  rw [hlog]
  exact h.step hhopeless hsteady hs

/-- A tick that has counted a retry has the start still to send. -/
theorem Following.starting (h : Following u c log)
    (hn : log.length % 4 = 0) (hne : log.length ≠ 0) : Starting c.tick u := by
  obtain ⟨x, a, hops, huid, hstarts⟩ := h.todo.due hn hne
  cases htick : c.tick with
  | idle | loaded machines => simp [mine, htick] at hops
  | acting hosts ops =>
    have hmem : Op.send x a ∈ ops.filter (about u) := by
      have hmine : ops.filter (about u) = [.send x a] := by rw [← hops, htick]; rfl
      rw [hmine]
      exact List.mem_cons_self
    exact ⟨_, List.mem_of_mem_filter hmem, hstarts, huid⟩

/-- **The budget counts attempts**, for a machine that is not deleted and never comes to run: in every
state of a run in which a tick reads the machines only when every start has come back as a failure,
and sends what it decides to send. The `k`-th retry follows the `k`-th failure and is followed by the start
after it. -/
theorem retries_matched (u : Nat) (namespaces : List String) (resources : String → HostResources)
    (as : List Action) (c : State) (log : List Entry)
    (hrun : run (watched u) (.init namespaces resources, []) as = some (c, log))
    (hhopeless : Meets (watched u) (Hopeless u) (.init namespaces resources, []) as)
    (hsteady : Meets (watched u) (Steady u) (.init namespaces resources, []) as) :
    log.count .attempted ≤ 1 + MAX_RETRIES ∧
    (∀ m, row c.db u = some m → m.status.retryCount = log.count .counted) ∧
    ∀ k < log.count .counted, log[4 * k + 2]? = some .heard ∧ log[4 * k + 3]? = some .counted ∧
      (log[4 * k + 4]? = some .sent ∨ (log.length = 4 * k + 4 ∧ Starting c.tick u)) := by
  have h := following_run hrun hhopeless hsteady
  have hle := length_le h.begun
  obtain ⟨hattempted, hcounted, -, -⟩ := history_counts log.length hle
  rw [← eq_take h.begun] at hattempted hcounted
  have hget : ∀ i < log.length, log[i]? = history[i]? := by
    intro i hi
    rw [eq_take h.begun, List.getElem?_take_of_lt hi]
  refine ⟨?_, ?_, ?_⟩
  · rw [hattempted]
    unfold MAX_RETRIES
    omega
  · intro m hm
    rw [hcounted]
    exact (h.known m.status m.hostId (by simp [seen, hm])).retries
  · intro k hk
    rw [hcounted] at hk
    refine ⟨?_, ?_, ?_⟩
    · rw [hget _ (by omega)]
      exact history_heard _ (by omega) (by omega)
    · rw [hget _ (by omega)]
      exact history_counted _ (by omega) (by omega)
    · by_cases hlast : log.length = 4 * k + 4
      · exact Or.inr ⟨hlast, h.starting (by omega) (by omega)⟩
      · rw [hget _ (by omega)]
        exact Or.inl (history_sent _ (by omega) (by omega))

/-! ## Runs -/

/-- The row when a failure has been heard and `n` retries counted. -/
def webFailed (n : Nat) : MachineRow :=
  { webPlaced with status := { webPlaced.status with state := .failed, retryCount := n } }

/-- The agent tries to boot the machine and reports that it failed. -/
def failing : List Action := [.handle "node-1" (.error "no such image"), .deliver "node-1"]

/-- A tick that counts a retry and sends a start, or cannot send it. -/
def retrying (n : Nat) (sent : Bool) : List Action :=
  [.loadMachines [webFailed n], .loadHosts [], .act true, .act sent, .act true]

theorem retries_matched_failing :
    ∃ c log, run (watched 1) (.init ["default"] plainHosts, []) (placing ++ failing ++ retrying 0 true) =
        some (c, log) ∧
      log = [.sent, .attempted, .heard, .counted, .sent] ∧ log.count .attempted ≤ 1 + MAX_RETRIES :=
  ⟨_, _, rfl, by decide, (retries_matched 1 ["default"] plainHosts
    (placing ++ failing ++ retrying 0 true) _ _ rfl (by decide) (by decide)).1⟩

/-- A tick while the agent is busy: the machine is placed, nothing was heard of it, and a start is sent. -/
def impatient : List Action := [.loadMachines [webPlaced], .loadHosts [], .act true, .act true]

/-- A start that the agent takes and that fails. -/
def failedBoot : Action := .handle "node-1" (.error "no such image")

/-- **The budget does not count attempts.** Five ticks pass before the agent takes the first
assignment: five boots are tried and no retry is counted. And while the agent is not connected, three
ticks use up the budget for one failure, without a start. -/
theorem budget_miscounted : (∃ c log, run (watched 1) (.init ["default"] plainHosts, [])
        (placing ++ impatient ++ impatient ++ impatient ++ impatient ++ List.replicate 5 failedBoot) =
          some (c, log) ∧ Meets (watched 1) (Hopeless 1) (.init ["default"] plainHosts, [])
        (placing ++ impatient ++ impatient ++ impatient ++ impatient ++ List.replicate 5 failedBoot) ∧
      log.count .attempted = 5 ∧ log.count .counted = 0) ∧
    ∃ c log, run (watched 1) (.init ["default"] plainHosts, [])
        (placing ++ failing ++ retrying 0 false ++ retrying 1 false ++ retrying 2 false) = some (c, log) ∧
      Meets (watched 1) (Hopeless 1) (.init ["default"] plainHosts, [])
        (placing ++ failing ++ retrying 0 false ++ retrying 1 false ++ retrying 2 false) ∧
      log = [.sent, .attempted, .heard, .counted, .counted, .counted] ∧
      (row c.db 1).map (fun m => m.status.retryCount) = some 3 :=
  ⟨⟨_, _, rfl, by decide, by decide, by decide⟩, _, _, rfl, by decide, by decide, by decide⟩

end MicroMachines.Cluster
