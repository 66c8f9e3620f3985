import MicroMachines.Cluster.System

set_option autoImplicit false

/-! # Deletion

A request to delete a machine removes its row and does nothing else. The loop goes through the rows,
so from then on nobody tells the agent to stop the machine. If the agent has it running and no stop
is on its way, it stays running for good, and no row says so.

`no_orphans` says when that does not happen: if at the moment of the deletion the machine is on its
way down. What is on its way on a host decides whether a machine will be running there (`headed`).
-/

namespace MicroMachines.Cluster

open MicroMachines.Lib MicroMachines.Controller MicroMachines.HostAgent

/-! ## What is on its way -/

/-- Whether the machine will be running if all assignments in the queue are carried out. -/
def headed (uid : Nat) (runs : Bool) (link : List Proto.Assignment) : Bool :=
  link.foldl (fun r a => if a.uid = some uid then a.starts else r) runs

theorem headed_concat (uid : Nat) (runs : Bool) (link : List Proto.Assignment)
    (a : Proto.Assignment) : headed uid runs (link ++ [a]) =
      if a.uid = some uid then a.starts else headed uid runs link := by
  unfold headed
  rw [List.foldl_append]
  rfl

theorem headed_mono {uid : Nat} {runs runs' : Bool} {link : List Proto.Assignment}
    (hruns : runs' = true → runs = true) (h : headed uid runs link = false) :
    headed uid runs' link = false := by
  induction link generalizing runs runs' with
  | nil =>
    cases runs' with
    | false => rfl
    | true => exact (Bool.false_ne_true (h.symm.trans (hruns rfl))).elim
  | cons a link ih =>
    apply ih _ h
    by_cases hkey : a.uid = some uid
    · simp [hkey]
    · simpa [hkey] using hruns

/-- An agent does not do more than it is told. -/
theorem runs_of_handled {store store' : LocalStore} {a : Proto.Assignment}
    {events : List Proto.MachineEvent} (h : Handled store a store' events)
    (hcomplete : a.complete = true) {uid : Nat} (hruns : store'.runs uid = true) :
    (if a.uid = some uid then a.starts else store.runs uid) = true := by
  cases h with
  | refused h =>
    unfold Proto.Assignment.complete at hcomplete
    rcases h with h | h <;> simp [h] at hcomplete
  | converged v _ hstarts _ | failed v _ _ hstarts _ => split <;> assumption
  | booted v machine _ huid hstarts _ hmachine _ =>
    by_cases hv : uid = v
    · rw [if_pos (huid.trans (congrArg some hv.symm)), hstarts]
    · have hne : a.uid ≠ some uid := fun h => hv (Option.some.inj (h.symm.trans huid))
      rw [runs_put, if_neg (hmachine ▸ hv)] at hruns
      rwa [if_neg hne]
  | stopped v machine huid hstarts _ hmachine hstate =>
    by_cases hv : uid = v
    · rw [runs_put, if_pos (hv.trans hmachine.symm)] at hruns
      simp [hstate] at hruns
    · have hne : a.uid ≠ some uid := fun h => hv (Option.some.inj (h.symm.trans huid))
      rw [runs_put, if_neg (hmachine ▸ hv)] at hruns
      rwa [if_neg hne]
  | unknown v huid hstarts hget =>
    by_cases hv : uid = v
    · subst hv
      exact absurd hget (get_of_runs hruns)
    · have hne : a.uid ≠ some uid := fun h => hv (Option.some.inj (h.symm.trans huid))
      rwa [if_neg hne]

/-! ## The invariant -/

/-- Whether the machine will be running on the host. -/
def State.headed (c : State) (host : String) (uid : Nat) : Bool :=
  Cluster.headed uid ((c.agents host).store.runs uid) (c.links host)

/-- Machines are deleted when they are on their way down: the tick does not start them, and they
will not be running on their host. No assignment is lost from a queue. -/
def WoundDown (c : State) : Action → Prop
  | .delete ns name => ∀ m ∈ c.db.machines, MachineRow.isAt ns name m = true →
      ¬ Starting c.tick m.uid ∧ ∀ host ∈ m.hostId, c.headed host m.uid = false
  | .lose _ _ => False
  | _ => True

instance (c : State) : DecidablePred (WoundDown c)
  | .delete _ _ => inferInstanceAs (Decidable (∀ m ∈ c.db.machines, _ → _ ∧ ∀ host ∈ m.hostId, _))
  | .lose _ _ => instDecidableFalse
  | .create .. | .setRunning .. | .loadMachines _ | .loadHosts _ | .act _ | .abandon | .handle .. |
    .report _ | .deliver _ | .drop _ | .forget .. => instDecidableTrue

theorem WoundDown.deletable {c : State} {a : Action} (h : WoundDown c a) : Deletable c a := by
  cases a with
  | delete ns name => exact fun m hm hat => (h m hm hat).1
  | _ => trivial

/-- A machine will only be running on the host that it is placed on. -/
structure Winding (c : State) : Prop extends Orderly c where
  complete : ∀ host, ∀ a ∈ c.links host, a.complete = true
  elsewhere : ∀ host uid, hostOf c.db uid ≠ some host → c.headed host uid = false

theorem winding_init (namespaces : List String) (resources : String → HostResources) :
    Winding (.init namespaces resources) :=
  ⟨orderly_init namespaces resources, fun _ _ ha => absurd ha List.not_mem_nil, fun _ _ _ => rfl⟩

namespace Winding

variable {c c' : State}

/-- Machines stay where they are, and nothing is queued or recorded. -/
theorem frame (h : Winding c) (horderly : Orderly c') (hdb : hostOf c'.db = hostOf c.db)
    (hlinks : c'.links = c.links) (hruns : ∀ host uid, (c'.agents host).store.runs uid = true →
      (c.agents host).store.runs uid = true) : Winding c' := by
  refine ⟨horderly, hlinks ▸ h.complete, ?_⟩
  intro host uid hhost
  unfold State.headed
  rw [hlinks]
  exact headed_mono (hruns host uid) (h.elsewhere host uid (hdb ▸ hhost))

/-- An agent changes nothing of its records, or forgets some. -/
theorem runs_update {host : String} {agent : Agent}
    (hagent : ∀ uid, agent.store.runs uid = true → (c.agents host).store.runs uid = true) :
    ∀ w uid, (Function.update c.agents host agent w).store.runs uid = true →
      (c.agents w).store.runs uid = true := by
  rw [Function.forall_update_iff c.agents (p := fun w (agent : Agent) =>
    ∀ uid, agent.store.runs uid = true → (c.agents w).store.runs uid = true)]
  exact ⟨hagent, fun _ _ _ => id⟩

/-- Machines that are on their way down are deleted. -/
theorem deleted (h : Winding c) (ns name : String) (hP : WoundDown c (.delete ns name))
    (horderly : Orderly { c with db := remove ns name c.db }) :
    Winding { c with db := remove ns name c.db } := by
  refine ⟨horderly, h.complete, ?_⟩
  intro host uid hhost
  by_cases hbefore : hostOf c.db uid = some host
  · -- the row was there and has been removed
    show c.headed host uid = false
    obtain ⟨m, hrow, hm⟩ := Option.bind_eq_some_iff.mp hbefore
    obtain ⟨hmem, rfl⟩ := Table.mem_of_lookup hrow
    have hat : MachineRow.isAt ns name m = true := by
      by_contra hat
      apply hhost
      show hostOf (remove ns name c.db) m.uid = some host
      unfold hostOf
      rw [row_remove h.keyed, hrow, Option.filter_some, if_pos (by simpa using hat)]
      exact hm
    exact (hP m hmem hat).2 host hm
  · exact h.elsewhere host uid hbefore

/-- The loop queues an assignment. It starts a machine only where it is placed. -/
theorem sent (h : Winding c) {hosts : List HostCapacity} {host : String} {a : Proto.Assignment}
    {ops : List Op} (htick : c.tick = .acting hosts (.send host a :: ops)) (horderly : Orderly c')
    (hdb : c'.db = c.db) (hlinks : c'.links = Function.update c.links host (c.links host ++ [a]))
    (hagents : c'.agents = c.agents) : Winding c' := by
  have hplanned := h.upToDate
  rw [htick] at hplanned
  obtain ⟨hcomplete, hplace, _⟩ := hplanned
  refine ⟨horderly, ?_, ?_⟩
  · rw [hlinks, Function.forall_update_iff c.links
      (p := fun _ (link : List Proto.Assignment) => ∀ b ∈ link, b.complete = true)]
    refine ⟨?_, fun w _ => h.complete w⟩
    intro b hb
    rcases List.mem_append.mp hb with hb | hb
    · exact h.complete host b hb
    · rw [List.mem_singleton.mp hb, hcomplete]
  · unfold State.headed
    rw [hlinks, hdb, hagents, Function.forall_update_iff c.links
      (p := fun w (link : List Proto.Assignment) => ∀ uid, hostOf c.db uid ≠ some w →
        Cluster.headed uid ((c.agents w).store.runs uid) link = false)]
    refine ⟨?_, fun w _ => h.elsewhere w⟩
    intro uid hhost
    rw [headed_concat]
    by_cases huid : a.uid = some uid
    · -- the last assignment decides, and a start goes to the host of the machine
      rw [if_pos huid]
      by_contra hstarts
      obtain ⟨v, hv, hvhost⟩ := hplace (by simpa using hstarts)
      rw [huid] at hv
      rw [Option.some.inj hv] at hhost
      exact hhost hvhost
    · rw [if_neg huid]
      exact h.elsewhere host uid hhost

/-- An agent takes an assignment. -/
theorem handled (h : Winding c) {host : String} {a : Proto.Assignment}
    {rest : List Proto.Assignment} {store : LocalStore} {events : List Proto.MachineEvent}
    (hlink : c.links host = a :: rest) (hhandled : Handled (c.agents host).store a store events)
    (horderly : Orderly c') (hdb : c'.db = c.db)
    (hlinks : c'.links = Function.update c.links host rest)
    (hagents : c'.agents = Function.update c.agents host { c.agents host with
      store := store
      outbox := (c.agents host).outbox ++ events.map Report.event }) : Winding c' := by
  have hcomplete := h.complete host
  rw [hlink] at hcomplete
  refine ⟨horderly, ?_, ?_⟩
  · rw [hlinks, Function.forall_update_iff c.links
      (p := fun _ (link : List Proto.Assignment) => ∀ b ∈ link, b.complete = true)]
    exact ⟨fun b hb => hcomplete b (List.mem_cons_of_mem a hb), fun w _ => h.complete w⟩
  · intro w uid hhost
    rw [hdb] at hhost
    have hbefore := h.elsewhere w uid hhost
    unfold State.headed at hbefore ⊢
    by_cases hw : w = host
    · subst hw
      -- what the assignment was to make of the record, it has made of it
      rw [hlinks, hagents, Function.update_self, Function.update_self]
      rw [hlink] at hbefore
      exact headed_mono (runs_of_handled hhandled (hcomplete a List.mem_cons_self)) hbefore
    · rw [hlinks, hagents, Function.update_of_ne hw, Function.update_of_ne hw]
      exact hbefore

/-- **A step keeps machines from running anywhere else.** -/
theorem step (h : Winding c) {a : Action} (hP : WoundDown c a) (hstep : Step c a c') :
    Winding c' := by
  have horderly := h.toOrderly.step hP.deletable hstep
  cases hstep with
  | refused _ _ _ _ _ => exact h
  | created ns fleet name spec uid hfresh =>
    exact h.frame horderly (hostOf_append hfresh rfl) rfl (fun _ _ => id)
  | desired ns name running =>
    exact h.frame horderly
      (hostOf_edit (desire_uid ns name running) (desire_hostId ns name running) c.db) rfl
      (fun _ _ => id)
  | deleted ns name => exact h.deleted ns name hP horderly
  | lost _ _ => exact hP.elim
  | read _ _ _ | planned _ _ _ _ | unsent _ _ _ _ _ | finished _ _ _ | abandoned => exact h.frame horderly rfl rfl (fun _ _ => id)
  | counted _ hosts uid ops htick =>
    exact h.frame horderly (hostOf_edit (countRetry_uid uid) (countRetry_hostId uid) c.db) rfl
      (fun _ _ => id)
  | placed _ hosts uid host ops htick =>
    have hplanned := h.upToDate
    rw [htick] at hplanned
    refine ⟨horderly, h.complete, ?_⟩
    intro w v hw
    show c.headed w v = false
    apply h.elsewhere
    intro hbefore
    apply hw
    show hostOf (edit (settle uid host) c.db) v = some w
    rw [hostOf_settle hplanned.1, Function.update_of_ne, hbefore]
    -- the loop places only machines that are nowhere
    rintro rfl
    rw [hplanned.2.1] at hbefore
    cases hbefore
  | sent hosts host a ops htick => exact h.sent htick horderly rfl rfl rfl
  | handled host _ a rest store events hlink hhandled =>
    exact h.handled hlink hhandled horderly rfl rfl rfl
  | reported _ _ | measured _ _ _ _ | dropped _ _ _ _ => exact h.frame horderly rfl rfl (runs_update (fun _ => id))
  | observed host ev _ _ =>
    exact h.frame horderly (hostOf_edit (observe_uid ev) (observe_hostId ev) c.db) rfl
      (runs_update (fun _ => id))
  | forgotten host uid =>
    refine h.frame horderly rfl rfl (runs_update ?_)
    intro v hruns
    unfold LocalStore.runs LocalStore.get LocalStore.delete at hruns
    rw [Table.lookup_erase] at hruns
    split at hruns
    · simp at hruns
    · exact hruns

end Winding

/-! ## The result -/

/-- **No machine is orphaned** in a run in which machines are deleted when they are on their way
down: if nothing waits for an agent, every machine that it has running has a row. -/
theorem no_orphans {namespaces : List String} {resources : String → HostResources}
    {as : List Action} {c : State}
    (hwound : Meets State.step WoundDown (.init namespaces resources) as)
    (hrun : run State.step (.init namespaces resources) as = some c) {host : String}
    (hquiet : c.links host = []) {uid : Nat} (hruns : (c.agents host).store.runs uid = true) :
    ∃ m ∈ c.db.machines, m.uid = uid := by
  have hinv : Winding c := run_invariant Winding
    (fun s a s' h hP hstep => h.step hP (step_cases hstep)) as _ c
    (winding_init namespaces resources) hwound hrun
  have hheaded : c.headed host uid = true := by
    unfold State.headed
    rw [hquiet]
    exact hruns
  have hhost : hostOf c.db uid = some host := by
    by_contra hne
    exact Bool.false_ne_true ((hinv.elsewhere host uid hne).symm.trans hheaded)
  obtain ⟨m, hrow, _⟩ := Option.bind_eq_some_iff.mp hhost
  exact ⟨m, Table.mem_of_lookup hrow⟩

/-- A small machine beside the other one. -/
def sidecar : MachineRow := fresh "default" "default" "sidecar" { webSpec with vcpus := 1 } 2

def sidecarRunning : MachineRow :=
  { sidecar with
    hostId := some "node-1"
    status := { sidecar.status with state := .running, ip := some "10.0.0.4" } }

/-- Two machines are running. One of them is stopped, a tick tells the agent so, and then it is
deleted. -/
def orderly : List Action :=
  launching ++ ([.deliver "node-1",
    .create "default" "default" "sidecar" { webSpec with vcpus := 1 } 2,
    .loadMachines [webRunning, sidecar], .loadHosts [idleHost], .act true, .act true, .act true,
    .handle "node-1" (.ok ⟨"10.0.0.4", 8, by decide⟩), .deliver "node-1",
    .setRunning "default" "web" false,
    .loadMachines [{ webRunning with spec := { webSpec with running := false } }, sidecarRunning],
    .loadHosts [idleHost], .act true, .act true, .delete "default" "web",
    .handle "node-1" (.error "unused")] : List Action)

theorem no_orphans_orderly : ∃ c, run State.step (.init ["default"] plainHosts) orderly = some c ∧
      c.links "node-1" = [] ∧ (c.agents "node-1").store.runs 2 = true ∧
        ∃ m ∈ c.db.machines, m.uid = 2 := by
  have hwound : Meets State.step WoundDown (.init ["default"] plainHosts) orderly := by decide
  obtain ⟨c, hrun⟩ : ∃ c, run State.step (.init ["default"] plainHosts) orderly = some c :=
    Option.isSome_iff_exists.mp (by decide)
  have hend : (run State.step (.init ["default"] plainHosts) orderly).map (fun c =>
      (c.links "node-1", (c.agents "node-1").store.runs 2)) = some ([], true) := by decide
  rw [hrun] at hend
  have hlink : c.links "node-1" = [] := congrArg Prod.fst (Option.some.inj hend)
  have hruns : (c.agents "node-1").store.runs 2 = true := congrArg Prod.snd (Option.some.inj hend)
  exact ⟨c, hrun, hlink, hruns, no_orphans hwound hrun hlink hruns⟩

/-- `mm rm`: stop the machine and delete it at once. -/
def removing : List Action :=
  launching ++ ([.deliver "node-1", .setRunning "default" "web" false, .delete "default" "web"] : List Action)

/-- Nothing is on its way, there is no row for a tick to act on, and the agent has the machine
running. -/
theorem removed_machine_runs :
    (run State.step (.init ["default"] plainHosts) removing).map (fun c =>
        (c.links "node-1", (c.agents "node-1").outbox, c.tick, c.db.machines,
          (c.agents "node-1").store.runs 1)) = some ([], [], .idle, [], true) ∧
      ∀ hosts, reconcileOnce [] hosts = [] :=
  ⟨by decide, fun _ => rfl⟩

end MicroMachines.Cluster
