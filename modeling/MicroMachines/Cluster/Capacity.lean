import Mathlib.Algebra.Order.BigOperators.Group.List
import MicroMachines.Cluster.System

set_option autoImplicit false

/-! # Capacity

A machine is placed on a host that has room for it according to the last report of its agent. The
report is a snapshot of what runs on the host. It does not know of the machines that were placed
there since: those that this very tick has placed, those that have not been booted yet, and those
that were stopped and are started again. So a host can be given more than it has.

`never_overcommitted` says under which condition that does not happen. Whenever the loop places a
machine, the free capacity that it counts with is still there; and a machine that is started again
fits on its host.
-/

namespace MicroMachines.Cluster

open MicroMachines.Lib MicroMachines.Controller MicroMachines.HostAgent

/-! ## The demand on a host -/

/-- What a machine asks of a host: its size, if it is placed there and is to run. -/
def share (size : MachineSpec → Nat) (host : String) (m : MachineRow) : Nat :=
  if m.hostId = some host ∧ m.spec.running = true then size m.spec else 0

/-- What all machines ask of a host. -/
def demandOn (size : MachineSpec → Nat) (db : Db) (host : String) : Nat :=
  (db.machines.map (share size host)).sum

/-- The machines that are placed on the host and are to run fit on it. -/
def Fits (db : Db) (res : HostResources) (host : String) : Prop :=
  demandOn MachineSpec.vcpus db host ≤ res.vcpusTotal ∧
    demandOn MachineSpec.memoryMib db host ≤ res.memMibTotal

instance (db : Db) (res : HostResources) (host : String) : Decidable (Fits db res host) :=
  inferInstanceAs (Decidable (_ ∧ _))

theorem share_le (size : MachineSpec → Nat) (host : String) (m : MachineRow) :
    share size host m ≤ size m.spec := by
  unfold share
  split
  · exact Nat.le_refl _
  · exact Nat.zero_le _

variable {host : String} {db : Db} {m : MachineRow}

theorem demandOn_edit_le {size : MachineSpec → Nat} {g : MachineRow → MachineRow}
    (h : ∀ m ∈ db.machines, share size host (g m) ≤ share size host m) :
    demandOn size (edit g db) host ≤ demandOn size db host := by
  unfold demandOn edit
  rw [List.map_map]
  exact List.sum_le_sum h

/-- A row that says the same of the place and of the size asks for the same. -/
theorem share_congr {size : MachineSpec → Nat} {n : MachineRow}
    (hhost : n.hostId = m.hostId) (hspec : n.spec = m.spec) :
    share size host n = share size host m := by
  unfold share
  rw [hhost, hspec]

theorem demandOn_append (size : MachineSpec → Nat) (hm : m.hostId = none) (db : Db)
    (host : String) : demandOn size (append m db) host = demandOn size db host := by
  unfold demandOn append
  simp [share, hm]

theorem settle_of_ne {uid : Nat} (h : m.uid ≠ uid) : settle uid host m = m := if_neg h

/-- A placement adds no more than the size of the machine. -/
theorem demandOn_settle (size : MachineSpec → Nat) (hkeyed : Keyed db)
    (hm : m ∈ db.machines) (host : String) :
    demandOn size (edit (settle m.uid host) db) host ≤ demandOn size db host + size m.spec := by
  have hlist : ∀ machines : List MachineRow, (machines.map MachineRow.uid).Nodup → m ∈ machines →
      ((machines.map (settle m.uid host)).map (share size host)).sum ≤
        (machines.map (share size host)).sum + size m.spec := by
    intro machines huids hmem
    -- over the rows: the one that is placed is the head, or it is in the rest
    induction machines with
    | nil => cases hmem
    | cons n machines ih =>
      obtain ⟨hn, huids⟩ := List.nodup_cons.mp huids
      simp only [List.map_cons, List.sum_cons]
      rcases List.mem_cons.mp hmem with rfl | hmem
      · -- no other row is changed
        have hsame : machines.map (settle m.uid host) = machines := by
          apply (List.map_congr_left _).trans (List.map_id machines)
          intro k hk
          apply settle_of_ne
          intro heq
          exact hn (heq ▸ List.mem_map_of_mem hk)
        have hle := share_le size host (settle m.uid host m)
        rw [settle_spec] at hle
        rw [hsame]
        omega
      · have hne : n.uid ≠ m.uid := fun heq => hn (heq ▸ List.mem_map_of_mem hmem)
        have := ih huids hmem
        rw [settle_of_ne hne]
        omega
  exact hlist db.machines hkeyed hm

/-- On any other host it adds nothing. -/
theorem demandOn_settle_other (size : MachineSpec → Nat) (db : Db) (uid : Nat) {w : String}
    (hw : w ≠ host) : demandOn size (edit (settle uid host) db) w ≤ demandOn size db w := by
  apply demandOn_edit_le
  intro m _
  unfold settle
  split
  · have hne : ¬ host = w := fun h => hw h.symm
    simp [share, hne]
  · exact Nat.le_refl _

/-- To stop machines frees what they asked for. -/
theorem demandOn_stop (size : MachineSpec → Nat) (db : Db) (ns name host : String) :
    demandOn size (edit (desire ns name false) db) host ≤ demandOn size db host := by
  apply demandOn_edit_le
  intro m _
  unfold desire
  split
  · simp [share]
  · exact Nat.le_refl _

/-- To start machines asks something only of their hosts. -/
theorem demandOn_start_other (size : MachineSpec → Nat) {ns name : String}
    (h : ∀ m ∈ db.machines, MachineRow.isAt ns name m = true → m.hostId ≠ some host) :
    demandOn size (edit (desire ns name true) db) host ≤ demandOn size db host := by
  apply demandOn_edit_le
  intro m hm
  unfold desire
  split
  · rename_i hat
    simp [share, h m hm hat]
  · exact Nat.le_refl _

/-! ## The invariant -/

/-- If the tick places a machine next, the free capacity that it counts with is still there. -/
def StillFree (c : State) : Tick → Prop
  | .acting hosts (.assignHost _ host :: _) => ∀ cap ∈ hosts, cap.hostId = host →
      demandOn MachineSpec.vcpus c.db host + cap.vcpusFree ≤ (c.agents host).resources.vcpusTotal ∧
        demandOn MachineSpec.memoryMib c.db host + cap.memMibFree ≤
          (c.agents host).resources.memMibTotal
  | _ => True

instance (c : State) : DecidablePred (StillFree c) := fun tick => by
  unfold StillFree
  split <;> infer_instance

/-- The capacity that the loop counts with is there when it places a machine, and machines that are
started fit on their hosts. -/
def Roomy (c : State) : Action → Prop
  | .delete _ _ => False
  | .setRunning ns name true =>
    ∀ m ∈ c.db.machines, MachineRow.isAt ns name m = true → ∀ host ∈ m.hostId,
      Fits (edit (desire ns name true) c.db) (c.agents host).resources host
  | .act _ => StillFree c c.tick
  | _ => True

instance (c : State) : DecidablePred (Roomy c)
  | .delete _ _ => instDecidableFalse
  | .setRunning _ _ true =>
    inferInstanceAs (Decidable (∀ m ∈ c.db.machines, _ → ∀ host ∈ m.hostId, Fits _ _ host))
  | .act _ => inferInstanceAs (Decidable (StillFree c c.tick))
  | .create .. | .setRunning _ _ false | .loadMachines _ | .loadHosts _ | .abandon | .lose .. |
    .handle .. | .report _ | .deliver _ | .drop _ | .forget .. => instDecidableTrue

/-- A machine of the table is as large as a machine that was read, and as the scheduler reckons. -/
def Sized (db : Db) : Tick → Prop
  | .idle => True
  | .loaded machines => ∀ m ∈ machines, ∃ n ∈ db.machines, n.uid = m.uid ∧ n.demand = m.demand
  | .acting hosts ops => ∀ uid host, .assignHost uid host ∈ ops →
      ∃ n ∈ db.machines, n.uid = uid ∧ ∃ cap ∈ hosts, cap.hostId = host ∧
        n.spec.vcpus ≤ cap.vcpusFree ∧ n.spec.memoryMib ≤ cap.memMibFree

/-- A row may be changed in everything but its key and its size. -/
theorem Sized.mono {db' : Db} {tick : Tick} (h : Sized db tick)
    (hdb : ∀ n ∈ db.machines, ∃ n' ∈ db'.machines, n'.uid = n.uid ∧ n'.demand = n.demand) :
    Sized db' tick := by
  cases tick with
  | idle => trivial
  | loaded machines =>
    intro m hm
    obtain ⟨n, hn, huid, hdemand⟩ := h m hm
    obtain ⟨n', hn', huid', hdemand'⟩ := hdb n hn
    exact ⟨n', hn', huid'.trans huid, hdemand'.trans hdemand⟩
  | acting hosts ops =>
    intro uid host hop
    obtain ⟨n, hn, huid, cap, hcap, hhost, hcpu, hmem⟩ := h uid host hop
    obtain ⟨n', hn', huid', hdemand⟩ := hdb n hn
    obtain ⟨hcpu', hmem'⟩ : n'.spec.vcpus = n.spec.vcpus ∧
        n'.spec.memoryMib = n.spec.memoryMib := Demand.mk.inj hdemand
    exact ⟨n', hn', huid'.trans huid, cap, hcap, hhost, hcpu'.le.trans hcpu, hmem'.le.trans hmem⟩

theorem Sized.edited {tick : Tick} (h : Sized db tick) {g : MachineRow → MachineRow}
    (hg : ∀ m, (g m).uid = m.uid) (hdemand : ∀ m, (g m).demand = m.demand) :
    Sized (edit g db) tick := by
  apply h.mono
  intro n hn
  exact ⟨g n, List.mem_map_of_mem hn, hg n, hdemand n⟩

/-- Where a plan places a machine there is room for it. -/
theorem fits_of_plan {hosts : List HostCapacity} {ops : List Op}
    (hplan : Plan hosts m ops) {uid : Nat} (h : .assignHost uid host ∈ ops) :
    uid = m.uid ∧ ∃ cap ∈ hosts, cap.hostId = host ∧
      m.spec.vcpus ≤ cap.vcpusFree ∧ m.spec.memoryMib ≤ cap.memMibFree := by
  induction hplan with
  | nothing => cases h
  | retry _ ih =>
    rcases List.mem_cons.mp h with h | h
    · cases h
    · exact ih h
  | start w _ _ | stop w _ _ => cases List.mem_singleton.mp h
  | place cap _ hplace _ =>
    rcases List.mem_cons.mp h with h | h
    · obtain ⟨rfl, rfl⟩ := Op.assignHost.inj h
      obtain ⟨hcap, hcpu, hmem⟩ := place_fits hplace
      exact ⟨rfl, cap, hcap, rfl, hcpu, hmem⟩
    · cases List.mem_singleton.mp h

/-- No host is overcommitted. -/
structure Fitting (c : State) : Prop where
  keyed : Keyed c.db
  sized : Sized c.db c.tick
  fits : ∀ host, Fits c.db (c.agents host).resources host

theorem fitting_init (namespaces : List String) (resources : String → HostResources) :
    Fitting (.init namespaces resources) :=
  ⟨List.nodup_nil, trivial, fun _ => ⟨Nat.zero_le _, Nat.zero_le _⟩⟩

namespace Fitting

variable {c c' : State}

/-- Rows change, and nothing more is asked of any host. -/
theorem edited (h : Fitting c) {g : MachineRow → MachineRow} (hg : ∀ m, (g m).uid = m.uid)
    (hhost : ∀ m, (g m).hostId = m.hostId) (hspec : ∀ m, (g m).spec = m.spec)
    (hdb : c'.db = edit g c.db) (htick : Sized c.db c'.tick)
    (hres : ∀ host, (c'.agents host).resources = (c.agents host).resources) : Fitting c' := by
  have hle : ∀ size host, demandOn size c'.db host ≤ demandOn size c.db host := by
    intro size host
    rw [hdb]
    apply demandOn_edit_le
    intro m _
    rw [share_congr (hhost m) (hspec m)]
  refine ⟨hdb ▸ keyed_edit hg h.keyed, ?_, ?_⟩
  · rw [hdb]
    exact htick.edited hg (fun m => by simp only [MachineRow.demand, hspec])
  · intro host
    rw [hres]
    exact ⟨(hle _ host).trans (h.fits host).1, (hle _ host).trans (h.fits host).2⟩

/-- Only the tick, the queues, the records or the reports change. -/
theorem frame (h : Fitting c) (hdb : c'.db = c.db) (htick : Sized c.db c'.tick)
    (hres : ∀ host, (c'.agents host).resources = (c.agents host).resources) : Fitting c' := by
  refine ⟨hdb ▸ h.keyed, hdb ▸ htick, ?_⟩
  intro host
  rw [hres, hdb]
  exact h.fits host

/-- Whatever an agent does, its host stays what it is. -/
theorem resources_update {host : String} {agent : Agent}
    (hagent : agent.resources = (c.agents host).resources) :
    ∀ w, (Function.update c.agents host agent w).resources = (c.agents w).resources := by
  rw [Function.forall_update_iff c.agents
    (p := fun w (agent : Agent) => agent.resources = (c.agents w).resources)]
  exact ⟨hagent, fun _ _ => rfl⟩

/-- A machine is placed. -/
theorem placed (h : Fitting c) {uid : Nat} {host : String} {hosts : List HostCapacity}
    {ops : List Op} (htick : c.tick = .acting hosts (.assignHost uid host :: ops))
    (hroomy : StillFree c c.tick) :
    Fitting { c with db := edit (settle uid host) c.db, tick := .acting hosts ops } := by
  have hsized := h.sized
  rw [htick] at hsized
  obtain ⟨m, hm, rfl, cap, hcap, hhost, hcpu, hmem⟩ := hsized uid host List.mem_cons_self
  rw [htick] at hroomy
  have hroom := hroomy cap hcap hhost
  refine ⟨keyed_edit (settle_uid _ host) h.keyed, ?_, ?_⟩
  · have hrest : Sized c.db (.acting hosts ops) :=
      fun v w hop => hsized v w (List.mem_cons_of_mem _ hop)
    exact hrest.edited (settle_uid _ host) (fun m => by simp only [MachineRow.demand, settle_spec])
  · intro w
    show Fits (edit (settle m.uid host) c.db) (c.agents w).resources w
    by_cases hw : w = host
    · -- the machine is no larger than what the scheduler found free, and that is still there
      subst hw
      have hcpus := demandOn_settle MachineSpec.vcpus h.keyed hm w
      have hmems := demandOn_settle MachineSpec.memoryMib h.keyed hm w
      exact ⟨by omega, by omega⟩
    · have hcpus := demandOn_settle_other MachineSpec.vcpus c.db m.uid hw
      have hmems := demandOn_settle_other MachineSpec.memoryMib c.db m.uid hw
      exact ⟨hcpus.trans (h.fits w).1, hmems.trans (h.fits w).2⟩

/-- Machines are started or stopped. -/
theorem desired (h : Fitting c) (ns name : String) (running : Bool)
    (hroomy : Roomy c (.setRunning ns name running)) :
    Fitting { c with db := edit (desire ns name running) c.db } := by
  refine ⟨keyed_edit (desire_uid ns name running) h.keyed, ?_, ?_⟩
  · apply h.sized.edited (desire_uid ns name running)
    intro m
    unfold desire
    split <;> rfl
  · intro host
    cases running with
    | false =>
      have hcpus := demandOn_stop MachineSpec.vcpus c.db ns name host
      have hmems := demandOn_stop MachineSpec.memoryMib c.db ns name host
      exact ⟨hcpus.trans (h.fits host).1, hmems.trans (h.fits host).2⟩
    | true =>
      by_cases hplaced : ∃ m ∈ c.db.machines, MachineRow.isAt ns name m = true ∧
          m.hostId = some host
      · obtain ⟨m, hm, hat, hhost⟩ := hplaced
        exact hroomy m hm hat host hhost
      · -- none of the machines that are started is on this host
        have hother : ∀ m ∈ c.db.machines, MachineRow.isAt ns name m = true →
            m.hostId ≠ some host := fun m hm hat hhost => hplaced ⟨m, hm, hat, hhost⟩
        have hcpus := demandOn_start_other MachineSpec.vcpus hother
        have hmems := demandOn_start_other MachineSpec.memoryMib hother
        exact ⟨hcpus.trans (h.fits host).1, hmems.trans (h.fits host).2⟩

/-- **A step overcommits no host.** -/
theorem step (h : Fitting c) {a : Action} (hP : Roomy c a) (hstep : Step c a c') : Fitting c' := by
  have hrest : ∀ {hosts op ops}, c.tick = .acting hosts (op :: ops) →
      Sized c.db (.acting hosts ops) := by
    intro hosts op ops htick
    have hsized := h.sized
    rw [htick] at hsized
    exact fun uid host hop => hsized uid host (List.mem_cons_of_mem op hop)
  cases hstep with
  | refused _ _ _ _ _ => exact h
  | created ns fleet name spec uid hfresh =>
    refine ⟨keyed_append hfresh h.keyed, ?_, ?_⟩
    · apply h.sized.mono
      intro n hn
      exact ⟨n, List.mem_append_left _ hn, rfl, rfl⟩
    · intro host
      unfold Fits
      rw [demandOn_append _ rfl, demandOn_append _ rfl]
      exact h.fits host
  | desired ns name running => exact h.desired ns name running hP
  | deleted _ _ => exact hP.elim
  | read machines _ hperm =>
    refine h.frame rfl ?_ (fun _ => rfl)
    exact fun m hm => ⟨m, hperm.subset hm, rfl, rfl⟩
  | planned live machines htick _ =>
    have hsized := h.sized
    rw [htick] at hsized
    refine h.frame rfl ?_ (fun _ => rfl)
    intro uid host hop
    obtain ⟨m, hm, hop⟩ := List.mem_flatMap.mp hop
    obtain ⟨rfl, cap, hcap, hhost, hcpu, hmem⟩ := fits_of_plan (plan_machineOps _ m) hop
    obtain ⟨n, hn, huid, hdemand⟩ := hsized m hm
    obtain ⟨hcpu', hmem'⟩ : n.spec.vcpus = m.spec.vcpus ∧
        n.spec.memoryMib = m.spec.memoryMib := Demand.mk.inj hdemand
    exact ⟨n, hn, huid, cap, hcap, hhost, hcpu'.le.trans hcpu, hmem'.le.trans hmem⟩
  | counted _ hosts uid ops htick =>
    exact h.edited (countRetry_uid uid) (countRetry_hostId uid) (countRetry_spec uid) rfl
      (hrest htick) (fun _ => rfl)
  | placed _ hosts uid host ops htick => exact h.placed htick hP
  | sent hosts host a ops htick | unsent hosts host a ops htick => exact h.frame rfl (hrest htick) (fun _ => rfl)
  | finished _ _ _ | abandoned => exact h.frame rfl trivial (fun _ => rfl)
  | lost _ _ => exact h.frame rfl h.sized (fun _ => rfl)
  | handled _ _ _ _ _ _ _ _ | reported _ _ | measured _ _ _ _ | dropped _ _ _ _
  | forgotten _ _ => exact h.frame rfl h.sized (resources_update rfl)
  | observed host ev _ _ =>
    exact h.edited (observe_uid ev) (observe_hostId ev) (observe_spec ev) rfl h.sized
      (resources_update rfl)

end Fitting

/-! ## The result -/

/-- **No host is overcommitted** in a run in which every placement counts with capacity that is
still there and every machine that is started again fits on its host. -/
theorem never_overcommitted {namespaces : List String} {resources : String → HostResources}
    {as : List Action} {c : State} (hroomy : Meets State.step Roomy (.init namespaces resources) as)
    (hrun : run State.step (.init namespaces resources) as = some c) (host : String) :
    Fits c.db (c.agents host).resources host := by
  have hinv : Fitting c := run_invariant Fitting
    (fun s a s' h hP hstep => h.step hP (step_cases hstep)) as _ c
    (fitting_init namespaces resources) hroomy hrun
  exact hinv.fits host

theorem never_overcommitted_web :
    ∃ c, run State.step (.init ["default"] plainHosts) placing = some c ∧
      demandOn MachineSpec.vcpus c.db "node-1" = 6 ∧
        Fits c.db (c.agents "node-1").resources "node-1" := by
  have hroomy : Meets State.step Roomy (.init ["default"] plainHosts) placing := by decide
  obtain ⟨c, hrun⟩ : ∃ c, run State.step (.init ["default"] plainHosts) placing = some c :=
    Option.isSome_iff_exists.mp (by decide)
  have hend : (run State.step (.init ["default"] plainHosts) placing).map
      (fun c => demandOn MachineSpec.vcpus c.db "node-1") = some 6 := by decide
  rw [hrun] at hend
  exact ⟨c, hrun, Option.some.inj hend, never_overcommitted hroomy hrun "node-1"⟩

/-- Another machine of the same size. -/
def mirror : MachineRow := fresh "default" "default" "mirror" webSpec 2

/-- A tick places both machines on the host. -/
def twoInOneTick : List Action :=
  [.report "node-1", .deliver "node-1", .create "default" "default" "web" webSpec 1,
    .create "default" "default" "mirror" webSpec 2, .loadMachines [web, mirror],
    .loadHosts [idleHost], .act true, .act true, .act true, .act true, .act true]

/-- A machine is stopped before it has been booted, the other one gets its place, and the first one
is started again. -/
def startedAgain : List Action :=
  placing ++ ([.setRunning "default" "web" false, .create "default" "default" "mirror" webSpec 2,
    .loadMachines [{ web with
      hostId := some "node-1", spec := { webSpec with running := false } }, mirror],
    .loadHosts [idleHost], .act true, .act true, .act true, .setRunning "default" "web" true] : List Action)

/-- In both runs twelve processors are asked of a host that has eight. -/
theorem host_overcommitted :
    (run State.step (.init ["default"] plainHosts) twoInOneTick).map (fun c =>
        (demandOn MachineSpec.vcpus c.db "node-1",
          (c.agents "node-1").resources.vcpusTotal)) = some (12, 8) ∧
      (run State.step (.init ["default"] plainHosts) startedAgain).map (fun c =>
        (demandOn MachineSpec.vcpus c.db "node-1",
          (c.agents "node-1").resources.vcpusTotal)) = some (12, 8) := by
  decide

end MicroMachines.Cluster
