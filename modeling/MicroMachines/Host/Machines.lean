import MicroMachines.Host.CloneRemoval

set_option autoImplicit false

/-! # Machines, their guests and their snapshots

What the `mm` commands of one host do to the machines that run on it. A worker runs a guest, and the guest has
its address in its memory: `mm run` sets it, and a snapshot takes it along to every machine that is restored
from it or branched off.

The registry has the address that the last launch under a name has returned (`Sound.recorded`), and every guest
the one that was allocated by the `mm run` that it comes from (`Sound.lineage`). These are two different things
for a machine that has not been booted.
-/

namespace MicroMachines.Host.Machines

open MicroMachines.Lib MicroMachines.Boot MicroMachines.Net

/-! ## The host -/

/-- What is in the memory of a guest, and goes with its snapshots. -/
structure Guest where
  ip : Ipv4Addr
  /-- The `mm run` that it comes from, counted from the first. -/
  origin : Nat
  deriving DecidableEq, Repr

structure Worker where
  name : String
  pid : Nat
  tap : String
  /-- The address that its launch has returned. -/
  ip : Ipv4Addr
  /-- The commands that its launch has run. -/
  wired : List Net.Cmd
  /-- It was started by `mm run`, and not from a snapshot. -/
  booted : Bool
  guest : Guest
  /-- Its TAP is a port of the shared bridge. -/
  bridged : Bool
  alive : Bool
  deriving DecidableEq, Repr

structure Snapshot where
  machine : String
  id : String
  guest : Guest
  deriving DecidableEq, Repr

structure World where
  registry : Registry
  /-- All workers that have been started, the last one first. -/
  workers : List Worker
  snapshots : List Snapshot
  /-- The addresses that were allocated by each `mm run`. -/
  runs : List Ipv4Addr

def World.init : World := ⟨.empty, [], [], []⟩

/-! ## Commands that succeed -/

/-- Log the commands that are run. -/
def logs (op : HostOp) (_ : Bool) (cmds : List Net.Cmd) : List Net.Cmd :=
  match op with
  | .run cmd => cmds ++ [cmd]
  | _ => cmds

/-- A task that succeeds: the commands that it runs, and its result. -/
def performed {α : Type} (t : HostM α) (outcomes : List Bool) : Option (List Net.Cmd × α) :=
  match t.exec logs outcomes [] with
  | some (cmds, .ok a) => some (cmds, a)
  | _ => none

theorem performed_eq_some {α : Type} {t : HostM α} {outcomes : List Bool} {cmds : List Net.Cmd} {a : α} :
    performed t outcomes = some (cmds, a) ↔ t.exec logs outcomes [] = some (cmds, .ok a) := by
  unfold performed
  rcases t.exec logs outcomes [] with _ | ⟨l, e | b⟩ <;> simp

/-- A worker whose TAP is deleted is cut off. -/
def detach (op : HostOp) (ok : Bool) (gs : List Worker) : List Worker :=
  match op with
  | .run (.linkDel dev) =>
    if ok then gs.map (fun g => if g.tap = dev then { g with bridged := false } else g) else gs
  | _ => gs

inductive Command
  | run (env : HostEnv) (spec : LaunchSpec) (outcomes : List Bool)
  | snapshot (name id : String)
  /-- `mm snapshot rm`; `gc` removes several. -/
  | snapshotRm (name id : String)
  | stop (name : String)
  | rm (env : HostEnv) (name : String) (force : Bool) (outcomes : List Bool)
  | restore (env : HostEnv) (name id : String) (spec : RestoreSpec) (outcomes : List Bool)
  | branch (env : HostEnv) (name id : String) (spec : RestoreSpec) (outcomes : List Bool)
  /-- A process ends without a command. -/
  | exits (pid : Nat)

namespace World

variable (w : World)

/-- The last worker that was started under the name: it has the control socket of the machine. -/
def worker (name : String) : Option Worker := w.workers.find? (fun g => g.name = name)

/-- `request_snapshot`: the machine is recorded with a process, and its worker answers. -/
def answering (name : String) : Option Worker :=
  if w.registry.isRunning name then (w.worker name).filter (fun g => g.alive) else none

/-- `SnapshotStore::find`, in the jail of the machine. -/
def findSnapshot (name id : String) : Option Snapshot :=
  w.snapshots.find? (fun s => s.machine = name && s.id = id)

/-- The workers when a process has ended. -/
def kill (pid : Nat) : List Worker :=
  w.workers.map (fun g => if g.pid = pid then { g with alive := false } else g)

def runSpec (spec : LaunchSpec) : LaunchSpec := { spec with reservedIps := w.registry.ips }

def restoreSpec (spec : RestoreSpec) (cn : Option CloneNetConfig) : RestoreSpec :=
  { spec with reservedIps := w.registry.ips, cloneNet := cn }

/-- The worker of `mm run`. A machine in the foreground has ended when the command has. -/
def bootedWorker (spec : LaunchSpec) (cmds : List Net.Cmd) (out : LaunchOutcome) : Worker where
  name := spec.name
  pid := out.pid
  tap := out.tapName
  ip := out.ip
  wired := cmds
  booted := true
  guest := ⟨out.ip, w.runs.length⟩
  bridged := true
  alive := spec.detach

/-- The worker of a machine that comes from a snapshot. -/
def restoredWorker (guest : Guest) (spec : RestoreSpec) (cmds : List Net.Cmd) (out : LaunchOutcome) :
    Worker where
  name := spec.name
  pid := out.pid
  tap := out.tapName
  ip := out.ip
  wired := cmds
  booted := false
  guest := guest
  bridged := spec.cloneNet.isNone
  alive := true

/-- A machine with its record. -/
def launched (g : Worker) (r : MachineRecord) : World :=
  { w with registry := w.registry.put r, workers := g :: w.workers }

/-- Restore a guest. -/
def restored (env : HostEnv) (image : String) (guest : Guest) (spec : RestoreSpec) (outcomes : List Bool) :
    Option World :=
  (performed (restoreLaunch env spec) outcomes).map (fun res =>
    w.launched (restoredWorker guest spec res.1 res.2) (restoreRecord image spec res.2))

/-- Add a snapshot of a guest. Its directory is a new one. -/
def captured (name id : String) (guest : Guest) : Option World :=
  if (w.findSnapshot name id).isSome then none
  else some { w with snapshots := ⟨name, id, guest⟩ :: w.snapshots }

def step : Command → Option World
  | .run env spec outcomes =>
    if (w.registry.get spec.name).isSome then none
    else
      (performed (launch env (w.runSpec spec)) outcomes).map (fun res =>
        let record := runRecord (w.runSpec spec) res.2
        { w.launched (w.bootedWorker spec res.1 res.2) (if spec.detach then record else record.stopped) with
          runs := w.runs ++ [res.2.ip] })
  | .snapshot name id => (w.answering name).bind (fun g => w.captured name id g.guest)
  | .snapshotRm name id =>
    some { w with snapshots := w.snapshots.filter (fun s => !(s.machine = name && s.id = id)) }
  | .stop name =>
    (w.registry.get name).map (fun r =>
      if isTerminal r.state then w
      else
        { w with
          registry := w.registry.put r.stopped
          workers := r.pid.elim w.workers w.kill })
  | .rm env name force outcomes =>
    (w.registry.get name).bind (fun r =>
      if !isTerminal r.state && !force then none
      else
        ((cleanupHostResources env r).exec detach outcomes w.workers).map (fun res =>
          { w with registry := w.registry.delete name, workers := res.1 }))
  | .restore env name id spec outcomes =>
    if (w.registry.get spec.name).isSome then none
    else
      (w.findSnapshot name id).bind (fun s =>
        w.restored env ("restore:" ++ name ++ "/" ++ id) s.guest (w.restoreSpec spec none) outcomes)
  | .branch env name id spec outcomes =>
    if (w.registry.get spec.name).isSome then none
    else
      (w.registry.chooseClone name).bind (fun cn =>
        (w.answering name).bind (fun g =>
          (w.captured name id g.guest).bind (fun w' =>
            w'.restored env ("branch:" ++ name ++ "/" ++ id) g.guest (w.restoreSpec spec (some cn))
              outcomes)))
  | .exits pid => some { w with workers := w.kill pid }

/-- What a step can do. -/
inductive Step (w : World) : Command → World → Prop where
  | run {env : HostEnv} {spec : LaunchSpec} {outcomes : List Bool} {cmds : List Net.Cmd} {out : LaunchOutcome}
      {r : MachineRecord} (hfree : w.registry.get spec.name = none)
      (hlaunch : performed (launch env (w.runSpec spec)) outcomes = some (cmds, out))
      (hr : r = runRecord (w.runSpec spec) out ∨ r = (runRecord (w.runSpec spec) out).stopped) :
      Step w (.run env spec outcomes)
        { w.launched (w.bootedWorker spec cmds out) r with runs := w.runs ++ [out.ip] }
  | snapshot {name id : String} {g : Worker} (hg : w.answering name = some g) :
      Step w (.snapshot name id) { w with snapshots := ⟨name, id, g.guest⟩ :: w.snapshots }
  | snapshotRm {name id : String} :
      Step w (.snapshotRm name id)
        { w with snapshots := w.snapshots.filter (fun s => !(s.machine = name && s.id = id)) }
  | stopped {name : String} : Step w (.stop name) w
  | stop {name : String} {r : MachineRecord} (hr : w.registry.get name = some r) :
      Step w (.stop name)
        { w with registry := w.registry.put r.stopped, workers := r.pid.elim w.workers w.kill }
  | rm {env : HostEnv} {name : String} {force : Bool} {outcomes : List Bool} {r : MachineRecord}
      {gs : List Worker} {e : Except HostError Unit} (hr : w.registry.get name = some r)
      (hcleanup : (cleanupHostResources env r).exec detach outcomes w.workers = some (gs, e)) :
      Step w (.rm env name force outcomes) { w with registry := w.registry.delete name, workers := gs }
  | restore {env : HostEnv} {name id : String} {spec : RestoreSpec} {outcomes : List Bool} {s : Snapshot}
      {cmds : List Net.Cmd} {out : LaunchOutcome} (hfree : w.registry.get spec.name = none)
      (hs : w.findSnapshot name id = some s)
      (hlaunch : performed (restoreLaunch env (w.restoreSpec spec none)) outcomes = some (cmds, out)) :
      Step w (.restore env name id spec outcomes)
        (w.launched (restoredWorker s.guest (w.restoreSpec spec none) cmds out)
          (restoreRecord ("restore:" ++ name ++ "/" ++ id) (w.restoreSpec spec none) out))
  | branch {env : HostEnv} {name id : String} {spec : RestoreSpec} {outcomes : List Bool}
      {cn : CloneNetConfig} {g : Worker} {cmds : List Net.Cmd} {out : LaunchOutcome}
      (hfree : w.registry.get spec.name = none) (hcn : w.registry.chooseClone name = some cn)
      (hg : w.answering name = some g)
      (hlaunch : performed (restoreLaunch env (w.restoreSpec spec (some cn))) outcomes = some (cmds, out)) :
      Step w (.branch env name id spec outcomes)
        ({ w with snapshots := ⟨name, id, g.guest⟩ :: w.snapshots }.launched
          (restoredWorker g.guest (w.restoreSpec spec (some cn)) cmds out)
          (restoreRecord ("branch:" ++ name ++ "/" ++ id) (w.restoreSpec spec (some cn)) out))
  | exits {pid : Nat} : Step w (.exits pid) { w with workers := w.kill pid }

variable {w} {w' : World}

theorem captured_eq_some {name id : String} {guest : Guest} (h : w.captured name id guest = some w') :
    w' = { w with snapshots := ⟨name, id, guest⟩ :: w.snapshots } := by
  unfold captured at h
  split_ifs at h
  exact (Option.some.inj h).symm

theorem step_cases {c : Command} (h : w.step c = some w') : Step w c w' := by
  cases c with
  | run env spec outcomes =>
    simp only [step] at h
    split_ifs at h with hsome hdetach
    · obtain ⟨⟨cmds, out⟩, hlaunch, rfl⟩ := Option.map_eq_some_iff.mp h
      exact .run (by simpa using hsome) hlaunch (Or.inl rfl)
    · obtain ⟨⟨cmds, out⟩, hlaunch, rfl⟩ := Option.map_eq_some_iff.mp h
      exact .run (by simpa using hsome) hlaunch (Or.inr rfl)
  | snapshot name id =>
    obtain ⟨g, hg, hcaptured⟩ := Option.bind_eq_some_iff.mp h
    obtain rfl := captured_eq_some hcaptured
    exact .snapshot hg
  | snapshotRm name id =>
    cases h
    exact .snapshotRm
  | stop name =>
    obtain ⟨r, hr, hstop⟩ := Option.map_eq_some_iff.mp h
    split_ifs at hstop
    · obtain rfl := hstop
      exact .stopped
    · obtain rfl := hstop
      exact .stop hr
  | rm env name force outcomes =>
    obtain ⟨r, hr, hrm⟩ := Option.bind_eq_some_iff.mp h
    split_ifs at hrm
    obtain ⟨⟨gs, e⟩, hcleanup, rfl⟩ := Option.map_eq_some_iff.mp hrm
    exact .rm hr hcleanup
  | restore env name id spec outcomes =>
    simp only [step] at h
    split_ifs at h with hsome
    obtain ⟨s, hs, hrestored⟩ := Option.bind_eq_some_iff.mp h
    obtain ⟨⟨cmds, out⟩, hlaunch, rfl⟩ := Option.map_eq_some_iff.mp hrestored
    exact .restore (by simpa using hsome) hs hlaunch
  | branch env name id spec outcomes =>
    simp only [step] at h
    split_ifs at h with hsome
    obtain ⟨cn, hcn, hrest⟩ := Option.bind_eq_some_iff.mp h
    obtain ⟨g, hg, hrest⟩ := Option.bind_eq_some_iff.mp hrest
    obtain ⟨w₁, hcaptured, hrestored⟩ := Option.bind_eq_some_iff.mp hrest
    obtain rfl := captured_eq_some hcaptured
    obtain ⟨⟨cmds, out⟩, hlaunch, rfl⟩ := Option.map_eq_some_iff.mp hrestored
    exact .branch (by simpa using hsome) hcn hg hlaunch
  | exits pid =>
    cases h
    exact .exits

/-- A worker that answers is the last of its name. -/
theorem worker_of_answering {name : String} {g : Worker} (h : w.answering name = some g) :
    w.worker name = some g ∧ g.alive = true := by
  unfold answering at h
  split_ifs at h
  exact Option.filter_eq_some_iff.mp h

theorem mem_of_worker {name : String} {g : Worker} (h : w.worker name = some g) : g ∈ w.workers :=
  List.mem_of_find?_eq_some h

end World

/-! ## What stays the same -/

/-- What does not change while a worker lives, and when it ends or is cut off. -/
def Worker.core (g : Worker) : Worker := { g with bridged := false, alive := false }

theorem core_kill (w : World) (pid : Nat) :
    (w.kill pid).map Worker.core = w.workers.map Worker.core := by
  unfold World.kill
  rw [List.map_map]
  apply List.map_congr_left
  intro g _
  by_cases hpid : g.pid = pid
  · simp [hpid, Worker.core]
  · simp [hpid]

theorem core_detach (op : HostOp) (ok : Bool) (gs : List Worker) :
    (detach op ok gs).map Worker.core = gs.map Worker.core := by
  unfold detach
  split
  · split_ifs
    · rw [List.map_map]
      apply List.map_congr_left
      intro g _
      by_cases htap : g.tap = ‹String›
      · simp [htap, Worker.core]
      · simp [htap]
    · rfl
  · rfl

/-- What every operation keeps. -/
theorem exec_detach {α : Type} {I : List Worker → Prop} (hkeeps : ∀ op ok gs, I gs → I (detach op ok gs))
    {t : HostM α} {outcomes : List Bool} {gs gs' : List Worker} {e : Except HostError α} (hgs : I gs)
    (hexec : t.exec detach outcomes gs = some (gs', e)) : I gs' := by
  have havoids : ∀ s : Script HostOp (Except HostError α), s.Avoids (fun _ => false) := by
    intro s
    induction s with
    | done r => exact trivial
    | op o k ih => exact ⟨rfl, ih⟩
  exact Script.Avoids.exec (fun op _ ok gs => hkeeps op ok gs) (havoids t) hgs hexec

/-- The registry has the addresses that were returned, and the guests those that were allocated. -/
structure Sound (w : World) : Prop where
  recorded : ∀ r ∈ w.registry.records, ∃ g, w.worker r.name = some g ∧ r.ip = some g.ip
  lineage : ∀ g ∈ w.workers, w.runs[g.guest.origin]? = some g.guest.ip
  kept : ∀ s ∈ w.snapshots, w.runs[s.guest.origin]? = some s.guest.ip
  booted : ∀ g ∈ w.workers, g.booted = true → g.ip = g.guest.ip

namespace Sound

variable {w : World}

theorem init : Sound World.init where
  recorded := List.forall_mem_nil _
  lineage := List.forall_mem_nil _
  kept := List.forall_mem_nil _
  booted := List.forall_mem_nil _

/-- A new machine, and perhaps a new `mm run`. -/
theorem launched (h : Sound w) {g : Worker} {r : MachineRecord} {runs : List Ipv4Addr}
    (hname : r.name = g.name) (hip : r.ip = some g.ip) (hruns : w.runs <+: runs)
    (hlineage : runs[g.guest.origin]? = some g.guest.ip) (hbooted : g.booted = true → g.ip = g.guest.ip) :
    Sound { w.launched g r with runs := runs } := by
  have hmono : ∀ {i : Nat} {a : Ipv4Addr}, w.runs[i]? = some a → runs[i]? = some a := by
    obtain ⟨rest, rfl⟩ := hruns
    intro i a hi
    rw [List.getElem?_append_left (List.getElem?_eq_some_iff.mp hi).1]
    exact hi
  constructor
  · intro r' hr'
    show ∃ g', (g :: w.workers).find? _ = some g' ∧ _
    rcases Registry.mem_put.mp hr' with ⟨hmem, hne⟩ | rfl
    · rw [List.find?_cons_of_neg (by simpa [hname] using Ne.symm hne)]
      exact h.recorded r' hmem
    · rw [List.find?_cons_of_pos (by simp [hname])]
      exact ⟨g, rfl, hip⟩
  · intro g' hg'
    rcases List.mem_cons.mp hg' with rfl | hmem
    · exact hlineage
    · exact hmono (h.lineage g' hmem)
  · exact fun s hs => hmono (h.kept s hs)
  · intro g' hg'
    rcases List.mem_cons.mp hg' with rfl | hmem
    · exact hbooted
    · exact h.booted g' hmem

/-- Workers that have ended or are cut off, and records that are gone or have kept their address. -/
theorem of_core (h : Sound w) {gs : List Worker} {s : Registry}
    (hcore : gs.map Worker.core = w.workers.map Worker.core)
    (hrecords : ∀ r' ∈ s.records, ∃ r ∈ w.registry.records, r'.name = r.name ∧ r'.ip = r.ip) :
    Sound { w with registry := s, workers := gs } := by
  have hmem : ∀ g ∈ gs, ∃ g₀ ∈ w.workers, g₀.core = g.core := by
    intro g hg
    have : g.core ∈ w.workers.map Worker.core := hcore ▸ List.mem_map_of_mem hg
    exact List.mem_map.mp this
  have hguest : ∀ {g g₀ : Worker}, g₀.core = g.core → g₀.guest = g.guest ∧ g₀.ip = g.ip ∧
      g₀.booted = g.booted := by
    intro g g₀ heq
    unfold Worker.core at heq
    injection heq with _ _ _ hip _ hbooted hguest
    exact ⟨hguest, hip, hbooted⟩
  -- the last worker of a name is at the same place
  have hfind : ∀ (name : String) (l : List Worker),
      (l.map Worker.core).find? (fun g => g.name = name) = (l.find? (fun g => g.name = name)).map Worker.core :=
    fun name l => List.find?_map
  constructor
  · intro r' hr'
    obtain ⟨r, hr, hname, hip⟩ := hrecords r' hr'
    obtain ⟨g, hg, hgip⟩ := h.recorded r hr
    have hcores := hfind r.name gs
    rw [hcore, hfind r.name w.workers] at hcores
    rw [World.worker] at hg
    rw [hg] at hcores
    obtain ⟨g', hg', heq⟩ := Option.map_eq_some_iff.mp hcores.symm
    refine ⟨g', ?_, ?_⟩
    · rw [hname]
      exact hg'
    · rw [hip, hgip, (hguest heq).2.1]
  · intro g hg
    obtain ⟨g₀, hg₀, heq⟩ := hmem g hg
    rw [← (hguest heq).1]
    exact h.lineage g₀ hg₀
  · exact h.kept
  · intro g hg
    obtain ⟨g₀, hg₀, heq⟩ := hmem g hg
    obtain ⟨hgu, hip, hbooted⟩ := hguest heq
    rw [← hgu, ← hip, ← hbooted]
    exact h.booted g₀ hg₀

/-- A snapshot of a guest. -/
theorem captured (h : Sound w) {name id : String} {g : Worker} (hg : g ∈ w.workers) :
    Sound { w with snapshots := ⟨name, id, g.guest⟩ :: w.snapshots } := by
  refine ⟨h.recorded, h.lineage, ?_, h.booted⟩
  intro s hs
  rcases List.mem_cons.mp hs with rfl | hmem
  · exact h.lineage g hg
  · exact h.kept s hmem

/-- **Every step.** -/
theorem step (h : Sound w) {w' : World} {c : Command} (hstep : w.Step c w') : Sound w' := by
  cases hstep with
  | @run env spec outcomes cmds out r hfree hlaunch hr =>
    have hname : r.name = spec.name := by
      rcases hr with rfl | rfl <;> rfl
    have hip : r.ip = some out.ip := by
      rcases hr with rfl | rfl <;> rfl
    refine h.launched hname hip (List.prefix_append _ _) ?_ (fun _ => rfl)
    exact List.getElem?_concat_length
  | snapshot hg => exact h.captured (World.mem_of_worker (World.worker_of_answering hg).1)
  | snapshotRm =>
    exact ⟨h.recorded, h.lineage, fun s hs => h.kept s (List.mem_of_mem_filter hs), h.booted⟩
  | stopped => exact h
  | @stop name r hr =>
    refine h.of_core ?_ ?_
    · cases r.pid with
      | none => rfl
      | some pid => exact core_kill w pid
    · intro r' hr'
      rcases Registry.mem_put.mp hr' with ⟨hmem, -⟩ | rfl
      · exact ⟨r', hmem, rfl, rfl⟩
      · exact ⟨r, (Registry.mem_of_get hr).1, rfl, rfl⟩
  | @rm env name force outcomes r gs e hr hcleanup =>
    refine h.of_core ?_ ?_
    · exact exec_detach (I := fun gs => gs.map Worker.core = w.workers.map Worker.core)
        (fun op ok gs hgs => (core_detach op ok gs).trans hgs) rfl hcleanup
    · exact fun r' hr' => ⟨r', (Registry.mem_delete.mp hr').1, rfl, rfl⟩
  | restore hfree hs hlaunch =>
    exact h.launched rfl rfl (List.prefix_refl _) (h.kept _ (List.mem_of_find?_eq_some hs))
      (fun hb => absurd hb Bool.false_ne_true)
  | branch hfree hcn hg hlaunch =>
    have hmem := World.mem_of_worker (World.worker_of_answering hg).1
    have hlineage := h.lineage _ hmem
    exact (h.captured hmem).launched rfl rfl (List.prefix_refl _) hlineage
      (fun hb => absurd hb Bool.false_ne_true)
  | @exits pid => exact h.of_core (core_kill w pid) (fun r hr => ⟨r, hr, rfl, rfl⟩)

/-- **Every run.** -/
theorem of_run {cs : List Command} {w : World} (hrun : run World.step .init cs = some w) : Sound w :=
  run_invariant_all Sound (fun _ _ _ h hstep => h.step (World.step_cases hstep)) cs _ w .init hrun

end Sound

end MicroMachines.Host.Machines
