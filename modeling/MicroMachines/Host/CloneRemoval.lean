import MicroMachines.Host.CloneFailure
import MicroMachines.Host.Registry

set_option autoImplicit false

/-! # Removing a clone

`mm rm` takes down the network of a clone by a plan that it makes from the record of the clone and from the
route of the day. All of that is what `mm branch` has used, but the interface of the masquerade rule: this is
detected anew, since no record has one.

So the namespace, the pair of links and the route go, whatever happens in between, and no other clone's. The
rule goes if and only if the default route is through the same interface as at the branch
(`clone_removal_iff`).
-/

namespace MicroMachines.Host

open MicroMachines.Lib MicroMachines.Boot MicroMachines.Net

/-! ## Commands that succeed -/

/-- The registry and the network of a host, and the interface of its default route. -/
structure HostState where
  registry : Registry
  net : HostNet
  egress : Option String

/-- A host without machines. -/
def HostState.init (net : HostNet) (egress : Option String) : HostState := ⟨.empty, net, egress⟩

/-- Perform a task that succeeds; its steps have the given outcomes. -/
def perform {α : Type} (t : HostM α) (outcomes : List Bool) (n : HostNet) : Option (HostNet × α) :=
  if t.Follows netEffect NetAllows outcomes n then
    match t.exec netEffect outcomes n with
    | some (n', .ok a) => some (n', a)
    | _ => none
  else none

variable {outcomes : List Bool} {n n' : HostNet} {plan : CloneNetPlan} {name : String}
  {plan' : CloneNetPlan} {name' : String} {i j : Nat} {ip ip' : Ipv4Addr} {w : HostState}

theorem perform_eq_some {α : Type} {t : HostM α} {a : α} : perform t outcomes n = some (n', a) ↔
      t.Follows netEffect NetAllows outcomes n ∧ t.exec netEffect outcomes n = some (n', .ok a) := by
  unfold perform
  split_ifs with hfollows
  · rcases t.exec netEffect outcomes n with _ | ⟨m, e | b⟩ <;> simp [hfollows]
  · simp [hfollows]

/-- The plan that `teardown_clone_net` of `mm-host` makes. -/
def teardownPlan (env : HostEnv) (machine : String) (index : Nat) (cloneIp : Ipv4Addr)
    (upstream : Option String) : Option CloneNetPlan :=
  CloneNetPlan.new index machine cloneIp cloneIp (egressOr (upstream.or env.egress))
    ("mmtap" ++ toString index)

/-- `cleanup_host_resources`, as far as the network goes. Errors are not passed on. A TAP is deleted only if
there is one, as the command for it does nothing else. -/
def cleanupHostResources (env : HostEnv) (r : MachineRecord) : HostM Unit :=
  match r.cloneIndex with
  | some index =>
    match r.ip with
    | some cloneIp =>
      match teardownPlan env r.name index cloneIp r.cloneUpstream with
      | some plan => teardownCloneNet plan
      | none => pure ()
    | none => pure ()
  | none =>
    match r.tap with
    | some tap => Task.act (.run (.linkDel tap))
    | none => pure ()

inductive Command
  | run (env : HostEnv) (spec : LaunchSpec) (outcomes : List Bool)
  | restore (env : HostEnv) (image : String) (spec : RestoreSpec) (outcomes : List Bool)
  | branch (env : HostEnv) (source image : String) (spec : RestoreSpec) (outcomes : List Bool)
  | stop (name : String)
  | rm (env : HostEnv) (name : String) (force : Bool) (outcomes : List Bool)
  /-- The default route changes. -/
  | reroute (egress : Option String)

namespace HostState

variable (w : HostState)

/-- What the host answers: the interface is the one of the day. -/
def envOf (env : HostEnv) : HostEnv := { env with egress := w.egress }

/-- The network of a new clone of `source`, which has to be running. -/
def cloneNet (source : String) : Option CloneNetConfig :=
  if w.registry.isRunning source then w.registry.chooseClone source else none

def runSpec (spec : LaunchSpec) : LaunchSpec := { spec with reservedIps := w.registry.ips }

def restoreSpec (spec : RestoreSpec) (cn : Option CloneNetConfig) : RestoreSpec :=
  { spec with reservedIps := w.registry.ips, cloneNet := cn }

/-- A restored machine is recorded. -/
def restored (env : HostEnv) (image : String) (spec : RestoreSpec) (outcomes : List Bool) :
    Option HostState :=
  (perform (restoreLaunch (w.envOf env) spec) outcomes w.net).map (fun r =>
    { w with net := r.1, registry := w.registry.put (restoreRecord image spec r.2) })

def step : Command → Option HostState
  | .run env spec outcomes =>
    if (w.registry.get spec.name).isSome then none
    else
      (perform (launch (w.envOf env) (w.runSpec spec)) outcomes w.net).map (fun r =>
        let record := runRecord (w.runSpec spec) r.2
        { w with
          net := r.1
          registry := w.registry.put (if spec.detach then record else record.stopped) })
  | .restore env image spec outcomes =>
    if (w.registry.get spec.name).isSome then none
    else w.restored env image (w.restoreSpec spec none) outcomes
  | .branch env source image spec outcomes =>
    if (w.registry.get spec.name).isSome then none
    else
      match w.cloneNet source with
      | some cn => w.restored env image (w.restoreSpec spec (some cn)) outcomes
      | none => none
  | .stop name =>
    match w.registry.get name with
    | some r => if isTerminal r.state then some w else some { w with registry := w.registry.put r.stopped }
    | none => none
  | .rm env name force outcomes =>
    match w.registry.get name with
    | some r =>
      if !isTerminal r.state && !force then none
      else
        (perform (cleanupHostResources (w.envOf env) r) outcomes w.net).map (fun res =>
          { w with net := res.1, registry := w.registry.delete name })
    | none => none
  | .reroute egress => some { w with egress := egress }

/-- What a step can do. -/
inductive Step (w : HostState) : Command → HostState → Prop where
  | run {env : HostEnv} {spec : LaunchSpec} {outcomes : List Bool} {n : HostNet} {out : LaunchOutcome}
      {r : MachineRecord} (hfree : w.registry.get spec.name = none)
      (hlaunch : perform (launch (w.envOf env) (w.runSpec spec)) outcomes w.net = some (n, out))
      (hr : r = runRecord (w.runSpec spec) out ∨ r = (runRecord (w.runSpec spec) out).stopped) :
      Step w (.run env spec outcomes) { w with net := n, registry := w.registry.put r }
  | restore {env : HostEnv} {image : String} {spec : RestoreSpec} {outcomes : List Bool} {n : HostNet}
      {out : LaunchOutcome} (hfree : w.registry.get spec.name = none)
      (hlaunch : perform (restoreLaunch (w.envOf env) (w.restoreSpec spec none)) outcomes w.net =
        some (n, out)) :
      Step w (.restore env image spec outcomes)
        { w with net := n, registry := w.registry.put (restoreRecord image (w.restoreSpec spec none) out) }
  | branch {env : HostEnv} {source image : String} {spec : RestoreSpec} {outcomes : List Bool} {n : HostNet}
      {out : LaunchOutcome} {cn : CloneNetConfig} (hfree : w.registry.get spec.name = none)
      (hcn : w.cloneNet source = some cn)
      (hlaunch : perform (restoreLaunch (w.envOf env) (w.restoreSpec spec (some cn))) outcomes w.net =
        some (n, out)) :
      Step w (.branch env source image spec outcomes)
        { w with
          net := n
          registry := w.registry.put (restoreRecord image (w.restoreSpec spec (some cn)) out) }
  | stopped {name : String} : Step w (.stop name) w
  | stop {name : String} {r : MachineRecord} (hr : w.registry.get name = some r) :
      Step w (.stop name) { w with registry := w.registry.put r.stopped }
  | rm {env : HostEnv} {name : String} {force : Bool} {outcomes : List Bool} {n : HostNet}
      {r : MachineRecord} (hr : w.registry.get name = some r)
      (hcleanup : perform (cleanupHostResources (w.envOf env) r) outcomes w.net = some (n, ())) :
      Step w (.rm env name force outcomes) { w with net := n, registry := w.registry.delete name }
  | reroute {egress : Option String} : Step w (.reroute egress) { w with egress := egress }

variable {w} {w' : HostState}

theorem step_cases {c : Command} (h : w.step c = some w') : Step w c w' := by
  cases c with
  | run env spec outcomes =>
    simp only [step] at h
    split_ifs at h with hsome hdetach
    · obtain ⟨⟨n, out⟩, hperform, rfl⟩ := Option.map_eq_some_iff.mp h
      exact .run (by simpa using hsome) hperform (Or.inl rfl)
    · obtain ⟨⟨n, out⟩, hperform, rfl⟩ := Option.map_eq_some_iff.mp h
      exact .run (by simpa using hsome) hperform (Or.inr rfl)
  | restore env image spec outcomes =>
    simp only [step] at h
    split_ifs at h with hsome
    obtain ⟨⟨n, out⟩, hperform, rfl⟩ := Option.map_eq_some_iff.mp h
    exact .restore (by simpa using hsome) hperform
  | branch env source image spec outcomes =>
    simp only [step] at h
    split_ifs at h with hsome
    cases hcn : w.cloneNet source with
    | none =>
      rw [hcn] at h
      cases h
    | some cn =>
      rw [hcn] at h
      obtain ⟨⟨n, out⟩, hperform, rfl⟩ := Option.map_eq_some_iff.mp h
      exact .branch (by simpa using hsome) hcn hperform
  | stop name =>
    cases hr : w.registry.get name with
    | none =>
      simp only [step, hr] at h
      cases h
    | some r =>
      simp only [step, hr] at h
      split_ifs at h
      · cases h
        exact .stopped
      · cases h
        exact .stop hr
  | rm env name force outcomes =>
    cases hr : w.registry.get name with
    | none =>
      simp only [step, hr] at h
      cases h
    | some r =>
      simp only [step, hr] at h
      split_ifs at h
      obtain ⟨⟨n, u⟩, hperform, rfl⟩ := Option.map_eq_some_iff.mp h
      exact .rm hr hperform
  | reroute egress =>
    cases h
    exact .reroute

theorem cloneNet_eq_some {source : String} {cn : CloneNetConfig} (h : w.cloneNet source = some cn) :
    cn.index = freeIndex w.registry.indices ∧ freeAddress w.registry.ips = some cn.cloneIp ∧
      cn.upstream = none := by
  unfold cloneNet at h
  split_ifs at h
  obtain ⟨-, hip, hindex, hupstream⟩ := Registry.chooseClone_eq_some h
  exact ⟨hindex, hip, hupstream⟩

end HostState

/-! ## The records -/

/-- The records are distinct; a TAP on the bridge is named as such, and no interface is recorded. -/
structure Orderly (s : Registry) : Prop where
  distinct : s.Distinct
  tap : ∀ r ∈ s.records, r.cloneIndex = none → ∀ t, r.tap = some t → ∃ name, t = "mm-" ++ name
  upstream : ∀ r ∈ s.records, r.cloneUpstream = none

namespace Orderly

variable {s : Registry} {r : MachineRecord}

theorem empty : Orderly Registry.empty :=
  ⟨.empty, fun _ hr => absurd hr List.not_mem_nil, fun _ hr => absurd hr List.not_mem_nil⟩

theorem put (h : Orderly s) (hdistinct : (s.put r).Distinct)
    (htap : r.cloneIndex = none → ∀ t, r.tap = some t → ∃ name, t = "mm-" ++ name)
    (hupstream : r.cloneUpstream = none) : Orderly (s.put r) := by
  refine ⟨hdistinct, fun r' hr' => ?_, fun r' hr' => ?_⟩
  · rcases Registry.mem_put.mp hr' with ⟨hmem, -⟩ | rfl
    · exact h.tap r' hmem
    · exact htap
  · rcases Registry.mem_put.mp hr' with ⟨hmem, -⟩ | rfl
    · exact h.upstream r' hmem
    · exact hupstream

/-- A new machine on the bridge. -/
theorem put_bridged (h : Orderly s) {ip : Ipv4Addr} (hip : r.ip = some ip)
    (hfree : freeAddress s.ips = some ip) (hindex : r.cloneIndex = none) {name : String}
    (htap : r.tap = some ("mm-" ++ name)) (hupstream : r.cloneUpstream = none) : Orderly (s.put r) := by
  refine h.put (h.distinct.put_fresh ?_ ?_) ?_ hupstream
  · intro a ha
    obtain rfl := Option.some.inj (hip.symm.trans ha)
    exact freeAddress_fresh hfree
  · intro i hi
    rw [hindex] at hi
    cases hi
  · exact fun _ t ht => ⟨name, Option.some.inj (ht.symm.trans htap)⟩

/-- A new clone. -/
theorem put_clone (h : Orderly s) {ip : Ipv4Addr} (hip : r.ip = some ip)
    (hfree : freeAddress s.ips = some ip) (hindex : r.cloneIndex = some (freeIndex s.indices))
    (hupstream : r.cloneUpstream = none) : Orderly (s.put r) := by
  refine h.put (h.distinct.put_fresh ?_ ?_) ?_ hupstream
  · intro a ha
    obtain rfl := Option.some.inj (hip.symm.trans ha)
    exact freeAddress_fresh hfree
  · intro i hi
    obtain rfl := Option.some.inj (hindex.symm.trans hi)
    exact freeIndex_not_mem s.indices
  · intro hnone
    rw [hindex] at hnone
    cases hnone

theorem stopped (h : Orderly s) (hr : r ∈ s.records) : Orderly (s.put r.stopped) :=
  h.put (h.distinct.put_stopped hr) (h.tap r hr) (h.upstream r hr)

theorem delete (h : Orderly s) (name : String) : Orderly (s.delete name) :=
  ⟨h.distinct.delete name, fun r hr => h.tap r (Registry.mem_delete.mp hr).1,
    fun r hr => h.upstream r (Registry.mem_delete.mp hr).1⟩

end Orderly

/-- What a launch does to the network, if it is one on the bridge: it runs no command of its own. -/
def HostOp.isRun : HostOp → Bool
  | .run _ => true
  | _ => false

section Avoids

theorem avoids_prepareJail (stateRoot : Path) (name : String) (kernel rootfs : Path) :
    (prepareJail stateRoot name kernel rootfs).Avoids HostOp.isRun :=
  Task.avoids_bind (avoids_call rfl _) fun _ => Task.avoids_bind (avoids_call rfl _) fun _ =>
    Task.avoids_bind (avoids_call rfl _) fun _ => avoids_call rfl _

theorem avoids_prepareSnapshots (stateRoot : Path) (name : String) :
    (prepareSnapshots stateRoot name).Avoids HostOp.isRun :=
  Task.avoids_bind (avoids_call rfl _) fun _ => avoids_call rfl _

theorem avoids_startWorker (env : HostEnv) (stateRoot : Path) (name : String) (ip : Ipv4Addr)
    (tapName : String) (cfg : VmConfig) (detach : Bool) (restoreDir : Option Path) :
    (startWorker env stateRoot name ip tapName cfg detach restoreDir).Avoids HostOp.isRun :=
  Task.avoids_ite Task.avoids_fail <|
    Task.avoids_bind (avoids_call rfl _) fun _ => Task.avoids_bind (avoids_call rfl _) fun _ =>
      Task.avoids_bind (avoids_call rfl _) fun _ => Task.avoids_bind (avoids_call rfl _) fun _ =>
        Task.avoids_pure

theorem avoids_launch (env : HostEnv) (spec : LaunchSpec) : (launch env spec).Avoids HostOp.isRun := by
  refine Task.avoids_bind (avoids_call rfl _) fun _ => ?_
  refine Task.avoids_bind (avoids_bridgeNetwork _ _ _ rfl) fun net => ?_
  refine Task.avoids_bind (avoids_call rfl _) fun _ => ?_
  refine Task.avoids_bind (avoids_prepareJail _ _ _ _) fun _ => ?_
  refine Task.avoids_bind (avoids_prepareSnapshots _ _) fun _ => ?_
  refine Task.avoids_bind (avoids_call rfl _) fun _ => ?_
  exact Task.avoids_ite (avoids_startWorker _ _ _ _ _ _ _ _) <|
    Task.avoids_bind (avoids_call rfl _) fun _ => avoids_startWorker _ _ _ _ _ _ _ _

theorem avoids_restoreMachine (env : HostEnv) (spec : RestoreSpec) (net : Attached) :
    (restoreMachine env spec net).Avoids HostOp.isRun := by
  have hfile : ∀ file, (do
      call (.linkOrCopy (spec.snapshotDir ++ [file]) (jailRestore spec.stateRoot spec.name ++ [file])) "copying"
      call (.chownToWorker (jailRestore spec.stateRoot spec.name ++ [file])) "chown").Avoids HostOp.isRun :=
    fun _ => Task.avoids_bind (avoids_call rfl _) fun _ => avoids_call rfl _
  refine Task.avoids_bind (avoids_call rfl _) fun _ => ?_
  refine Task.avoids_bind (avoids_prepareJail _ _ _ _) fun _ => ?_
  refine Task.avoids_bind (avoids_call rfl _) fun _ => ?_
  refine Task.avoids_bind (Task.avoids_forEach hfile _) fun _ => ?_
  refine Task.avoids_bind (avoids_call rfl _) fun _ => ?_
  refine Task.avoids_bind (avoids_prepareSnapshots _ _) fun _ => ?_
  exact avoids_startWorker _ _ _ _ _ _ _ _

/-- A restored machine on the bridge. -/
theorem avoids_restoreLaunch (env : HostEnv) {spec : RestoreSpec} (h : spec.cloneNet = none) :
    (restoreLaunch env spec).Avoids HostOp.isRun := by
  refine Task.avoids_bind ?_ fun _ => avoids_restoreMachine _ _ _
  unfold restoreNetwork
  rw [h]
  exact Task.avoids_bind (avoids_bridgeNetwork _ _ _ rfl) fun _ => Task.avoids_pure

end Avoids

/-- Machines on the bridge do nothing to a clone. -/
theorem standing_netEffect {op : HostOp} (h : op.isRun = false) (done : Bool)
    (n : HostNet) (hn : Standing plan n) : Standing plan (netEffect op done n) := by
  cases done with
  | false => exact hn
  | true =>
    cases op with
    | run cmd => cases h
    | ensureBridge name gateway len | createTap name bridge => exact hn.addLink (Option.some_ne_none _).symm
    | enableNat subnet egress =>
      show Standing plan (if subnetRule egress ∈ n.rules then n else n.addRule (subnetRule egress))
      split_ifs
      · exact hn
      · exact hn.addRule _
    | _ => exact hn

theorem standing_perform {α : Type} {t : HostM α}
    {a : α} (ht : t.Avoids HostOp.isRun) (h : Standing plan n)
    (hperform : perform t outcomes n = some (n', a)) : Standing plan n' :=
  Script.Avoids.exec (fun _ => standing_netEffect) ht h (perform_eq_some.mp hperform).2

/-! ## A clone between its branch and its removal -/

/-- The plan of a clone with this name. -/
structure PlanOf (plan : CloneNetPlan) (name : String) (index : Nat) (ip : Ipv4Addr) : Prop where
  slot : VethLink.forIndex index = some plan.link
  netns : plan.netns = netnsName name
  hostVeth : plan.hostVeth = hostVethName index
  cloneIp : plan.cloneIp = ip

theorem planOf_new {index : Nat} {internalIp cloneIp : Ipv4Addr} {upstream tap : String}
    (h : CloneNetPlan.new index name internalIp cloneIp upstream tap = some plan) :
    PlanOf plan name index cloneIp ∧ plan.upstream = upstream := by
  obtain ⟨link, hlink, rfl⟩ := Option.map_eq_some_iff.mp h
  exact ⟨⟨hlink, rfl, rfl, rfl⟩, rfl⟩

theorem PlanOf.netns_ne (h : PlanOf plan name i ip) (h' : PlanOf plan' name' j ip') (hne : name' ≠ name) :
    plan'.netns ≠ plan.netns := by
  rw [h.netns, h'.netns]
  exact fun heq => hne (netnsName_inj heq)

theorem PlanOf.hostVeth_ne (h : PlanOf plan name i ip) (h' : PlanOf plan' name' j ip') (hne : j ≠ i) :
    plan'.hostVeth ≠ plan.hostVeth := by
  rw [h.hostVeth, h'.hostVeth]
  exact fun heq => hne (hostVethName_inj heq)

/-- Rules of different slots are different. -/
theorem PlanOf.rule_ne (h : PlanOf plan name i ip) (h' : PlanOf plan' name' j ip')
    (hne : j ≠ i) : plan'.rule ≠ plan.rule := by
  intro heq
  exact hne (linkNet_inj h'.slot h.slot (congrArg MasqRule.source heq))

/-- The clone is recorded, and its network stands. -/
structure Kept (plan : CloneNetPlan) (name : String) (w : HostState) : Prop where
  orderly : Orderly w.registry
  standing : Standing plan w.net
  recorded : ∃ r i, w.registry.get name = some r ∧ r.ip = some plan.cloneIp ∧ r.cloneIndex = some i ∧
    PlanOf plan name i plan.cloneIp

theorem tap_ne_hostVethName (name : String) (i : Nat) : "mm-" ++ name ≠ hostVethName i := by
  intro heq
  have hchars := congrArg String.toList heq
  simp [hostVethName] at hchars

/-- A branch that succeeds has carried out a plan for the slot and the address that were chosen. -/
theorem HostState.built_of_branch {env : HostEnv} {source : String} {spec : RestoreSpec}
    {out : LaunchOutcome} {cn : CloneNetConfig} (hcn : w.cloneNet source = some cn)
    (hlaunch : perform (restoreLaunch (w.envOf env) (w.restoreSpec spec (some cn))) outcomes w.net =
      some (n, out)) :
    ∃ plan, clonePlan (w.envOf env) spec.name cn = some plan ∧ Built plan w.net n ∧
      PlanOf plan spec.name (freeIndex w.registry.indices) cn.cloneIp ∧
      plan.upstream = egressOr w.egress ∧ out.ip = cn.cloneIp := by
  obtain ⟨hfollows, hexec⟩ := perform_eq_some.mp hlaunch
  obtain ⟨hindex, -, hupstream⟩ := cloneNet_eq_some hcn
  cases hplan : clonePlan (w.envOf env) spec.name cn with
  | none =>
    have hfail := (@ensures_restoreLaunch_of_none (w.envOf env) (w.restoreSpec spec (some cn)) cn rfl hplan
      w.net).exec hexec hfollows
    exact absurd hfail.1 (Bool.false_ne_true ∘ Eq.symm)
  | some plan =>
    have hbuilt : Built plan w.net n :=
      (@ensures_restoreLaunch plan (w.envOf env) (w.restoreSpec spec (some cn)) cn rfl hplan
        w.net).exec hexec hfollows
    obtain ⟨hof, hup⟩ := planOf_new hplan
    rw [hindex] at hof
    rw [hupstream] at hup
    obtain ⟨ip, tapName, hassigned, hout⟩ := (gives_restoreLaunch _ _).exec hexec
    exact ⟨plan, rfl, hbuilt, hof, hup, hout.ip.trans hassigned.1⟩

/-- What is left of the network when a machine is removed. -/
def cleaned (env : HostEnv) (r : MachineRecord) (n : HostNet) : HostNet :=
  match r.cloneIndex with
  | some index =>
    match r.ip with
    | some cloneIp =>
      match teardownPlan env r.name index cloneIp r.cloneUpstream with
      | some plan => plan.torn n
      | none => n
    | none => n
  | none =>
    match r.tap with
    | some tap => n.delLink tap
    | none => n

theorem ensures_cleanup (env : HostEnv) (r : MachineRecord) (n : HostNet) :
    (cleanupHostResources env r).Ensures NetAllows netEffect (fun v _ => v = cleaned env r n) n := by
  unfold cleanupHostResources cleaned
  cases r.cloneIndex with
  | some index =>
    cases r.ip with
    | none => exact rfl
    | some cloneIp =>
      dsimp only
      cases teardownPlan env r.name index cloneIp r.cloneUpstream with
      | none => exact rfl
      | some plan => exact Script.Ensures.mono (fun _ _ h => h.2) (ensures_teardownCloneNet plan n)
  | none =>
    cases r.tap with
    | none => exact rfl
    | some tap =>
      apply Task.ensures_act
      intro done hdone
      cases done with
      | true => rfl
      | false => exact (@HostNet.exec_of_not_possible n (.linkDel tap) rfl (hdone rfl)).symm

theorem cleaned_of_perform {env : HostEnv} {r : MachineRecord}
    (h : perform (cleanupHostResources env r) outcomes n = some (n', ())) : n' = cleaned env r n := by
  obtain ⟨hfollows, hexec⟩ := perform_eq_some.mp h
  exact (ensures_cleanup env r n).exec hexec hfollows

/-! ## Steps -/

/-- A command that removes this machine. -/
def Command.removes (name : String) : Command → Prop
  | .rm _ name' _ _ => name' = name
  | _ => False

theorem Orderly.step {w' : HostState} (h : Orderly w.registry) {c : Command} (hstep : w.Step c w') :
    Orderly w'.registry := by
  cases hstep with
  | run hfree hlaunch hr =>
    obtain ⟨ip, hip, hout⟩ := (gives_launch _ _).exec (perform_eq_some.mp hlaunch).2
    rcases hr with rfl | rfl <;>
      exact h.put_bridged (congrArg some hout.ip) hip rfl (congrArg some hout.tapName) rfl
  | restore hfree hlaunch =>
    obtain ⟨ip, tapName, ⟨hip, rfl⟩, hout⟩ :=
      (gives_restoreLaunch _ _).exec (perform_eq_some.mp hlaunch).2
    exact h.put_bridged (congrArg some hout.ip) hip rfl (congrArg some hout.tapName) rfl
  | branch hfree hcn hlaunch =>
    obtain ⟨plan, -, -, -, -, hip⟩ := HostState.built_of_branch hcn hlaunch
    obtain ⟨hindex, haddress, -⟩ := HostState.cloneNet_eq_some hcn
    exact h.put_clone (congrArg some hip) haddress (congrArg some hindex) rfl
  | stopped | reroute => exact h
  | stop hr => exact h.stopped (Registry.mem_of_get hr).1
  | rm hr hcleanup => exact h.delete _

namespace Kept

variable {plan : CloneNetPlan} {name : String} {w : HostState}

/-- Another machine is recorded. -/
theorem put (h : Kept plan name w) {n : HostNet} {r : MachineRecord} (horderly : Orderly (w.registry.put r))
    (hstanding : Standing plan n) (hfree : w.registry.get r.name = none) :
    Kept plan name { w with net := n, registry := w.registry.put r } := by
  obtain ⟨r₀, i, hget, hip, hindex, hplan⟩ := h.recorded
  have hne : name ≠ r.name := by
    rintro rfl
    rw [hfree] at hget
    cases hget
  refine ⟨horderly, hstanding, r₀, i, ?_, hip, hindex, hplan⟩
  rw [Registry.get_put, if_neg hne]
  exact hget

/-- Another clone is wired. -/
theorem standing_built (h : Kept plan name w) {plan' : CloneNetPlan} {name' : String} {ip : Ipv4Addr}
    {n : HostNet} (hbuilt : Built plan' w.net n) (hplan' : PlanOf plan' name' (freeIndex w.registry.indices) ip)
    (hfree : w.registry.get name' = none) (hip : freeAddress w.registry.ips = some ip) :
    Standing plan n := by
  obtain ⟨r₀, i, hget, hip₀, hindex, hplan⟩ := h.recorded
  have hmem := (Registry.mem_of_get hget).1
  have hname : name' ≠ name := by
    rintro rfl
    rw [hfree] at hget
    cases hget
  have haddress : plan'.cloneIp ≠ plan.cloneIp := by
    rw [hplan'.cloneIp]
    rintro rfl
    exact freeAddress_fresh hip (Registry.mem_ips.mpr ⟨r₀, hmem, hip₀⟩)
  have hslot : freeIndex w.registry.indices ≠ i := by
    rintro rfl
    exact freeIndex_not_mem _ (Registry.mem_indices.mpr ⟨r₀, hmem, hindex⟩)
  exact h.standing.built hbuilt (hplan.netns_ne hplan' hname) haddress (hplan.hostVeth_ne hplan' hslot)

/-- Another machine is removed. -/
theorem standing_cleaned (h : Kept plan name w) {name' : String} {r : MachineRecord}
    (hr : w.registry.get name' = some r) (hne : name' ≠ name) (env : HostEnv) :
    Standing plan (cleaned env r w.net) := by
  obtain ⟨r₀, i, hget, hip₀, hindex₀, hplan⟩ := h.recorded
  obtain ⟨hmem₀, rfl⟩ := Registry.mem_of_get hget
  obtain ⟨hmem, rfl⟩ := Registry.mem_of_get hr
  unfold cleaned
  cases hindex : r.cloneIndex with
  | some j =>
    cases hip : r.ip with
    | none => exact h.standing
    | some ip =>
      dsimp only
      cases hplan' : teardownPlan env r.name j ip r.cloneUpstream with
      | none => exact h.standing
      | some plan' =>
        obtain ⟨hof, -⟩ := planOf_new hplan'
        -- the other record has another slot and another address
        have hslot : j ≠ i := by
          rintro rfl
          have hr : r = r₀ := h.orderly.distinct.index r hmem r₀ hmem₀ j hindex hindex₀
          exact hne (congrArg MachineRecord.name hr)
        have haddress : plan'.cloneIp ≠ plan.cloneIp := by
          rw [hof.cloneIp]
          rintro rfl
          exact hne (congrArg MachineRecord.name (h.orderly.distinct.ip r hmem r₀ hmem₀ _ hip hip₀))
        exact h.standing.torn (hplan.netns_ne hof hne) haddress (hplan.hostVeth_ne hof hslot)
          (hplan.rule_ne hof hslot)
  | none =>
    cases htap : r.tap with
    | none => exact h.standing
    | some tap =>
      obtain ⟨tapName, rfl⟩ := h.orderly.tap r hmem hindex tap htap
      refine h.standing.delLink ?_
      rw [hplan.hostVeth]
      exact tap_ne_hostVethName tapName i

/-- **Every step** but its removal keeps a clone. -/
theorem step (h : Kept plan name w) {w' : HostState} {c : Command} (hother : ¬ c.removes name)
    (hstep : w.Step c w') : Kept plan name w' := by
  have horderly := h.orderly.step hstep
  cases hstep with
  | run hfree hlaunch hr =>
    refine h.put horderly (standing_perform (avoids_launch _ _) h.standing hlaunch) ?_
    rcases hr with rfl | rfl <;> exact hfree
  | restore hfree hlaunch =>
    exact h.put horderly (standing_perform (avoids_restoreLaunch _ rfl) h.standing hlaunch) hfree
  | branch hfree hcn hlaunch =>
    obtain ⟨plan', -, hbuilt, hplan', -, -⟩ := HostState.built_of_branch hcn hlaunch
    obtain ⟨-, haddress, -⟩ := HostState.cloneNet_eq_some hcn
    exact h.put horderly (h.standing_built hbuilt hplan' hfree haddress) hfree
  | stopped => exact h
  | @stop name' r hr =>
    obtain ⟨r₀, i, hget, hip, hindex, hplan⟩ := h.recorded
    obtain ⟨-, rfl⟩ := Registry.mem_of_get hr
    refine ⟨horderly, h.standing, ?_⟩
    by_cases hname : name = r.name
    · subst hname
      obtain rfl := Option.some.inj (hget.symm.trans hr)
      refine ⟨r₀.stopped, i, ?_, hip, hindex, hplan⟩
      exact (Registry.get_put _ _ _).trans (if_pos rfl)
    · refine ⟨r₀, i, ?_, hip, hindex, hplan⟩
      exact (Registry.get_put _ _ _).trans ((if_neg hname).trans hget)
  | @rm env name' force outcomes n r hr hcleanup =>
    obtain ⟨r₀, i, hget, hip, hindex, hplan⟩ := h.recorded
    have hne : name' ≠ name := hother
    obtain rfl := cleaned_of_perform hcleanup
    refine ⟨horderly, h.standing_cleaned hr hne _, r₀, i, ?_, hip, hindex, hplan⟩
    exact (Registry.get_delete _ _ _).trans ((if_neg (Ne.symm hne)).trans hget)
  | reroute => exact ⟨horderly, h.standing, h.recorded⟩

/-- The removal of the clone, by the plan that is made from its record. -/
theorem removed (h : Kept plan name w) {w' : HostState} {env : HostEnv} {force : Bool} {outcomes : List Bool}
    (hstep : w.Step (.rm env name force outcomes) w') {egress : Option String}
    (hupstream : plan.upstream = egressOr egress) : Removed plan w.net w'.net ∧
      (w.net.rules.Perm (plan.rule :: w'.net.rules) ↔ egressOr w.egress = egressOr egress) := by
  cases hstep with
  | @rm _ _ _ _ n r hr hcleanup =>
  obtain ⟨r₀, i, hget, hip, hindex, hplan⟩ := h.recorded
  obtain rfl := Option.some.inj (hget.symm.trans hr)
  obtain ⟨hmem, hname⟩ := Registry.mem_of_get hget
  have hnone := h.orderly.upstream r₀ hmem
  obtain rfl := cleaned_of_perform hcleanup
  obtain ⟨plan', hplan'⟩ : ∃ plan', teardownPlan (w.envOf env) r₀.name i plan.cloneIp r₀.cloneUpstream =
      some plan' := by
    rw [teardownPlan, CloneNetPlan.new, hplan.slot]
    exact ⟨_, rfl⟩
  have hcleaned : cleaned (w.envOf env) r₀ w.net = plan'.torn w.net := by
    simp only [cleaned, hindex, hip, hplan']
  obtain ⟨hof, hup⟩ := planOf_new hplan'
  have hlink : plan'.link = plan.link := Option.some.inj (hof.slot.symm.trans hplan.slot)
  have hrule : plan'.rule = plan.rule ↔ egressOr w.egress = egressOr egress := by
    rw [hnone] at hup
    simp only [CloneNetPlan.rule, CloneNetPlan.linkNet, hlink, MasqRule.mk.injEq, true_and, hup, hupstream]
    exact Iff.rfl
  show Removed plan w.net (cleaned _ r₀ w.net) ∧ (w.net.rules.Perm (plan.rule :: (cleaned _ r₀ w.net).rules) ↔ _)
  rw [hcleaned, ← hrule]
  refine ⟨h.standing.removed ?_ hof.cloneIp ?_, h.standing.perm_rules_iff⟩
  · rw [hof.netns, hplan.netns, hname]
  · rw [hof.hostVeth, hplan.hostVeth]

end Kept

theorem HostState.orderly_run {net : HostNet} {egress : Option String} {cs : List Command}
    (h : run HostState.step (.init net egress) cs = some w) : Orderly w.registry :=
  run_invariant_all (fun w : HostState => Orderly w.registry)
    (fun _ _ _ hw hstep => hw.step (HostState.step_cases hstep)) cs _ w Orderly.empty h

/-- **Removing a clone.** Whatever is done between the branch and the removal, the namespace, the pair of links
and the route go that the branch has made, and no others. The rule goes, and no other, if and only if the
default route is through the same interface at both. -/
theorem clone_removal_iff (net : HostNet) (egress : Option String) (before between : List Command)
    (w₀ w₁ w₂ w₃ : HostState) (env env' : HostEnv) (source image : String) (spec : RestoreSpec)
    (outcomes outcomes' : List Bool) (force : Bool)
    (hbefore : run HostState.step (.init net egress) before = some w₀)
    (hbranch : w₀.step (.branch env source image spec outcomes) = some w₁)
    (hbetween : run HostState.step w₁ between = some w₂)
    (hother : ∀ c ∈ between, ¬ c.removes spec.name)
    (hrm : w₂.step (.rm env' spec.name force outcomes') = some w₃) :
    ∃ plan, (w₀.cloneNet source).bind (clonePlan (w₀.envOf env) spec.name) = some plan ∧
      Built plan w₀.net w₁.net ∧ Removed plan w₂.net w₃.net ∧
      (w₂.net.rules.Perm (plan.rule :: w₃.net.rules) ↔ egressOr w₂.egress = egressOr w₀.egress) := by
  have horderly := HostState.orderly_run hbefore
  have horderly₁ := horderly.step (HostState.step_cases hbranch)
  cases HostState.step_cases hbranch with
  | @branch _ _ _ _ _ n out cn hfree hcn hlaunch =>
  obtain ⟨plan, hplan, hbuilt, hof, hupstream, hip⟩ := HostState.built_of_branch hcn hlaunch
  have hkept₁ : Kept plan spec.name { w₀ with
      net := n
      registry := w₀.registry.put (restoreRecord image (w₀.restoreSpec spec (some cn)) out) } := by
    obtain ⟨hindex, -, -⟩ := HostState.cloneNet_eq_some hcn
    refine ⟨horderly₁, hbuilt.standing, _, _, (Registry.get_put _ _ _).trans (if_pos rfl), ?_,
      congrArg some hindex, ?_⟩
    · exact congrArg some (hip.trans hof.cloneIp.symm)
    · rw [hof.cloneIp]
      exact hof
  have hkept₂ : Kept plan spec.name w₂ :=
    run_invariant (Kept plan spec.name) (fun _ _ _ hk hne hstep => hk.step hne (HostState.step_cases hstep))
      between _ w₂ hkept₁ (Meets.of_mem (P := fun _ c => ¬ Command.removes spec.name c)
        (fun c hc _ => hother c hc) _) hbetween
  refine ⟨plan, ?_, hbuilt, ?_⟩
  · rw [hcn]
    exact hplan
  · exact hkept₂.removed (HostState.step_cases hrm) hupstream

/-! ## Runs -/

def webLaunch : LaunchSpec where
  image := "alpine"
  name := "web"
  cpus := 1
  memoryMib := 256
  ssh := false
  detach := true
  stateRoot := []
  kernelPath := ["vmlinux"]
  mmInitPath := ["mm-init"]
  sshdPath := none
  reservedIps := []

/-- `mm run` of the source. -/
def started : List Command := [.run hostEnv webLaunch (List.replicate 17 true)]

/-- `mm branch` of a clone `b`. -/
def branching : Command := .branch hostEnv "web" "branch:web/7" cloneSpec (List.replicate 37 true)

/-- `mm rm` of the clone. The first deletion is that of the rule. -/
def removing (ruled : Bool) : Command := .rm hostEnv "b" false [ruled, true, true, true]

theorem clone_removal_stopped :
    ∃ w₀ w₁ w₂ w₃ plan, run HostState.step (.init idleNet (some "eth0")) started = some w₀ ∧
      w₀.step branching = some w₁ ∧ run HostState.step w₁ [.stop "b"] = some w₂ ∧
      w₂.step (removing true) = some w₃ ∧ Removed plan w₂.net w₃.net ∧
      w₂.net.rules.Perm (plan.rule :: w₃.net.rules) := by
  obtain ⟨plan, -, -, hremoved, hrule⟩ := clone_removal_iff idleNet (some "eth0") started [.stop "b"] _ _ _ _
    hostEnv hostEnv "web" "branch:web/7" cloneSpec (List.replicate 37 true) [true, true, true, true] false
    rfl rfl rfl (by simp [Command.removes]) rfl
  exact ⟨_, _, _, _, plan, rfl, rfl, rfl, rfl, hremoved, hrule.mpr rfl⟩

/-- The default route moves to another interface before the clone is removed: its rule is looked for there,
and stays. -/
theorem masquerade_left :
    (run HostState.step (.init idleNet (some "eth0")) started).map (fun w => w.net.rules) =
        some [⟨⟨10, 0, 0, 0⟩, 24, "eth0"⟩] ∧ (run HostState.step (.init idleNet (some "eth0"))
        (started ++ [branching, .stop "b", .reroute (some "wlan0"), removing false])).map
          (fun w => (w.registry.records.map MachineRecord.name, w.net.namespaces, w.net.rules)) =
        some (["web"], [], [⟨⟨10, 0, 0, 0⟩, 24, "eth0"⟩, ⟨⟨10, 201, 0, 0⟩, 30, "eth0"⟩]) :=
  ⟨rfl, rfl⟩

end MicroMachines.Host
