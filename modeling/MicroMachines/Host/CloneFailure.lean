import MicroMachines.Net.Wiring
import MicroMachines.Host.Launch

set_option autoImplicit false

/-! # When the launch of a clone fails

What the steps of a launch do to the network of the host, and what is left of it when `restoreLaunch` of a
clone ends with an error.

The namespace is made first, and from there on a failure of the TAP or of the wiring takes everything down
by name. So the network is as it was if nothing else had these names (`Harmless`). It is not if loopback
cannot be brought up in the namespace, nor if anything fails after the wiring: then nothing is taken down.
-/

namespace MicroMachines.Host

open MicroMachines.Lib MicroMachines.Boot MicroMachines.Net

/-! ## Steps on the network -/

/-- The rule that `enable_nat` makes for the bridge. -/
def subnetRule (egress : String) : MasqRule := ⟨⟨10, 0, 0, 0⟩, 24, egress⟩

/-- What a step does to the network. What exists already is taken as it is by the steps for the bridge. -/
def netEffect (op : HostOp) (done : Bool) (n : HostNet) : HostNet :=
  if done then
    match op with
    | .run cmd => n.exec cmd
    | .ensureBridge name _ _ => n.addLink ⟨name, none⟩
    | .createTap name _ => n.addLink ⟨name, none⟩
    | .enableNat _ egress => if subnetRule egress ∈ n.rules then n else n.addRule (subnetRule egress)
    | _ => n
  else n

/-- How a step can end. -/
def NetAllows (op : HostOp) (done : Bool) (n : HostNet) : Prop :=
  match op with
  | .run cmd => n.Allows cmd done
  | _ => True

instance : (op : HostOp) → (done : Bool) → (n : HostNet) → Decidable (NetAllows op done n)
  | .run cmd, done, n => inferInstanceAs (Decidable (n.Allows cmd done))
  | .buildBaseRootfs _ _ _, _, _ => instDecidableTrue
  | .ensureBridge _ _ _, _, _ => instDecidableTrue
  | .createTap _ _, _, _ => instDecidableTrue
  | .enableNat _ _, _, _ => instDecidableTrue
  | .openTunInNetns _ _, _, _ => instDecidableTrue
  | .openKvm, _, _ => instDecidableTrue
  | .createDirAll _, _, _ => instDecidableTrue
  | .linkOrCopy _ _, _, _ => instDecidableTrue
  | .prepareJailPermissions _ _ _, _, _ => instDecidableTrue
  | .chownToWorker _, _, _ => instDecidableTrue
  | .ensureSshKey _, _, _ => instDecidableTrue
  | .imageArgv _, _, _ => instDecidableTrue
  | .writeConfig _ _, _, _ => instDecidableTrue
  | .bindListener _, _, _ => instDecidableTrue
  | .spawnWorker _, _, _ => instDecidableTrue

/-- The steps that have to do with the network. -/
def HostOp.network : HostOp → Bool
  | .ensureBridge _ _ _ | .createTap _ _ | .enableNat _ _ | .run _ | .openTunInNetns _ _ => true
  | _ => false

theorem netEffect_of_not_network {op : HostOp} (h : op.network = false) (done : Bool) (n : HostNet) :
    netEffect op done n = n := by
  cases done with
  | false => rfl
  | true => cases op <;> first | rfl | cases h

/-- An error of another step. -/
def HostError.aside : HostError → Bool
  | .failed _ op => !op.network
  | .refused _ => true

/-- A task with no step on the network. -/
def Aside {α : Type} (t : HostM α) : Prop :=
  ∀ n, t.Ensures NetAllows netEffect (fun v r => v = n ∧ ∀ e, r = .error e → e.aside = true) n

section Aside

variable {α β : Type}

theorem aside_pure {a : α} : Aside (pure a : HostM α) :=
  fun _ => ⟨rfl, fun _ heq => by cases heq⟩

theorem aside_refused {text : String} : Aside (Task.fail (.refused text) : HostM α) := by
  intro n
  refine ⟨rfl, fun e heq => ?_⟩
  obtain rfl := Except.error.inj heq
  rfl

theorem aside_bind {t : HostM α} {f : α → HostM β} (ht : Aside t) (hf : ∀ a, Aside (f a)) :
    Aside (t >>= f) := by
  intro n
  refine Task.ensures_bind (Script.Ensures.mono ?_ (ht n))
  rintro v (e | a) ⟨rfl, herr⟩
  · refine ⟨rfl, fun e' heq => ?_⟩
    obtain rfl := Except.error.inj heq
    exact herr e rfl
  · exact hf a v

theorem aside_call {op : HostOp} {context : String} (h : op.network = false) : Aside (call op context) := by
  intro n
  apply Task.ensures_perform
  · exact fun _ => ⟨netEffect_of_not_network h true n, fun _ heq => by cases heq⟩
  · refine fun _ => ⟨rfl, fun e heq => ?_⟩
    obtain rfl := Except.error.inj heq
    simp [HostError.aside, h]

theorem aside_forEach {γ : Type} {f : γ → HostM Unit} (h : ∀ x, Aside (f x)) (xs : List γ) :
    Aside (Task.forEach xs f) := by
  induction xs with
  | nil => exact aside_pure
  | cons x xs ih => exact aside_bind (h x) (fun _ => ih)

theorem aside_prepareJail (stateRoot : Path) (name : String) (kernel rootfs : Path) :
    Aside (prepareJail stateRoot name kernel rootfs) :=
  aside_bind (aside_call rfl) fun _ => aside_bind (aside_call rfl) fun _ =>
    aside_bind (aside_call rfl) fun _ => aside_call rfl

theorem aside_startWorker (env : HostEnv) (stateRoot : Path) (name : String) (ip : Ipv4Addr)
    (tapName : String) (cfg : VmConfig) (detach : Bool) (restoreDir : Option Path) :
    Aside (startWorker env stateRoot name ip tapName cfg detach restoreDir) := by
  unfold startWorker
  dsimp only
  split_ifs
  · exact aside_refused
  · exact aside_bind (aside_call rfl) fun _ => aside_bind (aside_call rfl) fun _ =>
      aside_bind (aside_call rfl) fun _ => aside_bind (aside_call rfl) fun _ => aside_pure

theorem aside_restoreMachine (env : HostEnv) (spec : RestoreSpec) (net : Attached) :
    Aside (restoreMachine env spec net) := by
  refine aside_bind (aside_call rfl) fun _ => aside_bind (aside_prepareJail _ _ _ _) fun _ =>
    aside_bind (aside_call rfl) fun _ => aside_bind (aside_forEach (fun file => ?_) _) fun _ =>
      aside_bind (aside_call rfl) fun _ => aside_bind ?_ fun _ => aside_startWorker _ _ _ _ _ _ _ _
  · exact aside_bind (aside_call rfl) fun _ => aside_call rfl
  · exact aside_bind (aside_call rfl) fun _ => aside_call rfl

end Aside

/-! ## The wiring -/

/-- An error after which the network is as it was before. -/
def Harmless (n : HostNet) (plan : CloneNetPlan) : HostError → Prop
  | .failed _ (.run (.netnsAdd _)) => True
  | .failed _ (.run (.netnsLoUp _)) => False
  | .failed _ (.run cmd) => plan.hostVeth ∉ n.linkNames ∧ (∀ r ∈ n.routes, r.dst ≠ plan.cloneIp) ∧
      (plan.rule ∉ n.rules ∨ cmd = plan.hostRoute)
  | .failed _ (.openTunInNetns _ _) => plan.hostVeth ∉ n.linkNames ∧
      (∀ r ∈ n.routes, r.dst ≠ plan.cloneIp) ∧ plan.rule ∉ n.rules
  | _ => False

variable {n : HostNet} {plan : CloneNetPlan} {env : HostEnv} {spec : RestoreSpec}
  {cn : CloneNetConfig}

theorem not_harmless_of_aside {e : HostError} (h : e.aside = true) : ¬ Harmless n plan e := by
  cases e with
  | refused text => exact id
  | failed context op => cases op <;> first | exact id | cases h

/-- Where the wiring ends: the plan has been carried out, or partly so. -/
def WireEnd (n : HostNet) (plan : CloneNetPlan) (v : HostNet) : Except HostError Unit → Prop
  | .ok _ => Built plan n v
  | .error e => ∃ paired ruled, Partly plan n paired ruled v ∧
      (Harmless n plan e ↔ plan.hostVeth ∉ n.linkNames ∧ (∀ r ∈ n.routes, r.dst ≠ plan.cloneIp) ∧
        (plan.rule ∉ n.rules ∨ ruled = true))

/-- The commands of the wiring that change nothing outside of the namespace and the pair. -/
def innerCmds (plan : CloneNetPlan) : List Cmd :=
  [.addrAdd plan.link.hostAddr plan.link.len plan.hostVeth,
    .linkUp plan.hostVeth,
    .addrAddIn plan.netns plan.link.netnsAddr plan.link.len plan.netnsVeth,
    .linkUpIn plan.netns plan.netnsVeth,
    plan.netnsTapAddr,
    .linkUpIn plan.netns plan.tap,
    .defaultRouteIn plan.netns plan.link.hostAddr,
    .ipForwardIn plan.netns,
    .forwardPolicyIn plan.netns,
    .forwardPolicy,
    plan.snat .add,
    plan.dnat .add]

section Wiring

variable {n v : HostNet} {plan : CloneNetPlan} {context : String}

/-- A command that fails where the pair may be there and the rule is not. -/
theorem wireEnd_unruled {paired : Bool} (h : Partly plan n paired false v) {cmd : Cmd}
    (hcmd : cmd ≠ plan.hostRoute) (hadd : ∀ ns, cmd ≠ .netnsAdd ns) (hlo : ∀ ns, cmd ≠ .netnsLoUp ns) :
    WireEnd n plan v (.error (.failed context (.run cmd))) := by
  refine ⟨paired, false, h, ?_⟩
  have hharmless : Harmless n plan (.failed context (.run cmd)) ↔ plan.hostVeth ∉ n.linkNames ∧
      (∀ r ∈ n.routes, r.dst ≠ plan.cloneIp) ∧ (plan.rule ∉ n.rules ∨ cmd = plan.hostRoute) := by
    cases cmd <;> first | exact Iff.rfl | exact absurd rfl (hadd _) | exact absurd rfl (hlo _)
  rw [hharmless]
  simp [hcmd]

theorem ensures_innerCmds (h : Partly plan n true false v)
    (hrest : (Task.forEach [plan.hostMasq .add, plan.hostRoute]
      (fun cmd => call (.run cmd) "wiring clone networking")).Ensures NetAllows netEffect (WireEnd n plan) v) :
    (Task.forEach (innerCmds plan ++ [plan.hostMasq .add, plan.hostRoute])
      (fun cmd => call (.run cmd) "wiring clone networking")).Ensures NetAllows netEffect (WireEnd n plan) v := by
  have hquiet : ∀ cmd ∈ innerCmds plan, (∀ m : HostNet, m.exec cmd = m) ∧ cmd ≠ plan.hostRoute ∧
      (∀ ns, cmd ≠ .netnsAdd ns) ∧ ∀ ns, cmd ≠ .netnsLoUp ns := by
    simp [innerCmds, CloneNetPlan.netnsTapAddr, CloneNetPlan.snat, CloneNetPlan.dnat,
      CloneNetPlan.hostRoute, HostNet.exec]
  apply Task.ensures_forEach_append
  refine Task.ensures_forEach (fun rest m => m = v ∧ ∀ cmd ∈ rest, cmd ∈ innerCmds plan) _
    ⟨rfl, fun _ hcmd => hcmd⟩ ?_ ?_
  · rintro cmd rest m ⟨rfl, hall⟩
    obtain ⟨hexec, hroute, hadd, hlo⟩ := hquiet cmd (hall cmd List.mem_cons_self)
    apply Task.ensures_perform
    · exact fun _ => ⟨hexec m, fun c hc => hall c (List.mem_cons_of_mem cmd hc)⟩
    · exact fun _ => wireEnd_unruled h hroute hadd hlo
  · rintro m ⟨rfl, -⟩
    exact hrest

/-- The rule and the route come last. -/
theorem ensures_lastCmds (h : Partly plan n true false v) :
    (Task.forEach [plan.hostMasq .add, plan.hostRoute]
      (fun cmd => call (.run cmd) "wiring clone networking")).Ensures NetAllows netEffect (WireEnd n plan) v := by
  apply Task.ensures_bind
  apply Task.ensures_perform
  · intro _
    apply Task.ensures_bind
    apply Task.ensures_perform
    · rintro ⟨hroute, -⟩
      exact h.addRule.addRoute hroute
    · intro _
      refine ⟨true, true, h.addRule, ?_⟩
      simp [Harmless, CloneNetPlan.hostRoute]
  · exact fun _ => wireEnd_unruled h (by simp [CloneNetPlan.hostMasq, CloneNetPlan.hostRoute])
      (by simp [CloneNetPlan.hostMasq]) (by simp [CloneNetPlan.hostMasq])

theorem ensures_wireCloneNet (h : Partly plan n false false v) :
    (wireCloneNet plan).Ensures NetAllows netEffect (WireEnd n plan) v := by
  apply Task.ensures_bind
  apply Task.ensures_perform
  · rintro ⟨hpair, -⟩
    have hpaired := h.addLink hpair
    exact ensures_innerCmds hpaired (ensures_lastCmds hpaired)
  · exact fun _ => wireEnd_unruled h (by simp [CloneNetPlan.hostRoute]) (by simp) (by simp)

/-- Taking down ends in the network that `torn` says, whatever is there to delete. -/
theorem ensures_teardownCloneNet (plan : CloneNetPlan) (v : HostNet) :
    (teardownCloneNet plan).Ensures NetAllows netEffect (fun m r => r = .ok () ∧ m = plan.torn v) v := by
  have hdel : ∀ cmd ∈ plan.teardownCmds, cmd.deletes = true := by
    simp [CloneNetPlan.teardownCmds, CloneNetPlan.hostMasq, Cmd.deletes]
  refine Task.ensures_forEach
    (fun rest m => rest.foldl (fun m cmd => m.exec cmd) m = plan.torn v ∧
      ∀ cmd ∈ rest, cmd.deletes = true) _ ⟨rfl, hdel⟩ ?_ ?_
  · rintro cmd rest m ⟨hfold, hall⟩
    apply Task.ensures_act
    intro b hb
    have heffect : netEffect (.run cmd) b m = m.exec cmd := by
      cases b with
      | true => rfl
      | false => exact (HostNet.exec_of_not_possible (hall cmd List.mem_cons_self)
          (hb (hall cmd List.mem_cons_self))).symm
    rw [heffect]
    exact ⟨hfold, fun c hc => hall c (List.mem_cons_of_mem cmd hc)⟩
  · rintro m ⟨hfold, -⟩
    exact ⟨rfl, hfold⟩

end Wiring

/-! ## The whole launch -/

/-- Where the network part ends. -/
def NetEnd {α : Type} (n : HostNet) (plan : CloneNetPlan) (v : HostNet) : Except HostError α → Prop
  | .ok _ => Built plan n v
  | .error e => n.Same v ↔ Harmless n plan e

/-- A namespace that was made is one more. -/
theorem not_same_of_namespaces {v : HostNet} {ns : String} (h : v.namespaces = ns :: n.namespaces) :
    ¬ n.Same v := by
  intro hsame
  have hlen := hsame.namespaces.length_eq
  rw [h, List.length_cons] at hlen
  omega

/-- What is done when the TAP or the wiring has failed. -/
theorem ensures_undo {v : HostNet} {e : HostError} (h : WireEnd n plan v (.error e)) :
    (teardownCloneNet plan >>= fun _ => (Task.fail e : HostM Unit)).Ensures NetAllows netEffect
      (NetEnd n plan) v := by
  obtain ⟨paired, ruled, hpartly, hharmless⟩ := h
  refine Task.ensures_bind (Script.Ensures.mono ?_ (ensures_teardownCloneNet plan v))
  rintro m r ⟨rfl, rfl⟩
  exact (same_torn_iff hpartly).trans hharmless.symm

theorem ensures_cloneNetwork (n : HostNet) (plan : CloneNetPlan) :
    (cloneNetwork plan).Ensures NetAllows netEffect (NetEnd n plan) n := by
  apply Task.ensures_bind
  apply Task.ensures_bind
  apply Task.ensures_perform
  · intro hfresh
    have hpartly : Partly plan n false false (netEffect (.run (.netnsAdd plan.netns)) true n) :=
      partly_addNamespace hfresh
    apply Task.ensures_bind
    apply Task.ensures_perform
    · intro _
      apply Task.ensures_bind
      apply Task.ensures_result
      apply Task.ensures_bind
      apply Task.ensures_perform
      · intro _
        refine Script.Ensures.mono ?_ (ensures_wireCloneNet hpartly)
        rintro v (e | a) hend
        · exact ensures_undo hend
        · exact hend
      · intro _
        exact ensures_undo ⟨false, false, hpartly, by simp [Harmless]⟩
    · intro _
      exact iff_of_false (not_same_of_namespaces hpartly.namespaces) id
  · exact fun _ => iff_of_true (HostNet.Same.refl n) trivial

theorem ensures_restoreNetwork (hclone : spec.cloneNet = some cn)
    (hplan : clonePlan env spec.name cn = some plan)
    (n : HostNet) : (restoreNetwork env spec).Ensures NetAllows netEffect (NetEnd n plan) n := by
  unfold restoreNetwork
  rw [hclone]
  dsimp only
  rw [hplan]
  refine Task.ensures_bind (t := cloneNetwork plan) (Script.Ensures.mono ?_ (ensures_cloneNetwork n plan))
  rintro v (e | a) hend
  · exact hend
  · exact hend

/-- Where the launch of a clone ends. After the wiring nothing is taken down. -/
theorem ensures_restoreLaunch (hclone : spec.cloneNet = some cn)
    (hplan : clonePlan env spec.name cn = some plan)
    (n : HostNet) : (restoreLaunch env spec).Ensures NetAllows netEffect (NetEnd n plan) n := by
  refine Task.ensures_bind (Script.Ensures.mono ?_ (ensures_restoreNetwork hclone hplan n))
  rintro v (e | net) hend
  · exact hend
  · have hbuilt : Built plan n v := hend
    refine Script.Ensures.mono ?_ (aside_restoreMachine env spec net v)
    rintro m (e | out) ⟨rfl, herr⟩
    · exact iff_of_false (not_same_of_namespaces hbuilt.namespaces)
        (not_harmless_of_aside (herr e rfl))
    · exact hbuilt

/-- Without a plan nothing is done. -/
theorem ensures_restoreLaunch_of_none (hclone : spec.cloneNet = some cn)
    (hplan : clonePlan env spec.name cn = none) (n : HostNet) :
    (restoreLaunch env spec).Ensures NetAllows netEffect (fun v r => r.isOk = false ∧ v = n) n := by
  unfold restoreLaunch restoreNetwork
  rw [hclone]
  dsimp only
  rw [hplan]
  exact ⟨rfl, rfl⟩

/-- **When the launch of a clone fails**, the network is as it was if and only if the error is harmless: the
namespace could not be made, or the TAP or the wiring failed while no other link, route or rule had the names
that are taken down. -/
theorem clone_failure_iff (env : HostEnv) (spec : RestoreSpec) (cn : CloneNetConfig)
    (hclone : spec.cloneNet = some cn) (n n' : HostNet) (outcomes : List Bool) (e : HostError)
    (hallowed : (restoreLaunch env spec).Follows netEffect NetAllows outcomes n)
    (hrun : (restoreLaunch env spec).exec netEffect outcomes n = some (n', .error e)) :
    n.Same n' ↔ ∀ plan, clonePlan env spec.name cn = some plan → Harmless n plan e := by
  cases hplan : clonePlan env spec.name cn with
  | none =>
    obtain ⟨-, rfl⟩ := (ensures_restoreLaunch_of_none hclone hplan n).exec hrun hallowed
    exact iff_of_true (HostNet.Same.refl n') (fun plan h => absurd h (Option.some_ne_none plan).symm)
  | some plan =>
    have hend : n.Same n' ↔ Harmless n plan e :=
      (ensures_restoreLaunch hclone hplan n).exec hrun hallowed
    rw [hend]
    constructor
    · intro h plan' heq
      cases heq
      exact h
    · exact fun h => h plan rfl

/-! ## Runs -/

def hostEnv : HostEnv where
  rootfs _ _ _ := ["images", "disk.ext4"]
  imageArgv _ := ["/bin/sh"]
  authorizedKey := [115, 115, 104, 45]
  randomSeed := none
  egress := some "eth0"
  pid := 100

/-- A clone `b` in the first slot. -/
def cloneSpec : RestoreSpec where
  name := "b"
  snapshotDir := ["jails", "web", "root", "snapshots", "local", "7"]
  rootfsPath := ["jails", "web", "root", "rootfs.ext4"]
  kernelPath := ["vmlinux"]
  cpus := 1
  memoryMib := 512
  detach := true
  stateRoot := []
  reservedIps := [⟨10, 0, 0, 2⟩]
  cloneNet := some ⟨0, ⟨10, 0, 0, 2⟩, ⟨10, 0, 0, 3⟩, none⟩

/-- A host without a machine. -/
def idleNet : HostNet where
  namespaces := []
  links := [⟨"eth0", none⟩]
  routes := []
  rules := []
  namespaces_nodup := List.nodup_nil
  links_nodup := List.nodup_singleton _
  peer_mem := by simp
  dev_mem := by simp

/-- A host with a clone `a` in the first slot. -/
def busyNet : HostNet where
  namespaces := ["mm-clone-a"]
  links := [⟨"eth0", none⟩, ⟨"mmvh0", some "mm-clone-a"⟩]
  routes := [⟨⟨10, 0, 0, 3⟩, 0, "mmvh0"⟩]
  rules := [⟨⟨10, 201, 0, 0⟩, 30, "eth0"⟩]
  namespaces_nodup := List.nodup_singleton _
  links_nodup := by decide
  peer_mem := by simp
  dev_mem := by simp

/-- The pair cannot be made. The namespace is deleted again; the other deletions find nothing. -/
def unpairedOutcomes : List Bool := [true, true, true, false, false, false, false, true]

theorem clone_failure_unpaired :
    ∃ n' e, (restoreLaunch hostEnv cloneSpec).exec netEffect unpairedOutcomes idleNet = some (n', .error e) ∧
      idleNet.Same n' := by
  refine ⟨_, _, rfl, (clone_failure_iff hostEnv cloneSpec _ rfl idleNet _ unpairedOutcomes _
    (by decide +kernel) rfl).mpr ?_⟩
  intro plan hplan
  cases hplan
  exact ⟨by decide +kernel, fun r hr => absurd hr List.not_mem_nil, Or.inl List.not_mem_nil⟩

/-- The wiring is complete, and then `/dev/kvm` cannot be opened. -/
def lateOutcomes : List Bool := List.replicate 18 true ++ [false]

/-- The pair cannot be made, because there is one of this name. All four deletions find something. -/
def takenOutcomes : List Bool := [true, true, true, false, true, true, true, true]

/-- A failure after the wiring leaves it all behind. A failure of the wiring takes down what belongs to the
clone `a` of the same slot and address. -/
theorem clone_failure_leaks :
    ((restoreLaunch hostEnv cloneSpec).Follows netEffect NetAllows lateOutcomes idleNet ∧
      ∃ n' e, (restoreLaunch hostEnv cloneSpec).exec netEffect lateOutcomes idleNet = some (n', .error e) ∧
        n'.namespaces = ["mm-clone-b"] ∧ n'.linkNames = ["mmvh0", "eth0"] ∧
        n'.routes = [⟨⟨10, 0, 0, 3⟩, 0, "mmvh0"⟩] ∧ n'.rules = [⟨⟨10, 201, 0, 0⟩, 30, "eth0"⟩]) ∧
    ((restoreLaunch hostEnv cloneSpec).Follows netEffect NetAllows takenOutcomes busyNet ∧
      ∃ n' e, (restoreLaunch hostEnv cloneSpec).exec netEffect takenOutcomes busyNet = some (n', .error e) ∧
        n'.namespaces = ["mm-clone-a"] ∧ n'.linkNames = ["eth0"] ∧ n'.routes = [] ∧ n'.rules = []) :=
  ⟨⟨by decide +kernel, _, _, rfl, by decide +kernel, by decide +kernel, by decide +kernel,
      by decide +kernel⟩,
    ⟨by decide +kernel, _, _, rfl, by decide +kernel, by decide +kernel, by decide +kernel,
      by decide +kernel⟩⟩

end MicroMachines.Host
