import MicroMachines.Host.Machines

set_option autoImplicit false

/-! # The address of a guest, and the one that is recorded

A machine that is restored gets a new address in the registry, while its guest has kept the one of its snapshot.

* On the bridge, addresses are unique and recorded as they are if and only if every restore happens to be given
  the address of its snapshot, and no machine is removed whose worker stays on the bridge
  (`addresses_true_iff`, `restored_twice`).
* A clone is translated to the address that is recorded for its source. This is the address of its guest if and
  only if the launch of the source has returned it, as `mm run` does (`clone_translated_iff`,
  `clone_of_clone`).
-/

namespace MicroMachines.Host.Machines

open MicroMachines.Lib MicroMachines.Boot MicroMachines.Net

/-! ## Machines on the bridge -/

/-- The worker runs, with its TAP on the shared bridge. -/
def Worker.on (g : Worker) : Bool := g.alive && g.bridged

def onBridge (gs : List Worker) : List Worker := gs.filter Worker.on

/-- **True addresses.** No two machines that run on the bridge have the same address, and the one that is
recorded for a machine is that of its guest. -/
structure TrueAddresses (w : World) : Prop where
  unique : ((onBridge w.workers).map (fun g => g.guest.ip)).Nodup
  recorded : ∀ g ∈ onBridge w.workers, ∃ r, w.registry.get g.name = some r ∧ r.ip = some g.guest.ip

/-- A machine is restored while the address of its snapshot is the next that is free; and if a machine is
removed that still runs on the bridge, its TAP is deleted. -/
def Faithful (w : World) : Command → Prop
  | .restore _ name id _ _ =>
    (w.findSnapshot name id).map (fun s => s.guest.ip) = freeAddress w.registry.ips
  | .rm _ name _ outcomes => (∀ g ∈ onBridge w.workers, g.name ≠ name) ∨ outcomes = [true]
  | _ => True

instance (w : World) : (c : Command) → Decidable (Faithful w c)
  | .restore _ name id _ _ => inferInstanceAs
      (Decidable ((w.findSnapshot name id).map (fun s => s.guest.ip) = freeAddress w.registry.ips))
  | .rm _ name _ outcomes =>
    @instDecidableOr _ _ (List.decidableBAll (fun g => g.name ≠ name) (onBridge w.workers))
      (inferInstanceAs (Decidable (outcomes = [true])))
  | .run _ _ _ => instDecidableTrue
  | .snapshot _ _ => instDecidableTrue
  | .snapshotRm _ _ => instDecidableTrue
  | .stop _ => instDecidableTrue
  | .branch _ _ _ _ _ => instDecidableTrue
  | .exits _ => instDecidableTrue

/-! ### Fewer machines on the bridge -/

/-- A change after which a worker is on the bridge only if it is unchanged. -/
theorem onBridge_map_sublist {f : Worker → Worker} (hf : ∀ g, (f g).on = true → f g = g) (gs : List Worker) :
    (onBridge (gs.map f)).Sublist (onBridge gs) := by
  unfold onBridge
  induction gs with
  | nil => exact List.Sublist.refl _
  | cons g gs ih =>
    rw [List.map_cons]
    by_cases hon : (f g).on = true
    · have heq : f g = g := hf g hon
      rw [heq] at hon ⊢
      rw [List.filter_cons_of_pos hon, List.filter_cons_of_pos hon]
      exact ih.cons_cons g
    · rw [List.filter_cons_of_neg hon]
      exact ih.trans ((List.sublist_cons_self g gs).filter _)

theorem onBridge_kill (w : World) (pid : Nat) : (onBridge (w.kill pid)).Sublist (onBridge w.workers) := by
  apply onBridge_map_sublist
  intro g hon
  by_cases hpid : g.pid = pid
  · simp [hpid, Worker.on] at hon
  · exact if_neg hpid

theorem onBridge_detach (op : HostOp) (ok : Bool) (gs : List Worker) :
    (onBridge (detach op ok gs)).Sublist (onBridge gs) := by
  unfold detach
  split
  · split_ifs
    · apply onBridge_map_sublist
      intro g hon
      by_cases htap : g.tap = ‹String›
      · simp [htap, Worker.on] at hon
      · exact if_neg htap
    · exact List.Sublist.refl _
  · exact List.Sublist.refl _

/-- Who is still on the bridge has another TAP than the one that was deleted. -/
theorem tap_ne_of_onBridge_detach {dev : String} {gs : List Worker} {g : Worker}
    (h : g ∈ onBridge (detach (.run (.linkDel dev)) true gs)) : g.tap ≠ dev := by
  obtain ⟨hmem, hon⟩ := List.mem_filter.mp h
  obtain ⟨g₀, -, rfl⟩ := List.mem_map.mp (show g ∈ gs.map _ from hmem)
  by_cases htap : g₀.tap = dev
  · simp [htap, Worker.on] at hon
  · rw [if_neg htap]
    exact htap

variable {env : HostEnv} {outcomes : List Bool} {spec : RestoreSpec} {cmds : List Net.Cmd}
  {P : List Net.Cmd → Prop}

/-- The removal of a machine on the bridge: one command, whose failure is passed over. -/
theorem cleanup_bridged {r : MachineRecord} {tap : String}
    {gs gs' : List Worker} {e : Except HostError Unit} (hindex : r.cloneIndex = none) (htap : r.tap = some tap)
    (hexec : (cleanupHostResources env r).exec detach outcomes gs = some (gs', e)) :
    ∃ ok, outcomes = [ok] ∧ gs' = detach (.run (.linkDel tap)) ok gs := by
  have hscript : cleanupHostResources env r = Task.act (.run (.linkDel tap)) := by
    unfold cleanupHostResources
    rw [hindex, htap]
  rw [hscript] at hexec
  match outcomes, hexec with
  | [ok], hexec =>
    refine ⟨ok, rfl, ?_⟩
    cases hexec
    rfl

/-! ### The invariant -/

/-- A restored machine on the bridge is given a new address. -/
theorem freeAddress_of_restored {w : World} {out : LaunchOutcome}
    (hlaunch : performed (restoreLaunch env (w.restoreSpec spec none)) outcomes = some (cmds, out)) :
    freeAddress w.registry.ips = some out.ip := by
  obtain ⟨ip, tapName, hassigned, hout⟩ := (gives_restoreLaunch _ _).exec (performed_eq_some.mp hlaunch)
  rw [hout.ip]
  exact hassigned.1

/-- The record of a machine on the bridge: the address of its guest, and its TAP. -/
structure OnRecord (s : Registry) (g : Worker) (r : MachineRecord) : Prop where
  get : s.get g.name = some r
  ip : r.ip = some g.guest.ip
  tap : r.tap = some g.tap
  index : r.cloneIndex = none

structure Addressed (s : Registry) (gs : List Worker) : Prop where
  unique : ((onBridge gs).map (fun g => g.guest.ip)).Nodup
  recorded : ∀ g ∈ onBridge gs, ∃ r, OnRecord s g r

namespace Addressed

variable {s : Registry} {gs : List Worker}

variable {w : World} {gs' : List Worker} {r : MachineRecord} {name : String}

theorem trueAddresses (h : Addressed w.registry w.workers) : TrueAddresses w := by
  refine ⟨h.unique, fun g hg => ?_⟩
  obtain ⟨r, hr⟩ := h.recorded g hg
  exact ⟨r, hr.get, hr.ip⟩

/-- Some have gone, and the others have kept their records. -/
theorem fewer (h : Addressed s gs) {s' : Registry} (hsub : (onBridge gs').Sublist (onBridge gs))
    (hrecords : ∀ g ∈ onBridge gs', ∀ r, OnRecord s g r → ∃ r', OnRecord s' g r') : Addressed s' gs' := by
  refine ⟨h.unique.sublist (hsub.map _), fun g hg => ?_⟩
  obtain ⟨r, hr⟩ := h.recorded g (hsub.subset hg)
  exact hrecords g hg r hr

/-- A new name is nobody's on the bridge. -/
theorem put (h : Addressed s gs) (hfree : s.get r.name = none) : Addressed (s.put r) gs := by
  refine h.fewer (List.Sublist.refl _) (fun g _ r' hr' => ⟨r', ?_, hr'.ip, hr'.tap, hr'.index⟩)
  rw [Registry.get_put, if_neg]
  · exact hr'.get
  · intro heq
    have hget := hr'.get
    rw [heq, hfree] at hget
    cases hget

/-- A machine joins, with a new address that is that of its guest. -/
theorem join (h : Addressed s gs) {g : Worker} (hfree : s.get r.name = none)
    (hname : r.name = g.name) (hip : r.ip = some g.guest.ip) (htap : r.tap = some g.tap)
    (hindex : r.cloneIndex = none) (hnew : freeAddress s.ips = some g.guest.ip) :
    Addressed (s.put r) (g :: gs) := by
  have hput := h.put hfree
  by_cases hon : g.on = true
  · have hfilter : onBridge (g :: gs) = g :: onBridge gs := List.filter_cons_of_pos hon
    constructor
    · rw [hfilter, List.map_cons, List.nodup_cons]
      refine ⟨?_, h.unique⟩
      -- the address of another machine is recorded, and so it was not free
      intro hmem
      obtain ⟨g', hg', heq⟩ := List.mem_map.mp hmem
      obtain ⟨r', hr'⟩ := h.recorded g' hg'
      have hips : g.guest.ip ∈ s.ips :=
        Registry.mem_ips.mpr ⟨r', (Registry.mem_of_get hr'.get).1, hr'.ip.trans (congrArg some heq)⟩
      exact freeAddress_fresh hnew hips
    · rw [hfilter]
      intro g' hg'
      rcases List.mem_cons.mp hg' with rfl | hmem
      · refine ⟨r, ?_, hip, htap, hindex⟩
        rw [Registry.get_put, if_pos hname.symm]
      · exact hput.recorded g' hmem
  · have hfilter : onBridge (g :: gs) = onBridge gs := List.filter_cons_of_neg hon
    refine ⟨?_, ?_⟩
    · rw [hfilter]
      exact h.unique
    · rw [hfilter]
      exact hput.recorded

/-- A machine starts off the bridge. -/
theorem aside (h : Addressed s gs) {g : Worker} (hfree : s.get r.name = none)
    (hoff : g.bridged = false) : Addressed (s.put r) (g :: gs) := by
  have hfilter : onBridge (g :: gs) = onBridge gs := List.filter_cons_of_neg (by simp [Worker.on, hoff])
  have hput := h.put hfree
  refine ⟨?_, ?_⟩
  · rw [hfilter]
    exact h.unique
  · rw [hfilter]
    exact hput.recorded

/-- A machine is recorded as stopped. -/
theorem stop (h : Addressed s gs) (hr : s.get name = some r)
    (hsub : (onBridge gs').Sublist (onBridge gs)) : Addressed (s.put r.stopped) gs' := by
  obtain ⟨-, rfl⟩ := Registry.mem_of_get hr
  refine h.fewer hsub (fun g _ r' hr' => ?_)
  by_cases hname : g.name = r.name
  · obtain rfl : r = r' := by
      have hget := hr'.get
      rw [hname, hr] at hget
      exact Option.some.inj hget
    refine ⟨r.stopped, ?_, hr'.ip, hr'.tap, hr'.index⟩
    rw [Registry.get_put, if_pos (show g.name = r.stopped.name from hname)]
  · refine ⟨r', ?_, hr'.ip, hr'.tap, hr'.index⟩
    rw [Registry.get_put, if_neg (show g.name ≠ r.stopped.name from hname)]
    exact hr'.get

/-- A machine is removed, and is on the bridge no more. -/
theorem rm (h : Addressed s gs) (hsub : (onBridge gs').Sublist (onBridge gs))
    (hgone : ∀ g ∈ onBridge gs', g.name ≠ name) :
    Addressed (s.delete name) gs' := by
  refine h.fewer hsub (fun g hg r' hr' => ⟨r', ?_, hr'.ip, hr'.tap, hr'.index⟩)
  rw [Registry.get_delete, if_neg (hgone g hg)]
  exact hr'.get

/-- What a removal leaves on the bridge. -/
theorem gone_of_faithful (h : Addressed s gs) {env : HostEnv} {outcomes : List Bool}
    {e : Except HostError Unit} (hr : s.get name = some r)
    (hcleanup : (cleanupHostResources env r).exec detach outcomes gs = some (gs', e))
    (hsub : (onBridge gs').Sublist (onBridge gs))
    (hfaithful : (∀ g ∈ onBridge gs, g.name ≠ name) ∨ outcomes = [true]) : ∀ g ∈ onBridge gs', g.name ≠ name := by
  rintro g hg rfl
  have hbefore := hsub.subset hg
  rcases hfaithful with hnone | hdeleted
  · exact hnone g hbefore rfl
  · obtain ⟨r', hr'⟩ := h.recorded g hbefore
    obtain rfl : r = r' := Option.some.inj (hr.symm.trans hr'.get)
    obtain ⟨ok, hok, rfl⟩ := cleanup_bridged hr'.index hr'.tap hcleanup
    obtain rfl : ok = true := by simpa [hdeleted] using hok.symm
    exact tap_ne_of_onBridge_detach hg rfl

/-- **Every faithful step.** -/
theorem step {w' : World} {c : Command} (h : Addressed w.registry w.workers) (hfaithful : Faithful w c)
    (hstep : w.Step c w') : Addressed w'.registry w'.workers := by
  cases hstep with
  | @run env spec outcomes cmds out r hfree hlaunch hr =>
    obtain ⟨ip, hip, hout⟩ := (gives_launch _ _).exec (performed_eq_some.mp hlaunch)
    have hnew : freeAddress w.registry.ips = some out.ip := by
      rw [hout.ip]
      exact hip
    rcases hr with rfl | rfl <;> exact h.join hfree rfl rfl rfl rfl hnew
  | snapshot hg | snapshotRm | stopped => exact h
  | @stop name r hr =>
    refine h.stop hr ?_
    cases r.pid with
    | none => exact List.Sublist.refl _
    | some pid => exact onBridge_kill w pid
  | @rm env name force outcomes r gs e hr hcleanup =>
    have hsub : (onBridge gs).Sublist (onBridge w.workers) :=
      exec_detach (I := fun gs => (onBridge gs).Sublist (onBridge w.workers))
        (fun op ok gs hgs => (onBridge_detach op ok gs).trans hgs) (List.Sublist.refl _) hcleanup
    exact h.rm hsub (h.gone_of_faithful hr hcleanup hsub hfaithful)
  | @restore env name id spec outcomes snap cmds out hfree hs hlaunch =>
    have hip : freeAddress w.registry.ips = some out.ip := freeAddress_of_restored hlaunch
    have hsame : snap.guest.ip = out.ip := by
      have hcaptured : (w.findSnapshot name id).map (fun s => s.guest.ip) = some out.ip :=
        Eq.trans hfaithful hip
      rw [hs] at hcaptured
      exact Option.some.inj hcaptured
    refine h.join hfree rfl ?_ rfl rfl ?_
    · exact congrArg some hsame.symm
    · exact hip.trans (congrArg some hsame.symm)
  | branch hfree hcn hg hlaunch => exact h.aside hfree rfl
  | @exits pid => exact h.fewer (onBridge_kill w pid) (fun _ _ r hr => ⟨r, hr⟩)

/-- Any other step makes an address untrue. -/
theorem faithful_of_true {w' : World} {c : Command} (h : Addressed w.registry w.workers)
    (hstep : w.Step c w') (htrue : TrueAddresses w') : Faithful w c := by
  cases hstep with
  | @restore env name id spec outcomes snap cmds out hfree hs hlaunch =>
    have hip : freeAddress w.registry.ips = some out.ip := freeAddress_of_restored hlaunch
    -- the record of the new machine has the address that is free, not that of the guest
    obtain ⟨r, hget, hrip⟩ := htrue.recorded _ List.mem_cons_self
    obtain rfl := Option.some.inj (((Registry.get_put _ _ _).trans (if_pos rfl)).symm.trans hget)
    show (w.findSnapshot name id).map (fun s => s.guest.ip) = freeAddress w.registry.ips
    rw [hs, hip]
    exact hrip.symm
  | @rm env name force outcomes r gs e hr hcleanup =>
    unfold Faithful
    by_contra hnot
    push Not at hnot
    obtain ⟨⟨g, hg, rfl⟩, hfailed⟩ := hnot
    obtain ⟨r', hr'⟩ := h.recorded g hg
    obtain rfl : r = r' := Option.some.inj (hr.symm.trans hr'.get)
    obtain ⟨ok, rfl, rfl⟩ := cleanup_bridged hr'.index hr'.tap hcleanup
    obtain rfl : ok = false := by simpa using hfailed
    -- the worker stays on the bridge, and its record is gone
    obtain ⟨r'', hget, -⟩ := htrue.recorded g hg
    rw [Registry.get_delete, if_pos rfl] at hget
    cases hget
  | _ => exact trivial

end Addressed

/-- **Addresses are true and unique**, throughout a sequence of commands, if and only if each of them is
faithful. -/
theorem addresses_true_iff (cs : List Command) (w : World) (hrun : run World.step .init cs = some w) :
    (∀ before, before <+: cs → ∀ v, run World.step .init before = some v → TrueAddresses v) ↔
      Meets World.step Faithful .init cs := by
  have hinit : Addressed World.init.registry World.init.workers := ⟨List.nodup_nil, List.forall_mem_nil _⟩
  exact good_iff_meets (fun w => Addressed w.registry w.workers) (fun _ h => h.trueAddresses)
    (fun _ _ _ h hfaithful hstep => h.step hfaithful (World.step_cases hstep))
    (fun _ _ _ h hstep htrue => h.faithful_of_true (World.step_cases hstep) htrue) hinit hrun

/-! ### Runs -/

/-- `mm run` of a machine `web`, and a snapshot of it. -/
def snapshotted : List Command := [.run hostEnv webLaunch (List.replicate 17 true), .snapshot "web" "7"]

/-- `mm restore` of the snapshot, as a machine `b`. -/
def restoring : Command := .restore hostEnv "web" "7" cloneSpec (List.replicate 22 true)

/-- The machine is removed before its snapshot is restored. -/
theorem addresses_true_removed :
    ∃ w, run World.step .init (snapshotted ++ [.stop "web", .rm hostEnv "web" false [true], restoring]) = some w ∧
      TrueAddresses w := by
  refine ⟨_, rfl, ?_⟩
  exact (addresses_true_iff (snapshotted ++ [.stop "web", .rm hostEnv "web" false [true], restoring]) _ rfl).mpr
    (by decide +kernel) _ (List.prefix_refl _) _ rfl

/-- The snapshot is restored while its machine runs: both are on the bridge with one address, and the one that
is recorded for the new machine is another. -/
theorem restored_twice : (run World.step .init (snapshotted ++ [restoring])).map (fun w =>
      ((onBridge w.workers).map (fun g => (g.name, g.guest.ip)),
        w.registry.records.map (fun r => (r.name, r.ip)))) =
      some ([("b", ⟨10, 0, 0, 2⟩), ("web", ⟨10, 0, 0, 2⟩)],
        [("web", some ⟨10, 0, 0, 2⟩), ("b", some ⟨10, 0, 0, 3⟩)]) := by
  decide +kernel

/-! ## The address that a clone is translated to -/

/-- The source and the destination of packets are translated for a guest with this address, and its gateway is
on its TAP. -/
structure Translates (cmds : List Net.Cmd) (ip : Ipv4Addr) : Prop where
  snat : ∃ ns out target, .snatIn ns .add ip out target ∈ cmds
  dnat : ∃ ns dev dst, .dnatIn ns .add dev dst ip ∈ cmds
  gateway : ∃ ns tap, .addrAddIn ns (internalGateway ip) 24 tap ∈ cmds

/-- The commands of a plan translate to its internal address, and to no other. -/
theorem translates_iff {plan : CloneNetPlan} {ip : Ipv4Addr} :
    Translates (plan.createCmds ++ plan.wireCmds) ip ↔ plan.internalIp = ip := by
  constructor
  · intro h
    obtain ⟨ns, out, target, hmem⟩ := h.snat
    have hsnat : Cmd.snatIn ns .add ip out target = plan.snat .add := by
      simpa [CloneNetPlan.createCmds, CloneNetPlan.wireCmds, CloneNetPlan.netnsTapAddr, CloneNetPlan.dnat,
        CloneNetPlan.hostMasq, CloneNetPlan.hostRoute] using hmem
    injection hsnat with _ _ hip
    exact hip.symm
  · rintro rfl
    have hsnat : plan.snat .add ∈ plan.wireCmds := by simp [CloneNetPlan.wireCmds]
    have hdnat : plan.dnat .add ∈ plan.wireCmds := by simp [CloneNetPlan.wireCmds]
    have hgateway : plan.netnsTapAddr ∈ plan.wireCmds := by simp [CloneNetPlan.wireCmds]
    exact ⟨⟨_, _, _, List.mem_append_right _ hsnat⟩, ⟨_, _, _, List.mem_append_right _ hdnat⟩,
      ⟨_, _, List.mem_append_right _ hgateway⟩⟩

/-! ### The commands of a branch -/

/-- The task logs these commands if it succeeds. -/
def Logs {α : Type} (P : List Net.Cmd → Prop) (cmds : List Net.Cmd) (t : HostM α) : Prop :=
  Task.Safe (fun _ _ => True) logs (fun l _ => P l) (fun _ => True) cmds t

theorem logs_bind {α β : Type} {t : HostM α} {f : α → HostM β}
    (h : Logs (fun l => ∀ a, Logs P l (f a)) cmds t) : Logs P cmds (t >>= f) :=
  Task.safe_bind (Task.Safe.mono (fun _ a hf => hf a) (fun _ he => he) h)

/-- Nothing is run. -/
theorem logs_of_avoids {α : Type} {t : HostM α}
    (ht : t.Avoids HostOp.isRun) (h : P cmds) : Logs P cmds t := by
  refine Script.Avoids.safe (fun _ _ _ => trivial) (fun op hop b l => ?_) ht (fun r => ?_)
  · cases op with
    | run cmd => cases hop
    | _ => rfl
  · cases r with
    | error e => exact trivial
    | ok a => exact h

/-- All of a list are run. -/
theorem logs_forEach (todo : List Net.Cmd) (context : String)
    (h : P (cmds ++ todo)) : Logs P cmds (Task.forEach todo (fun cmd => call (.run cmd) context)) := by
  refine Task.safe_forEach (fun rest l => l ++ rest = cmds ++ todo) todo rfl ?_ ?_
  · intro cmd rest l hl
    refine Task.safe_perform trivial ?_ trivial
    show (l ++ [cmd]) ++ rest = cmds ++ todo
    rw [List.append_assoc]
    exact hl
  · intro l hl
    rw [List.append_nil] at hl
    rw [hl]
    exact h

theorem logs_cloneNetwork (plan : CloneNetPlan) :
    Logs (fun l => l = plan.createCmds ++ plan.wireCmds) [] (cloneNetwork plan) := by
  refine logs_bind (logs_forEach plan.createCmds _ (fun _ => ?_))
  -- if the wiring fails, all is taken down and the task fails
  have hundo : ∀ (l : List Net.Cmd) (e : HostError),
      Logs (fun l => l = plan.createCmds ++ plan.wireCmds) l
        ((do teardownCloneNet plan; Task.fail e) : HostM Unit) := by
    intro l e
    exact Task.safe_bind (Task.safe_forEach (fun _ _ => True) _ trivial
      (fun _ _ _ _ => Task.safe_act trivial (fun _ => trivial)) (fun _ _ => trivial))
  refine Task.safe_bind (Task.safe_result_cases (Task.safe_bind (Task.safe_perform trivial ?_ (hundo _))))
  have hwired : Logs (fun l => l = plan.createCmds ++ plan.wireCmds) plan.createCmds (wireCloneNet plan) :=
    logs_forEach plan.wireCmds _ rfl
  exact Task.Safe.mono (fun l _ hl => hl) (fun l _ => hundo l) hwired

theorem logs_restoreLaunch (env : HostEnv) {cn : CloneNetConfig} (hcn : spec.cloneNet = some cn) :
    Logs (fun l => ∃ plan, clonePlan env spec.name cn = some plan ∧ l = plan.createCmds ++ plan.wireCmds) []
      (restoreLaunch env spec) := by
  refine logs_bind ?_
  unfold restoreNetwork
  rw [hcn]
  dsimp only
  cases hplan : clonePlan env spec.name cn with
  | none => exact trivial
  | some plan =>
    refine logs_bind (t := cloneNetwork plan)
      (Task.Safe.mono (fun l _ hl => ?_) (fun _ he => he) (logs_cloneNetwork plan))
    intro _ net
    exact logs_of_avoids (avoids_restoreMachine _ _ _) ⟨plan, rfl, hl⟩

/-- A branch that succeeds has run the commands of its plan. -/
theorem wired_of_branch {cn : CloneNetConfig} (hcn : spec.cloneNet = some cn) {out : LaunchOutcome}
    (hlaunch : performed (restoreLaunch env spec) outcomes = some (cmds, out)) :
    ∃ plan, clonePlan env spec.name cn = some plan ∧ cmds = plan.createCmds ++ plan.wireCmds :=
  Task.Safe.exec (logs_restoreLaunch env hcn) (performed_eq_some.mp hlaunch)

/-- **The address of a clone.** Its guest has the address of its source's guest, which is the one that was
allocated by the `mm run` it comes from. It is translated to this address if its source was booted, and else if
and only if the launch of its source has returned it. -/
theorem clone_translated_iff (cs : List Command) (w w' : World) (env : HostEnv) (name id : String)
    (spec : RestoreSpec) (outcomes : List Bool) (hrun : run World.step .init cs = some w)
    (hbranch : w.step (.branch env name id spec outcomes) = some w') :
    ∃ source clone, w.answering name = some source ∧ w'.worker spec.name = some clone ∧
      clone.guest = source.guest ∧ w.runs[source.guest.origin]? = some source.guest.ip ∧
      (source.booted = true → Translates clone.wired clone.guest.ip) ∧
      (Translates clone.wired clone.guest.ip ↔ source.ip = source.guest.ip) := by
  have hsound := Sound.of_run hrun
  cases World.step_cases hbranch with
  | @branch _ _ _ _ _ cn source cmds out hfree hcn hsource hlaunch =>
  obtain ⟨hworker, -⟩ := World.worker_of_answering hsource
  have hmem := World.mem_of_worker hworker
  -- the address that is translated is the recorded one, and so the one that was returned for the source
  obtain ⟨⟨src, hsrc, hip⟩, -, -, -⟩ := Registry.chooseClone_eq_some hcn
  have hinternal : cn.internalIp = source.ip := by
    obtain ⟨hsrcmem, rfl⟩ := Registry.mem_of_get hsrc
    obtain ⟨g, hg, hgip⟩ := hsound.recorded src hsrcmem
    obtain rfl := Option.some.inj (hg.symm.trans hworker)
    exact Option.some.inj (hip.symm.trans hgip)
  obtain ⟨plan, hplan, rfl⟩ := wired_of_branch rfl hlaunch
  have hplanIp : plan.internalIp = source.ip := by
    obtain ⟨link, -, rfl⟩ := Option.map_eq_some_iff.mp hplan
    exact hinternal
  have hiff : Translates (plan.createCmds ++ plan.wireCmds) source.guest.ip ↔ source.ip = source.guest.ip := by
    rw [translates_iff, hplanIp]
  refine ⟨source, _, hsource, List.find?_cons_of_pos (decide_eq_true rfl), rfl, hsound.lineage source hmem, ?_,
    hiff⟩
  exact fun hbooted => hiff.mpr (hsound.booted source hmem hbooted)

/-! ### Runs -/

/-- `mm branch` of a machine. -/
def branches (source id clone : String) : Command :=
  .branch hostEnv source id { cloneSpec with name := clone } (List.replicate 37 true)

theorem clone_translated_web :
    ∃ w w' clone, run World.step .init snapshotted = some w ∧ w.step (branches "web" "8" "a") = some w' ∧
      w'.worker "a" = some clone ∧ Translates clone.wired clone.guest.ip := by
  obtain ⟨source, clone, hsource, hclone, -, -, hbooted, -⟩ :=
    clone_translated_iff snapshotted _ _ hostEnv "web" "8" { cloneSpec with name := "a" } (List.replicate 37 true)
      rfl rfl
  refine ⟨_, _, clone, rfl, rfl, hclone, hbooted ?_⟩
  cases hsource
  rfl

/-- A rule that translates addresses. -/
def isTranslation : Net.Cmd → Bool
  | .snatIn _ _ _ _ _ => true
  | .dnatIn _ _ _ _ _ => true
  | _ => false

/-- A clone of a clone: the guest has the address `10.0.0.2` of `web`, and is translated to that of the clone it
was branched off. -/
theorem clone_of_clone :
    (run World.step .init (snapshotted ++ [branches "web" "8" "a", branches "a" "9" "b"])).bind (fun w =>
      (w.worker "b").map (fun clone => (clone.guest.ip, clone.wired.filter isTranslation))) =
      some (⟨10, 0, 0, 2⟩, [.snatIn "mm-clone-b" .add ⟨10, 0, 0, 3⟩ "mmvc1" ⟨10, 0, 0, 4⟩,
          .dnatIn "mm-clone-b" .add "mmvc1" ⟨10, 0, 0, 4⟩ ⟨10, 0, 0, 3⟩]) := by
  decide +kernel

end MicroMachines.Host.Machines
