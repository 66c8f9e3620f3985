import MicroMachines.Lib.Table
import MicroMachines.Net.HostNet

set_option autoImplicit false

/-! # What a plan builds, and what is left when it is taken down

Four of the commands of a plan change what `HostNet` knows of: they add a namespace, a pair of links, a rule
and a route. `teardownCmds` deletes what has their names. That is what was built only if nothing with these
names was there before (`same_torn_iff`).
-/

namespace MicroMachines.Net

open MicroMachines.Lib MicroMachines.Boot

namespace CloneNetPlan

variable (plan : CloneNetPlan)

/-- The pair of links. -/
def pair : Link := ⟨plan.hostVeth, some plan.netns⟩

def rule : MasqRule := ⟨plan.linkNet, 30, plan.upstream⟩

def route : Route := ⟨plan.cloneIp, 0, plan.hostVeth⟩

/-- What is left when the plan has been taken down. -/
def torn (n : HostNet) : HostNet := plan.teardownCmds.foldl (fun n cmd => n.exec cmd) n

end CloneNetPlan

variable {plan : CloneNetPlan} {n v : HostNet}

/-- Where the wiring has got to: the namespace, and of the rest the pair and the rule, if they have been
reached. -/
structure Partly (plan : CloneNetPlan) (n : HostNet) (paired ruled : Bool) (v : HostNet) : Prop where
  fresh : plan.netns ∉ n.namespaces
  unpaired : paired = true → plan.hostVeth ∉ n.linkNames
  namespaces : v.namespaces = plan.netns :: n.namespaces
  links : v.links = (if paired then [plan.pair] else []) ++ n.links
  routes : v.routes = n.routes
  rules : v.rules = n.rules ++ (if ruled then [plan.rule] else [])

/-- The plan has been carried out. -/
structure Built (plan : CloneNetPlan) (n v : HostNet) : Prop where
  fresh : plan.netns ∉ n.namespaces
  unpaired : plan.hostVeth ∉ n.linkNames
  unrouted : ∀ r ∈ n.routes, ¬ (r.dst = plan.cloneIp ∧ r.metric = 0)
  namespaces : v.namespaces = plan.netns :: n.namespaces
  links : v.links = plan.pair :: n.links
  routes : v.routes = plan.route :: n.routes
  rules : v.rules = n.rules ++ [plan.rule]

/-! ## The steps that change something -/

theorem partly_addNamespace (h : plan.netns ∉ n.namespaces) :
    Partly plan n false false (n.addNamespace plan.netns) := by
  unfold HostNet.addNamespace
  rw [dif_neg h]
  exact ⟨h, fun hpaired => absurd hpaired Bool.false_ne_true, rfl, rfl, rfl, (List.append_nil _).symm⟩

theorem Partly.addLink (h : Partly plan n false false v) (hpair : plan.hostVeth ∉ v.linkNames) :
    Partly plan n true false (v.addLink plan.pair) := by
  have hlinks : v.links = n.links := h.links
  have hmem : ∀ ns ∈ plan.pair.peerNs, ns ∈ v.namespaces := by
    intro ns hns
    cases hns
    rw [h.namespaces]
    exact List.mem_cons_self
  unfold HostNet.addLink
  rw [dif_pos ⟨hpair, hmem⟩]
  refine ⟨h.fresh, fun _ => ?_, h.namespaces, ?_, h.routes, h.rules⟩
  · rw [HostNet.linkNames, hlinks] at hpair
    exact hpair
  · show plan.pair :: v.links = _
    rw [hlinks]
    rfl

theorem Partly.addRule (h : Partly plan n true false v) :
    Partly plan n true true (v.addRule plan.rule) := by
  refine ⟨h.fresh, h.unpaired, h.namespaces, h.links, h.routes, ?_⟩
  show v.rules ++ [plan.rule] = _
  rw [h.rules]
  simp

theorem Partly.addRoute (h : Partly plan n true true v)
    (hroute : ∀ r ∈ v.routes, ¬ (r.dst = plan.cloneIp ∧ r.metric = 0)) :
    Built plan n (v.addRoute plan.route) := by
  have hdev : plan.route.dev ∈ v.linkNames := by
    rw [HostNet.linkNames, h.links]
    exact List.mem_cons_self
  rw [h.routes] at hroute
  unfold HostNet.addRoute
  rw [dif_pos hdev]
  refine ⟨h.fresh, h.unpaired rfl, hroute, h.namespaces, h.links, ?_, h.rules⟩
  show plan.route :: v.routes = _
  rw [h.routes]

/-! ## Taking it down -/

@[simp] theorem torn_namespaces : (plan.torn v).namespaces = v.namespaces.filter (· ≠ plan.netns) := rfl

@[simp] theorem torn_rules : (plan.torn v).rules = v.rules.erase plan.rule := rfl

theorem torn_links : (plan.torn v).links =
    (v.links.filter (fun l => l.name ≠ plan.hostVeth)).filter (fun l => l.peerNs ≠ some plan.netns) := rfl

/-- The first route to the address goes, and those through links that go. -/
theorem torn_routes : (plan.torn v).routes =
    (v.routes.eraseP (fun r => r.dst = plan.cloneIp)).filter
      (fun r => r.dev ∈ (plan.torn v).linkNames) := by
  have hstep : (plan.torn v).routes =
      ((v.routes.eraseP (fun r => r.dst = plan.cloneIp)).filter (fun r => r.dev ∈
        (v.links.filter (fun l => l.name ≠ plan.hostVeth)).map Link.name)).filter
          (fun r => r.dev ∈ (plan.torn v).linkNames) := rfl
  rw [hstep, List.filter_filter]
  refine List.filter_congr (fun r _ => ?_)
  -- what is left in the end was left after the first deletion
  have hsub : r.dev ∈ (plan.torn v).linkNames →
      r.dev ∈ (v.links.filter (fun l => l.name ≠ plan.hostVeth)).map Link.name := by
    intro hmem
    rw [HostNet.linkNames, torn_links] at hmem
    exact (List.filter_sublist.map Link.name).subset hmem
  simpa using hsub

theorem Partly.torn_namespaces_eq {paired ruled : Bool} (h : Partly plan n paired ruled v) :
    (plan.torn v).namespaces = n.namespaces := by
  rw [torn_namespaces, h.namespaces, List.filter_cons_of_neg (by simp), List.filter_eq_self]
  intro ns hns
  have hne : ns ≠ plan.netns := fun heq => h.fresh (heq ▸ hns)
  simpa using hne

/-- Nothing but the pair has an end in the namespace. -/
theorem Partly.torn_links_eq {paired ruled : Bool} (h : Partly plan n paired ruled v) :
    (plan.torn v).links = n.links.filter (fun l => l.name ≠ plan.hostVeth) := by
  have hpair : ((if paired then [plan.pair] else []) : List Link).filter
      (fun l => l.name ≠ plan.hostVeth) = [] := by
    cases paired <;> simp [CloneNetPlan.pair]
  rw [torn_links, h.links, List.filter_append, hpair, List.nil_append, List.filter_eq_self]
  intro l hl
  have hne : l.peerNs ≠ some plan.netns := fun heq =>
    h.fresh (n.peer_mem l (List.mem_of_mem_filter hl) plan.netns heq)
  simpa using hne

theorem Partly.perm_links_iff {paired ruled : Bool} (h : Partly plan n paired ruled v) :
    (plan.torn v).links.Perm n.links ↔ plan.hostVeth ∉ n.linkNames := by
  have hself : n.links.filter (fun l => l.name ≠ plan.hostVeth) = n.links ↔ plan.hostVeth ∉ n.linkNames := by
    simp [HostNet.linkNames, List.filter_eq_self]
  rw [h.torn_links_eq, ← hself]
  constructor
  · intro hperm
    exact List.filter_sublist.eq_of_length hperm.length_eq
  · intro heq
    rw [heq]

theorem Partly.perm_routes_iff {paired ruled : Bool} (h : Partly plan n paired ruled v)
    (hpair : plan.hostVeth ∉ n.linkNames) :
    (plan.torn v).routes.Perm n.routes ↔ ∀ r ∈ n.routes, r.dst ≠ plan.cloneIp := by
  have hlinks : (plan.torn v).links = n.links := by
    rw [h.torn_links_eq, List.filter_eq_self]
    intro l hl
    have hne : l.name ≠ plan.hostVeth := fun heq => hpair (heq ▸ List.mem_map_of_mem hl)
    simpa using hne
  -- every link is still there, so a route goes only because of its address
  have hroutes : (plan.torn v).routes = n.routes.eraseP (fun r => r.dst = plan.cloneIp) := by
    rw [torn_routes, h.routes, List.filter_eq_self]
    intro r hr
    rw [HostNet.linkNames, hlinks]
    exact decide_eq_true (n.dev_mem r (List.mem_of_mem_eraseP hr))
  rw [hroutes]
  constructor
  · intro hperm r hr hdst
    have hlen := hperm.length_eq
    have hpos := List.length_pos_of_mem hr
    rw [List.length_eraseP_of_mem hr (decide_eq_true hdst)] at hlen
    omega
  · intro hall
    rw [List.eraseP_of_forall_not (fun r hr => by simpa using hall r hr)]

theorem Partly.perm_rules_iff {paired ruled : Bool} (h : Partly plan n paired ruled v) :
    (plan.torn v).rules.Perm n.rules ↔ plan.rule ∉ n.rules ∨ ruled = true := by
  rw [torn_rules, h.rules]
  cases ruled with
  | true =>
    have hperm : (n.rules ++ [plan.rule]).Perm (plan.rule :: n.rules) := List.perm_append_singleton _ _
    have herase := hperm.erase plan.rule
    rw [List.erase_cons_head] at herase
    exact iff_of_true herase (Or.inr rfl)
  | false =>
    rw [if_neg Bool.false_ne_true, List.append_nil]
    constructor
    · intro hperm
      refine Or.inl (fun hmem => ?_)
      have hlen := hperm.length_eq
      have hpos := List.length_pos_of_mem hmem
      rw [List.length_erase_of_mem hmem] at hlen
      omega
    · intro hor
      rw [List.erase_of_not_mem (hor.resolve_right Bool.false_ne_true)]

/-- **Taking down what was partly built** leaves the network as it was if and only if nothing else had the
name of the link or a route to the address, and no rule was there before unless it has been added again. -/
theorem same_torn_iff {paired ruled : Bool} (h : Partly plan n paired ruled v) :
    n.Same (plan.torn v) ↔ plan.hostVeth ∉ n.linkNames ∧ (∀ r ∈ n.routes, r.dst ≠ plan.cloneIp) ∧
      (plan.rule ∉ n.rules ∨ ruled = true) := by
  constructor
  · intro hsame
    have hpair := h.perm_links_iff.mp hsame.links
    exact ⟨hpair, (h.perm_routes_iff hpair).mp hsame.routes, h.perm_rules_iff.mp hsame.rules⟩
  · rintro ⟨hpair, hroute, hrule⟩
    refine ⟨?_, h.perm_links_iff.mpr hpair, (h.perm_routes_iff hpair).mpr hroute, h.perm_rules_iff.mpr hrule⟩
    rw [h.torn_namespaces_eq]

/-! ## What stands -/

/-- The route of the plan is the first to its address, and the only one through its link. -/
def Placed (plan : CloneNetPlan) (routes : List Route) : Prop :=
  ∃ before after, routes = before ++ plan.route :: after ∧
    (∀ r ∈ before, r.dst ≠ plan.cloneIp ∧ r.dev ≠ plan.hostVeth) ∧ ∀ r ∈ after, r.dev ≠ plan.hostVeth

section Placed

variable {routes : List Route}

theorem Placed.cons (h : Placed plan routes) {r : Route} (hdst : r.dst ≠ plan.cloneIp)
    (hdev : r.dev ≠ plan.hostVeth) : Placed plan (r :: routes) := by
  obtain ⟨before, after, rfl, hbefore, hafter⟩ := h
  exact ⟨r :: before, after, rfl, List.forall_mem_cons.mpr ⟨⟨hdst, hdev⟩, hbefore⟩, hafter⟩

theorem Placed.filter (h : Placed plan routes) {p : Route → Bool} (hp : p plan.route = true) :
    Placed plan (routes.filter p) := by
  obtain ⟨before, after, rfl, hbefore, hafter⟩ := h
  refine ⟨before.filter p, after.filter p, ?_, ?_, ?_⟩
  · rw [List.filter_append, List.filter_cons_of_pos hp]
  · exact fun r hr => hbefore r (List.mem_of_mem_filter hr)
  · exact fun r hr => hafter r (List.mem_of_mem_filter hr)

theorem Placed.eraseP (h : Placed plan routes) {p : Route → Bool} (hp : p plan.route = false) :
    Placed plan (routes.eraseP p) := by
  obtain ⟨before, after, rfl, hbefore, hafter⟩ := h
  by_cases hany : ∃ r ∈ before, p r = true
  · obtain ⟨r, hr, hpr⟩ := hany
    refine ⟨before.eraseP p, after, List.eraseP_append_left hpr _ hr, ?_, hafter⟩
    exact fun r hr => hbefore r (List.mem_of_mem_eraseP hr)
  · have hnone : ∀ r ∈ before, ¬ p r = true := fun r hr hpr => hany ⟨r, hr, hpr⟩
    refine ⟨before, after.eraseP p, ?_, hbefore, fun r hr => hafter r (List.mem_of_mem_eraseP hr)⟩
    rw [List.eraseP_append_right _ hnone, List.eraseP_cons_of_neg (by simp [hp])]

/-- Deleting the first route to the address and all through the link takes this one alone. -/
theorem Placed.perm (h : Placed plan routes) : ∃ rest, routes.eraseP (fun r => r.dst = plan.cloneIp) = rest ∧
    routes.Perm (plan.route :: rest) ∧ ∀ r ∈ rest, r.dev ≠ plan.hostVeth := by
  obtain ⟨before, after, rfl, hbefore, hafter⟩ := h
  refine ⟨before ++ after, ?_, List.perm_middle, ?_⟩
  · rw [List.eraseP_append_right _ (fun r hr => by simpa using (hbefore r hr).1),
      List.eraseP_cons_of_pos (by simp [CloneNetPlan.route])]
  · intro r hr
    rcases List.mem_append.mp hr with hr | hr
    · exact (hbefore r hr).2
    · exact hafter r hr

end Placed

/-- All that the plan has built is there, and nothing else has to do with it. -/
structure Standing (plan : CloneNetPlan) (n : HostNet) : Prop where
  netns : plan.netns ∈ n.namespaces
  pair : plan.pair ∈ n.links
  alone : ∀ l ∈ n.links, l.peerNs = some plan.netns → l = plan.pair
  route : Placed plan n.routes
  rule : plan.rule ∈ n.rules

theorem Built.standing (h : Built plan n v) : Standing plan v := by
  refine ⟨?_, ?_, ?_, ⟨[], n.routes, h.routes, fun _ hr => absurd hr List.not_mem_nil, ?_⟩, ?_⟩
  · rw [h.namespaces]
    exact List.mem_cons_self
  · rw [h.links]
    exact List.mem_cons_self
  · intro l hl hpeer
    rw [h.links] at hl
    rcases List.mem_cons.mp hl with rfl | hl
    · rfl
    · exact absurd (n.peer_mem l hl plan.netns hpeer) h.fresh
  · exact fun r hr heq => h.unpaired (heq ▸ n.dev_mem r hr)
  · rw [h.rules]
    exact List.mem_append_right _ (List.mem_singleton.mpr rfl)

namespace Standing

theorem addLink (h : Standing plan n) {l : Link} (hpeer : l.peerNs ≠ some plan.netns) :
    Standing plan (n.addLink l) := by
  unfold HostNet.addLink
  split_ifs
  · refine ⟨h.netns, List.mem_cons_of_mem l h.pair, ?_, h.route, h.rule⟩
    exact List.forall_mem_cons.mpr ⟨fun heq => absurd heq hpeer, h.alone⟩
  · exact h

theorem addRule (h : Standing plan n) (r : MasqRule) : Standing plan (n.addRule r) :=
  ⟨h.netns, h.pair, h.alone, h.route, List.mem_append_left _ h.rule⟩

/-- Another plan is carried out. -/
theorem built {plan' : CloneNetPlan} (h : Standing plan n) (hb : Built plan' n v)
    (hns : plan'.netns ≠ plan.netns) (hip : plan'.cloneIp ≠ plan.cloneIp)
    (hveth : plan'.hostVeth ≠ plan.hostVeth) : Standing plan v := by
  refine ⟨?_, ?_, ?_, ?_, ?_⟩
  · rw [hb.namespaces]
    exact List.mem_cons_of_mem _ h.netns
  · rw [hb.links]
    exact List.mem_cons_of_mem _ h.pair
  · rw [hb.links]
    exact List.forall_mem_cons.mpr ⟨fun heq => absurd (Option.some.inj heq) hns, h.alone⟩
  · rw [hb.routes]
    exact h.route.cons hip hveth
  · rw [hb.rules]
    exact List.mem_append_left _ h.rule

theorem keepLinks (h : Standing plan n) {p : Link → Bool} (hp : p plan.pair = true) :
    Standing plan (n.keepLinks p) := by
  have hpair : plan.pair ∈ n.links.filter p := List.mem_filter.mpr ⟨h.pair, hp⟩
  refine ⟨h.netns, hpair, ?_, h.route.filter ?_, h.rule⟩
  · exact fun l hl => h.alone l (List.mem_of_mem_filter hl)
  · exact decide_eq_true (List.mem_map_of_mem hpair)

theorem delLink (h : Standing plan n) {name : String} (hname : name ≠ plan.hostVeth) :
    Standing plan (n.delLink name) :=
  h.keepLinks (decide_eq_true (fun heq => hname heq.symm))

theorem delNamespace (h : Standing plan n) {ns : String} (hns : ns ≠ plan.netns) :
    Standing plan (n.delNamespace ns) := by
  have hkeep : Standing plan (n.keepLinks (fun l => l.peerNs ≠ some ns)) :=
    h.keepLinks (decide_eq_true (fun heq => hns (Option.some.inj heq).symm))
  refine ⟨?_, hkeep.pair, hkeep.alone, hkeep.route, hkeep.rule⟩
  exact List.mem_filter.mpr ⟨h.netns, decide_eq_true (fun heq => hns heq.symm)⟩

theorem delRoute (h : Standing plan n) {dst : Ipv4Addr} (hdst : dst ≠ plan.cloneIp) :
    Standing plan (n.delRoute dst) :=
  ⟨h.netns, h.pair, h.alone, h.route.eraseP (decide_eq_false (fun heq => hdst heq.symm)), h.rule⟩

theorem delRule (h : Standing plan n) {r : MasqRule} (hr : r ≠ plan.rule) : Standing plan (n.delRule r) :=
  ⟨h.netns, h.pair, h.alone, h.route, (List.mem_erase_of_ne (Ne.symm hr)).mpr h.rule⟩

/-- Another plan is taken down. -/
theorem torn {plan' : CloneNetPlan} (h : Standing plan n) (hns : plan'.netns ≠ plan.netns)
    (hip : plan'.cloneIp ≠ plan.cloneIp) (hveth : plan'.hostVeth ≠ plan.hostVeth)
    (hrule : plan'.rule ≠ plan.rule) : Standing plan (plan'.torn n) :=
  (((h.delRule hrule).delRoute hip).delLink hveth).delNamespace hns

end Standing

/-- The namespace, the pair and the route of the plan are gone, and no others. -/
structure Removed (plan : CloneNetPlan) (n v : HostNet) : Prop where
  namespaces : n.namespaces.Perm (plan.netns :: v.namespaces)
  links : n.links.Perm (plan.pair :: v.links)
  routes : n.routes.Perm (plan.route :: v.routes)

/-- The plan is taken down by one that agrees with it on all but the rule. -/
theorem Standing.removed {plan' : CloneNetPlan} (h : Standing plan n) (hns : plan'.netns = plan.netns)
    (hip : plan'.cloneIp = plan.cloneIp) (hveth : plan'.hostVeth = plan.hostVeth) :
    Removed plan n (plan'.torn n) := by
  have hlinks : (plan'.torn n).links = n.links.filter (fun l => l.name ≠ plan.hostVeth) := by
    rw [torn_links, hns, hveth, List.filter_eq_self]
    intro l hl
    obtain ⟨hmem, hname⟩ := List.mem_filter.mp hl
    refine decide_eq_true (fun heq => ?_)
    rw [h.alone l hmem heq] at hname
    exact of_decide_eq_true hname rfl
  have hnamespaces : n.namespaces.Perm (plan.netns :: n.namespaces.filter (· ≠ plan.netns)) :=
    @Table.perm_erase _ _ _ id n.namespaces _ (by simpa using n.namespaces_nodup) h.netns
  obtain ⟨rest, herase, hperm, hdev⟩ := h.route.perm
  have hroutes : (plan'.torn n).routes = rest := by
    rw [torn_routes, hip, herase, List.filter_eq_self]
    intro r hr
    rw [HostNet.linkNames, hlinks]
    -- the link of another route is still there
    obtain ⟨l, hl, hname⟩ := List.mem_map.mp (n.dev_mem r (hperm.mem_iff.mpr (List.mem_cons_of_mem _ hr)))
    refine decide_eq_true (List.mem_map.mpr ⟨l, List.mem_filter.mpr ⟨hl, ?_⟩, hname⟩)
    exact decide_eq_true (fun heq => hdev r hr (hname.symm.trans heq))
  refine ⟨?_, ?_, ?_⟩
  · rw [torn_namespaces, hns]
    exact hnamespaces
  · rw [hlinks]
    exact Table.perm_erase n.links_nodup h.pair
  · rw [hroutes]
    exact hperm

/-- The rule goes too if and only if it is the same. -/
theorem Standing.perm_rules_iff {plan' : CloneNetPlan} (h : Standing plan n) :
    n.rules.Perm (plan.rule :: (plan'.torn n).rules) ↔ plan'.rule = plan.rule := by
  rw [torn_rules]
  constructor
  · intro hperm
    by_contra hne
    have hcount := hperm.count_eq plan.rule
    rw [List.count_cons_self, List.count_erase_of_ne (Ne.symm hne)] at hcount
    omega
  · intro heq
    rw [heq]
    exact List.perm_cons_erase h.rule

end MicroMachines.Net
