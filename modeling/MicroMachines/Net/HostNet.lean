import MicroMachines.Net.Clone

set_option autoImplicit false

/-! # The network of a host

What `ip` and `iptables` change on a host: named namespaces, links, routes to single addresses and
masquerade rules.

What depends on something else is there only as long as that is: a link with its other end in a namespace, a
route through a link. `HostNet` carries this, and that names are unique, in its fields.
-/

namespace MicroMachines.Net

open MicroMachines.Boot

/-- A link of the host. `peerNs` is the named namespace that the other end is in, for a veth pair. -/
structure Link where
  name : String
  peerNs : Option String
  deriving DecidableEq, Repr

/-- A route to a single address. -/
structure Route where
  dst : Ipv4Addr
  metric : Nat
  dev : String
  deriving DecidableEq, Repr

/-- A rule for packets from a network that leave through `out`. -/
structure MasqRule where
  source : Ipv4Addr
  len : Nat
  out : String
  deriving DecidableEq, Repr

@[ext] structure HostNet where
  namespaces : List String
  links : List Link
  /-- In the order in which they are looked up. -/
  routes : List Route
  rules : List MasqRule
  namespaces_nodup : namespaces.Nodup
  links_nodup : (links.map Link.name).Nodup
  peer_mem : ∀ l ∈ links, ∀ ns, l.peerNs = some ns → ns ∈ namespaces
  dev_mem : ∀ r ∈ routes, r.dev ∈ links.map Link.name

namespace HostNet

/-! ## Changes -/

def linkNames (n : HostNet) : List String := n.links.map Link.name

def addNamespace (ns : String) (n : HostNet) : HostNet :=
  if h : ns ∈ n.namespaces then n
  else
    { n with
      namespaces := ns :: n.namespaces
      namespaces_nodup := List.nodup_cons.mpr ⟨h, n.namespaces_nodup⟩
      peer_mem := fun l hl ns' hpeer => List.mem_cons_of_mem ns (n.peer_mem l hl ns' hpeer) }

/-- Keep the links that satisfy `p`, and the routes through them. -/
def keepLinks (p : Link → Bool) (n : HostNet) : HostNet :=
  { n with
    links := n.links.filter p
    routes := n.routes.filter (fun r => r.dev ∈ (n.links.filter p).map Link.name)
    links_nodup := n.links_nodup.sublist (List.filter_sublist.map Link.name)
    peer_mem := fun l hl ns hpeer => n.peer_mem l (List.mem_of_mem_filter hl) ns hpeer
    dev_mem := fun _ hr => of_decide_eq_true (List.mem_filter.mp hr).2 }

def delLink (name : String) (n : HostNet) : HostNet := n.keepLinks (fun l => l.name ≠ name)

/-- The pairs with an end in the namespace go with it. -/
def delNamespace (ns : String) (n : HostNet) : HostNet :=
  { n.keepLinks (fun l => l.peerNs ≠ some ns) with
    namespaces := n.namespaces.filter (· ≠ ns)
    namespaces_nodup := n.namespaces_nodup.filter _
    peer_mem := by
      intro l hl ns' hpeer
      obtain ⟨hmem, hne⟩ := List.mem_filter.mp hl
      refine List.mem_filter.mpr ⟨n.peer_mem l hmem ns' hpeer, ?_⟩
      rw [hpeer] at hne
      simpa using hne }

def addLink (l : Link) (n : HostNet) : HostNet :=
  if h : l.name ∉ n.linkNames ∧ ∀ ns ∈ l.peerNs, ns ∈ n.namespaces then
    { n with
      links := l :: n.links
      links_nodup := List.nodup_cons.mpr ⟨h.1, n.links_nodup⟩
      peer_mem := by
        intro l' hl' ns hpeer
        rcases List.mem_cons.mp hl' with rfl | hl'
        · exact h.2 ns hpeer
        · exact n.peer_mem l' hl' ns hpeer
      dev_mem := fun r hr => List.mem_cons_of_mem l.name (n.dev_mem r hr) }
  else n

def addRoute (r : Route) (n : HostNet) : HostNet :=
  if h : r.dev ∈ n.linkNames then
    { n with
      routes := r :: n.routes
      dev_mem := List.forall_mem_cons.mpr ⟨h, n.dev_mem⟩ }
  else n

/-- The first route to the address goes. -/
def delRoute (dst : Ipv4Addr) (n : HostNet) : HostNet :=
  { n with
    routes := n.routes.eraseP (fun r => r.dst = dst)
    dev_mem := fun r hr => n.dev_mem r (List.mem_of_mem_eraseP hr) }

def addRule (r : MasqRule) (n : HostNet) : HostNet := { n with rules := n.rules ++ [r] }

/-- The first of the rules that are the same goes. -/
def delRule (r : MasqRule) (n : HostNet) : HostNet := { n with rules := n.rules.erase r }

/-! ## Commands -/

/-- What a command does that succeeds. -/
def exec : Cmd → HostNet → HostNet
  | .netnsAdd ns => addNamespace ns
  | .netnsDel ns => delNamespace ns
  | .vethAdd dev _ ns => addLink ⟨dev, some ns⟩
  | .linkDel dev => delLink dev
  | .masquerade .add source out => addRule ⟨source, 30, out⟩
  | .masquerade .del source out => delRule ⟨source, 30, out⟩
  | .routeAdd dst _ dev => addRoute ⟨dst, 0, dev⟩
  | .routeDel dst => delRoute dst
  | _ => fun n => n

/-- What a command needs to succeed: what it adds is not there yet, and what it deletes is. -/
def Possible (n : HostNet) : Cmd → Prop
  | .netnsAdd ns => ns ∉ n.namespaces
  | .netnsDel ns => ns ∈ n.namespaces
  | .vethAdd dev _ ns => dev ∉ n.linkNames ∧ ns ∈ n.namespaces
  | .linkDel dev => dev ∈ n.linkNames
  | .masquerade .del source out => ⟨source, 30, out⟩ ∈ n.rules
  | .routeAdd dst _ dev => (∀ r ∈ n.routes, ¬ (r.dst = dst ∧ r.metric = 0)) ∧ dev ∈ n.linkNames
  | .routeDel dst => ∃ r ∈ n.routes, r.dst = dst
  | _ => True

instance (n : HostNet) : (cmd : Cmd) → Decidable (n.Possible cmd)
  | .netnsAdd ns => inferInstanceAs (Decidable (ns ∉ n.namespaces))
  | .netnsDel ns => inferInstanceAs (Decidable (ns ∈ n.namespaces))
  | .vethAdd dev _ ns => inferInstanceAs (Decidable (dev ∉ n.linkNames ∧ ns ∈ n.namespaces))
  | .linkDel dev => inferInstanceAs (Decidable (dev ∈ n.linkNames))
  | .masquerade .add _ _ => instDecidableTrue
  | .masquerade .del source out => inferInstanceAs (Decidable (⟨source, 30, out⟩ ∈ n.rules))
  | .routeAdd dst _ dev => inferInstanceAs (Decidable
      ((∀ r ∈ n.routes, ¬ (r.dst = dst ∧ r.metric = 0)) ∧ dev ∈ n.linkNames))
  | .routeDel dst => inferInstanceAs (Decidable (∃ r ∈ n.routes, r.dst = dst))
  | .netnsLoUp _ => instDecidableTrue
  | .addrAdd _ _ _ => instDecidableTrue
  | .linkUp _ => instDecidableTrue
  | .addrAddIn _ _ _ _ => instDecidableTrue
  | .linkUpIn _ _ => instDecidableTrue
  | .defaultRouteIn _ _ => instDecidableTrue
  | .ipForwardIn _ => instDecidableTrue
  | .forwardPolicyIn _ => instDecidableTrue
  | .forwardPolicy => instDecidableTrue
  | .snatIn _ _ _ _ _ => instDecidableTrue
  | .dnatIn _ _ _ _ _ => instDecidableTrue

end HostNet

/-- A command that deletes something. -/
def Cmd.deletes : Cmd → Bool
  | .netnsDel _ | .linkDel _ | .masquerade .del _ _ | .routeDel _ => true
  | _ => false

namespace HostNet

/-- How a command can end. Any may fail, but one that deletes something fails only if that is not there. -/
def Allows (n : HostNet) (cmd : Cmd) (b : Bool) : Prop :=
  if b then n.Possible cmd else cmd.deletes = true → ¬ n.Possible cmd

instance (n : HostNet) (cmd : Cmd) (b : Bool) : Decidable (n.Allows cmd b) :=
  inferInstanceAs (Decidable (if b then n.Possible cmd else cmd.deletes = true → ¬ n.Possible cmd))

theorem keepLinks_of_forall {n : HostNet} {p : Link → Bool} (h : ∀ l ∈ n.links, p l = true) :
    n.keepLinks p = n := by
  have hlinks : n.links.filter p = n.links := List.filter_eq_self.mpr h
  have hroutes : n.routes.filter (fun r => r.dev ∈ (n.links.filter p).map Link.name) = n.routes := by
    rw [hlinks]
    exact List.filter_eq_self.mpr (fun r hr => decide_eq_true (n.dev_mem r hr))
  exact HostNet.ext rfl hlinks hroutes rfl

/-- Deleting what is not there changes nothing. -/
theorem exec_of_not_possible {n : HostNet} {cmd : Cmd} (hdel : cmd.deletes = true)
    (h : ¬ n.Possible cmd) : n.exec cmd = n := by
  cases cmd with
  | netnsDel ns =>
    have hns : ns ∉ n.namespaces := h
    have hkeep : n.keepLinks (fun l => l.peerNs ≠ some ns) = n := by
      apply keepLinks_of_forall
      intro l hl
      exact decide_eq_true (fun heq => hns (n.peer_mem l hl ns heq))
    have hfilter : n.namespaces.filter (· ≠ ns) = n.namespaces := by
      apply List.filter_eq_self.mpr
      intro ns' hns'
      exact decide_eq_true (fun heq => hns (heq ▸ hns'))
    have hlinks := congrArg links hkeep
    have hroutes := congrArg routes hkeep
    exact HostNet.ext hfilter hlinks hroutes rfl
  | linkDel dev =>
    apply keepLinks_of_forall
    intro l hl
    exact decide_eq_true (fun heq => h (heq ▸ List.mem_map_of_mem hl))
  | routeDel dst =>
    refine HostNet.ext rfl rfl (List.eraseP_of_forall_not (fun r hr => ?_)) rfl
    have hdst : r.dst ≠ dst := fun heq => h ⟨r, hr, heq⟩
    simpa using hdst
  | masquerade action source out =>
    cases action with
    | add => cases hdel
    | del => exact HostNet.ext rfl rfl rfl (List.erase_of_not_mem h)
  | _ => cases hdel

/-- The same namespaces, links, routes and rules. -/
structure Same (n n' : HostNet) : Prop where
  namespaces : n'.namespaces.Perm n.namespaces
  links : n'.links.Perm n.links
  routes : n'.routes.Perm n.routes
  rules : n'.rules.Perm n.rules

theorem Same.refl (n : HostNet) : n.Same n := ⟨.refl _, .refl _, .refl _, .refl _⟩

end HostNet

end MicroMachines.Net
