import MicroMachines.Boot.Cmdline

set_option autoImplicit false

/-! # Addresses and networks of machines

`crates/mm-net`: how a machine gets an address (`ipam.rs`), and how a clone is given a network of its own
(`clone_net.rs`): a namespace for its TAP, a veth pair between the namespace and the host, and address
translation on the way.

A `CloneNetPlan` is computed from the slot of the clone, its name and its addresses. The commands that
build it and those that take it down are computed from the plan.
-/

namespace MicroMachines.Net

open MicroMachines.Boot

/-! ## Addresses of a pool -/

/-- A `/24` pool, with the last octets that are taken. -/
structure Ipam where
  base : UInt8 × UInt8 × UInt8
  gatewayHost : UInt8
  allocated : List UInt8
  deriving DecidableEq, Repr

namespace Ipam

def new (base : UInt8 × UInt8 × UInt8) (gatewayHost : UInt8) : Ipam := ⟨base, gatewayHost, []⟩

def addr (pool : Ipam) (host : UInt8) : Ipv4Addr := ⟨pool.base.1, pool.base.2.1, pool.base.2.2, host⟩

def gateway (pool : Ipam) : Ipv4Addr := pool.addr pool.gatewayHost

def reserve (pool : Ipam) (ip : Ipv4Addr) : Ipam := { pool with allocated := ip.d :: pool.allocated }

/-- The octets that `allocate` goes through. -/
def hosts : List UInt8 := (List.range' 1 254).map UInt8.ofNat

/-- `allocate`: the first that is free. -/
def allocate (pool : Ipam) : Option Ipv4Addr :=
  (hosts.find? (fun host => !(host == pool.gatewayHost || pool.allocated.contains host))).map pool.addr

end Ipam

/-- `SUBNET_BASE` and the gateway of the bridge. -/
def guestPool : Ipam := Ipam.new (10, 0, 0) 1

/-- A pool in which the addresses of the machines that are known are taken. -/
def seeded (ips : List Ipv4Addr) : Ipam := ips.foldl Ipam.reserve guestPool

/-- The address that a new machine gets. -/
def freeAddress (ips : List Ipv4Addr) : Option Ipv4Addr := (seeded ips).allocate

theorem mem_allocated_foldl {ips : List Ipv4Addr} {pool : Ipam} {host : UInt8} :
    host ∈ (ips.foldl Ipam.reserve pool).allocated ↔ host ∈ ips.map Ipv4Addr.d ∨ host ∈ pool.allocated := by
  induction ips generalizing pool with
  | nil => simp
  | cons ip ips ih =>
    rw [List.foldl_cons, ih]
    simp only [Ipam.reserve, List.map_cons, List.mem_cons]
    tauto

/-- **A new address** is one of the pool, and nobody else's. -/
theorem freeAddress_fresh {ips : List Ipv4Addr} {ip : Ipv4Addr} (h : freeAddress ips = some ip) :
    ip ∉ ips := by
  obtain ⟨host, hfind, rfl⟩ := Option.map_eq_some_iff.mp h
  have hfree := List.find?_some hfind
  simp only [Bool.not_eq_true', Bool.or_eq_false_iff, List.contains_eq_mem, decide_eq_false_iff_not] at hfree
  intro hmem
  exact hfree.2 (mem_allocated_foldl.mpr (Or.inl (List.mem_map_of_mem hmem)))

/-! ## The link of a clone -/

/-- `VethLink`: the `/30` between the host and the namespace of a clone. -/
structure VethLink where
  hostAddr : Ipv4Addr
  netnsAddr : Ipv4Addr
  len : Nat
  deriving DecidableEq, Repr

/-- `VethLink::for_index`: four addresses for each slot, while there are any. -/
def VethLink.forIndex (index : Nat) : Option VethLink :=
  let offset := index * 4
  if 65536 ≤ offset then none
  else
    let third := UInt8.ofNat (offset / 256)
    some
      { hostAddr := ⟨10, 201, third, UInt8.ofNat (offset % 256 + 1)⟩
        netnsAddr := ⟨10, 201, third, UInt8.ofNat (offset % 256 + 2)⟩
        len := 30 }

/-- An address with the length of its network. -/
def cidr (ip : Ipv4Addr) (len : Nat) : String := ip.display ++ "/" ++ toString len

/-- `network_addr`: the lowest address of the network. -/
def networkAddr (ip : Ipv4Addr) (len : Nat) : Ipv4Addr :=
  let bits := ((ip.a.toNat * 256 + ip.b.toNat) * 256 + ip.c.toNat) * 256 + ip.d.toNat
  let net := bits / 2 ^ (32 - len) * 2 ^ (32 - len)
  ⟨UInt8.ofNat (net / 2 ^ 24), UInt8.ofNat (net / 2 ^ 16), UInt8.ofNat (net / 2 ^ 8), UInt8.ofNat net⟩

/-- `internal_gateway`: the first address of the guest's `/24`. -/
def internalGateway (ip : Ipv4Addr) : Ipv4Addr := { ip with d := 1 }

def netnsName (machine : String) : String := "mm-clone-" ++ machine

def hostVethName (index : Nat) : String := "mmvh" ++ toString index

def netnsVethName (index : Nat) : String := "mmvc" ++ toString index

/-! ## Commands -/

/-- Add or delete a rule. -/
inductive RuleAction
  | add
  | del
  deriving DecidableEq, Repr

def RuleAction.flag : RuleAction → String
  | .add => "-A"
  | .del => "-D"

/-- The commands that the planner writes, by what they do. -/
inductive Cmd
  | netnsAdd (ns : String)
  | netnsDel (ns : String)
  | netnsLoUp (ns : String)
  | vethAdd (dev peer ns : String)
  | linkDel (dev : String)
  | addrAdd (ip : Ipv4Addr) (len : Nat) (dev : String)
  | linkUp (dev : String)
  | addrAddIn (ns : String) (ip : Ipv4Addr) (len : Nat) (dev : String)
  | linkUpIn (ns dev : String)
  | defaultRouteIn (ns : String) (via : Ipv4Addr)
  | ipForwardIn (ns : String)
  | forwardPolicyIn (ns : String)
  | forwardPolicy
  | snatIn (ns : String) (action : RuleAction) (source : Ipv4Addr) (out : String) (target : Ipv4Addr)
  | dnatIn (ns : String) (action : RuleAction) (dev : String) (dst target : Ipv4Addr)
  /-- `source` is the lowest address of a `/30`. -/
  | masquerade (action : RuleAction) (source : Ipv4Addr) (out : String)
  /-- The kernel takes the device `dev` that the gateway `via` is reached through. -/
  | routeAdd (dst via : Ipv4Addr) (dev : String)
  | routeDel (dst : Ipv4Addr)
  deriving DecidableEq, Repr

/-- The command line. -/
def Cmd.argv : Cmd → List String
  | .netnsAdd ns => ["ip", "netns", "add", ns]
  | .netnsDel ns => ["ip", "netns", "del", ns]
  | .netnsLoUp ns => ["ip", "-n", ns, "link", "set", "lo", "up"]
  | .vethAdd dev peer ns =>
    ["ip", "link", "add", dev, "type", "veth", "peer", "name", peer, "netns", ns]
  | .linkDel dev => ["ip", "link", "del", dev]
  | .addrAdd ip len dev => ["ip", "addr", "add", cidr ip len, "dev", dev]
  | .linkUp dev => ["ip", "link", "set", dev, "up"]
  | .addrAddIn ns ip len dev => ["ip", "-n", ns, "addr", "add", cidr ip len, "dev", dev]
  | .linkUpIn ns dev => ["ip", "-n", ns, "link", "set", dev, "up"]
  | .defaultRouteIn ns via => ["ip", "-n", ns, "route", "add", "default", "via", via.display]
  | .ipForwardIn ns => ["ip", "netns", "exec", ns, "sysctl", "-q", "-w", "net.ipv4.ip_forward=1"]
  | .forwardPolicyIn ns => ["ip", "netns", "exec", ns, "iptables", "-P", "FORWARD", "ACCEPT"]
  | .forwardPolicy => ["iptables", "-P", "FORWARD", "ACCEPT"]
  | .snatIn ns action source out target =>
    ["ip", "netns", "exec", ns, "iptables", "-t", "nat", action.flag, "POSTROUTING", "-s",
      source.display, "-o", out, "-j", "SNAT", "--to", target.display]
  | .dnatIn ns action dev dst target =>
    ["ip", "netns", "exec", ns, "iptables", "-t", "nat", action.flag, "PREROUTING", "-i", dev, "-d",
      dst.display, "-j", "DNAT", "--to", target.display]
  | .masquerade action source out =>
    ["iptables", "-t", "nat", action.flag, "POSTROUTING", "-s", cidr source 30, "-o", out, "-j",
      "MASQUERADE"]
  | .routeAdd dst via _ => ["ip", "route", "add", cidr dst 32, "via", via.display]
  | .routeDel dst => ["ip", "route", "del", cidr dst 32]

/-! ## Plans -/

structure CloneNetPlan where
  index : Nat
  netns : String
  hostVeth : String
  netnsVeth : String
  link : VethLink
  internalIp : Ipv4Addr
  cloneIp : Ipv4Addr
  upstream : String
  tap : String
  deriving DecidableEq, Repr

namespace CloneNetPlan

def new (index : Nat) (machine : String) (internalIp cloneIp : Ipv4Addr) (upstream tap : String) :
    Option CloneNetPlan :=
  (VethLink.forIndex index).map (fun link =>
    { index := index
      netns := netnsName machine
      hostVeth := hostVethName index
      netnsVeth := netnsVethName index
      link := link
      internalIp := internalIp
      cloneIp := cloneIp
      upstream := upstream
      tap := tap })

variable (plan : CloneNetPlan)

/-- Where the masqueraded packets come from. -/
def linkNet : Ipv4Addr := networkAddr plan.link.hostAddr 30

def snat (action : RuleAction) : Cmd :=
  .snatIn plan.netns action plan.internalIp plan.netnsVeth plan.cloneIp

def dnat (action : RuleAction) : Cmd :=
  .dnatIn plan.netns action plan.netnsVeth plan.cloneIp plan.internalIp

def hostMasq (action : RuleAction) : Cmd := .masquerade action plan.linkNet plan.upstream

def hostRoute : Cmd := .routeAdd plan.cloneIp plan.link.netnsAddr plan.hostVeth

/-- The address of the guest's gateway, on the TAP. -/
def netnsTapAddr : Cmd := .addrAddIn plan.netns (internalGateway plan.internalIp) 24 plan.tap

/-- `create_netns`, command by command. -/
def createCmds : List Cmd := [.netnsAdd plan.netns, .netnsLoUp plan.netns]

/-- `wire_clone_net`, command by command. -/
def wireCmds : List Cmd :=
  [.vethAdd plan.hostVeth plan.netnsVeth plan.netns,
    .addrAdd plan.link.hostAddr plan.link.len plan.hostVeth,
    .linkUp plan.hostVeth,
    .addrAddIn plan.netns plan.link.netnsAddr plan.link.len plan.netnsVeth,
    .linkUpIn plan.netns plan.netnsVeth,
    plan.netnsTapAddr,
    .linkUpIn plan.netns plan.tap,
    .defaultRouteIn plan.netns plan.link.hostAddr,
    .ipForwardIn plan.netns,
    .forwardPolicyIn plan.netns,
    .forwardPolicy,
    plan.snat .add,
    plan.dnat .add,
    plan.hostMasq .add,
    plan.hostRoute]

/-- `teardown_clone_net`, command by command. -/
def teardownCmds : List Cmd :=
  [plan.hostMasq .del, .routeDel plan.cloneIp, .linkDel plan.hostVeth, .netnsDel plan.netns]

end CloneNetPlan

/-! ## Slots are apart -/

theorem hostVethName_inj {i j : Nat} (h : hostVethName i = hostVethName j) : i = j := by
  have htext : toString i = toString j := by
    simpa [hostVethName, String.ext_iff] using h
  rw [Nat.toString_eq_ofList_toDigits, Nat.toString_eq_ofList_toDigits] at htext
  have hdigits : Nat.toDigits 10 i = Nat.toDigits 10 j := by
    simpa using congrArg String.toList htext
  rw [← Nat.ofDigitChars_ten_toDigits (n := i), hdigits, Nat.ofDigitChars_ten_toDigits]

theorem netnsName_inj {a b : String} (h : netnsName a = netnsName b) : a = b := by
  simpa [netnsName, String.ext_iff] using h

/-- The networks of the links are `10.201.0.0`, `10.201.0.4` and so on. -/
theorem networkAddr_forIndex {i : Nat} {link : VethLink} (h : VethLink.forIndex i = some link) :
    i < 16384 ∧ networkAddr link.hostAddr 30 =
      ⟨10, 201, UInt8.ofNat (i * 4 / 256), UInt8.ofNat (i * 4 % 256)⟩ := by
  unfold VethLink.forIndex at h
  dsimp only at h
  split_ifs at h with hlt
  cases h
  have hi : i < 16384 := by omega
  have hthird : (UInt8.ofNat (i * 4 / 256)).toNat = i * 4 / 256 := by
    rw [UInt8.toNat_ofNat']
    omega
  have hfourth : (UInt8.ofNat (i * 4 % 256 + 1)).toNat = i * 4 % 256 + 1 := by
    rw [UInt8.toNat_ofNat']
    omega
  have hten : (10 : UInt8).toNat = 10 := rfl
  have hbase : (201 : UInt8).toNat = 201 := rfl
  refine ⟨hi, ?_⟩
  simp only [networkAddr, hthird, hfourth, hten, hbase, Ipv4Addr.mk.injEq]
  refine ⟨?_, ?_, ?_, ?_⟩
  · apply UInt8.toNat_inj.mp
    rw [UInt8.toNat_ofNat', hten]
    omega
  · apply UInt8.toNat_inj.mp
    rw [UInt8.toNat_ofNat', hbase]
    omega
  · apply UInt8.toNat_inj.mp
    rw [UInt8.toNat_ofNat', UInt8.toNat_ofNat']
    omega
  · apply UInt8.toNat_inj.mp
    rw [UInt8.toNat_ofNat', UInt8.toNat_ofNat']
    omega

theorem linkNet_inj {i j : Nat} {link link' : VethLink} (hi : VethLink.forIndex i = some link)
    (hj : VethLink.forIndex j = some link')
    (h : networkAddr link.hostAddr 30 = networkAddr link'.hostAddr 30) : i = j := by
  obtain ⟨hilt, hinet⟩ := networkAddr_forIndex hi
  obtain ⟨hjlt, hjnet⟩ := networkAddr_forIndex hj
  rw [hinet, hjnet] at h
  simp only [Ipv4Addr.mk.injEq, true_and] at h
  have hthird := congrArg UInt8.toNat h.1
  have hfourth := congrArg UInt8.toNat h.2
  rw [UInt8.toNat_ofNat', UInt8.toNat_ofNat'] at hthird hfourth
  omega

end MicroMachines.Net
