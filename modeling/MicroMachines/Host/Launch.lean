import MicroMachines.Net.Clone
import MicroMachines.Vmm.SnapshotStore

set_option autoImplicit false

/-! # Launching a machine

`crates/mm-host/src/launch.rs`: the privileged part of a launch, from an image (`launch`) or from a
snapshot (`restoreLaunch`), and what undoes the network of a clone (`teardownCloneNet`).

A launch is a script: what it asks of the host, step by step, and how it goes on when a step fails. What a
step does is not said here. `Host/Jails.lean` says what it does to the files, and `Host/CloneFailure.lean`
what it does to the network.
-/

namespace MicroMachines.Host

open MicroMachines.Lib MicroMachines.Boot MicroMachines.Net

/-! ## What is asked for -/

structure LaunchSpec where
  image : String
  name : String
  cpus : UInt8
  memoryMib : UInt64
  ssh : Bool
  detach : Bool
  stateRoot : Path
  kernelPath : Path
  mmInitPath : Path
  sshdPath : Option Path
  reservedIps : List Ipv4Addr
  deriving DecidableEq, Repr

structure CloneNetConfig where
  index : Nat
  internalIp : Ipv4Addr
  cloneIp : Ipv4Addr
  upstream : Option String
  deriving DecidableEq, Repr

structure RestoreSpec where
  name : String
  snapshotDir : Path
  rootfsPath : Path
  kernelPath : Path
  cpus : UInt8
  memoryMib : UInt64
  detach : Bool
  stateRoot : Path
  reservedIps : List Ipv4Addr
  cloneNet : Option CloneNetConfig
  deriving DecidableEq, Repr

structure LaunchOutcome where
  name : String
  ip : Ipv4Addr
  tapName : String
  pid : Nat
  consoleLog : Path
  vsockPath : Path
  controlPath : Path
  deriving DecidableEq, Repr

/-- How the worker is started. -/
structure WorkerSpec where
  config : Path
  chroot : Path
  cgroup : String
  cpuMax : String
  memMax : UInt64
  detach : Bool
  log : Path
  restoreDir : Option Path
  deriving DecidableEq, Repr

/-- What the host answers, where it answers more than that it has succeeded. -/
structure HostEnv where
  /-- Where the root disk of an image is kept, with the programs that are put into it. -/
  rootfs : String → Path → Option Path → Path
  /-- The command of an image: its entry point and arguments. -/
  imageArgv : String → List String
  /-- The public key, in one line. -/
  authorizedKey : List UInt8
  /-- Bytes of the host's random source, if it can be read. -/
  randomSeed : Option (List UInt8)
  /-- `default_egress_iface`. -/
  egress : Option String
  pid : Nat

/-! ## What is asked of the host -/

inductive HostOp
  | buildBaseRootfs (image : String) (mmInit : Path) (sshd : Option Path)
  | ensureBridge (name : String) (gateway : Ipv4Addr) (len : Nat)
  | createTap (name bridge : String)
  | enableNat (subnet egress : String)
  /-- `ip` or `iptables`. -/
  | run (cmd : Cmd)
  | openTunInNetns (netns tap : String)
  | openKvm
  | createDirAll (p : Path)
  | linkOrCopy (src dst : Path)
  | prepareJailPermissions (jail jailRoot : Path) (files : List Path)
  | chownToWorker (p : Path)
  | ensureSshKey (root : Path)
  | imageArgv (image : String)
  | writeConfig (p : Path) (cfg : VmConfig)
  | bindListener (p : Path)
  | spawnWorker (worker : WorkerSpec)
  deriving DecidableEq, Repr

/-- An error: the step that failed, with its context, or a check that was not passed. -/
inductive HostError
  | failed (context : String) (op : HostOp)
  | refused (text : String)
  deriving DecidableEq, Repr

abbrev HostM (α : Type) : Type := Task HostOp HostError α

/-- A step, with the context of its error. -/
def call (op : HostOp) (context : String) : HostM Unit := Task.perform op (.failed context op)

/-- `ok_or_else(..)?` -/
def okOr {α : Type} (o : Option α) (text : String) : HostM α :=
  match o with
  | some a => pure a
  | none => Task.fail (.refused text)

/-! ## Common parts -/

def SUBNET_CIDR : String := "10.0.0.0/24"
def BRIDGE : String := "mm-br0"
def NETMASK : Ipv4Addr := ⟨255, 255, 255, 0⟩

def hexByte (b : UInt8) : String :=
  String.ofList ((Nat.toDigits 16 (b.toNat / 16)) ++ Nat.toDigits 16 (b.toNat % 16))

/-- `mac_from_ip`. -/
def macFromIp (ip : Ipv4Addr) : String :=
  "02:00:00:" ++ hexByte ip.b ++ ":" ++ hexByte ip.c ++ ":" ++ hexByte ip.d

def egressOr (egress : Option String) : String := egress.getD "eth0"

/-- The jail of a machine. It is named by the machine's name, and stays when the machine goes. -/
def jailDir (stateRoot : Path) (name : String) : Path := stateRoot ++ ["jails", name]

def jailRoot (stateRoot : Path) (name : String) : Path := jailDir stateRoot name ++ ["root"]

def jailKernel (stateRoot : Path) (name : String) : Path := jailRoot stateRoot name ++ ["vmlinux"]

def jailRootfs (stateRoot : Path) (name : String) : Path := jailRoot stateRoot name ++ ["rootfs.ext4"]

def jailSnapshots (stateRoot : Path) (name : String) : Path := jailRoot stateRoot name ++ ["snapshots"]

def jailRestore (stateRoot : Path) (name : String) : Path := jailRoot stateRoot name ++ ["restore"]

/-- `VmConfig::validate`. -/
def validates (cfg : VmConfig) : Bool := 1 ≤ cfg.vcpus && cfg.vcpus ≤ 32 && 16 ≤ cfg.memoryMib

/-- An address for a machine on the shared bridge, and the bridge, the TAP and the translation that it
needs. -/
def bridgeNetwork (env : HostEnv) (name : String) (reservedIps : List Ipv4Addr) :
    HostM (Ipv4Addr × String) := do
  let ip ← okOr (freeAddress reservedIps) "guest IP pool exhausted"
  call (.ensureBridge BRIDGE guestPool.gateway 24) "ensuring bridge"
  let tapName := "mm-" ++ name
  call (.createTap tapName BRIDGE) "creating TAP"
  call (.enableNat SUBNET_CIDR (egressOr env.egress)) "enabling NAT"
  pure (ip, tapName)

/-- The jail with the kernel and the root disk. -/
def prepareJail (stateRoot : Path) (name : String) (kernel rootfs : Path) : HostM Unit := do
  let jail := jailDir stateRoot name
  let root := jailRoot stateRoot name
  call (.createDirAll root) "creating jail"
  call (.linkOrCopy kernel (jailKernel stateRoot name)) "copying"
  call (.linkOrCopy rootfs (jailRootfs stateRoot name)) "copying"
  call (.prepareJailPermissions jail root [jailKernel stateRoot name, jailRootfs stateRoot name]) "chmod"

/-- The directory that the worker writes its snapshots into. -/
def prepareSnapshots (stateRoot : Path) (name : String) : HostM Unit := do
  call (.createDirAll (jailSnapshots stateRoot name)) "creating snapshots"
  call (.chownToWorker (jailSnapshots stateRoot name)) "chown"

/-- Write the configuration, bind the sockets and start the worker. -/
def startWorker (env : HostEnv) (stateRoot : Path) (name : String) (ip : Ipv4Addr) (tapName : String)
    (cfg : VmConfig) (detach : Bool) (restoreDir : Option Path) : HostM LaunchOutcome := do
  let jail := jailDir stateRoot name
  if !validates cfg then Task.fail (.refused "validating VM config")
  else
    call (.writeConfig (jail ++ ["config.json"]) cfg) "writing config"
    call (.bindListener (jail ++ ["vsock.sock"])) "binding vsock bridge socket"
    call (.bindListener (jail ++ ["control.sock"])) "binding vsock bridge socket"
    call (.spawnWorker
      { config := jail ++ ["config.json"]
        chroot := jailRoot stateRoot name
        cgroup := "micro_machines/" ++ name
        cpuMax := toString (cfg.vcpus.toNat * 100000) ++ " 100000"
        memMax := cfg.memoryMib * 1024 * 1024
        detach := detach
        log := jail ++ ["console.log"]
        restoreDir := restoreDir }) "spawning VMM worker"
    pure
      { name := name
        ip := ip
        tapName := tapName
        pid := env.pid
        consoleLog := jail ++ ["console.log"]
        vsockPath := jail ++ ["vsock.sock"]
        controlPath := jail ++ ["control.sock"] }

/-! ## From an image -/

/-- What a machine runs: nothing of its own with `ssh`, else the command of its image. -/
def workload (env : HostEnv) (spec : LaunchSpec) : Option (List String) :=
  if spec.ssh then none else some (env.imageArgv spec.image)

/-- `launch`. -/
def launch (env : HostEnv) (spec : LaunchSpec) : HostM LaunchOutcome := do
  call (.buildBaseRootfs spec.image spec.mmInitPath spec.sshdPath) "building rootfs"
  let (ip, tapName) ← bridgeNetwork env spec.name spec.reservedIps
  call .openKvm "opening /dev/kvm"
  prepareJail spec.stateRoot spec.name spec.kernelPath
    (env.rootfs spec.image spec.mmInitPath spec.sshdPath)
  prepareSnapshots spec.stateRoot spec.name
  call (.ensureSshKey spec.stateRoot) "ssh-keygen"
  if spec.ssh then pure () else call (.imageArgv spec.image) "reading the image command"
  let cfg := buildVmConfig spec.cpus spec.memoryMib "/vmlinux" "/rootfs.ext4" ip guestPool.gateway
    NETMASK spec.name tapName (macFromIp ip) ((workload env spec).map encodeArgv)
    (some (hexEncode env.authorizedKey)) (env.randomSeed.map hexEncode)
  startWorker env spec.stateRoot spec.name ip tapName cfg spec.detach none

/-! ## The network of a clone -/

/-- `create_netns`. -/
def createNetns (plan : CloneNetPlan) : HostM Unit :=
  Task.forEach plan.createCmds (fun cmd => call (.run cmd) "creating clone netns")

/-- `wire_clone_net`. -/
def wireCloneNet (plan : CloneNetPlan) : HostM Unit :=
  Task.forEach plan.wireCmds (fun cmd => call (.run cmd) "wiring clone networking")

/-- `teardown_clone_net`: every command is tried. Its result is looked at nowhere but in a warning. -/
def teardownCloneNet (plan : CloneNetPlan) : HostM Unit :=
  Task.forEach plan.teardownCmds (fun cmd => Task.act (.run cmd))

/-- The plan for a clone. -/
def clonePlan (env : HostEnv) (name : String) (cn : CloneNetConfig) : Option CloneNetPlan :=
  CloneNetPlan.new cn.index name cn.internalIp cn.cloneIp
    (egressOr (cn.upstream.or env.egress)) ("mmtap" ++ toString cn.index)

/-- The TAP and the wiring of a clone; if either fails, all is taken down again. -/
def cloneNetwork (plan : CloneNetPlan) : HostM Unit := do
  createNetns plan
  let wired ← Task.result (do
    call (.openTunInNetns plan.netns plan.tap) "opening TAP inside the clone netns"
    wireCloneNet plan)
  match wired with
  | .ok _ => pure ()
  | .error e =>
    teardownCloneNet plan
    Task.fail e

/-! ## From a snapshot -/

/-- `link_snapshot_dir`. -/
def linkSnapshotDir (src dst : Path) : HostM Unit :=
  Task.forEach [Vmm.MANIFEST_FILE, Vmm.STATE_FILE, Vmm.MEMORY_FILE] (fun file => do
    call (.linkOrCopy (src ++ [file]) (dst ++ [file])) "copying"
    call (.chownToWorker (dst ++ [file])) "chown")

/-- What the network part of a restore gives: the address that is recorded, the address and the gateway
in the configuration, and the TAP. -/
structure Attached where
  ip : Ipv4Addr
  configIp : Ipv4Addr
  configGateway : Ipv4Addr
  tapName : String
  deriving DecidableEq, Repr

/-- The network of a restored machine: on the shared bridge, or its own. -/
def restoreNetwork (env : HostEnv) (spec : RestoreSpec) : HostM Attached :=
  match spec.cloneNet with
  | none => do
      let (ip, tapName) ← bridgeNetwork env spec.name spec.reservedIps
      pure ⟨ip, ip, guestPool.gateway, tapName⟩
  | some cn => do
      let plan ← okOr (clonePlan env spec.name cn)
        ("clone index " ++ toString cn.index ++ " overflows the veth /16")
      cloneNetwork plan
      pure ⟨cn.cloneIp, cn.internalIp, { cn.internalIp with d := 1 }, "mmtap" ++ toString cn.index⟩

/-- The jail and the worker of a restored machine. -/
def restoreMachine (env : HostEnv) (spec : RestoreSpec) (net : Attached) : HostM LaunchOutcome := do
  call .openKvm "opening /dev/kvm"
  prepareJail spec.stateRoot spec.name spec.kernelPath spec.rootfsPath
  let restore := jailRestore spec.stateRoot spec.name
  call (.createDirAll restore) "creating restore"
  linkSnapshotDir spec.snapshotDir restore
  call (.chownToWorker restore) "chown"
  prepareSnapshots spec.stateRoot spec.name
  let cfg := buildVmConfig spec.cpus spec.memoryMib "/vmlinux" "/rootfs.ext4" net.configIp
    net.configGateway NETMASK spec.name net.tapName (macFromIp net.configIp) none none none
  startWorker env spec.stateRoot spec.name net.ip net.tapName cfg spec.detach (some ["restore"])

/-- `restore_launch`. -/
def restoreLaunch (env : HostEnv) (spec : RestoreSpec) : HostM LaunchOutcome := do
  let net ← restoreNetwork env spec
  restoreMachine env spec net

/-! ## Steps that a part does not take -/

section Avoids

variable {noisy : HostOp → Bool}

theorem avoids_call {op : HostOp} (h : noisy op = false) (context : String) :
    (call op context).Avoids noisy :=
  Task.avoids_perform h

theorem avoids_okOr {α : Type} (o : Option α) (text : String) : (okOr o text).Avoids noisy := by
  cases o with
  | none => exact Task.avoids_fail
  | some a => exact Task.avoids_pure

/-- The steps on the bridge. -/
def bridgeOps (env : HostEnv) (name : String) : List HostOp :=
  [.ensureBridge BRIDGE guestPool.gateway 24, .createTap ("mm-" ++ name) BRIDGE,
    .enableNat SUBNET_CIDR (egressOr env.egress)]

theorem avoids_bridgeNetwork (env : HostEnv) (name : String) (reservedIps : List Ipv4Addr)
    (h : (bridgeOps env name).any noisy = false) : (bridgeNetwork env name reservedIps).Avoids noisy := by
  simp only [bridgeOps, List.any_cons, List.any_nil, Bool.or_false, Bool.or_eq_false_iff] at h
  obtain ⟨hbridge, htap, hnat⟩ := h
  refine Task.avoids_bind (avoids_okOr _ _) fun _ => ?_
  refine Task.avoids_bind (avoids_call hbridge _) fun _ => ?_
  refine Task.avoids_bind (avoids_call htap _) fun _ => ?_
  exact Task.avoids_bind (avoids_call hnat _) fun _ => Task.avoids_pure

end Avoids

/-! ## What a launch gives -/

/-- If the task ends well, its result satisfies `P`. -/
def Gives {α : Type} (P : α → Prop) (t : HostM α) : Prop :=
  Task.Safe (fun _ _ => True) (fun _ _ v => v) (fun _ a => P a) (fun _ => True) () t

section Gives

variable {α β : Type} {P : α → Prop}

theorem gives_pure {a : α} (h : P a) : Gives P (pure a) := h

theorem gives_fail {e : HostError} : Gives P (Task.fail e) := trivial

theorem gives_bind {t : HostM β} {f : β → HostM α} (h : Gives (fun b => Gives P (f b)) t) :
    Gives P (t >>= f) :=
  Task.safe_bind h

theorem Gives.mono {Q : α → Prop} (himp : ∀ a, P a → Q a) {t : HostM α} (h : Gives P t) : Gives Q t :=
  Task.Safe.mono (fun _ a => himp a) (fun _ herr => herr) h

theorem gives_of_forall (h : ∀ a, P a) (t : HostM α) : Gives P t := by
  have hscript : ∀ s : Script HostOp (Except HostError α), Gives P s := by
    intro s
    induction s with
    | done r =>
      cases r with
      | error e => exact trivial
      | ok a => exact h a
    | op o k ih => exact ⟨trivial, ih⟩
  exact hscript t

/-- A step whose result plays no part. -/
theorem gives_then {t : HostM β} {f : β → HostM α} (h : ∀ b, Gives P (f b)) : Gives P (t >>= f) :=
  gives_bind (gives_of_forall h t)

theorem gives_okOr {o : Option α} {text : String} (h : ∀ a, o = some a → P a) : Gives P (okOr o text) := by
  cases o with
  | none => exact gives_fail
  | some a => exact gives_pure (h a rfl)

theorem Gives.exec {ν : Type} {next : HostOp → Bool → ν → ν} {t : HostM α} {bs : List Bool} {v v' : ν} {a : α}
    (h : Gives P t) (hexec : t.exec next bs v = some (v', .ok a)) : P a := by
  obtain ⟨u, hu⟩ := Script.exec_snd (fun _ _ v => v) hexec ()
  exact Task.Safe.exec h hu

end Gives

/-- What is returned about the machine. -/
structure Outcome (env : HostEnv) (ip : Ipv4Addr) (tapName : String) (out : LaunchOutcome) : Prop where
  ip : out.ip = ip
  tapName : out.tapName = tapName
  pid : out.pid = env.pid

theorem gives_startWorker (env : HostEnv) (stateRoot : Path) (name : String) (ip : Ipv4Addr)
    (tapName : String) (cfg : VmConfig) (detach : Bool) (restoreDir : Option Path) :
    Gives (Outcome env ip tapName) (startWorker env stateRoot name ip tapName cfg detach restoreDir) := by
  unfold startWorker
  dsimp only
  split_ifs
  · exact gives_fail
  · exact gives_then fun _ => gives_then fun _ => gives_then fun _ => gives_then fun _ =>
      gives_pure ⟨rfl, rfl, rfl⟩

theorem gives_bridgeNetwork (env : HostEnv) (name : String) (reservedIps : List Ipv4Addr) :
    Gives (fun net => freeAddress reservedIps = some net.1 ∧ net.2 = "mm-" ++ name)
      (bridgeNetwork env name reservedIps) := by
  refine gives_bind (gives_okOr fun ip hip => ?_)
  exact gives_then fun _ => gives_then fun _ => gives_then fun _ => gives_pure ⟨hip, rfl⟩

/-- A launch gives the machine a new address. -/
theorem gives_launch (env : HostEnv) (spec : LaunchSpec) :
    Gives (fun out => ∃ ip, freeAddress spec.reservedIps = some ip ∧
      Outcome env ip ("mm-" ++ spec.name) out) (launch env spec) := by
  refine gives_then fun _ => gives_bind ?_
  refine Gives.mono ?_ (gives_bridgeNetwork env spec.name spec.reservedIps)
  rintro ⟨ip, tapName⟩ ⟨hip, rfl⟩
  have hstart : ∀ cfg, Gives (fun out => ∃ ip, freeAddress spec.reservedIps = some ip ∧
      Outcome env ip ("mm-" ++ spec.name) out)
      (startWorker env spec.stateRoot spec.name ip ("mm-" ++ spec.name) cfg spec.detach none) :=
    fun cfg => Gives.mono (fun _ hout => ⟨ip, hip, hout⟩) (gives_startWorker _ _ _ _ _ cfg _ _)
  refine gives_then fun _ => gives_then fun _ => gives_then fun _ => gives_then fun _ => ?_
  dsimp only
  split_ifs
  · exact hstart _
  · exact gives_then fun _ => hstart _

/-- Where the address and the TAP of a restored machine come from: a new address on the bridge, and for a
clone the one that was chosen for it. -/
def Assigned (spec : RestoreSpec) (ip : Ipv4Addr) (tapName : String) : Prop :=
  match spec.cloneNet with
  | none => freeAddress spec.reservedIps = some ip ∧ tapName = "mm-" ++ spec.name
  | some cn => ip = cn.cloneIp ∧ tapName = "mmtap" ++ toString cn.index

instance (spec : RestoreSpec) (ip : Ipv4Addr) (tapName : String) : Decidable (Assigned spec ip tapName) :=
  match h : spec.cloneNet with
  | none => decidable_of_iff (freeAddress spec.reservedIps = some ip ∧ tapName = "mm-" ++ spec.name)
      (by simp [Assigned, h])
  | some cn => decidable_of_iff (ip = cn.cloneIp ∧ tapName = "mmtap" ++ toString cn.index)
      (by simp [Assigned, h])

theorem gives_restoreNetwork (env : HostEnv) (spec : RestoreSpec) :
    Gives (fun net => Assigned spec net.ip net.tapName) (restoreNetwork env spec) := by
  unfold restoreNetwork Assigned
  cases spec.cloneNet with
  | none =>
    refine gives_bind (Gives.mono ?_ (gives_bridgeNetwork env spec.name spec.reservedIps))
    rintro ⟨ip, tapName⟩ hip
    exact hip
  | some cn => exact gives_then fun _ => gives_then fun _ => gives_pure ⟨rfl, rfl⟩

theorem gives_restoreLaunch (env : HostEnv) (spec : RestoreSpec) :
    Gives (fun out => ∃ ip tapName, Assigned spec ip tapName ∧ Outcome env ip tapName out)
      (restoreLaunch env spec) := by
  refine gives_bind (Gives.mono ?_ (gives_restoreNetwork env spec))
  intro net hnet
  refine gives_then fun _ => gives_then fun _ => gives_then fun _ => gives_then fun _ => gives_then fun _ =>
    gives_then fun _ => ?_
  exact Gives.mono (fun _ hout => ⟨net.ip, net.tapName, hnet, hout⟩) (gives_startWorker _ _ _ _ _ _ _ _)

end MicroMachines.Host
