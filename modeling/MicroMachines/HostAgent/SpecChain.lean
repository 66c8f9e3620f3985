import MicroMachines.HostAgent.Assignments
import MicroMachines.Host.Launch

set_option autoImplicit false

/-! # From a stored specification to a launch

A specification goes from the table through the assignment (`machine_to_proto`), the boot request
(`handle_assignment`) and the launch specification (`actuator::boot`) into the launch.

Every step but one copies what it needs. The boot request has no kernel and no workload, and the number of
processors is at least one in it: so a launch has the kernel of the host and runs the command of the image,
whatever was asked for (`spec_boots_iff`).
-/

namespace MicroMachines.HostAgent

open MicroMachines.Lib MicroMachines.Boot MicroMachines.Net MicroMachines.Controller

/-! ## The boot -/

/-- Where things are on the host. -/
structure HostConfig where
  stateRoot : Path
  kernelPath : Path
  mmInitPath : Path
  sshdPath : Option Path
  deriving DecidableEq, Repr

/-- The launch that `actuator::boot` asks for. -/
def launchSpec (host : HostConfig) (req : BootRequest) (reservedIps : List Ipv4Addr) :
    Host.LaunchSpec where
  image := req.image
  name := req.name
  cpus := UInt8.ofNat req.cpus
  memoryMib := UInt64.ofNat req.memoryMib
  ssh := req.ssh
  detach := true
  stateRoot := host.stateRoot
  kernelPath := host.kernelPath
  mmInitPath := host.mmInitPath
  sshdPath := host.sshdPath
  reservedIps := reservedIps

/-- The boot request of an assignment that starts a machine. -/
def bootRequest (a : Proto.Assignment) : Option BootRequest :=
  match a.machine with
  | some { ref := some ref, spec := some spec, .. } => if spec.running then some (.of ref spec) else none
  | _ => none

variable {a : Proto.Assignment} {req : BootRequest} {env : Host.HostEnv} {name : String}
  {reservedIps : List Ipv4Addr} {ops : List Host.HostOp} {spec : Host.LaunchSpec}

/-- There is one if the assignment names a machine and wants it to run. -/
theorem bootRequest_eq_some (hreq : bootRequest a = some req) :
    ∃ ref spec status, a.machine = some ⟨some ref, some spec, status⟩ ∧ spec.running = true ∧
      req = .of ref spec := by
  unfold bootRequest at hreq
  split at hreq
  case h_2 => cases hreq
  case h_1 ref spec status hm =>
    split_ifs at hreq with hrunning
    exact ⟨ref, spec, status, hm, hrunning, (Option.some.inj hreq).symm⟩

/-- An agent on which the machine does not run makes that boot, and records and reports how it ends. -/
theorem handleAssignment_bootRequest (hreq : bootRequest a = some req) {store : LocalStore}
    (hidle : store.runs req.uid = false)
    (outcome : Except String LaunchOutcome) :
    handleAssignment store a outcome =
      match boot req outcome with
      | .ok machine => (store.put machine, [event req.uid .running "booted" (machine.ip.getD "")])
      | .error e => (store, [event req.uid .failed e ""]) := by
  obtain ⟨ref, spec, status, hm, hrunning, rfl⟩ := bootRequest_eq_some hreq
  have hruns : store.runs ref.uid = false := hidle
  simp only [handleAssignment, hm, reconcileMachine, hrunning, if_true]
  rw [hruns, if_neg Bool.false_ne_true]
  rfl

/-! ## What a launch asks of the host -/

/-- Keep the steps that have succeeded. -/
def record (op : Host.HostOp) (done : Bool) (ops : List Host.HostOp) : List Host.HostOp :=
  if done then ops ++ [op] else ops

/-- The images a root disk was built from. -/
def images (ops : List Host.HostOp) : List String :=
  ops.filterMap (fun op =>
    match op with
    | .buildBaseRootfs image _ _ => some image
    | _ => none)

/-- The files that were put into the jail as `dst`. -/
def sources (dst : Path) (ops : List Host.HostOp) : List Path :=
  ops.filterMap (fun op =>
    match op with
    | .linkOrCopy src dst' => if dst' = dst then some src else none
    | _ => none)

/-- The configurations a worker was given. -/
def configs (ops : List Host.HostOp) : List VmConfig :=
  ops.filterMap (fun op =>
    match op with
    | .writeConfig _ cfg => some cfg
    | _ => none)

theorem images_append (ops ops' : List Host.HostOp) : images (ops ++ ops') = images ops ++ images ops' :=
  List.filterMap_append

theorem sources_append (dst : Path) (ops ops' : List Host.HostOp) :
    sources dst (ops ++ ops') = sources dst ops ++ sources dst ops' :=
  List.filterMap_append

theorem configs_append (ops ops' : List Host.HostOp) : configs (ops ++ ops') = configs ops ++ configs ops' :=
  List.filterMap_append

/-- If the task ends well, it does so in `Q`, of the steps it has taken and of its result. -/
def EndsIn {α : Type} (Q : List Host.HostOp → α → Prop) (ops : List Host.HostOp) (t : Host.HostM α) :
    Prop :=
  Task.Safe (fun _ _ => True) record Q (fun _ => True) ops t

section EndsIn

variable {α β : Type} {Q : List Host.HostOp → α → Prop} {ops : List Host.HostOp}

theorem endsIn_pure {a : α} (h : Q ops a) : EndsIn Q ops (pure a) := h

theorem endsIn_fail {e : Host.HostError} : EndsIn Q ops (Task.fail e) := trivial

theorem endsIn_bind {t : Host.HostM β} {f : β → Host.HostM α}
    (h : EndsIn (fun ops b => EndsIn Q ops (f b)) ops t) : EndsIn Q ops (t >>= f) :=
  Task.safe_bind h

theorem endsIn_call {Q : List Host.HostOp → Unit → Prop} {op : Host.HostOp} {context : String}
    (h : Q (ops ++ [op]) ()) : EndsIn Q ops (Host.call op context) :=
  Task.safe_perform trivial h trivial

theorem endsIn_okOr {o : Option α} {text : String} (h : ∀ a, o = some a → Q ops a) :
    EndsIn Q ops (Host.okOr o text) := by
  cases o with
  | none => exact endsIn_fail
  | some a => exact endsIn_pure (h a rfl)

theorem EndsIn.exec {t : Host.HostM α} {outcomes : List Bool} {ops' : List Host.HostOp} {a : α}
    (h : EndsIn Q ops t) (hexec : t.exec record outcomes ops = some (ops', .ok a)) : Q ops' a :=
  Task.Safe.exec h hexec

end EndsIn

/-- The network part gives a new address, and takes three steps. -/
theorem endsIn_bridgeNetwork {Q : List Host.HostOp → Ipv4Addr × String → Prop}
    (h : ∀ ip, Q (ops ++ Host.bridgeOps env name) (ip, "mm-" ++ name)) :
    EndsIn Q ops (Host.bridgeNetwork env name reservedIps) := by
  apply endsIn_bind
  apply endsIn_okOr
  intro ip _
  apply endsIn_bind
  apply endsIn_call
  apply endsIn_bind
  apply endsIn_call
  apply endsIn_bind
  apply endsIn_call
  apply endsIn_pure
  simpa only [Host.bridgeOps, List.append_assoc, List.cons_append, List.nil_append] using h ip

theorem endsIn_prepareJail {stateRoot : Path} {kernel rootfs : Path}
    {Q : List Host.HostOp → Unit → Prop}
    (h : Q (ops ++ ([.createDirAll (Host.jailRoot stateRoot name),
      .linkOrCopy kernel (Host.jailKernel stateRoot name),
      .linkOrCopy rootfs (Host.jailRootfs stateRoot name),
      .prepareJailPermissions (Host.jailDir stateRoot name) (Host.jailRoot stateRoot name)
        [Host.jailKernel stateRoot name, Host.jailRootfs stateRoot name]] : List Host.HostOp)) ()) :
    EndsIn Q ops (Host.prepareJail stateRoot name kernel rootfs) := by
  apply endsIn_bind
  apply endsIn_call
  apply endsIn_bind
  apply endsIn_call
  apply endsIn_bind
  apply endsIn_call
  apply endsIn_call
  simpa only [List.append_assoc, List.cons_append, List.nil_append] using h

/-- The worker is started with the configuration, if it is valid. -/
theorem endsIn_startWorker {stateRoot : Path} {tapName : String}
    {ip : Ipv4Addr} {cfg : VmConfig} {detach : Bool} {restoreDir : Option Path}
    {Q : List Host.HostOp → Host.LaunchOutcome → Prop}
    (h : Host.validates cfg = true → ∀ worker out,
      Q (ops ++ ([.writeConfig (Host.jailDir stateRoot name ++ ["config.json"]) cfg,
        .bindListener (Host.jailDir stateRoot name ++ ["vsock.sock"]),
        .bindListener (Host.jailDir stateRoot name ++ ["control.sock"]),
        .spawnWorker worker] : List Host.HostOp)) out) :
    EndsIn Q ops (Host.startWorker env stateRoot name ip tapName cfg detach restoreDir) := by
  unfold Host.startWorker
  dsimp only
  split_ifs with hcfg
  · exact endsIn_fail
  · apply endsIn_bind
    apply endsIn_call
    apply endsIn_bind
    apply endsIn_call
    apply endsIn_bind
    apply endsIn_call
    apply endsIn_bind
    apply endsIn_call
    apply endsIn_pure
    have hvalid : Host.validates cfg = true := by simpa using hcfg
    simpa only [List.append_assoc, List.cons_append, List.nil_append] using h hvalid _ _

/-- The configuration of a machine that is launched with the address `ip`. -/
def launchConfig (env : Host.HostEnv) (spec : Host.LaunchSpec) (ip : Ipv4Addr) : VmConfig :=
  buildVmConfig spec.cpus spec.memoryMib "/vmlinux" "/rootfs.ext4" ip guestPool.gateway Host.NETMASK
    spec.name ("mm-" ++ spec.name) (Host.macFromIp ip) ((Host.workload env spec).map encodeArgv)
    (some (hexEncode env.authorizedKey)) (env.randomSeed.map hexEncode)

@[simp] theorem launchConfig_vcpus (env : Host.HostEnv) (spec : Host.LaunchSpec) (ip : Ipv4Addr) :
    (launchConfig env spec ip).vcpus = spec.cpus := rfl

@[simp] theorem launchConfig_memoryMib (env : Host.HostEnv) (spec : Host.LaunchSpec) (ip : Ipv4Addr) :
    (launchConfig env spec ip).memoryMib = spec.memoryMib := rfl

/-- What has been done when a launch has succeeded: one image, one kernel and one configuration. -/
structure Launched (env : Host.HostEnv) (spec : Host.LaunchSpec) (ops : List Host.HostOp) : Prop where
  image : images ops = [spec.image]
  kernel : sources (Host.jailKernel spec.stateRoot spec.name) ops = [spec.kernelPath]
  config : ∃ ip, configs ops = [launchConfig env spec ip] ∧
    Host.validates (launchConfig env spec ip) = true

/-- What has been done when all is ready for the worker. -/
structure Ready (spec : Host.LaunchSpec) (ops : List Host.HostOp) : Prop where
  image : images ops = [spec.image]
  kernel : sources (Host.jailKernel spec.stateRoot spec.name) ops = [spec.kernelPath]
  config : configs ops = []

theorem Ready.imageArgv (h : Ready spec ops)
    (image : String) : Ready spec (ops ++ [.imageArgv image]) where
  image := (images_append _ _).trans (congrArg (· ++ []) h.image)
  kernel := (sources_append _ _ _).trans (congrArg (· ++ []) h.kernel)
  config := (configs_append _ _).trans (congrArg (· ++ []) h.config)

/-- The worker is given the one configuration. -/
theorem Ready.endsIn_startWorker (h : Ready spec ops) (env : Host.HostEnv) (ip : Ipv4Addr) :
    EndsIn (fun ops _ => Launched env spec ops) ops
      (Host.startWorker env spec.stateRoot spec.name ip ("mm-" ++ spec.name) (launchConfig env spec ip)
        spec.detach none) := by
  apply HostAgent.endsIn_startWorker
  intro hvalid worker out
  refine ⟨?_, ?_, ip, ?_, hvalid⟩
  · rw [images_append, h.image]
    rfl
  · rw [sources_append, h.kernel]
    rfl
  · rw [configs_append, h.config]
    rfl

/-- The command of the image is read unless the machine is one for `ssh`. -/
theorem endsIn_commanded {ip : Ipv4Addr} (h : Ready spec ops) :
    EndsIn (fun ops _ => Launched env spec ops) ops (if spec.ssh = true then
        Host.startWorker env spec.stateRoot spec.name ip ("mm-" ++ spec.name) (launchConfig env spec ip)
          spec.detach none
      else do
        Host.call (.imageArgv spec.image) "reading the image command"
        Host.startWorker env spec.stateRoot spec.name ip ("mm-" ++ spec.name) (launchConfig env spec ip)
          spec.detach none) := by
  split_ifs
  · exact h.endsIn_startWorker env ip
  · apply endsIn_bind
    apply endsIn_call
    exact (h.imageArgv spec.image).endsIn_startWorker env ip

theorem endsIn_launch (env : Host.HostEnv) (spec : Host.LaunchSpec) :
    EndsIn (fun ops _ => Launched env spec ops) [] (Host.launch env spec) := by
  have hdisk : Host.jailRootfs spec.stateRoot spec.name ≠ Host.jailKernel spec.stateRoot spec.name := by
    simp [Host.jailRootfs, Host.jailKernel]
  apply endsIn_bind
  apply endsIn_call
  apply endsIn_bind
  apply endsIn_bridgeNetwork
  intro ip
  apply endsIn_bind
  apply endsIn_call
  apply endsIn_bind
  apply endsIn_prepareJail
  apply endsIn_bind
  apply endsIn_bind
  apply endsIn_call
  apply endsIn_call
  apply endsIn_bind
  apply endsIn_call
  refine endsIn_commanded ⟨?_, ?_, ?_⟩
  · simp [images, Host.bridgeOps]
  · simp [sources, Host.bridgeOps, hdisk]
  · simp [configs, Host.bridgeOps]

theorem launched_of_exec {outcomes : List Bool} {out : Host.LaunchOutcome}
    (h : (Host.launch env spec).exec record outcomes [] = some (ops, .ok out)) :
    Launched env spec ops :=
  (endsIn_launch env spec).exec h

/-! ## What the guest runs -/

theorem isWhitespace_isAlphanum {c : Char} (h : c.isAlphanum = true) : isWhitespace c = false := by
  have hrange : (48 ≤ c.toNat ∧ c.toNat ≤ 57) ∨ (65 ≤ c.toNat ∧ c.toNat ≤ 90) ∨
      (97 ≤ c.toNat ∧ c.toNat ≤ 122) := by
    have hor : ((decide ('A'.val ≤ c.val ∧ c.val ≤ 'Z'.val) ||
        (decide ('a'.val ≤ c.val) && decide (c.val ≤ 'z'.val))) ||
          (decide ('0'.val ≤ c.val) && decide (c.val ≤ '9'.val))) = true := h
    simp only [Bool.or_eq_true, decide_eq_true_eq, Bool.and_eq_true, UInt32.le_iff_toNat_le] at hor
    change ((65 ≤ c.toNat ∧ c.toNat ≤ 90) ∨ (97 ≤ c.toNat ∧ c.toNat ≤ 122)) ∨
      (48 ≤ c.toNat ∧ c.toNat ≤ 57) at hor
    omega
  simp only [isWhitespace, Bool.or_eq_false_iff, Bool.and_eq_false_iff, beq_eq_false_iff_ne,
    decide_eq_false_iff_not]
  omega

/-- The name of a machine on its host is one word. -/
theorem spaceless_hostName (text : String) : Spaceless (hostName text) := by
  refine spaceless_append (by decide) ?_
  intro c hc
  rw [String.toList_ofList] at hc
  exact isWhitespace_isAlphanum (List.mem_filter.mp (List.mem_of_mem_take hc)).2

/-- What becomes of an argument list on its way to the guest. -/
def delivered (argv : List String) : List String := decodeArgv (utf8 (String.intercalate "\x00" argv))

/-- The guest runs this workload. There is no directive for an environment. -/
def RunsWorkload (cfg : VmConfig) (w : Workload) : Prop :=
  ∀ windows, (InitConfig.parse (cfg.cmdline windows)).workload = some w.entrypoint ∧
    (InitConfig.parse (cfg.cmdline windows)).args = w.args ∧ w.env = []

/-- The guest runs the command of its image, unless the machine is one for `ssh`. -/
theorem runsWorkload_iff (env : Host.HostEnv) (hname : Spaceless spec.name)
    (ip : Ipv4Addr) (w : Workload) : RunsWorkload (launchConfig env spec ip) w ↔
      spec.ssh = false ∧ delivered (env.imageArgv spec.image) = w.entrypoint :: w.args ∧ w.env = [] := by
  have hread : ∀ windows, InitConfig.parse ((launchConfig env spec ip).cmdline windows) =
      ((InitConfig.ofMode ((Host.workload env spec).map encodeArgv)).assignOption "mm.authorized_key"
        (some (hexEncode env.authorizedKey))).assignOption "mm.random_seed"
          (env.randomSeed.map hexEncode) := by
    intro windows
    refine parse_cmdline _ _ _ _ _ _ _ _ _ _ hname ?_ ?_ ?_ windows
    · intro s hs
      obtain ⟨argv, -, rfl⟩ := Option.map_eq_some_iff.mp hs
      exact spaceless_hexEncode _
    · intro s hs
      cases hs
      exact spaceless_hexEncode _
    · intro s hs
      obtain ⟨seed, -, rfl⟩ := Option.map_eq_some_iff.mp hs
      exact spaceless_hexEncode _
  have hmode : RunsWorkload (launchConfig env spec ip) w ↔
      (InitConfig.ofMode ((Host.workload env spec).map encodeArgv)).workload = some w.entrypoint ∧
        (InitConfig.ofMode ((Host.workload env spec).map encodeArgv)).args = w.args ∧ w.env = [] := by
    unfold RunsWorkload
    simp only [hread, assignOption_argv]
    exact ⟨fun h => h [], fun h _ => h⟩
  rw [hmode, Host.workload]
  cases hssh : spec.ssh with
  | true => simp [InitConfig.ofMode]
  | false =>
    have hargv : (decodeHex (encodeArgv (env.imageArgv spec.image))).map decodeArgv =
        some (delivered (env.imageArgv spec.image)) := by
      rw [encodeArgv, decodeHex_hexEncode, Option.map_some, delivered]
    simp only [Bool.false_eq_true, if_false, Option.map_some, InitConfig.ofMode, InitConfig.assign, hargv,
      true_and]
    cases delivered (env.imageArgv spec.image) with
    | nil => simp
    | cons first rest => simp [and_assoc]

/-! ## The whole way -/

/-- A path as text. -/
def pathOf (text : String) : Path := ((text.toList.splitOn '/').filter (· ≠ [])).map String.ofList

theorem range_of_launched {host : HostConfig} (h : Launched env (launchSpec host req reservedIps) ops)
    (hcpus : req.cpus < 256) (hmemory : req.memoryMib < 2 ^ 64) :
    1 ≤ req.cpus ∧ req.cpus ≤ 32 ∧ 16 ≤ req.memoryMib := by
  obtain ⟨ip, -, hvalid⟩ := h.config
  simp only [Host.validates, launchConfig_vcpus, launchConfig_memoryMib, launchSpec, Bool.and_eq_true,
    decide_eq_true_eq, UInt8.le_iff_toNat_le, UInt64.le_iff_toNat_le, UInt8.toNat_ofNat', UInt64.toNat_ofNat',
    Nat.mod_eq_of_lt hcpus, Nat.mod_eq_of_lt hmemory] at hvalid
  exact ⟨hvalid.1.1, hvalid.1.2, hvalid.2⟩

/-- What is left of the specification in the request. -/
theorem bootRequest_startAssignment {row : MachineRow} {hostId : String}
    (h : bootRequest (row.startAssignment hostId) = some req) :
    req.name = hostName (toString row.uid) ∧ req.image = row.spec.image ∧
      req.cpus = max 1 (min row.spec.vcpus 255) ∧ req.memoryMib = row.spec.memoryMib ∧
      req.ssh = row.spec.ssh := by
  cases h
  exact ⟨rfl, rfl, rfl, rfl, rfl⟩

def node : HostConfig where
  stateRoot := ["var", "lib", "mm"]
  kernelPath := ["boot", "vmlinux"]
  mmInitPath := ["sbin", "mm-init"]
  sshdPath := none

/-- A host on which every image runs `nginx`. -/
def nodeEnv : Host.HostEnv where
  rootfs _ _ _ := ["images", "rootfs.ext4"]
  imageArgv _ := ["nginx"]
  authorizedKey := [115, 115, 104]
  randomSeed := some [7]
  egress := some "eth0"
  pid := 4711

/-- A machine with this specification. -/
def rowOf (spec : MachineSpec) : MachineRow :=
  { uid := 17, ns := "default", fleet := "default", name := "web", spec := spec, status := {}, hostId := none }

/-- The request for it. -/
def requestOf (spec : MachineSpec) : BootRequest where
  uid := 17
  ns := "default"
  name := hostName (toString 17)
  image := spec.image
  cpus := max 1 (min spec.vcpus 255)
  memoryMib := spec.memoryMib
  ssh := spec.ssh

/-- Two processors are asked for, and what the image runs anyway. -/
def modest : MachineSpec := { image := "web:1", vcpus := 2, workload := some ⟨"nginx", [], []⟩ }

/-- A kernel of its own, a workload of its own and no processor are asked for. -/
def particular : MachineSpec :=
  { image := "web:1", kernel := some "/opt/vmlinux", vcpus := 0, workload := some ⟨"/bin/app", [], []⟩ }

end MicroMachines.HostAgent
