import MicroMachines.Lib.Text
import MicroMachines.Vmm.Layout

set_option autoImplicit false

/-! # What the command line tells the guest

The host has no other way to tell the first process of a guest what to run than the kernel command
line. `encode_argv` and `build_vm_config` of `crates/mm-host` write it, `attach_virtio` of
`crates/mm-vmm` appends the devices, and `InitConfig::parse` of `crates/mm-init` reads it.

Everything that may contain a space is written in hexadecimal digits. The arguments of the workload
are joined with NUL characters before that, and split at zero bytes in the guest.

* `directives_survive`: the key, the seed and the mode reach the guest.
* `argv_survives_iff`: the arguments reach the guest if and only if none of them is empty; an empty
  one is lost (`empty_argument_lost`).
-/

namespace MicroMachines.Boot

open MicroMachines.Lib MicroMachines.Vmm

/-! ## The host -/

/-- `hex_encode`: two digits a byte. -/
def hexEncode (bytes : List UInt8) : String :=
  String.ofList (bytes.flatMap (fun b =>
    [Nat.digitChar (b.toNat / 16), Nat.digitChar (b.toNat % 16)]))

/-- `encode_argv`. -/
def encodeArgv (argv : List String) : String := hexEncode (utf8 (String.intercalate "\x00" argv))

/-- `std::net::Ipv4Addr`. -/
structure Ipv4Addr where
  a : UInt8
  b : UInt8
  c : UInt8
  d : UInt8
  deriving DecidableEq, Repr

def Ipv4Addr.display (ip : Ipv4Addr) : String :=
  toString ip.a.toNat ++ "." ++ toString ip.b.toNat ++ "." ++ toString ip.c.toNat ++ "." ++
    toString ip.d.toNat

/-- `ip_cmdline`. -/
def ipCmdline (client gateway mask : Ipv4Addr) (hostname iface : String) : String :=
  "ip=" ++ client.display ++ "::" ++ gateway.display ++ ":" ++ mask.display ++ ":" ++ hostname ++
    ":" ++ iface ++ ":off"

def FAST_BOOT_ARGS : String := "pci=off 8250.nr_uarts=1"

structure BlockDevice where
  path : String
  readOnly : Bool
  deriving DecidableEq, Repr

structure VmConfig where
  vcpus : UInt8
  memoryMib : UInt64
  kernel : String
  kernelCmdline : String
  rootfs : BlockDevice
  devices : List ConfigDevice
  deriving DecidableEq, Repr

/-- The part of the command line that is the same for all machines. -/
def fixedArgs : String :=
  "console=ttyS0 root=/dev/vda ro init=/init reboot=t panic=1 " ++ FAST_BOOT_ARGS

/-- An optional directive behind a space. -/
def optionalArg (name : String) : Option String → String
  | some value => " " ++ (name ++ "=" ++ value)
  | none => ""

/-- The workload, or the mode of a machine without one. -/
def modeArg : Option String → String
  | some hex => "mm.workload_argv=" ++ hex
  | none => "mm.mode=sandbox"

def buildVmConfig (vcpus : UInt8) (memoryMib : UInt64) (kernel rootfs : String)
    (ip gateway mask : Ipv4Addr) (hostname tapName mac : String)
    (workloadArgvHex authorizedKeyHex randomSeedHex : Option String) : VmConfig where
  vcpus := vcpus
  memoryMib := memoryMib
  kernel := kernel
  kernelCmdline :=
    fixedArgs ++ " " ++ ipCmdline ip gateway mask hostname "eth0" ++ " " ++
      modeArg workloadArgvHex ++ optionalArg "mm.authorized_key" authorizedKeyHex ++
      optionalArg "mm.random_seed" randomSeedHex
  rootfs := ⟨rootfs, true⟩
  devices := [.net tapName mac]

/-- What `attach_virtio` says about a device, behind a space. -/
def deviceArg (base gsi : Nat) : String :=
  "virtio_mmio.device=4K@0x" ++ String.ofList (Nat.toDigits 16 base) ++ ":" ++ toString gsi

/-- The command line of a booted machine: the configured one, and the devices. -/
def VmConfig.cmdline (cfg : VmConfig) (windows : List (Nat × Nat)) : String :=
  windows.foldl (fun line w => line ++ (" " ++ deviceArg w.1 w.2)) cfg.kernelCmdline

/-! ## The guest -/

/-- `char::is_whitespace`. -/
def isWhitespace (c : Char) : Bool :=
  c.toNat == 0x20 || (0x09 ≤ c.toNat && c.toNat ≤ 0x0d) || c.toNat == 0x85 || c.toNat == 0xa0 ||
    c.toNat == 0x1680 || (0x2000 ≤ c.toNat && c.toNat ≤ 0x200a) || c.toNat == 0x2028 ||
    c.toNat == 0x2029 || c.toNat == 0x202f || c.toNat == 0x205f || c.toNat == 0x3000

/-- A hexadecimal digit, in lower or upper case. -/
def nibble (c : UInt8) : Option UInt8 :=
  if 48 ≤ c ∧ c ≤ 57 then some (c - 48)
  else if 97 ≤ c ∧ c ≤ 102 then some (c - 97 + 10)
  else if 65 ≤ c ∧ c ≤ 70 then some (c - 65 + 10)
  else none

def decodePairs : List UInt8 → Option (List UInt8)
  | [] => some []
  | [_] => none
  | a :: b :: rest =>
    match nibble a, nibble b, decodePairs rest with
    | some hi, some lo, some out => some ((hi <<< 4 ||| lo) :: out)
    | _, _, _ => none

/-- `decode_hex`. -/
def decodeHex (s : String) : Option (List UInt8) := decodePairs (utf8 s)

/-- `str::parse::<u32>`. -/
def parseU32 (s : String) : Option UInt32 :=
  let digits := match s.toList with
    | '+' :: rest => rest
    | cs => cs
  if digits ≠ [] ∧ digits.all Char.isDigit then
    let n := digits.foldl (fun acc c => 10 * acc + (c.toNat - 48)) 0
    if n < 2 ^ 32 then some (UInt32.ofNat n) else none
  else none

inductive Mode where
  | workload
  | sandbox
  deriving DecidableEq, Repr

structure InitConfig where
  workload : Option String := none
  args : List String := []
  mode : Mode := .workload
  vsockBootPort : Option UInt32 := none
  authorizedKey : Option String := none
  randomSeed : Option (List UInt8) := none
  deriving DecidableEq, Repr

/-- The arguments in the value of `mm.workload_argv`: empty pieces are left out, and so are pieces
that are not text. -/
def decodeArgv (bytes : List UInt8) : List String :=
  ((bytes.splitOn 0).filter (fun piece => !piece.isEmpty)).filterMap fromUtf8

/-- What is done for a name and a value. -/
def InitConfig.assign (cfg : InitConfig) (name value : String) : InitConfig :=
  match name with
  | "mm.workload" => { cfg with workload := some value }
  | "mm.args" =>
    { cfg with args := ((value.toList.splitOn ',').filter (fun s => !s.isEmpty)).map String.ofList }
  | "mm.workload_argv" =>
    match (decodeHex value).map decodeArgv with
    | some (first :: rest) => { cfg with workload := some first, args := rest }
    | _ => cfg
  | "mm.mode" => if value = "sandbox" then { cfg with mode := .sandbox } else cfg
  | "mm.vsock_boot_port" => { cfg with vsockBootPort := parseU32 value }
  | "mm.authorized_key" => { cfg with authorizedKey := (decodeHex value).bind fromUtf8 }
  | "mm.random_seed" => { cfg with randomSeed := (decodeHex value).filter (fun b => !b.isEmpty) }
  | _ => cfg

/-- What is done for a word of the command line. -/
def InitConfig.token (cfg : InitConfig) (tok : List Char) : InitConfig :=
  match splitOnce '=' tok with
  | some (name, value) => cfg.assign (String.ofList name) (String.ofList value)
  | none => cfg

/-- `InitConfig::parse`. -/
def InitConfig.parse (cmdline : String) : InitConfig :=
  (words isWhitespace cmdline.toList).foldl InitConfig.token {}

/-! ## Hexadecimal digits -/

theorem nibble_digitChar : ∀ n < 16, nibble (UInt8.ofNat (Nat.digitChar n).toNat) =
    some (UInt8.ofNat n) := by
  decide

theorem shift_or_nibble : ∀ n < 256,
    (UInt8.ofNat (n / 16) <<< 4 ||| UInt8.ofNat (n % 16)) = UInt8.ofNat n := by
  decide +kernel

theorem digitChar_ascii : ∀ n < 16, (Nat.digitChar n).toNat ≤ 127 := by
  decide

theorem utf8_hexEncode (bytes : List UInt8) : utf8 (hexEncode bytes) = bytes.flatMap (fun b =>
      [UInt8.ofNat (Nat.digitChar (b.toNat / 16)).toNat,
        UInt8.ofNat (Nat.digitChar (b.toNat % 16)).toNat]) := by
  rw [utf8_eq_flatMap, hexEncode, String.toList_ofList, List.flatMap_assoc]
  congr 1
  funext b
  have hb : b.toNat < 256 := b.toNat_lt
  have hhi := digitChar_ascii (b.toNat / 16) (by omega)
  have hlo := digitChar_ascii (b.toNat % 16) (by omega)
  simp [utf8EncodeChar_ascii hhi, utf8EncodeChar_ascii hlo]

/-- **Hexadecimal digits are read back.** -/
theorem decodeHex_hexEncode (bytes : List UInt8) : decodeHex (hexEncode bytes) = some bytes := by
  rw [decodeHex, utf8_hexEncode]
  induction bytes with
  | nil => rfl
  | cons b bytes ih =>
    have hb : b.toNat < 256 := b.toNat_lt
    have hhi := nibble_digitChar (b.toNat / 16) (by omega)
    have hlo := nibble_digitChar (b.toNat % 16) (by omega)
    have hbyte := shift_or_nibble b.toNat hb
    simp only [List.flatMap_cons, List.cons_append, List.nil_append, decodePairs, hhi, hlo, ih,
      hbyte, UInt8.ofNat_toNat]

/-! ## Words of the command line -/

/-- A text without whitespace. -/
def Spaceless (s : String) : Prop := ∀ c ∈ s.toList, isWhitespace c = false

instance (s : String) : Decidable (Spaceless s) :=
  List.decidableBAll (fun c => isWhitespace c = false) s.toList

theorem spaceless_append {s t : String} (hs : Spaceless s) (ht : Spaceless t) :
    Spaceless (s ++ t) := by
  intro c hc
  rw [String.toList_append, List.mem_append] at hc
  rcases hc with hc | hc
  · exact hs c hc
  · exact ht c hc

theorem isWhitespace_digitChar : ∀ n < 16, isWhitespace (Nat.digitChar n) = false := by
  decide

theorem spaceless_hexEncode (bytes : List UInt8) : Spaceless (hexEncode bytes) := by
  intro c hc
  rw [hexEncode, String.toList_ofList] at hc
  obtain ⟨b, -, hc⟩ := List.mem_flatMap.mp hc
  have hb : b.toNat < 256 := b.toNat_lt
  simp only [List.mem_cons, List.not_mem_nil, or_false] at hc
  rcases hc with rfl | rfl <;> exact isWhitespace_digitChar _ (by omega)

theorem isWhitespace_toDigits {b : Nat} (hb : 1 < b) (hb' : b ≤ 16) (n : Nat) :
    ∀ c ∈ Nat.toDigits b n, isWhitespace c = false := by
  induction n using Nat.strong_induction_on with
  | _ n ih =>
    intro c hc
    rw [Nat.toDigits_eq_if hb] at hc
    split_ifs at hc with hn
    · rw [List.mem_singleton.mp hc]
      exact isWhitespace_digitChar n (by omega)
    · rcases List.mem_append.mp hc with hc | hc
      · exact ih (n / b) (Nat.div_lt_self (by omega) hb) c hc
      · rw [List.mem_singleton.mp hc]
        have hmod : n % b < b := Nat.mod_lt n (by omega)
        exact isWhitespace_digitChar _ (by omega)

theorem spaceless_toString (n : Nat) : Spaceless (toString n) := by
  intro c hc
  have hdigits : (toString n).toList = Nat.toDigits 10 n := String.toList_ofList
  rw [hdigits] at hc
  exact isWhitespace_toDigits (by decide) (by decide) n c hc

theorem spaceless_display (ip : Ipv4Addr) : Spaceless ip.display := by
  have hdot : Spaceless "." := by decide
  unfold Ipv4Addr.display
  exact spaceless_append (spaceless_append (spaceless_append (spaceless_append (spaceless_append
    (spaceless_append (spaceless_toString _) hdot) (spaceless_toString _)) hdot)
    (spaceless_toString _)) hdot) (spaceless_toString _)

theorem isWord_toList {s : String} (hs : Spaceless s) (hne : s ≠ "") :
    IsWord isWhitespace s.toList :=
  ⟨fun h => hne (String.toList_eq_nil_iff.mp h), hs⟩

theorem isWord_toList_append {s t : String} (hs : IsWord isWhitespace s.toList)
    (ht : Spaceless t) : IsWord isWhitespace (s ++ t).toList := by
  rw [String.toList_append]
  exact isWord_append hs ht

theorem isWord_ipCmdline (ip gateway mask : Ipv4Addr) {hostname : String}
    (hhost : Spaceless hostname) :
    IsWord isWhitespace (ipCmdline ip gateway mask hostname "eth0").toList := by
  have hcolon : Spaceless ":" := by decide
  have hdouble : Spaceless "::" := by decide
  have heth : Spaceless "eth0" := by decide
  have hoff : Spaceless ":off" := by decide
  have hip : IsWord isWhitespace ("ip=" ++ ip.display).toList :=
    isWord_toList_append (isWord_toList (by decide) (by decide)) (spaceless_display ip)
  have hgateway := isWord_toList_append (isWord_toList_append hip hdouble)
    (spaceless_display gateway)
  have hmask := isWord_toList_append (isWord_toList_append hgateway hcolon) (spaceless_display mask)
  have hname := isWord_toList_append (isWord_toList_append hmask hcolon) hhost
  exact isWord_toList_append (isWord_toList_append (isWord_toList_append hname hcolon) heth) hoff

theorem isWord_modeArg {workload : Option String} (hworkload : ∀ s ∈ workload, Spaceless s) :
    IsWord isWhitespace (modeArg workload).toList := by
  cases workload with
  | none => exact isWord_toList (by decide) (by decide)
  | some hex =>
    exact isWord_toList_append (isWord_toList (by decide) (by decide)) (hworkload hex rfl)

theorem isWord_deviceArg (base gsi : Nat) : IsWord isWhitespace (deviceArg base gsi).toList := by
  have hcolon : Spaceless ":" := by decide
  have hbase : Spaceless (String.ofList (Nat.toDigits 16 base)) := by
    intro c hc
    rw [String.toList_ofList] at hc
    exact isWhitespace_toDigits (by decide) (by decide) base c hc
  have hname : IsWord isWhitespace "virtio_mmio.device=4K@0x".toList :=
    isWord_toList (by decide) (by decide)
  exact isWord_toList_append (isWord_toList_append (isWord_toList_append hname hbase) hcolon)
    (spaceless_toString gsi)

/-! ## Reading the command line -/

/-- A word with an equals sign is a name and a value. -/
theorem token_cons (cfg : InitConfig) {name : String} (hname : '=' ∉ name.toList)
    (value : List Char) :
    cfg.token (name.toList ++ '=' :: value) = cfg.assign name (String.ofList value) := by
  rw [InitConfig.token, splitOnce_append_cons hname value]
  simp only [String.ofList_toList]

theorem token_append (cfg : InitConfig) {name : String} (hname : '=' ∉ name.toList)
    (value : String) : cfg.token (name ++ "=" ++ value).toList = cfg.assign name value := by
  have htok : (name ++ "=" ++ value).toList = name.toList ++ '=' :: value.toList := by
    rw [String.toList_append, String.toList_append, List.append_assoc]
    rfl
  rw [htok, token_cons cfg hname, String.ofList_toList]

theorem token_ipCmdline (cfg : InitConfig) (ip gateway mask : Ipv4Addr) (hostname iface : String) :
    cfg.token (ipCmdline ip gateway mask hostname iface).toList = cfg := by
  have hname : "ip=".toList = "ip".toList ++ ['='] := by decide
  unfold ipCmdline
  simp only [String.toList_append, List.append_assoc, List.cons_append, List.nil_append, hname]
  rw [token_cons cfg (by decide)]
  rfl

theorem token_deviceArg (cfg : InitConfig) (base gsi : Nat) :
    cfg.token (deviceArg base gsi).toList = cfg := by
  have hname : "virtio_mmio.device=4K@0x".toList =
      "virtio_mmio.device".toList ++ '=' :: "4K@0x".toList := by decide
  unfold deviceArg
  simp only [String.toList_append, List.append_assoc, List.cons_append, hname]
  rw [token_cons cfg (by decide)]
  rfl

theorem foldl_token_deviceArg (cfg : InitConfig) (windows : List (Nat × Nat)) :
    (windows.map (fun w => (deviceArg w.1 w.2).toList)).foldl InitConfig.token cfg = cfg := by
  induction windows with
  | nil => rfl
  | cons w windows ih => rw [List.map_cons, List.foldl_cons, token_deviceArg, ih]

/-- The fixed part says nothing to the guest. -/
theorem foldl_token_fixedArgs :
    (words isWhitespace fixedArgs.toList).foldl InitConfig.token {} = {} := by
  decide +kernel

/-- An optional directive as a list of words. -/
def optionalWord (name : String) (value : Option String) : List (List Char) :=
  (value.map (fun v => (name ++ "=" ++ v).toList)).toList

theorem toList_optionalArg (name : String) (value : Option String) :
    (optionalArg name value).toList = (optionalWord name value).flatMap (fun w => ' ' :: w) := by
  cases value with
  | none => rfl
  | some v =>
    rw [optionalArg, String.toList_append]
    simp [optionalWord]

/-- What is done for an optional directive. -/
def InitConfig.assignOption (cfg : InitConfig) (name : String) (value : Option String) :
    InitConfig :=
  value.elim cfg (cfg.assign name)

theorem foldl_token_optionalWord (cfg : InitConfig) {name : String} (hname : '=' ∉ name.toList)
    (value : Option String) :
    (optionalWord name value).foldl InitConfig.token cfg = cfg.assignOption name value := by
  cases value with
  | none => rfl
  | some v => exact token_append cfg hname v

theorem isWord_optionalWord {name : String} (hname : IsWord isWhitespace name.toList)
    {value : Option String} (hvalue : ∀ s ∈ value, Spaceless s) :
    ∀ w ∈ optionalWord name value, IsWord isWhitespace w := by
  intro w hw
  cases value with
  | none => cases hw
  | some v =>
    rw [optionalWord, Option.map_some, Option.toList_some, List.mem_singleton] at hw
    rw [hw]
    exact isWord_toList_append (isWord_toList_append hname (by decide)) (hvalue v rfl)

theorem toList_cmdline (cfg : VmConfig) (windows : List (Nat × Nat)) :
    (cfg.cmdline windows).toList = cfg.kernelCmdline.toList ++
      (windows.map (fun w => (deviceArg w.1 w.2).toList)).flatMap (fun w => ' ' :: w) := by
  rw [VmConfig.cmdline]
  generalize cfg.kernelCmdline = line
  induction windows generalizing line with
  | nil => simp
  | cons w windows ih =>
    rw [List.foldl_cons, ih]
    simp

/-- The configuration after the mode of the machine has been read. -/
def InitConfig.ofMode : Option String → InitConfig
  | some hex => ({} : InitConfig).assign "mm.workload_argv" hex
  | none => { mode := .sandbox }

section Parse

variable (vcpus : UInt8) (memoryMib : UInt64) (kernel rootfs : String) (ip gateway mask : Ipv4Addr)
  (hostname tapName mac : String)

/-- The words of the command line that are not the same for all machines. -/
def variableWords (workload key seed : Option String) (windows : List (Nat × Nat)) :
    List (List Char) :=
  (ipCmdline ip gateway mask hostname "eth0").toList :: (modeArg workload).toList ::
    (optionalWord "mm.authorized_key" key ++ (optionalWord "mm.random_seed" seed ++
      windows.map (fun w => (deviceArg w.1 w.2).toList)))

theorem isWord_variableWords (hhost : Spaceless hostname) {workload key seed : Option String}
    (hworkload : ∀ s ∈ workload, Spaceless s) (hkey : ∀ s ∈ key, Spaceless s)
    (hseed : ∀ s ∈ seed, Spaceless s) (windows : List (Nat × Nat)) :
    ∀ w ∈ variableWords ip gateway mask hostname workload key seed windows,
      IsWord isWhitespace w := by
  intro w hw
  simp only [variableWords, List.mem_cons, List.mem_append] at hw
  rcases hw with hw | hw | hw | hw | hw
  · rw [hw]
    exact isWord_ipCmdline ip gateway mask hhost
  · rw [hw]
    exact isWord_modeArg hworkload
  · exact isWord_optionalWord (isWord_toList (by decide) (by decide)) hkey w hw
  · exact isWord_optionalWord (isWord_toList (by decide) (by decide)) hseed w hw
  · obtain ⟨⟨base, gsi⟩, -, rfl⟩ := List.mem_map.mp hw
    exact isWord_deviceArg base gsi

/-- **What the guest reads.** Of all words only those of the mode, the key and the seed have an
effect. -/
theorem parse_cmdline (hhost : Spaceless hostname) {workload key seed : Option String}
    (hworkload : ∀ s ∈ workload, Spaceless s) (hkey : ∀ s ∈ key, Spaceless s)
    (hseed : ∀ s ∈ seed, Spaceless s) (windows : List (Nat × Nat)) :
    InitConfig.parse ((buildVmConfig vcpus memoryMib kernel rootfs ip gateway mask hostname tapName
        mac workload key seed).cmdline windows) =
      ((InitConfig.ofMode workload).assignOption "mm.authorized_key" key).assignOption
        "mm.random_seed" seed := by
  have hline : ((buildVmConfig vcpus memoryMib kernel rootfs ip gateway mask hostname tapName
      mac workload key seed).cmdline windows).toList = fixedArgs.toList ++
        (variableWords ip gateway mask hostname workload key seed windows).flatMap
          (fun w => ' ' :: w) := by
    rw [toList_cmdline, buildVmConfig]
    simp [variableWords, toList_optionalArg]
  have hmode : ({} : InitConfig).token (modeArg workload).toList = .ofMode workload := by
    cases workload with
    | none => decide +kernel
    | some hex => exact @token_append {} "mm.workload_argv" (by decide) hex
  rw [InitConfig.parse, hline, words_append_flatMap (by decide) _ _
    (isWord_variableWords ip gateway mask hostname hhost hworkload hkey hseed windows),
    List.foldl_append, foldl_token_fixedArgs, variableWords, List.foldl_cons, token_ipCmdline,
    List.foldl_cons, hmode, List.foldl_append, List.foldl_append,
    foldl_token_optionalWord _ (by decide), foldl_token_optionalWord _ (by decide),
    foldl_token_deviceArg]

end Parse

/-! ## What reaches the guest -/

/-- A machine to boot: everything about it but what it is to run, the key and the seed. -/
structure Setup where
  vcpus : UInt8
  memoryMib : UInt64
  kernel : String
  rootfs : String
  ip : Ipv4Addr
  gateway : Ipv4Addr
  mask : Ipv4Addr
  hostname : String
  tapName : String
  mac : String
  spaceless : Spaceless hostname

/-- What the guest reads on its command line, for an argument list (or none), a key and a seed, and
devices in these windows. -/
def Setup.reads (m : Setup) (argv : Option (List String)) (key : Option String)
    (seed : Option (List UInt8)) (windows : List (Nat × Nat)) : InitConfig :=
  .parse ((buildVmConfig m.vcpus m.memoryMib m.kernel m.rootfs m.ip m.gateway m.mask m.hostname
    m.tapName m.mac (argv.map encodeArgv) (key.map (fun k => hexEncode (utf8 k)))
    (seed.map hexEncode)).cmdline windows)

section Reads

variable (m : Setup) (argv : Option (List String)) (key : Option String)
  (seed : Option (List UInt8)) (windows : List (Nat × Nat))

theorem reads_eq : m.reads argv key seed windows =
    ((InitConfig.ofMode (argv.map encodeArgv)).assignOption "mm.authorized_key"
      (key.map (fun k => hexEncode (utf8 k)))).assignOption "mm.random_seed"
        (seed.map hexEncode) := by
  -- Everything that is inserted is in hexadecimal digits.
  have hargv : ∀ s ∈ argv.map encodeArgv, Spaceless s := by
    intro s hs
    obtain ⟨a, -, rfl⟩ := Option.map_eq_some_iff.mp hs
    exact spaceless_hexEncode _
  have hkey : ∀ s ∈ key.map (fun k => hexEncode (utf8 k)), Spaceless s := by
    intro s hs
    obtain ⟨k, -, rfl⟩ := Option.map_eq_some_iff.mp hs
    exact spaceless_hexEncode _
  have hseed : ∀ s ∈ seed.map hexEncode, Spaceless s := by
    intro s hs
    obtain ⟨b, -, rfl⟩ := Option.map_eq_some_iff.mp hs
    exact spaceless_hexEncode _
  exact parse_cmdline _ _ _ _ _ _ _ _ _ _ m.spaceless hargv hkey hseed windows

/-- Reading the workload does not touch the rest. -/
theorem ofMode_rest (hex : Option String) : (InitConfig.ofMode hex).authorizedKey = none ∧
    (InitConfig.ofMode hex).randomSeed = none ∧ (InitConfig.ofMode hex).vsockBootPort = none ∧
      ((InitConfig.ofMode hex).mode = .sandbox ↔ hex = none) := by
  cases hex with
  | none => simp [InitConfig.ofMode]
  | some hex =>
    rw [InitConfig.ofMode, InitConfig.assign]
    rcases (decodeHex hex).map decodeArgv with _ | _ | ⟨first, rest⟩ <;> simp

/-- The key is read back, whatever it contains. -/
theorem assignOption_key {cfg : InitConfig} (hcfg : cfg.authorizedKey = none)
    (key : Option String) :
    cfg.assignOption "mm.authorized_key" (key.map (fun k => hexEncode (utf8 k))) =
      { cfg with authorizedKey := key } := by
  cases key with
  | none =>
    show cfg = { cfg with authorizedKey := none }
    rw [← hcfg]
  | some k =>
    have hkey : (decodeHex (hexEncode (utf8 k))).bind fromUtf8 = some k := by
      rw [decodeHex_hexEncode, Option.bind_some, fromUtf8_utf8]
    show { cfg with authorizedKey := (decodeHex (hexEncode (utf8 k))).bind fromUtf8 } = _
    rw [hkey]

/-- A seed is read back if it is not empty. -/
theorem assignOption_seed {cfg : InitConfig} (hcfg : cfg.randomSeed = none)
    {seed : Option (List UInt8)} (hseed : seed ≠ some []) :
    cfg.assignOption "mm.random_seed" (seed.map hexEncode) = { cfg with randomSeed := seed } := by
  cases seed with
  | none =>
    show cfg = { cfg with randomSeed := none }
    rw [← hcfg]
  | some b =>
    have hb : b ≠ [] := fun h => hseed (congrArg some h)
    have hfilter : (decodeHex (hexEncode b)).filter (fun b => !b.isEmpty) = some b := by
      rw [decodeHex_hexEncode]
      simp [hb]
    show { cfg with randomSeed := (decodeHex (hexEncode b)).filter (fun b => !b.isEmpty) } = _
    rw [hfilter]

/-- Neither the key nor the seed has to do with what is run. -/
theorem assignOption_argv (cfg : InitConfig) (key seed : Option String) :
    ((cfg.assignOption "mm.authorized_key" key).assignOption "mm.random_seed" seed).workload =
        cfg.workload ∧
      ((cfg.assignOption "mm.authorized_key" key).assignOption "mm.random_seed" seed).args =
        cfg.args := by
  cases key <;> cases seed <;> exact ⟨rfl, rfl⟩

/-- The arguments that are read: those that are not empty. -/
theorem decodeArgv_intercalate {argv : List String} (hne : argv ≠ [])
    (hnul : ∀ s ∈ argv, '\x00' ∉ s.toList) :
    decodeArgv (utf8 (String.intercalate "\x00" argv)) = argv.filter (fun s => s ≠ "") := by
  rw [decodeArgv, splitOn_utf8 hne hnul]
  clear hne hnul
  induction argv with
  | nil => rfl
  | cons s argv ih =>
    by_cases hs : s = ""
    · subst hs
      simpa [(utf8_eq_nil "").mpr rfl] using ih
    · have hbytes : utf8 s ≠ [] := fun h => hs ((utf8_eq_nil s).mp h)
      simpa [hs, hbytes, fromUtf8_utf8] using ih

theorem reads_argv (m : Setup) {program : String} {args : List String} (hprogram : program ≠ "")
    (hnul : ∀ s ∈ program :: args, '\x00' ∉ s.toList) (key : Option String)
    (seed : Option (List UInt8)) (windows : List (Nat × Nat)) :
    (m.reads (some (program :: args)) key seed windows).workload = some program ∧
      (m.reads (some (program :: args)) key seed windows).args = args.filter (fun s => s ≠ "") := by
  have hargv : (decodeHex (encodeArgv (program :: args))).map decodeArgv =
      some (program :: args.filter (fun s => s ≠ "")) := by
    rw [encodeArgv, decodeHex_hexEncode, Option.map_some,
      decodeArgv_intercalate (List.cons_ne_nil _ _) hnul,
      List.filter_cons_of_pos (by simpa using hprogram)]
  have hmode : InitConfig.ofMode (some (encodeArgv (program :: args))) =
      { workload := some program, args := args.filter (fun s => s ≠ "") } := by
    rw [InitConfig.ofMode, InitConfig.assign, hargv]
  rw [reads_eq, Option.map_some, hmode]
  exact assignOption_argv _ _ _

end Reads

/-- **The directives reach the guest**: the key and the seed as they are, whatever they contain, the
mode of the machine, and no boot port. -/
theorem directives_survive (m : Setup) (argv : Option (List String)) (key : Option String)
    (seed : Option (List UInt8)) (hseed : seed ≠ some []) (windows : List (Nat × Nat)) :
    (m.reads argv key seed windows).authorizedKey = key ∧
      (m.reads argv key seed windows).randomSeed = seed ∧
      ((m.reads argv key seed windows).mode = .sandbox ↔ argv = none) ∧
      (m.reads argv key seed windows).vsockBootPort = none := by
  obtain ⟨hk, hs, hport, hmode⟩ := ofMode_rest (argv.map encodeArgv)
  rw [Option.map_eq_none_iff] at hmode
  have hread := @assignOption_seed
    { InitConfig.ofMode (argv.map encodeArgv) with authorizedKey := key } hs seed hseed
  rw [reads_eq, assignOption_key hk, hread]
  exact ⟨rfl, rfl, hmode, hport⟩

/-- A small machine. -/
def web : Setup where
  vcpus := 1
  memoryMib := 256
  kernel := "/vmlinux"
  rootfs := "/rootfs.ext4"
  ip := ⟨10, 0, 0, 2⟩
  gateway := ⟨10, 0, 0, 1⟩
  mask := ⟨255, 255, 255, 0⟩
  hostname := "web"
  tapName := "mm-web"
  mac := "02:00:00:00:00:02"
  spaceless := by decide

/-- A key with a space and a line break, and a seed with a zero byte. -/
theorem directives_survive_web :
    (web.reads none (some "ssh-ed25519 AAAA\n") (some [0, 255]) [(0xd0000000, 5)]).authorizedKey =
        some "ssh-ed25519 AAAA\n" ∧
      (web.reads none (some "ssh-ed25519 AAAA\n") (some [0, 255]) [(0xd0000000, 5)]).mode =
        .sandbox := by
  obtain ⟨hkey, -, hmode, -⟩ := directives_survive web none (some "ssh-ed25519 AAAA\n")
    (some [0, 255]) (by decide) [(0xd0000000, 5)]
  exact ⟨hkey, hmode.mpr rfl⟩

/-- **The arguments reach the guest if and only if none of them is empty.** -/
theorem argv_survives_iff (m : Setup) (program : String) (args : List String)
    (hprogram : program ≠ "") (hnul : ∀ s ∈ program :: args, '\x00' ∉ s.toList)
    (key : Option String) (seed : Option (List UInt8)) (windows : List (Nat × Nat)) :
    ((m.reads (some (program :: args)) key seed windows).workload = some program ∧
      (m.reads (some (program :: args)) key seed windows).args = args) ↔ ∀ a ∈ args, a ≠ "" := by
  obtain ⟨hworkload, hargs⟩ := reads_argv m hprogram hnul key seed windows
  rw [hargs]
  constructor
  · rintro ⟨-, heq⟩ a ha
    have hfilter := List.filter_eq_self.mp heq a ha
    simpa using hfilter
  · intro hne
    refine ⟨hworkload, List.filter_eq_self.mpr (fun a ha => ?_)⟩
    simpa using hne a ha

/-- Arguments with a space, a comma and an equals sign. -/
theorem argv_survives_plain :
    (web.reads (some ["/bin/sh", "-c", "a b,c=d"]) none none []).args = ["-c", "a b,c=d"] :=
  ((argv_survives_iff web "/bin/sh" ["-c", "a b,c=d"] (by decide) (by decide) none none []).mpr
    (by decide)).2

/-- An empty argument is left out, so that the one behind it takes its place. -/
theorem empty_argument_lost : (web.reads (some ["/bin/echo", "", "x"]) none none []).args = ["x"] :=
  (@reads_argv web "/bin/echo" ["", "x"] (by decide) (by decide) none none []).2

end MicroMachines.Boot
