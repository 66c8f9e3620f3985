import Mathlib.Tactic

set_option autoImplicit false

/-! # The guest-physical layout

Three places of `crates/mm-vmm` decide what lies where in the guest's physical address
space, independently of one another: `allocate_guest_memory` splits RAM around the 32-bit
MMIO hole, `attach_virtio` places one 4 KiB window per device inside the hole, and
`configure_boot_params` tells the kernel which addresses are RAM through the e820 table.

* `BootMapOk`: the e820 table, the RAM regions and the hole agree.
* `bootMap_ok_iff`: they agree exactly for guests of at most 3072 MiB, because
  `configure_boot_params` does not know about the hole.
-/

namespace MicroMachines.Vmm

/-- Errors of the VMM (`VmmError`), with their texts. -/
inductive VmmError
  | config (msg : String)
  | kvm (msg : String)
  | memory (msg : String)
  | kernelLoad (msg : String)
  | vcpu (msg : String)
  | device (msg : String)
  | io (msg : String)
  | readyTimeout
  deriving DecidableEq, Repr

/-- Start of the 32-bit MMIO hole: 3 GiB. -/
def MMIO_GAP_START : Nat := 0xc0000000
/-- Where RAM resumes: 4 GiB. -/
def RAM_64BIT_START : Nat := 0x100000000
def MMIO_DEVICE_BASE : Nat := 0xd0000000
def MMIO_DEVICE_SIZE : Nat := 0x1000
def FIRST_VIRTIO_GSI : Nat := 5
def IDENTITY_MAP_ADDR : Nat := 0xfffbc000
def TSS_ADDR : Nat := 0xfffbd000
def HIMEM_START : Nat := 0x100000
def CMDLINE_START : Nat := 0x20000
def EBDA_START : Nat := 0x9fc00
def E820_RAM : Nat := 1
def KERNEL_LOADER_OTHER : Nat := 0xff
def KERNEL_BOOT_FLAG_MAGIC : Nat := 0xaa55
def KERNEL_HDR_MAGIC : Nat := 0x53726448
def KERNEL_MIN_ALIGNMENT_BYTES : Nat := 0x1000000

/-- `1 << 20`, the bytes of a MiB. -/
def MIB : Nat := 0x100000

/-- `u64::checked_mul`. -/
def checkedMul (a b : Nat) : Option Nat := if b * a < 2 ^ 64 then some (b * a) else none

/-! ## Guest RAM -/

/-- A range of guest-physical addresses. -/
structure Region where
  base : Nat
  size : Nat
  deriving DecidableEq, Repr

/-- The address lies in the range. -/
def Region.Contains (r : Region) (addr : Nat) : Prop := r.base ≤ addr ∧ addr < r.base + r.size

instance (r : Region) (addr : Nat) : Decidable (r.Contains addr) :=
  inferInstanceAs (Decidable (_ ∧ _))

/-- The RAM ranges of a guest of `memSize` bytes. -/
def ramRanges (memSize : Nat) : List Region :=
  if memSize ≤ MMIO_GAP_START then [⟨0, memSize⟩]
  else [⟨0, MMIO_GAP_START⟩, ⟨RAM_64BIT_START, memSize - MMIO_GAP_START⟩]

/-- `allocate_guest_memory`: the regions that `from_ranges` maps. -/
def allocateGuestMemory (memoryMib : Nat) : Except VmmError (List Region) :=
  match checkedMul memoryMib MIB with
  | none => .error (.memory ("memory size " ++ toString memoryMib ++ " MiB overflows"))
  | some memSize => .ok (ramRanges memSize)

/-! ## The boot parameters -/

structure E820Entry where
  addr : Nat
  size : Nat
  memType : Nat
  deriving DecidableEq, Repr

/-- The fields of the zero page that the VMM fills. The e820 table has room for 128
entries; `e820_entries` is its length. -/
structure BootParams where
  typeOfLoader : Nat := 0
  bootFlag : Nat := 0
  header : Nat := 0
  kernelAlignment : Nat := 0
  cmdLinePtr : Nat := 0
  cmdlineSize : Nat := 0
  e820Table : List E820Entry := []
  bounded : e820Table.length ≤ 128 := by decide

/-- Append an entry to the e820 table, unless it is full. -/
def addE820Entry (params : BootParams) (addr size memType : Nat) : Except VmmError BootParams :=
  if h : 128 ≤ params.e820Table.length then
    .error (.kernelLoad "too many e820 entries")
  else
    .ok { params with
      e820Table := params.e820Table ++ [⟨addr, size, memType⟩]
      bounded := by
        rw [List.length_append, List.length_singleton]
        omega }

/-- The loader identification and the command line pointer, with an empty e820 table. -/
def bootHeader (cmdlineLen : Nat) : BootParams :=
  { typeOfLoader := KERNEL_LOADER_OTHER
    bootFlag := KERNEL_BOOT_FLAG_MAGIC
    header := KERNEL_HDR_MAGIC
    kernelAlignment := KERNEL_MIN_ALIGNMENT_BYTES
    cmdLinePtr := CMDLINE_START
    cmdlineSize := (cmdlineLen + 1) % 2 ^ 32 }

/-- Fill the zero page for a guest with `memSize` bytes of RAM. -/
def configureBootParams (cmdlineLen memSize : Nat) : Except VmmError BootParams := do
  let params ← addE820Entry (bootHeader cmdlineLen) 0 EBDA_START E820_RAM
  if HIMEM_START < memSize then
    addE820Entry params HIMEM_START (memSize - HIMEM_START) E820_RAM
  else
    pure params

/-- The kernel is told that `addr` is RAM. -/
def BootParams.CoversRam (params : BootParams) (addr : Nat) : Prop :=
  ∃ e ∈ params.e820Table, e.memType = E820_RAM ∧ e.addr ≤ addr ∧ addr < e.addr + e.size

/-! ## Device windows -/

/-- The devices a configuration can list. -/
inductive ConfigDevice
  | net (tapName mac : String)
  | vsock
  | balloon (targetMib : Nat)
  deriving DecidableEq, Repr

/-- What is placed on the bus. -/
inductive DeviceKind
  | block
  | vsock
  | net
  | balloon
  deriving DecidableEq, Repr

/-- The next free window and interrupt line, the windows placed so far, and the command
line fragment that announces them. -/
structure Attach where
  nextMmio : Nat := MMIO_DEVICE_BASE
  nextGsi : Nat := FIRST_VIRTIO_GSI
  windows : List (DeviceKind × Region × Nat) := []
  cmdline : String := ""

/-- Place a device in the next window. -/
def attachVirtio (a : Attach) (kind : DeviceKind) : Attach :=
  { nextMmio := a.nextMmio + MMIO_DEVICE_SIZE
    nextGsi := a.nextGsi + 1
    windows := a.windows ++ [(kind, ⟨a.nextMmio, MMIO_DEVICE_SIZE⟩, a.nextGsi)]
    cmdline := a.cmdline ++ " virtio_mmio.device=4K@0x" ++
      String.ofList (Nat.toDigits 16 a.nextMmio) ++ ":" ++ toString a.nextGsi }

/-- What `start` attaches for one configured device: the boot vsock covers a vsock entry. -/
def ConfigDevice.attached : ConfigDevice → List DeviceKind
  | .net _ _ => [.net]
  | .vsock => []
  | .balloon _ => [.balloon]

/-- The devices of a booted machine, in bus order. -/
def bootDevices (devices : List ConfigDevice) : List DeviceKind :=
  .block :: .vsock :: devices.flatMap ConfigDevice.attached

/-- The windows of a booted machine. -/
def bootWindows (devices : List ConfigDevice) : Attach :=
  (bootDevices devices).foldl attachVirtio {}

/-- The identity-map page. -/
def identityMapPage : Region := ⟨IDENTITY_MAP_ADDR, 0x1000⟩

/-- The three TSS pages. -/
def tssPages : Region := ⟨TSS_ADDR, 0x3000⟩

/-- The 32-bit MMIO hole. -/
def mmioHole : Region := ⟨MMIO_GAP_START, RAM_64BIT_START - MMIO_GAP_START⟩

/-- Windows are placed from `MMIO_DEVICE_BASE` upwards. -/
theorem foldl_attachVirtio_base {kinds : List DeviceKind} {a : Attach}
    (ha : MMIO_DEVICE_BASE ≤ a.nextMmio) (hw : ∀ w ∈ a.windows, MMIO_DEVICE_BASE ≤ w.2.1.base) :
    ∀ w ∈ (kinds.foldl attachVirtio a).windows, MMIO_DEVICE_BASE ≤ w.2.1.base := by
  induction kinds generalizing a with
  | nil => exact hw
  | cons k ks ih =>
    refine ih (Nat.le_trans ha (Nat.le_add_right _ _)) ?_
    intro w hmem
    rcases List.mem_append.mp hmem with hmem | hmem
    · exact hw w hmem
    · obtain rfl := List.mem_singleton.mp hmem
      exact ha

theorem bootWindows_base (devices : List ConfigDevice) :
    ∀ w ∈ (bootWindows devices).windows, MMIO_DEVICE_BASE ≤ w.2.1.base :=
  foldl_attachVirtio_base (Nat.le_refl _) (fun _ h => absurd h List.not_mem_nil)

/-! ## Agreement of the three -/

/-- The e820 table, the RAM regions and the MMIO hole agree. -/
structure BootMapOk (regions : List Region) (params : BootParams)
    (windows : List (DeviceKind × Region × Nat)) : Prop where
  /-- What the kernel takes for RAM is RAM. -/
  backed : ∀ addr, params.CoversRam addr → ∃ r ∈ regions, r.Contains addr
  /-- No RAM is announced in the hole, -/
  outsideHole : ∀ addr, params.CoversRam addr → ¬ mmioHole.Contains addr
  /-- nor in a device window, -/
  outsideWindows : ∀ addr, params.CoversRam addr → ∀ w ∈ windows, ¬ w.2.1.Contains addr
  /-- nor in the pages KVM uses. -/
  outsideKvm : ∀ addr, params.CoversRam addr →
    ¬ tssPages.Contains addr ∧ ¬ identityMapPage.Contains addr
  /-- All RAM from 1 MiB on is announced. -/
  complete : ∀ addr, HIMEM_START ≤ addr → (∃ r ∈ regions, r.Contains addr) →
    params.CoversRam addr

/-- What `start` sets up: RAM as allocated by the constructor, boot parameters for the
configured size. -/
def bootMap (memoryMib cmdlineLen : Nat) : Except VmmError (List Region × BootParams) :=
  match allocateGuestMemory memoryMib, checkedMul memoryMib MIB with
  | .error e, _ => .error e
  | .ok _, none => .error (.memory "memory size overflow")
  | .ok regions, some memSize =>
    match configureBootParams cmdlineLen memSize with
    | .error e => .error e
    | .ok params => .ok (regions, params)

theorem addE820Entry_ok {params : BootParams} (h : params.e820Table.length < 128)
    (addr size memType : Nat) : ∃ params', addE820Entry params addr size memType = .ok params' ∧
      params'.e820Table = params.e820Table ++ [⟨addr, size, memType⟩] :=
  ⟨_, dif_neg (Nat.not_le.mpr h), rfl⟩

/-- The e820 table in closed form. -/
theorem configureBootParams_ok (cmdlineLen memSize : Nat) :
    ∃ params, configureBootParams cmdlineLen memSize = .ok params ∧ ∀ addr, params.CoversRam addr ↔
        addr < EBDA_START ∨ (HIMEM_START ≤ addr ∧ addr < memSize) := by
  have hempty : (bootHeader cmdlineLen).e820Table = [] := rfl
  obtain ⟨low, hlow, htable⟩ :=
    addE820Entry_ok (by rw [hempty]; decide : (bootHeader cmdlineLen).e820Table.length < 128)
      0 EBDA_START E820_RAM
  rw [hempty, List.nil_append] at htable
  obtain ⟨high, hhigh, htable'⟩ :=
    addE820Entry_ok (by rw [htable]; decide : low.e820Table.length < 128)
      HIMEM_START (memSize - HIMEM_START) E820_RAM
  rw [htable, List.singleton_append] at htable'
  by_cases h : HIMEM_START < memSize
  · refine ⟨high, ?_, fun addr => ?_⟩
    · simp only [configureBootParams, hlow, bind, Except.bind, if_pos h, hhigh]
    · simp only [BootParams.CoversRam, htable', List.mem_cons, List.not_mem_nil, or_false,
        exists_eq_or_imp, exists_eq_left, true_and]
      omega
  · refine ⟨low, ?_, fun addr => ?_⟩
    · simp only [configureBootParams, hlow, bind, Except.bind, if_neg h]
      rfl
    · simp only [BootParams.CoversRam, htable, List.mem_singleton, exists_eq_left, true_and]
      omega

theorem bootMap_of_eq {memoryMib cmdlineLen memSize : Nat} {params : BootParams}
    (hmul : checkedMul memoryMib MIB = some memSize)
    (hp : configureBootParams cmdlineLen memSize = .ok params) :
    bootMap memoryMib cmdlineLen = .ok (ramRanges memSize, params) := by
  have hram : allocateGuestMemory memoryMib = .ok (ramRanges memSize) := by
    rw [allocateGuestMemory, hmul]
  simp only [bootMap, hram, hmul, hp]

theorem bootMap_ok {memoryMib : Nat} (hov : MIB * memoryMib < 2 ^ 64) (cmdlineLen : Nat) :
    ∃ params, bootMap memoryMib cmdlineLen = .ok (ramRanges (MIB * memoryMib), params) ∧
      ∀ addr, params.CoversRam addr ↔
        addr < EBDA_START ∨ (HIMEM_START ≤ addr ∧ addr < MIB * memoryMib) := by
  obtain ⟨params, hp, hcov⟩ := configureBootParams_ok cmdlineLen (MIB * memoryMib)
  have hmul : checkedMul memoryMib MIB = some (MIB * memoryMib) := by
    rw [checkedMul, if_pos hov]
  exact ⟨params, bootMap_of_eq hmul hp, hcov⟩

/-- The RAM regions in closed form. -/
theorem ramRanges_contains (memSize addr : Nat) : (∃ r ∈ ramRanges memSize, r.Contains addr) ↔
      (addr < memSize ∧ addr < MMIO_GAP_START) ∨
      (RAM_64BIT_START ≤ addr ∧ addr < RAM_64BIT_START + (memSize - MMIO_GAP_START)) := by
  unfold ramRanges
  by_cases h : memSize ≤ MMIO_GAP_START
  · simp only [if_pos h, List.mem_singleton, exists_eq_left, Region.Contains]
    omega
  · simp only [if_neg h, List.mem_cons, List.not_mem_nil, or_false, exists_eq_or_imp,
      exists_eq_left, Region.Contains]
    omega

/-- **The boot memory map is right exactly up to 3 GiB.** For every accepted guest size, every
command line and every device list, the e820 table agrees with RAM and the MMIO hole if and
only if the guest has at most 3072 MiB. -/
theorem bootMap_ok_iff (memoryMib cmdlineLen : Nat) (devices : List ConfigDevice)
    (hpos : 1 ≤ memoryMib) (hov : MIB * memoryMib < 2 ^ 64) :
    ∃ regions params, bootMap memoryMib cmdlineLen = .ok (regions, params) ∧
      (BootMapOk regions params (bootWindows devices).windows ↔ memoryMib ≤ 3072) := by
  obtain ⟨params, hboot, hcov⟩ := bootMap_ok hov cmdlineLen
  refine ⟨_, params, hboot, ?_, ?_⟩
  · -- the first byte of the hole is announced as RAM by every larger guest
    intro hok
    by_contra hbig
    have h : params.CoversRam MMIO_GAP_START := by
      rw [hcov]
      simp only [HIMEM_START, MMIO_GAP_START, MIB]
      omega
    exact hok.outsideHole _ h (by decide)
  · intro hsmall
    have htop : ∀ addr, params.CoversRam addr → addr < MMIO_GAP_START := by
      intro addr h
      rw [hcov] at h
      simp only [EBDA_START, HIMEM_START, MIB] at h
      simp only [MMIO_GAP_START]
      omega
    refine ⟨fun addr h => ?_, fun addr h hc => ?_, fun addr h w hw hc => ?_, fun addr h => ?_,
      fun addr hge h => ?_⟩
    · rw [ramRanges_contains]
      refine Or.inl ⟨?_, htop addr h⟩
      rw [hcov] at h
      simp only [EBDA_START, MIB] at h ⊢
      omega
    · exact absurd hc.1 (Nat.not_le.mpr (htop addr h))
    · have hbase : MMIO_GAP_START ≤ addr :=
        calc MMIO_GAP_START ≤ MMIO_DEVICE_BASE := by decide
          _ ≤ w.2.1.base := bootWindows_base devices w hw
          _ ≤ addr := hc.1
      exact absurd hbase (Nat.not_le.mpr (htop addr h))
    · have hlt := htop addr h
      simp only [tssPages, identityMapPage, Region.Contains, TSS_ADDR, IDENTITY_MAP_ADDR,
        MMIO_GAP_START] at hlt ⊢
      omega
    · rw [ramRanges_contains] at h
      rw [hcov]
      simp only [RAM_64BIT_START, MMIO_GAP_START, MIB] at h ⊢
      omega

/-- A 2 GiB guest with a network device. -/
theorem bootMap_ok_iff_2048 : ∃ regions params, bootMap 2048 20 = .ok (regions, params) ∧
      (BootMapOk regions params (bootWindows [.net "tap0" "02:00:00:00:00:01"]).windows ↔
        2048 ≤ 3072) :=
  bootMap_ok_iff 2048 20 [.net "tap0" "02:00:00:00:00:01"] (by decide) (by decide)

/-- **A 4 GiB guest is told that the hole is RAM.** The byte at the first device window is
announced as RAM, lies in the window of the block device and is backed by no region. -/
theorem hole_announced_4096 : ∃ regions params, bootMap 4096 0 = .ok (regions, params) ∧
      params.CoversRam MMIO_DEVICE_BASE ∧
      (∃ w ∈ (bootWindows []).windows, w.1 = .block ∧ w.2.1.Contains MMIO_DEVICE_BASE) ∧
      ¬ (∃ r ∈ regions, r.Contains MMIO_DEVICE_BASE) ∧
      ¬ BootMapOk regions params (bootWindows []).windows := by
  obtain ⟨params, hboot, hcov⟩ := @bootMap_ok 4096 (by decide) 0
  have hc : params.CoversRam MMIO_DEVICE_BASE := (hcov _).mpr (Or.inr (by decide))
  refine ⟨_, params, hboot, hc, by decide, by decide, fun hok => ?_⟩
  exact hok.outsideHole _ hc (by decide)

end MicroMachines.Vmm
