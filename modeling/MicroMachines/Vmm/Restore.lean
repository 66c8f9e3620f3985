import MicroMachines.Vmm.Transport

set_option autoImplicit false

/-! # The devices of a restored machine

`start` and `resume_from_state` of `crates/mm-vmm/src/machine.rs` each place the devices on the
bus in a loop of their own. A restored guest goes on with the addresses and interrupt lines of
the first loop, and with the registers that its drivers have programmed.

* `resumeWindows_eq_iff`: the two loops agree exactly if there is no balloon.
* `registerView_survives_iff`: when the guest finds its registers as they were.
-/

namespace MicroMachines.Vmm

open MicroMachines.Lib

/-! ## Windows -/

/-- What `resume_from_state` attaches for one configured device: only the nets. -/
def ConfigDevice.reattached : ConfigDevice → List DeviceKind
  | .net _ _ => [.net]
  | .vsock => []
  | .balloon _ => []

/-- The devices of a restored machine, in bus order. -/
def resumeDevices (devices : List ConfigDevice) : List DeviceKind :=
  .block :: .vsock :: devices.flatMap ConfigDevice.reattached

/-- The windows of a restored machine. -/
def resumeWindows (devices : List ConfigDevice) : Attach :=
  (resumeDevices devices).foldl attachVirtio {}

def ConfigDevice.isBalloon : ConfigDevice → Bool
  | .balloon _ => true
  | _ => false

/-- The window and the interrupt line of the `k`-th device. -/
def nthWindow (k : Nat) : Region × Nat :=
  (⟨MMIO_DEVICE_BASE + k * MMIO_DEVICE_SIZE, MMIO_DEVICE_SIZE⟩, FIRST_VIRTIO_GSI + k)

/-- The windows in closed form. -/
theorem foldl_attachVirtio_windows (kinds : List DeviceKind) (a : Attach) (n : Nat)
    (hmmio : a.nextMmio = MMIO_DEVICE_BASE + n * MMIO_DEVICE_SIZE)
    (hgsi : a.nextGsi = FIRST_VIRTIO_GSI + n) : (kinds.foldl attachVirtio a).windows =
      a.windows ++ kinds.mapIdx (fun k kind => (kind, nthWindow (n + k))) := by
  induction kinds generalizing a n with
  | nil => rw [List.foldl_nil, List.mapIdx_nil, List.append_nil]
  | cons kind kinds ih =>
    have hmmio' : (attachVirtio a kind).nextMmio =
        MMIO_DEVICE_BASE + (n + 1) * MMIO_DEVICE_SIZE := by
      simp only [attachVirtio, hmmio, Nat.add_mul, Nat.one_mul]
      omega
    have hgsi' : (attachVirtio a kind).nextGsi = FIRST_VIRTIO_GSI + (n + 1) := by
      simp only [attachVirtio, hgsi]
      omega
    have hshift : ∀ k, n + 1 + k = n + (k + 1) := fun k => by omega
    rw [List.foldl_cons, ih (attachVirtio a kind) (n + 1) hmmio' hgsi', List.mapIdx_cons]
    simp only [attachVirtio, hmmio, hgsi, List.append_assoc, List.singleton_append, nthWindow,
      hshift, Nat.add_zero]

theorem windows_eq (kinds : List DeviceKind) :
    (kinds.foldl attachVirtio {}).windows = kinds.mapIdx (fun k kind => (kind, nthWindow k)) := by
  have h := foldl_attachVirtio_windows kinds {} 0 rfl rfl
  simpa only [Nat.zero_add, List.nil_append] using h

/-- The devices can be read off the windows. -/
theorem map_fst_windows (kinds : List DeviceKind) :
    (kinds.foldl attachVirtio {}).windows.map Prod.fst = kinds := by
  rw [windows_eq]
  refine List.ext_getElem? (fun k => ?_)
  rw [List.getElem?_map, List.getElem?_mapIdx]
  cases kinds[k]? with
  | none | some kind => rfl

theorem length_reattached_le (d : ConfigDevice) : d.reattached.length ≤ d.attached.length := by
  cases d with
  | balloon _ => exact Nat.zero_le 1
  | net _ _ => exact Nat.le_refl 1
  | vsock => exact Nat.le_refl 0

theorem length_reattached_lt {d : ConfigDevice} (h : d.isBalloon = true) :
    d.reattached.length < d.attached.length := by
  cases d with
  | balloon _ => exact Nat.zero_lt_one
  | net _ _ | vsock => cases h

theorem reattached_eq {d : ConfigDevice} (h : d.isBalloon = false) : d.reattached = d.attached := by
  cases d with
  | balloon _ => cases h
  | net _ _ | vsock => rfl

theorem length_flatMap_le (devices : List ConfigDevice) :
    (devices.flatMap ConfigDevice.reattached).length ≤
      (devices.flatMap ConfigDevice.attached).length := by
  induction devices with
  | nil => exact Nat.le_refl _
  | cons d ds ih =>
    simp only [List.flatMap_cons, List.length_append]
    have := length_reattached_le d
    omega

/-- The two loops attach the same devices only if no balloon is left out. -/
theorem flatMap_reattached_eq_iff (devices : List ConfigDevice) :
    devices.flatMap ConfigDevice.reattached = devices.flatMap ConfigDevice.attached ↔
      ∀ d ∈ devices, d.isBalloon = false := by
  induction devices with
  | nil => simp
  | cons d ds ih =>
    rw [List.forall_mem_cons, List.flatMap_cons, List.flatMap_cons]
    cases h : d.isBalloon with
    | true =>
      refine iff_of_false (fun heq => ?_) (fun hall => by cases hall.1)
      have hlen := congrArg List.length heq
      rw [List.length_append, List.length_append] at hlen
      have hlt := length_reattached_lt h
      have hle := length_flatMap_le ds
      omega
    | false =>
      rw [reattached_eq h, List.append_right_inj, ih]
      simp only [true_and]

/-- **A restored machine has the layout of the booted one exactly if no balloon is configured.**
For every device list, `resume_from_state` places the same kinds of devices at the same addresses
and interrupt lines as `start` if and only if the list has no balloon. -/
theorem resumeWindows_eq_iff (devices : List ConfigDevice) :
    (resumeWindows devices).windows = (bootWindows devices).windows ↔
      ∀ d ∈ devices, d.isBalloon = false := by
  rw [← flatMap_reattached_eq_iff]
  constructor
  · intro h
    have hkinds : resumeDevices devices = bootDevices devices := by
      rw [← map_fst_windows (resumeDevices devices), ← map_fst_windows (bootDevices devices)]
      exact congrArg (List.map Prod.fst) h
    exact (List.cons.inj (List.cons.inj hkinds).2).2
  · intro h
    rw [resumeWindows, bootWindows, resumeDevices, bootDevices, h]

/-- **A balloon moves the devices behind it.** The guest has a balloon at `0xd0002000` on line 7
and a net at `0xd0003000` on line 8; the restored machine has the net where the balloon was, and
nothing where the net was. -/
theorem net_moved_by_balloon :
    (bootWindows [.balloon 64, .net "tap0" "02:00:00:00:00:01"]).windows.drop 2 =
        [(.balloon, ⟨0xd0002000, 0x1000⟩, 7), (.net, ⟨0xd0003000, 0x1000⟩, 8)] ∧
      (resumeWindows [.balloon 64, .net "tap0" "02:00:00:00:00:01"]).windows.drop 2 =
        [(.net, ⟨0xd0002000, 0x1000⟩, 7)] ∧
      (resumeWindows [.balloon 64, .net "tap0" "02:00:00:00:00:01"]).windows ≠
        (bootWindows [.balloon 64, .net "tap0" "02:00:00:00:00:01"]).windows := by
  decide +kernel

/-! ## Devices from the configuration -/

def DEFAULT_GUEST_CID : UInt64 := 3
def PAGES_PER_MIB : Nat := 256

def hexDigit (c : Char) : Option Nat :=
  if '0' ≤ c ∧ c ≤ '9' then some (c.toNat - '0'.toNat)
  else if 'a' ≤ c ∧ c ≤ 'f' then some (c.toNat - 'a'.toNat + 10)
  else if 'A' ≤ c ∧ c ≤ 'F' then some (c.toNat - 'A'.toNat + 10)
  else none

/-- The value of hexadecimal digits, if it fits into a byte. -/
def hexValue : List Char → Nat → Option Nat
  | [], v => some v
  | c :: cs, v =>
    match hexDigit c with
    | none => none
    | some d => if v * 16 + d < 256 then hexValue cs (v * 16 + d) else none

/-- `u8::from_str_radix(part, 16)`. -/
def parseOctet (part : List Char) : Option UInt8 :=
  let digits :=
    match part with
    | '+' :: rest => rest
    | _ => part
  if digits.isEmpty then none else (hexValue digits 0).map UInt8.ofNat

def parseOctets (mac : String) : List (List Char) → List UInt8 → Except VmmError (List UInt8)
  | [], out => .ok out
  | part :: parts, out =>
    if 6 ≤ out.length then .error (.device ("invalid MAC (too many octets): " ++ mac))
    else
      match parseOctet part with
      | none => .error (.device
          ("invalid MAC octet \"" ++ String.ofList part ++ "\" in " ++ mac))
      | some octet => parseOctets mac parts (out ++ [octet])

def parseMac (mac : String) : Except VmmError (Vector UInt8 6) :=
  match parseOctets mac (mac.toList.splitOn ':') [] with
  | .error e => .error e
  | .ok out =>
    if h : out.length = 6 then .ok ⟨out.toArray, h⟩
    else .error (.device ("invalid MAC (need 6 octets): " ++ mac))

/-- `Balloon::new`. -/
def Balloon.new (targetMib : Nat) : Balloon :=
  let mib := if targetMib < 2 ^ 32 then targetMib else (2 ^ 32 - 1) / PAGES_PER_MIB
  { targetPages := UInt32.ofNat (min (mib * PAGES_PER_MIB) (2 ^ 32 - 1)) }

/-- The devices `start` makes for one entry of the configuration. -/
def ConfigDevice.backend : ConfigDevice → Except VmmError (List Backend)
  | .net _ mac => (parseMac mac).map (fun mac => [.net { mac := mac }])
  | .vsock => .ok []
  | .balloon targetMib => .ok [.balloon (Balloon.new targetMib)]

/-- The devices `resume_from_state` makes for it. -/
def ConfigDevice.restored : ConfigDevice → Except VmmError (List Backend)
  | .net _ mac => (parseMac mac).map (fun mac => [.net { mac := mac }])
  | .vsock => .ok []
  | .balloon _ => .ok []

/-- The loop over the configured devices. -/
def configured (make : ConfigDevice → Except VmmError (List Backend)) :
    List ConfigDevice → Except VmmError (List Backend)
  | [] => .ok []
  | d :: ds =>
    match make d, configured make ds with
    | .ok made, .ok rest => .ok (made ++ rest)
    | .error e, _ => .error e
    | _, .error e => .error e

/-- All devices, in bus order: the rootfs, the boot vsock, and the configured ones. -/
def backends (make : ConfigDevice → Except VmmError (List Backend)) (rootfs : Block)
    (listener : Bool) (devices : List ConfigDevice) : Except VmmError (List Backend) :=
  (configured make devices).map (fun rest =>
    .block rootfs :: .vsock { cid := DEFAULT_GUEST_CID, listener := listener } :: rest)

/-- The devices of a booted machine. -/
def bootBackends : Block → Bool → List ConfigDevice → Except VmmError (List Backend) :=
  backends ConfigDevice.backend

/-- The devices of a restored machine. -/
def resumeBackends : Block → Bool → List ConfigDevice → Except VmmError (List Backend) :=
  backends ConfigDevice.restored

namespace Backend

def kind : Backend → DeviceKind
  | .block _ => .block
  | .net _ => .net
  | .vsock _ => .vsock
  | .balloon _ => .balloon

/-- The device without what activation takes from it and its workers change. -/
def identity : Backend → Backend
  | .block b => .block { b with file := true }
  | .net n => .net { n with tap := true }
  | .vsock v => .vsock { v with listener := true }
  | .balloon b => .balloon { b with actual := 0 }

theorem deviceType_identity (d : Backend) : d.identity.deviceType = d.deviceType := by
  cases d <;> rfl

theorem features_identity (d : Backend) : d.identity.features = d.features := by
  cases d <;> rfl

theorem queueMaxSizes_identity (d : Backend) : d.identity.queueMaxSizes = d.queueMaxSizes := by
  cases d <;> rfl

theorem kind_identity (d : Backend) : d.identity.kind = d.kind := by
  cases d <;> rfl

/-- Only a balloon has a configuration that changes. -/
theorem config_identity {d : Backend} (h : d.kind ≠ .balloon) : d.identity.config = d.config := by
  cases d with
  | balloon b => exact absurd rfl h
  | _ => rfl

theorem activate_identity (d : Backend) (queues : List Queue) (evts : Nat) (host : Host) :
    (d.activate queues evts host).device.identity = d.identity := by
  cases d with
  | block b =>
    simp only [activate, activateBlock]
    split_ifs <;> rfl
  | net n =>
    simp only [activate, activateNet]
    split_ifs <;> rfl
  | vsock v =>
    simp only [activate, activateVsock]
    split_ifs <;> rfl
  | balloon b =>
    simp only [activate, activateBalloon]
    split_ifs <;> rfl

end Backend

/-- The kinds of the devices that are made are the kinds that are attached. -/
theorem map_kind_configured {make : ConfigDevice → Except VmmError (List Backend)}
    {kinds : ConfigDevice → List DeviceKind}
    (hmake : ∀ d made, make d = .ok made → made.map Backend.kind = kinds d) :
    ∀ {devices : List ConfigDevice} {bs : List Backend}, configured make devices = .ok bs →
      bs.map Backend.kind = devices.flatMap kinds := by
  intro devices
  induction devices with
  | nil =>
    intro bs h
    cases h
    rfl
  | cons d ds ih =>
    intro bs h
    cases hd : make d with
    | error e => simp only [configured, hd] at h; cases h
    | ok made =>
      cases hds : configured make ds with
      | error e => simp only [configured, hd, hds] at h; cases h
      | ok rest =>
        simp only [configured, hd, hds] at h
        cases h
        rw [List.map_append, hmake d made hd, ih hds, List.flatMap_cons]

variable {d : Backend} {rootfs : Block} {listener : Bool} {devices : List ConfigDevice}
  {bs : List Backend} {k : Nat} {t r : Transport}

theorem map_kind_backends {make : ConfigDevice → Except VmmError (List Backend)}
    {kinds : ConfigDevice → List DeviceKind}
    (hmake : ∀ d made, make d = .ok made → made.map Backend.kind = kinds d)
        (h : backends make rootfs listener devices = .ok bs) :
    bs.map Backend.kind = .block :: .vsock :: devices.flatMap kinds := by
  unfold backends at h
  cases hrest : configured make devices with
  | error e =>
    rw [hrest] at h
    cases h
  | ok rest =>
    rw [hrest] at h
    cases h
    rw [List.map_cons, List.map_cons, map_kind_configured hmake hrest]
    rfl

theorem map_kind_bootBackends (h : bootBackends rootfs listener devices = .ok bs) :
    bs.map Backend.kind = bootDevices devices := by
  refine map_kind_backends (fun d made hd => ?_) h
  cases d with
  | net tap mac =>
    cases hmac : parseMac mac with
    | error e => simp only [ConfigDevice.backend, hmac] at hd; cases hd
    | ok m => simp only [ConfigDevice.backend, hmac] at hd; cases hd; rfl
  | vsock | balloon mib => cases hd; rfl

theorem map_kind_resumeBackends (h : resumeBackends rootfs listener devices = .ok bs) :
    bs.map Backend.kind = resumeDevices devices := by
  refine map_kind_backends (fun d made hd => ?_) h
  cases d with
  | net tap mac =>
    cases hmac : parseMac mac with
    | error e => simp only [ConfigDevice.restored, hmac] at hd; cases hd
    | ok m => simp only [ConfigDevice.restored, hmac] at hd; cases hd; rfl
  | vsock | balloon mib => cases hd; rfl

theorem not_balloon_of_resume : DeviceKind.balloon ∉ resumeDevices devices := by
  have h : DeviceKind.balloon ∉ devices.flatMap ConfigDevice.reattached := by
    rw [List.mem_flatMap]
    rintro ⟨d, _, hd⟩
    cases d <;> simp [ConfigDevice.reattached] at hd
  simp [resumeDevices, h]

/-! ## The bus -/

/-- The windows of `Bus` with their transports. -/
abbrev Bus : Type := List (Region × Transport)

/-- The transports in the windows that have been handed out. -/
def Attach.bus (a : Attach) (ts : List Transport) : Bus := (a.windows.map (fun w => w.2.1)).zip ts

/-- A guest read: what the buffer holds afterwards. Outside all windows it is left alone. -/
def Bus.mmioRead (bus : Bus) (addr : Nat) (data : List UInt8) : List UInt8 :=
  match bus.find? (fun r => decide (r.1.Contains addr)) with
  | some r => r.2.read (addr - r.1.base) data
  | none => data

/-- The window of the `k`-th transport. -/
theorem bus_getElem? {kinds : List DeviceKind} {ts : List Transport}
    (hlen : ts.length ≤ kinds.length) (ht : ts[k]? = some t) :
    ((kinds.foldl attachVirtio {}).bus ts)[k]? = some ((nthWindow k).1, t) := by
  have hk : k < kinds.length := by
    have := (List.getElem?_eq_some_iff.mp ht).1
    omega
  rw [Attach.bus, windows_eq, List.getElem?_zip_eq_some]
  refine ⟨?_, ht⟩
  rw [List.getElem?_map, List.getElem?_mapIdx, List.getElem?_eq_getElem hk]
  rfl

/-- An address in the `k`-th window is answered by the `k`-th transport. -/
theorem mmioRead_window {kinds : List DeviceKind} {ts : List Transport}
    (hlen : ts.length ≤ kinds.length) (ht : ts[k]? = some t) {offset : Nat}
    (hoff : offset < MMIO_DEVICE_SIZE) (data : List UInt8) :
    ((kinds.foldl attachVirtio {}).bus ts).mmioRead ((nthWindow k).1.base + offset) data =
      t.read offset data := by
  have hfind : ((kinds.foldl attachVirtio {}).bus ts).find?
      (fun r => decide (r.1.Contains ((nthWindow k).1.base + offset))) =
        some ((nthWindow k).1, t) := by
    obtain ⟨hk, hget⟩ := List.getElem?_eq_some_iff.mp (bus_getElem? hlen ht)
    rw [List.find?_eq_some_iff_getElem]
    refine ⟨decide_eq_true ⟨Nat.le_add_right _ _, Nat.add_lt_add_left hoff _⟩, k, hk, hget, ?_⟩
    -- the windows before the `k`-th end before its base
    intro j hj
    have hjlt : j < ts.length := by
      have := (List.getElem?_eq_some_iff.mp ht).1
      omega
    obtain ⟨_, hgetj⟩ :=
      List.getElem?_eq_some_iff.mp (bus_getElem? hlen (List.getElem?_eq_getElem hjlt))
    have hout : ¬ (nthWindow j).1.Contains ((nthWindow k).1.base + offset) := by
      rintro ⟨_, hlt⟩
      have hmul : (j + 1) * MMIO_DEVICE_SIZE ≤ k * MMIO_DEVICE_SIZE :=
        Nat.mul_le_mul_right _ hj
      rw [Nat.succ_mul] at hmul
      simp only [nthWindow] at hlt
      omega
    rw [hgetj, decide_eq_false hout]
    rfl
  rw [Bus.mmioRead, hfind]
  show t.read ((nthWindow k).1.base + offset - (nthWindow k).1.base) data = _
  rw [Nat.add_sub_cancel_left]

/-! ## The registers across a restore -/

/-- The transport of a device that was attached and used. -/
def Used (d : Backend) (t : Transport) : Prop :=
  ∃ t₀ as, Transport.Built d t₀ ∧ run Transport.step t₀ as = some t

/-- The transport of a device right after it was restored from its saved cursors. -/
def Rebuilt (d : Backend) (t : Transport) : Prop :=
  ∃ t₀ cursors host, Transport.new d = .ok t₀ ∧ t₀.restoreActivate cursors host = (t, .ok ())

/-- The guest finds the registers of the `k`-th window, which had the transport `t`, as they
were: all that it can read, the queues it can select, and what only the transport knows. -/
structure RegisterViewSurvives (devices : List ConfigDevice) (ts rs : List Transport) (k : Nat)
    (t : Transport) : Prop where
  reads : ∀ offset data, offset < MMIO_DEVICE_SIZE →
    ((resumeWindows devices).bus rs).mmioRead ((nthWindow k).1.base + offset) data =
      ((bootWindows devices).bus ts).mmioRead ((nthWindow k).1.base + offset) data
  registers : ∃ r, rs[k]? = some r ∧ r.driverFeatures = t.driverFeatures ∧
    r.driverFeaturesSelect = t.driverFeaturesSelect ∧
    r.deviceFeaturesSelect = t.deviceFeaturesSelect ∧ r.queueSelect = t.queueSelect ∧
    ∀ queue, Transport.readReg { r with queueSelect := queue } .queueReady =
      Transport.readReg { t with queueSelect := queue } .queueReady

theorem identity_access (t : Transport) (a : MmioAccess) :
    (t.access a).1.device.identity = t.device.identity := by
  cases a with
  | read offset data => rfl
  | write offset data host =>
    show (t.write offset data host).1.device.identity = _
    rcases Transport.write_cases t offset data host with heq | ⟨r, _, heq⟩
    · rw [heq]
    · rw [heq]
      cases r with
      | status =>
        rcases Transport.setStatus_cases t (UInt32.ofNat (ofLeBytes data)) host with
          ⟨_, heq⟩ | ⟨_, heq⟩ | ⟨_, _, heq⟩ | ⟨_, a, ha, heq⟩
        · rw [Transport.writeReg, heq]
        · rw [Transport.writeReg, heq]
        · rw [Transport.writeReg, heq]
        · rw [Transport.writeReg, heq]
          subst ha
          exact Backend.activate_identity _ _ _ _
      | _ => rfl

theorem identity_step {t' : Transport} {a : Transport.Step} (h : t.step a = some t') :
    t'.device.identity = t.device.identity := by
  rcases Transport.step_cases h with ⟨x, _, rfl⟩ | ⟨_, rfl⟩ | ⟨_, b, pages, hdev, rfl⟩
  · exact identity_access t x
  · rfl
  · rw [hdev]
    rfl

/-- What a restored transport looks like: as a new one, but for the two things set at the end. -/
structure Restarted (d : Backend) (t : Transport) : Prop where
  identity : t.device.identity = d.identity
  queues : t.queues = []
  sizes : t.queueMaxSizes = d.queueMaxSizes
  interruptStatus : t.interruptStatus = 0
  status : t.status = STATUS_DRIVER_OK
  queueSelect : t.queueSelect = 0
  deviceFeaturesSelect : t.deviceFeaturesSelect = 0
  driverFeaturesSelect : t.driverFeaturesSelect = 0
  driverFeatures : t.driverFeatures = 0

theorem Rebuilt.restarted (h : Rebuilt d t) : Restarted d t := by
  obtain ⟨t₀, cursors, host, hnew, hrestore⟩ := h
  rw [Transport.new_eq] at hnew
  cases hnew
  obtain ⟨queues, ha, heq⟩ := Transport.restoreActivate_ok rfl hrestore
  have hid := Backend.activate_identity (Transport.fresh d).device queues
    (Transport.fresh d).queueEvts host
  rw [ha] at hid
  have hstatus : (Transport.fresh d).status ||| STATUS_DRIVER_OK = STATUS_DRIVER_OK :=
    UInt32.zero_or
  rw [heq]
  exact ⟨hid, rfl, rfl, rfl, hstatus, rfl, rfl, rfl, rfl⟩

theorem used_identity (h : Used d t) : t.device.identity = d.identity := by
  obtain ⟨t₀, as, h₀, hrun⟩ := h
  refine run_invariant_all (fun t : Transport => t.device.identity = d.identity)
    (fun s a s' hs hstep => (identity_step hstep).trans hs) as t₀ t ?_ hrun
  rcases h₀ with hnew | hrebuilt
  · rw [Transport.new_eq] at hnew
    cases hnew
    rfl
  · exact (Rebuilt.restarted hrebuilt).identity

/-- An activated transport has given all its queues away. -/
theorem used_activated (h : Used d t) (hact : t.activated = true) :
    t.queues = [] ∧ t.queueMaxSizes = d.queueMaxSizes := by
  obtain ⟨t₀, as, h₀, hrun⟩ := h
  obtain ⟨hsizes, _, hq⟩ := Transport.kept_run h₀ as hrun
  exact ⟨hq.resolve_right (fun hu => by cases hact.symm.trans hu.2.2.1), hsizes⟩

theorem readConfig_all (d : Backend) : d.readConfig 0 d.config.length = d.config := by
  refine List.ext_getElem (by simp [Backend.readConfig]) (fun i h1 h2 => ?_)
  simp [Backend.readConfig, List.getD_eq_getElem?_getD, List.getElem?_eq_getElem h2]

/-- Devices are told apart by their type, features and configuration space. -/
theorem identity_of_reads {e : Backend} (htype : d.deviceType = e.deviceType)
    (hfeatures : d.features.toUInt32 = e.features.toUInt32)
    (hconfig : ∀ len, d.readConfig 0 len = e.readConfig 0 len) : d.identity = e.identity := by
  have hbytes : d.config.length = e.config.length → d.config = e.config := by
    intro hlen
    rw [← readConfig_all d, hconfig, hlen, readConfig_all e]
  cases d with
  | block b =>
    cases e with
    | block c =>
      have hcap : b.capacitySectors = c.capacitySectors :=
        leBytes_uint64_inj (hbytes (by simp [Backend.config]))
      have hro : b.readOnly = c.readOnly := by
        cases hb : b.readOnly <;> cases hc : c.readOnly
        · rfl
        · simp only [Backend.features, hb, hc] at hfeatures
          exact absurd hfeatures (by decide)
        · simp only [Backend.features, hb, hc] at hfeatures
          exact absurd hfeatures (by decide)
        · rfl
      simp only [Backend.identity, hcap, hro]
    | _ => exact absurd htype (by simp only [Backend.deviceType]; decide)
  | net n =>
    cases e with
    | net m =>
      have hmac : n.mac = m.mac :=
        Vector.toList_inj.mp (hbytes (by simp [Backend.config]))
      simp only [Backend.identity, hmac]
    | _ => exact absurd htype (by simp only [Backend.deviceType]; decide)
  | vsock v =>
    cases e with
    | vsock w =>
      have hcid : v.cid = w.cid := leBytes_uint64_inj (hbytes (by simp [Backend.config]))
      simp only [Backend.identity, hcid]
    | _ => exact absurd htype (by simp only [Backend.deviceType]; decide)
  | balloon b =>
    cases e with
    | balloon c =>
      have hpages : b.targetPages = c.targetPages :=
        leBytes_uint32_inj (List.append_inj (hbytes (by simp [Backend.config])) (by simp)).1
      simp only [Backend.identity, hpages]
    | _ => exact absurd htype (by simp only [Backend.deviceType]; decide)

/-- A register that can be read shows in what the guest reads. -/
theorem readReg_of_read
    (h : ∀ offset data, offset < MMIO_DEVICE_SIZE → r.read offset data = t.read offset data)
    (reg : Reg) : r.readReg reg = t.readReg reg := by
  have hlt : reg.offset < MMIO_DEVICE_SIZE := Nat.lt_trans reg.offset_lt (by decide)
  have hread := h reg.offset [0, 0, 0, 0] hlt
  have hconfig : ¬ REG_CONFIG_SPACE ≤ reg.offset := Nat.not_le.mpr reg.offset_lt
  simp only [Transport.read, if_neg hconfig, Reg.decode_offset] at hread
  exact leBytes_uint32_inj hread

theorem readConfig_of_read
    (h : ∀ offset data, offset < MMIO_DEVICE_SIZE → r.read offset data = t.read offset data)
    (len : Nat) : r.device.readConfig 0 len = t.device.readConfig 0 len := by
  have hread := h REG_CONFIG_SPACE (List.replicate len 0) (by decide)
  simpa only [Transport.read, if_pos (Nat.le_refl REG_CONFIG_SPACE), Nat.sub_self,
    List.length_replicate] using hread

/-- Transports that agree on all registers, with devices of the same identity, read the same. -/
theorem read_of_readReg (hreg : ∀ reg, r.readReg reg = t.readReg reg)
    (hconfig : r.device.config = t.device.config) (offset : Nat) (data : List UInt8) :
    r.read offset data = t.read offset data := by
  have hfun : r.readReg = t.readReg := funext hreg
  simp only [Transport.read, Backend.readConfig, hfun, hconfig]

theorem forall₂_getElem? {α β : Type} {R : α → β → Prop} {xs : List α} {ys : List β}
    (h : List.Forall₂ R xs ys) {y : β} (hy : ys[k]? = some y) : ∃ x, xs[k]? = some x ∧ R x y := by
  induction h generalizing k with
  | nil => cases hy
  | cons hR _ ih =>
    cases k with
    | zero =>
      cases hy
      exact ⟨_, rfl, hR⟩
    | succ k => exact ih hy

/-- What the registers must be for a restored transport to have them. -/
def RegistersAsRestored (t : Transport) : Prop :=
  t.status = STATUS_DRIVER_OK ∧ t.interruptStatus = 0 ∧ t.queueSelect = 0 ∧
    t.deviceFeaturesSelect = 0 ∧ t.driverFeaturesSelect = 0 ∧ t.driverFeatures = 0

section Survives

variable {d e : Backend} {t r : Transport}

/-- The reads and the selectors of two transports show that they are the same. -/
theorem asRestored_of_reads (ht : Used d t) (hr : Restarted e r)
    (hreads : ∀ offset data, offset < MMIO_DEVICE_SIZE → r.read offset data = t.read offset data)
    (hdrv : r.driverFeatures = t.driverFeatures)
    (hdrvsel : r.driverFeaturesSelect = t.driverFeaturesSelect)
    (hdevsel : r.deviceFeaturesSelect = t.deviceFeaturesSelect)
    (hsel : r.queueSelect = t.queueSelect) : e.identity = d.identity ∧ RegistersAsRestored t := by
  have hreg := readReg_of_read hreads
  have hsel1 : r.deviceFeaturesSelect ≠ 1 := by
    rw [hr.deviceFeaturesSelect]
    decide
  have hfeatures : r.device.features.toUInt32 = t.device.features.toUInt32 := by
    have h := hreg .deviceFeatures
    simp only [Transport.readReg, ← hdevsel, if_neg hsel1] at h
    exact h
  have hid : r.device.identity = t.device.identity :=
    identity_of_reads (hreg .deviceId) hfeatures (readConfig_of_read hreads)
  refine ⟨hr.identity.symm.trans (hid.trans (used_identity ht)), ?_, ?_, ?_, ?_, ?_, ?_⟩
  · exact (hreg .status).symm.trans hr.status
  · exact (hreg .interruptStatus).symm.trans hr.interruptStatus
  · exact hsel.symm.trans hr.queueSelect
  · exact hdevsel.symm.trans hr.deviceFeaturesSelect
  · exact hdrvsel.symm.trans hr.driverFeaturesSelect
  · exact hdrv.symm.trans hr.driverFeatures

/-- Conversely, all registers of such a transport are those of the restored one. -/
theorem readReg_of_asRestored (ht : Used d t) (hact : t.activated = true) (hr : Restarted e r)
    (hid : e.identity = d.identity) (hregs : RegistersAsRestored t) (reg : Reg) :
    r.readReg reg = t.readReg reg := by
  obtain ⟨hstatus, hint, hsel, hdevsel, _, _⟩ := hregs
  obtain ⟨hqueues, hsizes⟩ := used_activated ht hact
  have hdev : r.device.identity = t.device.identity :=
    hr.identity.trans (hid.trans (used_identity ht).symm)
  cases reg with
  | deviceId =>
    show r.device.deviceType = t.device.deviceType
    rw [← r.device.deviceType_identity, ← t.device.deviceType_identity, hdev]
  | deviceFeatures =>
    have hfeatures : r.device.features = t.device.features := by
      rw [← r.device.features_identity, ← t.device.features_identity, hdev]
    simp only [Transport.readReg, hfeatures, hdevsel, hr.deviceFeaturesSelect]
  | queueNumMax =>
    have hmax : r.queueMaxSizes = t.queueMaxSizes := by
      rw [hr.sizes, hsizes, ← e.queueMaxSizes_identity, ← d.queueMaxSizes_identity, hid]
    simp only [Transport.readReg, hmax, hsel, hr.queueSelect]
  | queueReady => simp only [Transport.readReg, hqueues, hr.queues, hsel, hr.queueSelect]
  | interruptStatus => exact hr.interruptStatus.trans hint.symm
  | status => exact hr.status.trans hstatus.symm
  | _ => rfl

end Survives

/-- **When the register view survives a restore.** Of a machine with any configuration and
history, the guest finds the registers of an activated device as they were at the capture if and
only if the restored machine has the same device in that window, the status register was exactly
`DRIVER_OK`, and the interrupt status, the selectors and the driver features were zero. -/
theorem registerView_survives_iff (rootfs : Block) (listener listener' : Bool)
    (devices : List ConfigDevice) (boot resume : List Backend) (ts rs : List Transport)
    (hboot : bootBackends rootfs listener devices = .ok boot)
    (hresume : resumeBackends rootfs listener' devices = .ok resume)
    (hts : List.Forall₂ Used boot ts) (hrs : List.Forall₂ Rebuilt resume rs)
    (k : Nat) (t : Transport) (ht : ts[k]? = some t) (hact : t.activated = true) :
    RegisterViewSurvives devices ts rs k t ↔
      resume[k]?.map Backend.identity = boot[k]?.map Backend.identity ∧ RegistersAsRestored t := by
  have hbootlen : ts.length ≤ (bootDevices devices).length := by
    rw [← map_kind_bootBackends hboot, List.length_map, hts.length_eq]
  have hresumelen : rs.length ≤ (resumeDevices devices).length := by
    rw [← map_kind_resumeBackends hresume, List.length_map, hrs.length_eq]
  obtain ⟨d, hd, hused⟩ := forall₂_getElem? hts ht
  rw [hd]
  constructor
  · rintro ⟨hreads, r, hr, hdrv, hdrvsel, hdevsel, hsel, _⟩
    obtain ⟨e, he, hrebuilt⟩ := forall₂_getElem? hrs hr
    have hreads' : ∀ offset data, offset < MMIO_DEVICE_SIZE →
        r.read offset data = t.read offset data := by
      intro offset data hoff
      have h := hreads offset data hoff
      rwa [resumeWindows, bootWindows, mmioRead_window hresumelen hr hoff,
        mmioRead_window hbootlen ht hoff] at h
    obtain ⟨hid, hregs⟩ :=
      asRestored_of_reads hused hrebuilt.restarted hreads' hdrv hdrvsel hdevsel hsel
    exact ⟨by rw [he, Option.map_some, Option.map_some, hid], hregs⟩
  · rintro ⟨hid, hregs⟩
    obtain ⟨e, he, hid⟩ := Option.map_eq_some_iff.mp hid
    obtain ⟨r, hr, hrebuilt⟩ := forall₂_getElem? hrs.flip he
    have hr' := Rebuilt.restarted hrebuilt
    -- the window does not hold a balloon, which has no place on the restored bus
    have hkind : e.kind ≠ .balloon := by
      intro hkind
      have hmem : DeviceKind.balloon ∈ resumeDevices devices := by
        rw [← map_kind_resumeBackends hresume, ← hkind]
        exact List.mem_map_of_mem (List.mem_of_getElem? he)
      exact not_balloon_of_resume hmem
    have hconfig : r.device.config = t.device.config := by
      have hkr : r.device.kind ≠ .balloon := by
        rwa [← Backend.kind_identity, hr'.identity, Backend.kind_identity]
      have hkt : t.device.kind ≠ .balloon := by
        rwa [← Backend.kind_identity, used_identity hused, ← hid, Backend.kind_identity]
      rw [← Backend.config_identity hkr, ← Backend.config_identity hkt, hr'.identity, hid,
        used_identity hused]
    have hread := read_of_readReg (readReg_of_asRestored hused hact hr' hid hregs) hconfig
    obtain ⟨_, _, hsel, hdevsel, hdrvsel, hdrv⟩ := hregs
    refine ⟨fun offset data hoff => ?_, r, hr, ?_, ?_, ?_, ?_, fun queue => ?_⟩
    · rw [resumeWindows, bootWindows, mmioRead_window hresumelen hr hoff,
        mmioRead_window hbootlen ht hoff, hread]
    · rw [hr'.driverFeatures, hdrv]
    · rw [hr'.driverFeaturesSelect, hdrvsel]
    · rw [hr'.deviceFeaturesSelect, hdevsel]
    · rw [hr'.queueSelect, hsel]
    · simp only [Transport.readReg, (used_activated hused hact).1, hr'.queues]

/-! ### A machine with a rootfs and the boot vsock -/

def bootVsock : Backend := .vsock { cid := DEFAULT_GUEST_CID, listener := false }

/-- Its transports after these accesses to the rootfs. -/
def usedTransports (accesses : List MmioAccess) : List Transport :=
  [stateAfter Transport.access (Transport.fresh Transport.rootfs) accesses,
    Transport.fresh bootVsock]

/-- The transport of a device that is restored without cursors. -/
def restoredTransport (d : Backend) : Transport :=
  ((Transport.fresh d).restoreActivate [] {}).1

theorem used_stateAfter (d : Backend) (accesses : List MmioAccess) :
    Used d (stateAfter Transport.access (Transport.fresh d) accesses) := by
  have hrun : ∀ (as : List MmioAccess) (s : Transport),
      run Transport.step s (as.map .access) = some (stateAfter Transport.access s as) := by
    intro as
    induction as with
    | nil => exact fun _ => rfl
    | cons a as ih => exact fun s => ih (s.access a).1
  exact ⟨_, _, Or.inl (Transport.new_eq d), hrun accesses (Transport.fresh d)⟩

theorem used_usedTransports (accesses : List MmioAccess) :
    List.Forall₂ Used [Transport.rootfs, bootVsock] (usedTransports accesses) :=
  .cons (used_stateAfter _ accesses) (.cons (used_stateAfter bootVsock []) .nil)

theorem rebuilt_restoredTransports : List.Forall₂ Rebuilt [Transport.rootfs, bootVsock]
      [restoredTransport Transport.rootfs, restoredTransport bootVsock] :=
  .cons ⟨_, [], {}, Transport.new_eq _, rfl⟩ (.cons ⟨_, [], {}, Transport.new_eq _, rfl⟩ .nil)

/-- A driver that does nothing but set `DRIVER_OK` keeps its registers. -/
theorem registerView_survives_iff_driverOk :
    ∃ t, (usedTransports [Transport.guestWrite .status STATUS_DRIVER_OK])[0]? = some t ∧
      t.activated = true ∧
      RegisterViewSurvives [] (usedTransports [Transport.guestWrite .status STATUS_DRIVER_OK])
        [restoredTransport Transport.rootfs, restoredTransport bootVsock] 0 t := by
  refine ⟨_, rfl, by decide +kernel, ?_⟩
  refine (registerView_survives_iff { capacitySectors := 2048, readOnly := false } false false []
    [Transport.rootfs, bootVsock] [Transport.rootfs, bootVsock] _ _ rfl rfl
    (used_usedTransports _) rebuilt_restoredTransports 0 _ rfl (by decide +kernel)).mpr ⟨rfl, ?_⟩
  exact ⟨by decide +kernel, by decide +kernel, by decide +kernel, by decide +kernel,
    by decide +kernel, by decide +kernel⟩

/-- **The status register is not restored.** A driver has gone through the usual handshake and
reads 15; after the restore it reads 4, which says that it has not been acknowledged. -/
theorem status_not_restored :
    ∃ t, (usedTransports (Transport.programQueue ++ [Transport.guestWrite .status 15]))[0]? =
        some t ∧ t.activated = true ∧ ((bootWindows []).bus (usedTransports
        (Transport.programQueue ++ [Transport.guestWrite .status 15]))).mmioRead 0xd0000070
          [0, 0, 0, 0] = [15, 0, 0, 0] ∧
      ((resumeWindows []).bus [restoredTransport Transport.rootfs, restoredTransport
        bootVsock]).mmioRead 0xd0000070 [0, 0, 0, 0] = [4, 0, 0, 0] ∧ ¬ RegisterViewSurvives []
        (usedTransports (Transport.programQueue ++ [Transport.guestWrite .status 15]))
        [restoredTransport Transport.rootfs, restoredTransport bootVsock] 0 t := by
  have hbefore : ((bootWindows []).bus (usedTransports
      (Transport.programQueue ++ [Transport.guestWrite .status 15]))).mmioRead 0xd0000070
        [0, 0, 0, 0] = [15, 0, 0, 0] := by
    decide +kernel
  have hafter : ((resumeWindows []).bus [restoredTransport Transport.rootfs, restoredTransport
      bootVsock]).mmioRead 0xd0000070 [0, 0, 0, 0] = [4, 0, 0, 0] := by
    decide +kernel
  refine ⟨_, rfl, by decide +kernel, hbefore, hafter, fun h => ?_⟩
  have hreads := h.reads 0x70 [0, 0, 0, 0] (by decide)
  exact absurd (hafter.symm.trans (hreads.trans hbefore)) (by decide)

end MicroMachines.Vmm
