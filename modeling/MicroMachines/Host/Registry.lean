import MicroMachines.Lib.Table
import MicroMachines.Controller.Store
import MicroMachines.Host.Launch

set_option autoImplicit false

/-! # The registry of a host

`apps/mm/src/store.rs`: the machines that the `mm` commands know of, by name, and what the commands put into
it. A new machine gets an address, and a clone also a slot, that no other record has; so the records are
`Distinct` as long as nothing comes between the choice and the record.
-/

namespace MicroMachines.Host

open MicroMachines.Lib MicroMachines.Boot MicroMachines.Net
open MicroMachines.Controller (MachineState)

/-! ## Records -/

structure MachineRecord where
  name : String
  state : MachineState
  image : String
  vcpus : UInt8
  memoryMib : UInt64
  ip : Option Ipv4Addr
  tap : Option String
  pid : Option Nat
  cloneIndex : Option Nat
  cloneUpstream : Option String
  deriving DecidableEq, Repr

/-- `State::is_terminal`. -/
def isTerminal : MachineState → Bool
  | .stopped | .failed | .destroyed => true
  | _ => false

/-- The record of `mm run`. -/
def runRecord (spec : LaunchSpec) (out : LaunchOutcome) : MachineRecord where
  name := spec.name
  state := .running
  image := spec.image
  vcpus := spec.cpus
  memoryMib := spec.memoryMib
  ip := some out.ip
  tap := some out.tapName
  pid := some out.pid
  cloneIndex := none
  cloneUpstream := none

/-- The record of `mm restore` and of `mm branch`; only the latter has a slot. -/
def restoreRecord (image : String) (spec : RestoreSpec) (out : LaunchOutcome) : MachineRecord where
  name := spec.name
  state := .running
  image := image
  vcpus := spec.cpus
  memoryMib := spec.memoryMib
  ip := some out.ip
  tap := some out.tapName
  pid := some out.pid
  cloneIndex := spec.cloneNet.map CloneNetConfig.index
  cloneUpstream := none

/-- The record when the worker has ended. -/
def MachineRecord.stopped (r : MachineRecord) : MachineRecord := { r with state := .stopped, pid := none }

/-! ## The table -/

/-- The records, one for each name. -/
structure Registry where
  records : List MachineRecord
  names_nodup : (records.map MachineRecord.name).Nodup

namespace Registry

def empty : Registry := ⟨[], List.nodup_nil⟩

def get (s : Registry) (name : String) : Option MachineRecord :=
  Table.lookup MachineRecord.name s.records name

def delete (s : Registry) (name : String) : Registry where
  records := s.records.filter (fun r => r.name ≠ name)
  names_nodup := s.names_nodup.sublist (List.filter_sublist.map _)

theorem get_delete (s : Registry) (name name' : String) :
    (s.delete name).get name' = if name' = name then none else s.get name' :=
  Table.lookup_erase s.records name name'

/-- Insert or replace. -/
def put (s : Registry) (r : MachineRecord) : Registry where
  records := (s.delete r.name).records ++ [r]
  names_nodup := by
    refine Table.keys_concat ?_ (s.delete r.name).names_nodup
    exact (s.get_delete r.name r.name).trans (if_pos rfl)

theorem get_put (s : Registry) (r : MachineRecord) (name : String) :
    (s.put r).get name = if name = r.name then some r else s.get name :=
  Table.lookup_replace s.records r name

variable {s : Registry} {r r' : MachineRecord} {name : String}

theorem mem_of_get (h : s.get name = some r) : r ∈ s.records ∧ r.name = name := Table.mem_of_lookup h

theorem mem_delete : r ∈ (s.delete name).records ↔ r ∈ s.records ∧ r.name ≠ name := by
  simp [delete]

theorem mem_put : r' ∈ (s.put r).records ↔ (r' ∈ s.records ∧ r'.name ≠ r.name) ∨ r' = r := by
  rw [put, List.mem_append, mem_delete, List.mem_singleton]

/-! ## What is in use -/

/-- The addresses of all machines. -/
def ips (s : Registry) : List Ipv4Addr := s.records.filterMap MachineRecord.ip

/-- The slots of all clones. -/
def indices (s : Registry) : List Nat := s.records.filterMap MachineRecord.cloneIndex

theorem mem_ips {ip : Ipv4Addr} : ip ∈ s.ips ↔ ∃ r ∈ s.records, r.ip = some ip := List.mem_filterMap

theorem mem_indices {i : Nat} : i ∈ s.indices ↔ ∃ r ∈ s.records, r.cloneIndex = some i :=
  List.mem_filterMap

end Registry

/-- The smallest slot that is not in use. It is among the first, one more than are in use. -/
def freeIndex (used : List Nat) : Nat :=
  ((List.range (used.length + 1)).find? (fun i => !used.contains i)).getD 0

theorem freeIndex_not_mem (used : List Nat) : freeIndex used ∉ used := by
  unfold freeIndex
  cases hfind : (List.range (used.length + 1)).find? (fun i => !used.contains i) with
  | some i => simpa using List.find?_some hfind
  | none =>
    -- all of them in use would be too many
    have hsub : List.range (used.length + 1) ⊆ used := by
      intro i hi
      simpa using List.find?_eq_none.mp hfind i hi
    have hlen := (List.nodup_range.subperm hsub).length_le
    rw [List.length_range] at hlen
    omega

namespace Registry

/-- What `mm branch` chooses for a clone of `source`: the address that is translated is the recorded one, and
the slot and the new address are free. -/
def chooseClone (s : Registry) (source : String) : Option CloneNetConfig :=
  match s.get source with
  | some src =>
    match src.ip, freeAddress s.ips with
    | some internalIp, some cloneIp => some ⟨freeIndex s.indices, internalIp, cloneIp, none⟩
    | _, _ => none
  | none => none

/-- What `request_snapshot` asks for. -/
def isRunning (s : Registry) (name : String) : Bool := (s.get name).any (fun r => r.pid.isSome)

/-- Nobody has the slot or the address. -/
structure Fresh (s : Registry) (cn : CloneNetConfig) : Prop where
  ip : cn.cloneIp ∉ s.ips
  index : cn.index ∉ s.indices

variable {s : Registry} {cn : CloneNetConfig}

theorem Fresh.delete (h : s.Fresh cn) (name : String) : (s.delete name).Fresh cn :=
  ⟨fun hmem => h.ip ((List.filter_sublist.filterMap _).subset hmem),
    fun hmem => h.index ((List.filter_sublist.filterMap _).subset hmem)⟩

theorem Fresh.stopped (h : s.Fresh cn) {r : MachineRecord}
    (hr : r ∈ s.records) : (s.put r.stopped).Fresh cn := by
  constructor
  · intro hmem
    obtain ⟨r', hr', hip⟩ := mem_ips.mp hmem
    rcases mem_put.mp hr' with ⟨hmem', -⟩ | rfl
    · exact h.ip (mem_ips.mpr ⟨r', hmem', hip⟩)
    · exact h.ip (mem_ips.mpr ⟨r, hr, hip⟩)
  · intro hmem
    obtain ⟨r', hr', hindex⟩ := mem_indices.mp hmem
    rcases mem_put.mp hr' with ⟨hmem', -⟩ | rfl
    · exact h.index (mem_indices.mpr ⟨r', hmem', hindex⟩)
    · exact h.index (mem_indices.mpr ⟨r, hr, hindex⟩)

theorem chooseClone_eq_some {source : String} (h : s.chooseClone source = some cn) :
    (∃ src, s.get source = some src ∧ src.ip = some cn.internalIp) ∧
      freeAddress s.ips = some cn.cloneIp ∧ cn.index = freeIndex s.indices ∧ cn.upstream = none := by
  unfold chooseClone at h
  cases hsrc : s.get source with
  | none =>
    rw [hsrc] at h
    cases h
  | some src =>
    rw [hsrc] at h
    cases hip : src.ip with
    | none =>
      simp only [hip] at h
      cases h
    | some internalIp =>
      cases hfree : freeAddress s.ips with
      | none =>
        simp only [hip, hfree] at h
        cases h
      | some cloneIp =>
        simp only [hip, hfree] at h
        cases h
        exact ⟨⟨src, rfl, hip⟩, rfl, rfl, rfl⟩

theorem chooseClone_fresh {source : String} (h : s.chooseClone source = some cn) : s.Fresh cn := by
  obtain ⟨-, hip, hindex, -⟩ := chooseClone_eq_some h
  refine ⟨freeAddress_fresh hip, ?_⟩
  rw [hindex]
  exact freeIndex_not_mem s.indices

end Registry

/-! ## Distinct records -/

/-- No two records have the same address or the same slot. -/
structure Registry.Distinct (s : Registry) : Prop where
  ip : ∀ r ∈ s.records, ∀ r' ∈ s.records, ∀ a, r.ip = some a → r'.ip = some a → r = r'
  index : ∀ r ∈ s.records, ∀ r' ∈ s.records, ∀ i, r.cloneIndex = some i → r'.cloneIndex = some i → r = r'

namespace Registry.Distinct

variable {s : Registry} {r : MachineRecord}

theorem empty : Registry.empty.Distinct :=
  ⟨fun _ hr => absurd hr List.not_mem_nil, fun _ hr => absurd hr List.not_mem_nil⟩

theorem delete (h : s.Distinct) (name : String) : (s.delete name).Distinct := by
  constructor
  · intro r hr r' hr'
    exact h.ip r (mem_delete.mp hr).1 r' (mem_delete.mp hr').1
  · intro r hr r' hr'
    exact h.index r (mem_delete.mp hr).1 r' (mem_delete.mp hr').1

/-- A record whose address and slot nobody else has. -/
theorem put (h : s.Distinct)
    (hip : ∀ r' ∈ s.records, r'.name ≠ r.name → ∀ a, r.ip = some a → r'.ip ≠ some a)
    (hindex : ∀ r' ∈ s.records, r'.name ≠ r.name → ∀ i, r.cloneIndex = some i → r'.cloneIndex ≠ some i) :
    (s.put r).Distinct := by
  constructor
  · intro r₁ h₁ r₂ h₂ a ha₁ ha₂
    rcases mem_put.mp h₁ with ⟨hmem₁, hne₁⟩ | rfl
    · rcases mem_put.mp h₂ with ⟨hmem₂, -⟩ | rfl
      · exact h.ip r₁ hmem₁ r₂ hmem₂ a ha₁ ha₂
      · exact absurd ha₁ (hip r₁ hmem₁ hne₁ a ha₂)
    · rcases mem_put.mp h₂ with ⟨hmem₂, hne₂⟩ | rfl
      · exact absurd ha₂ (hip r₂ hmem₂ hne₂ a ha₁)
      · rfl
  · intro r₁ h₁ r₂ h₂ i hi₁ hi₂
    rcases mem_put.mp h₁ with ⟨hmem₁, hne₁⟩ | rfl
    · rcases mem_put.mp h₂ with ⟨hmem₂, -⟩ | rfl
      · exact h.index r₁ hmem₁ r₂ hmem₂ i hi₁ hi₂
      · exact absurd hi₁ (hindex r₁ hmem₁ hne₁ i hi₂)
    · rcases mem_put.mp h₂ with ⟨hmem₂, hne₂⟩ | rfl
      · exact absurd hi₂ (hindex r₂ hmem₂ hne₂ i hi₁)
      · rfl

/-- A record with an address and a slot that were not in use. -/
theorem put_fresh (h : s.Distinct) (hip : ∀ a, r.ip = some a → a ∉ s.ips)
    (hindex : ∀ i, r.cloneIndex = some i → i ∉ s.indices) : (s.put r).Distinct := by
  apply h.put
  · intro r' hr' _ a ha heq
    exact hip a ha (mem_ips.mpr ⟨r', hr', heq⟩)
  · intro r' hr' _ i hi heq
    exact hindex i hi (mem_indices.mpr ⟨r', hr', heq⟩)

/-- A record that has kept its address and its slot. -/
theorem put_stopped (h : s.Distinct) (hr : r ∈ s.records) : (s.put r.stopped).Distinct := by
  apply h.put
  · intro r' hr' hne a ha heq
    have hname : r'.name = r.name := congrArg MachineRecord.name (h.ip r' hr' r hr a heq ha)
    exact hne hname
  · intro r' hr' hne i hi heq
    have hname : r'.name = r.name := congrArg MachineRecord.name (h.index r' hr' r hr i heq hi)
    exact hne hname

end Registry.Distinct

end MicroMachines.Host
