import MicroMachines.Block.Device

set_option autoImplicit false

/-! # Which requests complete

`process_queue` takes one chain after the other and adds a used entry for it. An error of the file
or of a data buffer is a status for the guest. But `service_request` fails if there is no header or
no place for the status, and then `process_queue` returns at once: the chain gets no entry, those
behind it are not popped, and those before it are not signalled.

* `processQueue_complete_iff`: a call completes every chain if and only if each of them has a header
  and a status byte in guest RAM.
* `processQueue_stranded`: a call that completes one chain of three, and does not signal it.
-/

namespace MicroMachines.Vmm.GuestMemory

variable {m m' : GuestMemory} {addr n : Nat}

theorem accessible_congr (h : m'.layout = m.layout) :
    m'.Accessible addr n ↔ m.Accessible addr n := by
  unfold Accessible backed
  rw [h]

theorem fetch_of_accessible (h : m.Accessible addr n) : m.fetch addr n = some (m.slice addr n) :=
  if_pos h

theorem accessible_of_fetch {data : List UInt8} (h : m.fetch addr n = some data) :
    m.Accessible addr n ∧ data = m.slice addr n := by
  unfold fetch at h
  split_ifs at h with hacc
  exact ⟨hacc, (Option.some.inj h).symm⟩

theorem store_of_accessible {data : List UInt8} (h : m.Accessible addr data.length) :
    m.store addr data = (m.poke addr data, true) := if_pos h

theorem store_snd {data : List UInt8} :
    (m.store addr data).2 = true ↔ m.Accessible addr data.length := by
  unfold store
  split_ifs with h
  · exact iff_of_true rfl h
  · exact iff_of_false not_false h

theorem store_layout {data : List UInt8} : (m.store addr data).1.layout = m.layout := by
  unfold store
  split_ifs <;> rfl

end MicroMachines.Vmm.GuestMemory

namespace MicroMachines.Block

open MicroMachines.Lib
open MicroMachines.Vmm (VmmError GuestMemory)

/-- There are a header and a byte for the status, and both are in guest RAM. -/
def Serviceable (m : GuestMemory) : List Desc → Prop
  | [] | [_] => False
  | header :: d :: ds =>
    VIRTIO_BLK_HDR_LEN ≤ header.len.toNat ∧
      m.Accessible header.addr.toNat VIRTIO_BLK_HDR_LEN ∧
      m.Accessible ((d :: ds).getLast (List.cons_ne_nil d ds)).addr.toNat 1

instance (m : GuestMemory) (descs : List Desc) : Decidable (Serviceable m descs) :=
  match descs with
  | [] | [_] => inferInstanceAs (Decidable False)
  | _ :: _ :: _ => inferInstanceAs (Decidable (_ ∧ _ ∧ _))

theorem serviceable_congr {m m' : GuestMemory} (h : m'.layout = m.layout) (descs : List Desc) :
    Serviceable m' descs ↔ Serviceable m descs := by
  match descs with
  | [] | [_] => exact Iff.rfl
  | header :: d :: ds =>
    simp only [Serviceable, GuestMemory.accessible_congr h]

/-! ## One request -/

section Request

variable {m : GuestMemory} {file : Image} {readOnly : Bool} {host : Host}

theorem readRequest_layout (data : List Desc) (i : Nat) (offset : UInt64) (total : UInt32) :
    (readRequest file host data i offset total m).mem.layout = m.layout := by
  induction data generalizing i offset total m with
  | nil => rfl
  | cons d ds ih =>
    rw [readRequest]
    split_ifs
    · rfl
    · dsimp only
      split
      · rfl
      · next buf hbuf =>
          have hlayout := @GuestMemory.store_layout m d.addr.toNat buf
          split
          · next m' hstore =>
              rw [hstore] at hlayout
              exact hlayout
          · next m' hstore =>
              rw [hstore] at hlayout
              exact (ih _ _ _).trans hlayout

theorem writeRequest_mem (data : List Desc) (i : Nat) (offset : UInt64) :
    (writeRequest m host data i offset file).mem = m := by
  induction data generalizing i offset file with
  | nil => rfl
  | cons d ds ih =>
    rw [writeRequest]
    split
    · rfl
    · dsimp only
      split_ifs
      · exact ih _ _
      · rfl

theorem perform_layout (header : List UInt8) (data : List Desc) :
    (perform m file readOnly host header data).mem.layout = m.layout := by
  unfold perform
  dsimp only
  split_ifs
  · exact readRequest_layout data 0 _ 0
  · rfl
  · exact congrArg GuestMemory.layout (writeRequest_mem data 0 _)
  · rfl
  · rfl
  · rfl

theorem answer_ok (d : Done (UInt8 × UInt32)) (status : Desc) :
    ((answer d status).result.isOk = true ↔ d.mem.Accessible status.addr.toNat 1) ∧
      (answer d status).mem.layout = d.mem.layout := by
  have hstored := @GuestMemory.store_snd d.mem status.addr.toNat [d.outcome.1]
  have hkept := @GuestMemory.store_layout d.mem status.addr.toNat [d.outcome.1]
  unfold answer
  split
  · next m' hstore =>
      rw [hstore] at hstored hkept
      exact ⟨hstored, hkept⟩
  · next m' hstore =>
      rw [hstore] at hstored hkept
      exact ⟨hstored, hkept⟩

/-- A request is answered if and only if there is a place for the answer. -/
theorem serviceRequest_ok (descs : List Desc) :
    ((serviceRequest m file readOnly host descs).result.isOk = true ↔ Serviceable m descs) ∧
      (serviceRequest m file readOnly host descs).mem.layout = m.layout := by
  unfold serviceRequest
  match descs with
  | [] | [_] => exact ⟨iff_of_false Bool.false_ne_true id, rfl⟩
  | header :: d :: ds =>
    dsimp only
    split_ifs with hlen
    · refine ⟨iff_of_false Bool.false_ne_true (fun h => ?_), rfl⟩
      exact absurd h.1 (Nat.not_le.mpr hlen)
    · cases hfetch : m.fetch header.addr.toNat VIRTIO_BLK_HDR_LEN with
      | none =>
        refine ⟨iff_of_false Bool.false_ne_true (fun h => ?_), rfl⟩
        rw [GuestMemory.fetch_of_accessible h.2.1] at hfetch
        cases hfetch
      | some bytes =>
        have hheader := (GuestMemory.accessible_of_fetch hfetch).1
        have hlayout := @perform_layout m file readOnly host bytes (d :: ds).dropLast
        obtain ⟨hok, hkept⟩ := answer_ok
          (perform m file readOnly host bytes (d :: ds).dropLast)
          ((d :: ds).getLast (List.cons_ne_nil d ds))
        rw [GuestMemory.accessible_congr hlayout] at hok
        refine ⟨hok.trans ?_, hkept.trans hlayout⟩
        simp only [Serviceable, hheader, Nat.not_lt.mp hlen, true_and]

end Request

/-! ## A call of `process_queue` -/

section Queue

variable {readOnly : Bool} {s : State}

/-- A turn of the loop adds an entry if the chain can be serviced, and ends the loop if not. -/
theorem serve_cases (c : Chain) :
    Serviceable s.mem c.descs ∧ (∃ s' entry, serve readOnly s c = (s', .ok ()) ∧
      s'.used = s.used ++ [entry] ∧ entry.head = c.head ∧ s'.mem.layout = s.mem.layout) ∨
    ¬ Serviceable s.mem c.descs ∧ ∃ s' e, serve readOnly s c = (s', .error e) ∧
      s'.used = s.used := by
  obtain ⟨hok, hlayout⟩ := @serviceRequest_ok (s.popped c).mem s.file readOnly c.host c.descs
  have hpopped : Serviceable (s.popped c).mem c.descs ↔ Serviceable s.mem c.descs :=
    serviceable_congr rfl c.descs
  rw [hpopped] at hok
  unfold serve
  dsimp only
  cases hres : (serviceRequest (s.popped c).mem s.file readOnly c.host c.descs).result with
  | error e =>
    rw [hres] at hok
    exact Or.inr ⟨fun h => Bool.false_ne_true (hok.mpr h), _, e, rfl, rfl⟩
  | ok len =>
    rw [hres] at hok
    exact Or.inl ⟨hok.mp rfl, _, _, rfl, rfl, rfl, hlayout⟩

theorem drain_complete (chains : List Chain) (signalled : Bool)
    (h : ∀ c ∈ chains, Serviceable s.mem c.descs) : (drain readOnly s signalled chains).left = [] ∧
      (drain readOnly s signalled chains).state.used.map Used.head =
        s.used.map Used.head ++ chains.map Chain.head ∧
      (chains ≠ [] ∨ signalled = true → (drain readOnly s signalled chains).interrupt = true) := by
  induction chains generalizing s signalled with
  | nil =>
    refine ⟨rfl, (List.append_nil _).symm, ?_⟩
    rintro (hne | hsig)
    · exact absurd rfl hne
    · exact hsig
  | cons c cs ih =>
    rw [drain]
    rcases @serve_cases readOnly s c with
      ⟨_, s', entry, hserve, hused, hhead, hlayout⟩ | ⟨hnot, _⟩
    · rw [hserve]
      obtain ⟨hleft, hheads, hint⟩ := @ih s' true (fun c' hc' =>
        (serviceable_congr hlayout c'.descs).mpr (h c' (List.mem_cons_of_mem c hc')))
      refine ⟨hleft, ?_, fun _ => hint (Or.inr rfl)⟩
      rw [hheads, hused, List.map_append, List.append_assoc, List.map_singleton, hhead,
        List.singleton_append, List.map_cons]
    · exact absurd (h c List.mem_cons_self) hnot

/-- A chain that cannot be serviced goes without an entry, and so do those behind it. -/
theorem drain_stuck (chains : List Chain) (signalled : Bool)
    (h : ∃ c ∈ chains, ¬ Serviceable s.mem c.descs) :
    (drain readOnly s signalled chains).state.used.length < s.used.length + chains.length := by
  induction chains generalizing s signalled with
  | nil =>
    obtain ⟨c, hc, _⟩ := h
    cases hc
  | cons c cs ih =>
    rw [drain, List.length_cons]
    rcases @serve_cases readOnly s c with
      ⟨hserv, s', entry, hserve, hused, _, hlayout⟩ | ⟨_, s', e, hserve, hused⟩
    · rw [hserve]
      obtain ⟨c', hc', hnot⟩ := h
      have hmem : c' ∈ cs := by
        rcases List.mem_cons.mp hc' with rfl | hmem
        · exact absurd hserv hnot
        · exact hmem
      have hlt := @ih s' true ⟨c', hmem, fun hs =>
        hnot ((serviceable_congr hlayout c'.descs).mp hs)⟩
      rw [hused, List.length_append, List.length_singleton] at hlt
      dsimp only
      omega
    · rw [hserve]
      dsimp only
      rw [hused]
      omega

end Queue

/-- Every chain that was published is popped, each has one used entry, and the interrupt is raised
if there is an entry. -/
def Drained.Complete (d : Drained) (before : State) (chains : List Chain) : Prop :=
  d.left = [] ∧ d.state.used.map Used.head = before.used.map Used.head ++ chains.map Chain.head ∧
    (before.used.length < d.state.used.length → d.interrupt = true)

/-- **Every request completes if and only if each can be answered.** -/
theorem processQueue_complete_iff (readOnly : Bool) (s : State) (chains : List Chain) :
    (processQueue readOnly s chains).Complete s chains ↔
      ∀ c ∈ chains, Serviceable s.mem c.descs := by
  constructor
  · rintro ⟨_, hheads, _⟩
    by_contra hnot
    push Not at hnot
    have hlt := @drain_stuck readOnly s chains false hnot
    have hlen := congrArg List.length hheads
    rw [List.length_map, List.length_append, List.length_map, List.length_map] at hlen
    exact absurd hlen (Nat.ne_of_lt hlt)
  · intro h
    obtain ⟨hleft, hheads, hint⟩ := @drain_complete readOnly s chains false h
    refine ⟨hleft, hheads, fun hlt => hint (Or.inl ?_)⟩
    rintro rfl
    exact absurd hlt (Nat.lt_irrefl _)

/-- A megabyte of guest RAM. -/
def ram (byte : Nat → UInt8) : GuestMemory := ⟨[⟨0, 0x100000⟩], byte⟩

/-- A chain whose descriptors are a header at 0x1000, the given ones and a status byte at 0x3000. -/
def chainOf (head : UInt16) (data : List Desc) : Chain where
  head := head
  descs := ⟨0x1000, 16, false⟩ :: data ++ [⟨0x3000, 1, true⟩]
  guest := id
  host := Host.sound

/-- An image of zeros. -/
def blank (sectors : Nat) (h : 512 * sectors ≤ MAX_FILE) : Image :=
  ⟨List.replicate (512 * sectors) 0, by rw [List.length_replicate]; exact h⟩

/-- **A short chain strands itself, the chain behind it and the entry before it.** The second of
three chains has one descriptor. -/
theorem processQueue_stranded : ∃ s c₁ c₂ c₃, c₂.descs.length = 1 ∧
      (processQueue false s [c₁, c₂, c₃]).left.map Chain.head = [c₃.head] ∧
      (processQueue false s [c₁, c₂, c₃]).state.used.map Used.head = [c₁.head] ∧
      (processQueue false s [c₁, c₂, c₃]).interrupt = false ∧
      ¬ (processQueue false s [c₁, c₂, c₃]).Complete s [c₁, c₂, c₃] := by
  refine ⟨⟨ram (fun _ => 0), blank 0 (by decide), []⟩, chainOf 0 [],
    { chainOf 1 [] with descs := [⟨0x1000, 16, false⟩] }, chainOf 2 [], rfl, by decide +kernel,
    by decide +kernel, by decide +kernel, ?_⟩
  intro h
  exact absurd h.1 (by decide +kernel)

end MicroMachines.Block
