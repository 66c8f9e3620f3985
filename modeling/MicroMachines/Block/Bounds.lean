import MicroMachines.Block.Disk

set_option autoImplicit false

/-! # Requests and the capacity

The device advertises the whole sectors of its file, as they are when it is opened. But the capacity
is never compared with what a request asks for: the sector is multiplied with wrap-around, and each
buffer is read or written wherever it comes to lie. A read beyond the end of the file fails. A write
beyond it makes the file longer, and is refused only behind the longest file there can be.

* `Device.inside_iff`: which requests stay inside the capacity, whatever is in guest memory and
  whatever the host does.
* `Device.run_kept`: as long as all requests are of that kind, the file keeps its length and what is
  in it beyond the capacity.
* `Device.outside_written`: a write behind the end.
-/

namespace MicroMachines.Block

open MicroMachines.Lib
open MicroMachines.Vmm (VmmError GuestMemory Region)

/-! ## The file -/

theorem getElem?_writeAllAt (file src : List UInt8) (offset p : Nat) :
    (Vmm.writeAllAt file src offset)[p]? =
      if p < offset then (if p < file.length then file[p]? else some 0)
      else if p < offset + src.length then src[p - offset]? else file[p]? := by
  have hfront : ((file ++ List.replicate (offset - file.length) 0).take offset).length =
      offset := by
    refine List.length_take_of_le ?_
    rw [List.length_append, List.length_replicate]
    omega
  have hmid : ((file ++ List.replicate (offset - file.length) 0).take offset ++ src).length =
      offset + src.length := by rw [List.length_append, hfront]
  unfold Vmm.writeAllAt
  by_cases hlow : p < offset
  · rw [if_pos hlow, List.getElem?_append_left (by omega), List.getElem?_append_left (by omega),
      List.getElem?_take_of_lt hlow]
    by_cases hin : p < file.length
    · rw [if_pos hin, List.getElem?_append_left hin]
    · rw [if_neg hin, List.getElem?_append_right (by omega),
        List.getElem?_replicate_of_lt (by omega)]
  · rw [if_neg hlow]
    by_cases hin : p < offset + src.length
    · rw [if_pos hin, List.getElem?_append_left (by omega), List.getElem?_append_right (by omega),
        hfront]
    · rw [if_neg hin, List.getElem?_append_right (by omega), hmid, List.getElem?_drop]
      congr 1
      omega

namespace Image

/-- `write_all_at` writes nothing, or some bytes below the longest file. -/
theorem writeAllAt_cases (f : Image) (offset : Nat) (buf : List UInt8) (limit : Nat) :
    f.writeAllAt offset buf limit = (f, 0) ∧ (buf.length = 0 ∨ limit = 0 ∨ MAX_FILE ≤ offset) ∨
    ∃ f' n, f.writeAllAt offset buf limit = (f', n) ∧ 0 < n ∧ n ≤ buf.length ∧
      offset + n ≤ MAX_FILE ∧ f'.bytes = Vmm.writeAllAt f.bytes (buf.take n) offset := by
  unfold writeAllAt
  dsimp only
  split
  · next hzero =>
      rw [hzero]
      exact Or.inl ⟨rfl, by omega⟩
  · next hpos => exact Or.inr ⟨_, _, rfl, by omega, by omega, by omega, rfl⟩

variable {f : Image} {offset limit p : Nat} {buf : List UInt8}

theorem writeAllAt_full {n : Nat} (h : (f.writeAllAt offset buf limit).2 = n) :
    n = 0 ∨ offset + n ≤ MAX_FILE := by
  rcases f.writeAllAt_cases offset buf limit with ⟨heq, _⟩ | ⟨f', k, heq, _, _, hmax, _⟩
  · rw [heq] at h
    exact Or.inl h.symm
  · rw [heq] at h
    exact Or.inr (h ▸ hmax)

theorem length_le_writeAllAt : f.length ≤ (f.writeAllAt offset buf limit).1.length := by
  rcases f.writeAllAt_cases offset buf limit with ⟨h, _⟩ | ⟨f', n, h, _, _, _, hbytes⟩
  · rw [h]
  · rw [h]
    unfold length
    rw [hbytes, length_writeAllAt]
    exact Nat.le_max_left _ _

/-- Before the range the file is as it was. -/
theorem writeAllAt_before (hp : p < offset) (hf : p < f.length) :
    (f.writeAllAt offset buf limit).1.bytes[p]? = f.bytes[p]? := by
  rcases f.writeAllAt_cases offset buf limit with ⟨h, _⟩ | ⟨f', n, h, _, _, _, hbytes⟩
  · rw [h]
  · rw [h, hbytes, getElem?_writeAllAt, if_pos hp]
    exact if_pos hf

/-- Inside a bound that is inside the file, its length is kept and everything beyond the bound. -/
theorem writeAllAt_bounded {bound : Nat} (hbound : bound ≤ f.length)
    (h : buf.length = 0 ∨ offset + buf.length ≤ bound) :
    (f.writeAllAt offset buf limit).1.length = f.length ∧
    (∀ p, bound ≤ p → (f.writeAllAt offset buf limit).1.bytes[p]? = f.bytes[p]?) ∧
    (0 < (f.writeAllAt offset buf limit).2 →
      offset + (f.writeAllAt offset buf limit).2 ≤ bound) := by
  rcases f.writeAllAt_cases offset buf limit with ⟨heq, _⟩ | ⟨f', n, heq, hpos, hle, _, hbytes⟩
  · rw [heq]
    exact ⟨rfl, fun _ _ => rfl, fun hlt => absurd hlt (Nat.lt_irrefl 0)⟩
  · have hlen : (buf.take n).length = n := List.length_take_of_le hle
    rw [heq]
    refine ⟨?_, fun p hp => ?_, fun _ => ?_⟩
    · unfold length at hbound ⊢
      rw [hbytes, length_writeAllAt, hlen]
      omega
    · rw [hbytes, getElem?_writeAllAt, hlen, if_neg (by omega), if_neg (by omega)]
    · dsimp only
      omega

end Image

/-! ## The loops, descriptor by descriptor -/

section Loops

variable {m : GuestMemory} {file : Image} {host : Host} {data : List Desc} {i : Nat}
  {offset : UInt64} {count : UInt32}

/-- A turn of the loop of `read_request` ends it, or has filled a buffer from inside the file. -/
theorem readRequest_turn (d : Desc) (ds : List Desc) : (∃ m' e touched,
      readRequest file host (d :: ds) i offset count m = ⟨m', file, touched, .error e⟩ ∧
      ∀ x ∈ touched, x.1 = offset.toNat ∧ x.2 ≤ d.len.toNat ∧ x.2 ≤ file.length - offset.toNat) ∨
    (d.len.toNat = 0 ∨ offset.toNat + d.len.toNat ≤ file.length) ∧
      ∃ m', readRequest file host (d :: ds) i offset count m =
        { readRequest file host ds (i + 1) (offset + d.len.toUInt64) (count + d.len) m' with
          touched := (offset.toNat, d.len.toNat) ::
            (readRequest file host ds (i + 1) (offset + d.len.toUInt64) (count + d.len)
              m').touched } := by
  rw [readRequest]
  split
  · exact Or.inl ⟨_, _, [], rfl, List.forall_mem_nil _⟩
  · have hgot : ∀ limit, (file.readExactAt offset.toNat d.len.toNat limit).1 ≤ d.len.toNat ∧
        (file.readExactAt offset.toNat d.len.toNat limit).1 ≤ file.length - offset.toNat := by
      intro limit
      simp only [Image.readExactAt]
      omega
    have hsome : ∀ limit buf, (file.readExactAt offset.toNat d.len.toNat limit).2 = some buf →
        (file.readExactAt offset.toNat d.len.toNat limit).1 = d.len.toNat := by
      intro limit buf h
      simp only [Image.readExactAt] at h ⊢
      split at h
      · assumption
      · cases h
    have hone : ∀ limit, ∀ x ∈ [(offset.toNat,
        (file.readExactAt offset.toNat d.len.toNat limit).1)],
        x.1 = offset.toNat ∧ x.2 ≤ d.len.toNat ∧ x.2 ≤ file.length - offset.toNat := by
      intro limit x hx
      obtain rfl := List.mem_singleton.mp hx
      exact ⟨rfl, hgot limit⟩
    dsimp only
    split
    · exact Or.inl ⟨_, _, _, rfl, hone _⟩
    · next buf hbuf =>
        split
        · exact Or.inl ⟨_, _, _, rfl, hone _⟩
        · next m' _ =>
            have hfull := hsome _ buf hbuf
            have hle := (hgot (host.limit i d.len.toNat)).2
            rw [hfull] at hle ⊢
            exact Or.inr ⟨by omega, m', rfl⟩

/-- A turn of the loop of `write_request` ends it, perhaps after some bytes, or has written a buffer
below the longest file. -/
theorem writeRequest_turn (d : Desc) (ds : List Desc) :
    (∃ e, writeRequest m host (d :: ds) i offset file = ⟨m, file, [], .error e⟩) ∨
    ∃ buf : List UInt8, buf.length = d.len.toNat ∧ ∃ limit,
      ((∃ e, writeRequest m host (d :: ds) i offset file =
          ⟨m, (file.writeAllAt offset.toNat buf limit).1,
            [(offset.toNat, (file.writeAllAt offset.toNat buf limit).2)], .error e⟩) ∨
        (file.writeAllAt offset.toNat buf limit).2 = d.len.toNat ∧
          writeRequest m host (d :: ds) i offset file =
            { writeRequest m host ds (i + 1) (offset + d.len.toUInt64)
                (file.writeAllAt offset.toNat buf limit).1 with
              touched := (offset.toNat, d.len.toNat) ::
                (writeRequest m host ds (i + 1) (offset + d.len.toUInt64)
                  (file.writeAllAt offset.toNat buf limit).1).touched }) := by
  rw [writeRequest]
  split
  · exact Or.inl ⟨_, rfl⟩
  · next buf hbuf =>
      have hlen : buf.length = d.len.toNat := by
        rw [(GuestMemory.accessible_of_fetch hbuf).2, GuestMemory.slice_length]
      refine Or.inr ⟨buf, hlen, host.limit i d.len.toNat, ?_⟩
      dsimp only
      split
      · next hfull =>
          rw [hlen] at hfull
          rw [hfull]
          exact Or.inr ⟨rfl, rfl⟩
      · exact Or.inl ⟨_, rfl⟩

/-- Offsets inside a file do not wrap. -/
theorem toNat_next {d : Desc} {bound : Nat} (hbound : bound ≤ MAX_FILE)
    (h : d.len.toNat = 0 ∨ offset.toNat + d.len.toNat ≤ bound) :
    (offset + d.len.toUInt64).toNat = offset.toNat + d.len.toNat := by
  refine toNat_add_len ?_
  have hlt := offset.toNat_lt
  unfold MAX_FILE at hbound
  omega

/-! ## What is read -/

/-- Everything that is read lies in the file and in the range asked for. -/
theorem readRequest_touched : ∀ x ∈ (readRequest file host data i offset count m).touched, 0 < x.2 →
      offset.toNat ≤ x.1 ∧ x.1 + x.2 ≤ file.length ∧ x.1 + x.2 ≤ offset.toNat + total data := by
  induction data generalizing m i offset count with
  | nil => exact List.forall_mem_nil _
  | cons d ds ih =>
    intro x hx hpos
    rw [total_cons]
    rcases @readRequest_turn m file host i offset count d ds with
      ⟨m', e, touched, heq, hall⟩ | ⟨hfits, m', heq⟩
    · rw [heq] at hx
      obtain ⟨hat, hlen, hleft⟩ := hall x hx
      omega
    · rw [heq] at hx
      have hnext := toNat_next file.le_max hfits
      rcases List.mem_cons.mp hx with rfl | hrest
      · dsimp only at hpos ⊢
        omega
      · have hx' := ih x hrest hpos
        omega

/-- A read that does not end inside the file fails. -/
theorem readRequest_error (hpos : 0 < total data) (h : file.length < offset.toNat + total data) :
    ∃ e, (readRequest file host data i offset count m).result = .error e := by
  induction data generalizing m i offset count with
  | nil => exact absurd hpos (Nat.lt_irrefl 0)
  | cons d ds ih =>
    rw [total_cons] at hpos h
    rcases @readRequest_turn m file host i offset count d ds with
      ⟨m', e, touched, heq, _⟩ | ⟨hfits, m', heq⟩
    · rw [heq]
      exact ⟨e, rfl⟩
    · rw [heq]
      have hnext := toNat_next file.le_max hfits
      exact ih (by omega) (by omega)

/-- If nothing else fails, a read that begins inside the file and does not end there reads up to
the end. -/
theorem readRequest_reaches (hwrite : ∀ d ∈ data, d.writeOnly = true)
    (hmem : ∀ d ∈ data, m.Accessible d.addr.toNat d.len.toNat)
    (hstart : offset.toNat < file.length) (hend : file.length ≤ offset.toNat + total data) :
    ∃ x ∈ (readRequest file Host.sound data i offset count m).touched,
      0 < x.2 ∧ x.1 + x.2 = file.length := by
  induction data generalizing m i offset count with
  | nil =>
    have hzero : total [] = 0 := rfl
    omega
  | cons d ds ih =>
    rw [total_cons] at hend
    rw [readRequest, if_neg (by simp [hwrite d List.mem_cons_self]), Host.limit_sound]
    by_cases hin : offset.toNat + d.len.toNat ≤ file.length
    · have hlen : ((file.bytes.drop offset.toNat).take d.len.toNat).length = d.len.toNat := by
        refine List.length_take_of_le ?_
        rw [List.length_drop]
        unfold Image.length at hin
        omega
      rw [readExactAt_inside hin]
      dsimp only
      rw [GuestMemory.store_of_accessible (by rw [hlen]; exact hmem d List.mem_cons_self)]
      by_cases hlast : offset.toNat + d.len.toNat = file.length
      · refine ⟨(offset.toNat, d.len.toNat), List.mem_cons_self, ?_, hlast⟩
        dsimp only
        omega
      · have hnext := toNat_next file.le_max (Or.inr hin)
        obtain ⟨x, hx, hpos, hreach⟩ := @ih
          (m.poke d.addr.toNat ((file.bytes.drop offset.toNat).take d.len.toNat)) (i + 1)
          (offset + d.len.toUInt64) (count + d.len)
          (fun e he => hwrite e (List.mem_cons_of_mem d he))
          (fun e he => hmem e (List.mem_cons_of_mem d he)) (by omega) (by omega)
        exact ⟨x, List.mem_cons_of_mem _ hx, hpos, hreach⟩
    · -- The buffer is longer than what is left of the file.
      have hgot : file.readExactAt offset.toNat d.len.toNat d.len.toNat =
          (file.length - offset.toNat, none) := by
        have hmin : min (min d.len.toNat d.len.toNat) (file.length - offset.toNat) =
            file.length - offset.toNat := by omega
        simp only [Image.readExactAt, hmin]
        rw [if_neg (by omega)]
      rw [hgot]
      refine ⟨(offset.toNat, file.length - offset.toNat), List.mem_singleton_self _, ?_, ?_⟩
      · dsimp only
        omega
      · dsimp only
        omega

/-! ## What is written -/

theorem length_le_writeRequest :
    file.length ≤ (writeRequest m host data i offset file).file.length := by
  induction data generalizing i offset file with
  | nil => exact Nat.le_refl _
  | cons d ds ih =>
    rcases @writeRequest_turn m file host i offset d ds with
      ⟨e, heq⟩ | ⟨buf, _, limit, ⟨e, heq⟩ | ⟨_, heq⟩⟩
    · rw [heq]
    · rw [heq]
      exact Image.length_le_writeAllAt
    · rw [heq]
      exact Image.length_le_writeAllAt.trans ih

/-- Writing does not reach back. -/
theorem writeRequest_before {p : Nat} (hp : p < offset.toNat) (hf : p < file.length) :
    (writeRequest m host data i offset file).file.bytes[p]? = file.bytes[p]? := by
  induction data generalizing i offset file with
  | nil => rfl
  | cons d ds ih =>
    rcases @writeRequest_turn m file host i offset d ds with
      ⟨e, heq⟩ | ⟨buf, _, limit, ⟨e, heq⟩ | ⟨hfull, heq⟩⟩
    · rw [heq]
    · rw [heq]
      exact Image.writeAllAt_before hp hf
    · have hnext := toNat_next (Nat.le_refl MAX_FILE) (Image.writeAllAt_full hfull)
      rw [heq]
      refine (ih (by omega) (hf.trans_le Image.length_le_writeAllAt)).trans ?_
      exact Image.writeAllAt_before hp hf

/-- Inside a bound that is inside the file, writing keeps the length of the file and everything
beyond the bound. -/
theorem writeRequest_bounded {bound : Nat} (hbound : bound ≤ file.length)
    (h : total data = 0 ∨ offset.toNat + total data ≤ bound) :
    (writeRequest m host data i offset file).file.length = file.length ∧ (∀ p, bound ≤ p →
      (writeRequest m host data i offset file).file.bytes[p]? = file.bytes[p]?) ∧
    ∀ x ∈ (writeRequest m host data i offset file).touched, 0 < x.2 → x.1 + x.2 ≤ bound := by
  induction data generalizing i offset file with
  | nil => exact ⟨rfl, fun _ _ => rfl, List.forall_mem_nil _⟩
  | cons d ds ih =>
    rw [total_cons] at h
    rcases @writeRequest_turn m file host i offset d ds with
      ⟨e, heq⟩ | ⟨buf, hbuf, limit, hcases⟩
    · rw [heq]
      exact ⟨rfl, fun _ _ => rfl, List.forall_mem_nil _⟩
    · obtain ⟨hlen, hbytes, hgot⟩ := @Image.writeAllAt_bounded file offset.toNat limit buf bound
        hbound (by omega)
      rcases hcases with ⟨e, heq⟩ | ⟨hfull, heq⟩
      · rw [heq]
        refine ⟨hlen, hbytes, fun x hx hpos => ?_⟩
        obtain rfl := List.mem_singleton.mp hx
        exact hgot hpos
      · have hnext := toNat_next (Nat.le_refl MAX_FILE) (Image.writeAllAt_full hfull)
        obtain ⟨hlen', hbytes', htouched⟩ := @ih
          (file.writeAllAt offset.toNat buf limit).1 (i + 1) (offset + d.len.toUInt64)
          (hlen ▸ hbound) (by omega)
        rw [heq]
        refine ⟨hlen'.trans hlen, fun p hp => (hbytes' p hp).trans (hbytes p hp), ?_⟩
        intro x hx hpos
        rcases List.mem_cons.mp hx with rfl | hrest
        · rw [hfull] at hgot
          exact hgot hpos
        · exact htouched x hrest hpos

/-- Behind the longest file nothing is written. -/
theorem writeRequest_beyond (h : MAX_FILE ≤ offset.toNat) (hpos : 0 < total data) :
    (∃ e, (writeRequest m host data i offset file).result = .error e) ∧
    (writeRequest m host data i offset file).file = file ∧
    ∀ x ∈ (writeRequest m host data i offset file).touched, x.2 = 0 := by
  induction data generalizing i offset with
  | nil => exact absurd hpos (Nat.lt_irrefl 0)
  | cons d ds ih =>
    rw [total_cons] at hpos
    rcases @writeRequest_turn m file host i offset d ds with
      ⟨e, heq⟩ | ⟨buf, hbuf, limit, hcases⟩
    · rw [heq]
      exact ⟨⟨e, rfl⟩, rfl, List.forall_mem_nil _⟩
    · have hnone : file.writeAllAt offset.toNat buf limit = (file, 0) := by
        rcases file.writeAllAt_cases offset.toNat buf limit with
          ⟨hnone, _⟩ | ⟨_, _, _, _, _, _, _⟩
        · exact hnone
        · omega
      rw [hnone] at hcases
      rcases hcases with ⟨e, heq⟩ | ⟨hfull, heq⟩
      · rw [heq]
        refine ⟨⟨e, rfl⟩, rfl, fun x hx => ?_⟩
        obtain rfl := List.mem_singleton.mp hx
        rfl
      · dsimp only at hfull
        have hnext := @toNat_next offset d 0 (Nat.zero_le _) (Or.inl hfull.symm)
        obtain ⟨herr, hfile, htouched⟩ := @ih (i + 1) (offset + d.len.toUInt64) (by omega)
          (by omega)
        rw [heq]
        refine ⟨herr, hfile, fun x hx => ?_⟩
        rcases List.mem_cons.mp hx with rfl | hrest
        · exact hfull.symm
        · exact htouched x hrest

/-- If nothing else fails, a write of the same byte over and over leaves it where it begins. -/
theorem writeRequest_starts {b : UInt8} (hmem : ∀ d ∈ data, m.Accessible d.addr.toNat d.len.toNat)
    (hbyte : ∀ d ∈ data, m.slice d.addr.toNat d.len.toNat = List.replicate d.len.toNat b)
    (hstart : offset.toNat < MAX_FILE) (hpos : 0 < total data) :
    (writeRequest m Host.sound data i offset file).file.bytes[offset.toNat]? = some b := by
  induction data generalizing i offset file with
  | nil => exact absurd hpos (Nat.lt_irrefl 0)
  | cons d ds ih =>
    rw [total_cons] at hpos
    rw [writeRequest, GuestMemory.fetch_of_accessible (hmem d List.mem_cons_self),
      hbyte d List.mem_cons_self, Host.limit_sound]
    dsimp only
    rw [List.length_replicate]
    rcases file.writeAllAt_cases offset.toNat (List.replicate d.len.toNat b) d.len.toNat with
      ⟨heq, hzero⟩ | ⟨f', n, heq, hn, hle, hmax, hbytes⟩
    · -- The buffer is empty.
      have hlen : d.len.toNat = 0 := by
        rw [List.length_replicate] at hzero
        omega
      have hnext := @toNat_next offset d 0 (Nat.zero_le _) (Or.inl hlen)
      have hrest := @ih file (i + 1) (offset + d.len.toUInt64)
        (fun e he => hmem e (List.mem_cons_of_mem d he))
        (fun e he => hbyte e (List.mem_cons_of_mem d he)) (by omega) (by omega)
      rw [hnext, hlen, Nat.add_zero] at hrest
      rw [heq, if_pos hlen.symm]
      exact hrest
    · have hlen : ((List.replicate d.len.toNat b).take n).length = n :=
        List.length_take_of_le hle
      rw [List.length_replicate] at hle
      have hhere : f'.bytes[offset.toNat]? = some b := by
        rw [hbytes, getElem?_writeAllAt, hlen, if_neg (Nat.lt_irrefl _), if_pos (by omega),
          Nat.sub_self, List.getElem?_take_of_lt hn, List.getElem?_replicate_of_lt (by omega)]
      have hfile : offset.toNat < f'.length := (List.getElem?_eq_some_iff.mp hhere).1
      rw [heq]
      dsimp only
      split
      · next hfull =>
          have hnext := @toNat_next offset d MAX_FILE (Nat.le_refl _) (Or.inr (by omega))
          exact (writeRequest_before (by omega) hfile).trans hhere
      · exact hhere

end Loops

/-! ## The device -/

/-- `Block`, with the capacity it has computed in `new`. -/
structure Device where
  file : Image
  readOnly : Bool
  capacitySectors : Nat
  /-- The file does not become shorter. -/
  le_length : SECTOR_SIZE.toNat * capacitySectors ≤ file.length

/-- What a request asks for: its type, its sector and the lengths of its data buffers. -/
structure Asked where
  type : UInt32
  sector : UInt64
  lens : List UInt32
  deriving DecidableEq, Repr

/-- What a request with this header and these data buffers asks for. -/
def Asked.of (header : List UInt8) (data : List Desc) : Asked :=
  ⟨reqType header, reqSector header, data.map Desc.len⟩

/-- What a chain asks for, if there is a header to read. -/
def asked (m : GuestMemory) : List Desc → Option Asked
  | [] | [_] => none
  | header :: d :: ds =>
    if header.len.toNat < VIRTIO_BLK_HDR_LEN then none
    else (m.fetch header.addr.toNat VIRTIO_BLK_HDR_LEN).map (fun bytes =>
      Asked.of bytes (d :: ds).dropLast)

namespace Asked

/-- The first byte and the number of bytes, computed exactly. -/
def first (a : Asked) : Nat := SECTOR_SIZE.toNat * a.sector.toNat
def size (a : Asked) : Nat := (a.lens.map UInt32.toNat).sum

/-- The first byte as the device computes it. -/
def start (a : Asked) : Nat := (a.sector * SECTOR_SIZE).toNat

/-- The range of the request, if it has one, is inside a capacity. -/
def Within (a : Asked) (capacity : Nat) : Prop :=
  a.type = VIRTIO_BLK_T_IN ∨ a.type = VIRTIO_BLK_T_OUT →
    a.size = 0 ∨ a.first + a.size ≤ capacity

instance (a : Asked) (capacity : Nat) : Decidable (a.Within capacity) :=
  inferInstanceAs (Decidable (_ → _))

end Asked

namespace Device

/-- The device with an image that was just opened. -/
def new (file : Image) (readOnly : Bool) : Device where
  file := file
  readOnly := readOnly
  capacitySectors := file.length / SECTOR_SIZE.toNat
  le_length := Nat.mul_div_le _ _

def capacity (d : Device) : Nat := SECTOR_SIZE.toNat * d.capacitySectors

def service (d : Device) (m : GuestMemory) (host : Host) (descs : List Desc) : Serviced :=
  serviceRequest m d.file d.readOnly host descs

/-- A request stays inside the disk: it reads and writes nothing beyond the capacity, it leaves the
bytes there and the length of the file as they are, and if its range is not inside the capacity then
it is refused and changes nothing. -/
structure Inside (d : Device) (q : Option Asked) (done : Serviced) : Prop where
  touched : ∀ x ∈ done.touched, 0 < x.2 → x.1 + x.2 ≤ d.capacity
  bytes : ∀ p, d.capacity ≤ p → done.file.bytes[p]? = d.file.bytes[p]?
  length : done.file.length = d.file.length
  refused : ∀ a ∈ q, ¬ a.Within d.capacity →
    done.status = some VIRTIO_BLK_S_IOERR ∧ done.file = d.file

/-- The requests that the device or the host refuses although nobody looks at the capacity: writes
to a read-only device or behind the longest file, and reads that begin behind the end of the file,
or that end there if the file has no more than the capacity. -/
def Refuses (d : Device) (a : Asked) : Prop :=
  a.type = VIRTIO_BLK_T_OUT ∧ (d.readOnly = true ∨ MAX_FILE ≤ a.start) ∨
    a.type = VIRTIO_BLK_T_IN ∧ (d.file.length ≤ a.start ∨
      d.file.length = d.capacity ∧ d.file.length < a.start + a.size)

instance (d : Device) (a : Asked) : Decidable (d.Refuses a) :=
  inferInstanceAs (Decidable (_ ∧ (_ ∨ _) ∨ _ ∧ (_ ∨ _ ∧ _)))

end Device

/-! ## What a request does -/

theorem answer_status (d : Done (UInt8 × UInt32)) (status : Desc) :
    (answer d status).touched = d.touched ∧ (answer d status).status = some d.outcome.1 := by
  unfold answer
  split <;> exact ⟨rfl, rfl⟩

/-- A request without a header does nothing, and others do what their header says. -/
theorem serviceRequest_asked (m : GuestMemory) (file : Image) (readOnly : Bool) (host : Host)
    (descs : List Desc) :
    asked m descs = none ∧ (serviceRequest m file readOnly host descs).touched = [] ∧
      (serviceRequest m file readOnly host descs).file = file ∨ ∃ header data status,
      asked m descs = some (Asked.of header data) ∧ serviceRequest m file readOnly host descs =
        answer (perform m file readOnly host header data) status := by
  unfold asked serviceRequest
  match descs with
  | [] | [_] => exact Or.inl ⟨rfl, rfl, rfl⟩
  | header :: d :: ds =>
    dsimp only
    split
    · exact Or.inl ⟨rfl, rfl, rfl⟩
    · cases m.fetch header.addr.toNat VIRTIO_BLK_HDR_LEN with
      | none => exact Or.inl ⟨rfl, rfl, rfl⟩
      | some bytes => exact Or.inr ⟨bytes, _, _, rfl, rfl⟩

theorem Asked.size_of (header : List UInt8) (data : List Desc) :
    (Asked.of header data).size = total data := by
  unfold size total of
  rw [List.map_map]
  rfl

/-- Inside a file, the device computes the first byte as it is. -/
theorem Asked.start_eq {a : Asked} (h : a.first ≤ MAX_FILE) : a.start = a.first := by
  unfold first at h
  unfold start first
  unfold MAX_FILE at h
  rw [UInt64.toNat_mul, Nat.mul_comm, Nat.mod_eq_of_lt (by omega)]

-- Sector 2^55 is taken for sector 0.
example : (Asked.mk VIRTIO_BLK_T_OUT (2 ^ 55) [1]).start = 0 := by decide

/-- Inside a capacity, the device computes the range as it is. -/
theorem Asked.Within.range {a : Asked} {capacity : Nat} (h : a.Within capacity)
    (hcap : capacity ≤ MAX_FILE) (htype : a.type = VIRTIO_BLK_T_IN ∨ a.type = VIRTIO_BLK_T_OUT) :
    a.size = 0 ∨ a.start + a.size ≤ capacity := by
  rcases h htype with hzero | hle
  · exact Or.inl hzero
  · have hexact : a.start = a.first := Asked.start_eq (by omega)
    exact Or.inr (by omega)

/-- The file does not become shorter. -/
theorem length_le_serviceRequest (m : GuestMemory) (file : Image) (readOnly : Bool) (host : Host)
    (descs : List Desc) :
    file.length ≤ (serviceRequest m file readOnly host descs).file.length := by
  rcases serviceRequest_asked m file readOnly host descs with
    ⟨_, _, hfile⟩ | ⟨header, data, status, _, heq⟩
  · rw [hfile]
  · rw [heq, answer_file]
    unfold perform
    dsimp only
    split
    · rw [readRequest_file]
    split
    · split
      · exact Nat.le_refl _
      · exact length_le_writeRequest
    split <;> exact Nat.le_refl _

theorem outcome_error {d : Done (UInt8 × UInt32)} {e : VmmError} (h : d.result = .error e) :
    d.outcome.1 = VIRTIO_BLK_S_IOERR := by rw [Done.outcome, h]

theorem perform_other {header : List UInt8} (m : GuestMemory) (file : Image) (readOnly : Bool)
    (host : Host) (data : List Desc) (hin : ¬ reqType header = VIRTIO_BLK_T_IN)
    (hout : ¬ reqType header = VIRTIO_BLK_T_OUT) :
    ∃ result, perform m file readOnly host header data = ⟨m, file, [], result⟩ := by
  unfold perform
  rw [if_neg hin, if_neg hout]
  split <;> exact ⟨_, rfl⟩

namespace Device

section Confined

variable {d : Device} {m : GuestMemory} {host : Host} {header : List UInt8} {data : List Desc}

theorem inside_answer {a : Asked} {done : Done (UInt8 × UInt32)} (status : Desc)
    (htouched : ∀ x ∈ done.touched, 0 < x.2 → x.1 + x.2 ≤ d.capacity)
    (hbytes : ∀ p, d.capacity ≤ p → done.file.bytes[p]? = d.file.bytes[p]?)
    (hlength : done.file.length = d.file.length) (hrefused : ¬ a.Within d.capacity →
      done.outcome.1 = VIRTIO_BLK_S_IOERR ∧ done.file = d.file) :
    d.Inside (some a) (answer done status) := by
  obtain ⟨hsame, hstatus⟩ := answer_status done status
  have hfile := answer_file done status
  refine ⟨?_, ?_, ?_, ?_⟩
  · rwa [hsame]
  · rwa [hfile]
  · rwa [hfile]
  · intro a' ha' hout
    cases ha'
    rw [hstatus, hfile]
    exact ⟨congrArg some (hrefused hout).1, (hrefused hout).2⟩

theorem inside_read (htype : (Asked.of header data).type = VIRTIO_BLK_T_IN) (status : Desc)
    (h : (Asked.of header data).Within d.capacity ∨ d.Refuses (Asked.of header data)) :
    d.Inside (some (Asked.of header data))
      (answer (perform m d.file d.readOnly host header data) status) := by
  have hcap : d.capacity ≤ d.file.length := d.le_length
  have hmax := d.file.le_max
  have hsize := Asked.size_of header data
  have hfile := readRequest_file d.file host data 0 (reqSector header * SECTOR_SIZE) 0 m
  -- What was refused because of the type is not a read.
  have hrefuses : d.Refuses (Asked.of header data) →
      d.file.length ≤ (Asked.of header data).start ∨ d.file.length = d.capacity ∧
        d.file.length < (Asked.of header data).start + (Asked.of header data).size := by
    rintro (⟨hout, _⟩ | ⟨_, hends⟩)
    · rw [htype] at hout
      exact absurd hout (by decide)
    · exact hends
  rw [perform_in htype]
  refine inside_answer status ?_ ?_ ?_ ?_
  · intro x hx hpos
    obtain ⟨hlow, hend, hrange⟩ := readRequest_touched x hx hpos
    have hstart : (reqSector header * SECTOR_SIZE).toNat = (Asked.of header data).start := rfl
    rw [hstart] at hlow hrange
    rcases h with hin | href
    · have hinside := hin.range (hcap.trans hmax) (Or.inl htype)
      omega
    · have hends := hrefuses href
      omega
  · intro p _
    dsimp only
    rw [hfile]
  · exact congrArg Image.length hfile
  · intro hout
    refine ⟨?_, hfile⟩
    have hne : (Asked.of header data).size ≠ 0 := fun hzero => hout (fun _ => Or.inl hzero)
    have hends := hrefuses (h.resolve_left hout)
    obtain ⟨e, he⟩ := @readRequest_error m d.file host data 0 (reqSector header * SECTOR_SIZE) 0
      (by omega) (by
        show _ < (Asked.of header data).start + _
        omega)
    refine @outcome_error _ e ?_
    dsimp only
    rw [he]
    rfl

theorem inside_write (htype : (Asked.of header data).type = VIRTIO_BLK_T_OUT) (status : Desc)
    (h : (Asked.of header data).Within d.capacity ∨ d.Refuses (Asked.of header data)) :
    d.Inside (some (Asked.of header data))
      (answer (perform m d.file d.readOnly host header data) status) := by
  have hcap : d.capacity ≤ d.file.length := d.le_length
  have hmax := d.file.le_max
  have hsize := Asked.size_of header data
  cases hro : d.readOnly with
  | true =>
    rw [perform_out_readOnly htype]
    exact inside_answer status (List.forall_mem_nil _) (fun _ _ => rfl) rfl (fun _ => ⟨rfl, rfl⟩)
  | false =>
    rw [perform_out htype]
    by_cases hin : (Asked.of header data).Within d.capacity
    · have hrange : total data = 0 ∨
          (reqSector header * SECTOR_SIZE).toNat + total data ≤ d.capacity := by
        rw [← hsize]
        exact hin.range (hcap.trans hmax) (Or.inr htype)
      obtain ⟨hlength, hbytes, htouched⟩ :=
        @writeRequest_bounded m d.file host data 0 _ d.capacity hcap hrange
      exact inside_answer status htouched hbytes hlength (fun hout => absurd hin hout)
    · have hne : (Asked.of header data).size ≠ 0 := fun hzero => hin (fun _ => Or.inl hzero)
      have hbeyond : MAX_FILE ≤ (reqSector header * SECTOR_SIZE).toNat := by
        rcases h.resolve_left hin with ⟨_, hro' | hbeyond⟩ | ⟨hread, _⟩
        · rw [hro] at hro'
          cases hro'
        · exact hbeyond
        · rw [htype] at hread
          exact absurd hread (by decide)
      obtain ⟨⟨e, he⟩, hfile, htouched⟩ :=
        @writeRequest_beyond m d.file host data 0 _ hbeyond (by omega)
      refine inside_answer status ?_ ?_ (congrArg Image.length hfile) (fun _ => ⟨?_, hfile⟩)
      · intro x hx hpos
        exact absurd (htouched x hx) (Nat.ne_of_gt hpos)
      · intro p _
        dsimp only
        rw [hfile]
      · refine @outcome_error _ e ?_
        dsimp only
        rw [he]
        rfl

/-- Requests that are inside the capacity, or that are refused, stay inside the disk. -/
theorem inside_of_confined (d : Device) (m : GuestMemory) (host : Host) (descs : List Desc)
    (h : ∀ a ∈ asked m descs, a.Within d.capacity ∨ d.Refuses a) :
    d.Inside (asked m descs) (d.service m host descs) := by
  unfold service
  rcases serviceRequest_asked m d.file d.readOnly host descs with
    ⟨hasked, htouched, hfile⟩ | ⟨header, data, status, hasked, heq⟩
  · rw [hasked]
    refine ⟨?_, ?_, congrArg Image.length hfile, by simp⟩
    · rw [htouched]
      exact List.forall_mem_nil _
    · intro p _
      rw [hfile]
  · have hconf := h _ hasked
    rw [hasked, heq]
    by_cases hin : (Asked.of header data).type = VIRTIO_BLK_T_IN
    · exact inside_read hin status hconf
    by_cases hout : (Asked.of header data).type = VIRTIO_BLK_T_OUT
    · exact inside_write hout status hconf
    -- The other requests have nothing to do with the sector and the buffers.
    obtain ⟨result, hperform⟩ := @perform_other header m d.file d.readOnly host data hin hout
    rw [hperform]
    refine inside_answer status (List.forall_mem_nil _) (fun _ _ => rfl) rfl (fun hnot => ?_)
    exact absurd (fun htype => htype.elim (absurd · hin) (absurd · hout)) hnot

end Confined

/-! ## The other requests -/

section Escapes

variable {d : Device} {m : GuestMemory} {header : List UInt8} {data : List Desc} {status : Desc}
  {a : Asked}

/-- If nothing else fails, a read that is not refused reads beyond the capacity, or reports no
error. -/
theorem read_escapes (ha : Asked.of header data = a) (htype : a.type = VIRTIO_BLK_T_IN)
    (hwrite : ∀ e ∈ data, e.writeOnly = true)
    (hmem : ∀ e ∈ data, m.Accessible e.addr.toNat e.len.toNat)
    (hout : ¬ a.Within d.capacity) (hnot : ¬ d.Refuses a) :
    ¬ d.Inside (some a) (answer (perform m d.file d.readOnly Host.sound header data) status) := by
  subst ha
  intro h
  have hcap : d.capacity ≤ d.file.length := d.le_length
  have hsize := Asked.size_of header data
  have hoffset : (reqSector header * SECTOR_SIZE).toNat = (Asked.of header data).start := rfl
  have hstart : (Asked.of header data).start < d.file.length := by
    by_contra hle
    exact hnot (Or.inr ⟨htype, Or.inl (Nat.not_lt.mp hle)⟩)
  rw [perform_in htype] at h
  by_cases hend : (Asked.of header data).start + (Asked.of header data).size ≤ d.file.length
  · -- The status is `OK`.
    have hres := (@readRequest_inside m d.file data 0 (reqSector header * SECTOR_SIZE) 0 hwrite
      hmem (by omega)).1
    have hstatus := (h.refused _ rfl hout).1
    rw [(answer_status _ _).2, Done.outcome, hres] at hstatus
    have hok : VIRTIO_BLK_S_OK = VIRTIO_BLK_S_IOERR := Option.some.inj hstatus
    exact absurd hok (by decide)
  · -- The last byte of the file is read, and it is beyond the capacity.
    have hmore : d.file.length ≠ d.capacity := by
      intro heq
      exact hnot (Or.inr ⟨htype, Or.inr ⟨heq, Nat.not_le.mp hend⟩⟩)
    obtain ⟨x, hx, hpos, hlast⟩ := @readRequest_reaches m d.file data 0
      (reqSector header * SECTOR_SIZE) 0 hwrite hmem (by omega) (by omega)
    have hle := h.touched x (by rw [(answer_status _ _).1]; exact hx) hpos
    omega

/-- If nothing else fails, a write that is not refused changes the file. -/
theorem write_escapes {b : UInt8} (ha : Asked.of header data = a)
    (htype : a.type = VIRTIO_BLK_T_OUT) (hmem : ∀ e ∈ data, m.Accessible e.addr.toNat e.len.toNat)
    (hbyte : ∀ e ∈ data, m.slice e.addr.toNat e.len.toNat = List.replicate e.len.toNat b)
    (hb : d.file.bytes[a.start]? ≠ some b) (hout : ¬ a.Within d.capacity) (hnot : ¬ d.Refuses a) :
    ¬ d.Inside (some a) (answer (perform m d.file d.readOnly Host.sound header data) status) := by
  subst ha
  intro h
  have hro : d.readOnly = false := by
    cases hro : d.readOnly with
    | true => exact absurd (Or.inl ⟨htype, Or.inl hro⟩) hnot
    | false => rfl
  have hmax : (Asked.of header data).start < MAX_FILE := by
    by_contra hle
    exact hnot (Or.inl ⟨htype, Or.inr (Nat.not_lt.mp hle)⟩)
  have hpos : (Asked.of header data).size ≠ 0 := fun hzero => hout (fun _ => Or.inl hzero)
  have hsize := Asked.size_of header data
  have hfile := (h.refused _ rfl hout).2
  rw [answer_file, hro, perform_out htype] at hfile
  have hwritten := @writeRequest_starts m d.file data 0 (reqSector header * SECTOR_SIZE) b hmem
    hbyte hmax (by omega)
  dsimp only at hfile
  rw [hfile] at hwritten
  exact hb hwritten

end Escapes

/-- Eight gigabytes of guest RAM that are filled with one byte, and a header. -/
def probe (a : Asked) (b : UInt8) : GuestMemory :=
  GuestMemory.poke ⟨[⟨0, 0x200000000⟩], fun _ => b⟩ 0 (headerOf a.type a.sector)

/-- The data buffers of a request: all at the same address. -/
def probeData (a : Asked) : List Desc :=
  a.lens.map (fun len => ⟨0x1000, len, a.type = VIRTIO_BLK_T_IN⟩)

def probeChain (a : Asked) : List Desc :=
  ⟨0, 16, false⟩ :: (probeData a ++ [⟨0x800, 1, true⟩])

section Probe

variable (a : Asked) (b : UInt8)

theorem length_headerOf : (headerOf a.type a.sector).length = VIRTIO_BLK_HDR_LEN := by
  simp only [headerOf, List.length_append, leBytes_length]
  rfl

theorem of_headerOf : Asked.of (headerOf a.type a.sector) (probeData a) = a := by
  have htype : reqType (headerOf a.type a.sector) = a.type := by
    have htake : (headerOf a.type a.sector).take 4 = leBytes 4 a.type.toNat := by
      rw [headerOf, List.append_assoc]
      exact List.take_left' (leBytes_length 4 _)
    rw [reqType, htake, ofLeBytes_leBytes,
      Nat.mod_eq_of_lt (show _ < 256 ^ 4 from a.type.toNat_lt), UInt32.ofNat_toNat]
  have hsector : reqSector (headerOf a.type a.sector) = a.sector := by
    have hdrop : (headerOf a.type a.sector).drop 8 = leBytes 8 a.sector.toNat := by
      refine List.drop_left' ?_
      rw [List.length_append, leBytes_length, leBytes_length]
    rw [reqSector, hdrop, List.take_of_length_le (by rw [leBytes_length]), ofLeBytes_leBytes,
      Nat.mod_eq_of_lt (show _ < 256 ^ 8 from a.sector.toNat_lt), UInt64.ofNat_toNat]
  have hlens : (probeData a).map Desc.len = a.lens := by
    rw [probeData, List.map_map]
    exact List.map_id _
  rw [Asked.of, htype, hsector, hlens]

theorem accessible_probe {addr n : Nat} (h : addr + n < 0x200000000) :
    (probe a b).Accessible addr n := by
  have hbacked : ∀ x < 0x200000000, (probe a b).backed x = true := by
    intro x hx
    have hcontains : Region.Contains ⟨0, 0x200000000⟩ x := ⟨Nat.zero_le x, by omega⟩
    show (decide (Region.Contains ⟨0, 0x200000000⟩ x) || false) = true
    rw [decide_eq_true hcontains]
    rfl
  exact ⟨hbacked addr (by omega), fun i hi => hbacked (addr + i) (by omega)⟩

theorem accessible_probeData :
    ∀ d ∈ probeData a, (probe a b).Accessible d.addr.toNat d.len.toNat := by
  intro d hd
  obtain ⟨len, _, rfl⟩ := List.mem_map.mp hd
  have hlt := len.toNat_lt
  refine accessible_probe a b ?_
  show 0x1000 + len.toNat < _
  omega

theorem writeOnly_probeData {a : Asked} (h : a.type = VIRTIO_BLK_T_IN) :
    ∀ d ∈ probeData a, d.writeOnly = true := by
  intro d hd
  obtain ⟨len, _, rfl⟩ := List.mem_map.mp hd
  exact decide_eq_true h

/-- The buffers are filled with the byte. -/
theorem slice_probeData : ∀ d ∈ probeData a,
    (probe a b).slice d.addr.toNat d.len.toNat = List.replicate d.len.toNat b := by
  intro d hd
  obtain ⟨len, _, rfl⟩ := List.mem_map.mp hd
  have hlen := length_headerOf a
  unfold VIRTIO_BLK_HDR_LEN at hlen
  dsimp only
  refine List.ext_getElem? (fun i => ?_)
  by_cases hi : i < len.toNat
  · rw [GuestMemory.slice_getElem? _ hi, List.getElem?_replicate_of_lt hi]
    refine congrArg some (GuestMemory.poke_byte_of_outside (Or.inr ?_))
    show 0 + _ ≤ 0x1000 + i
    omega
  · rw [List.getElem?_eq_none (by rw [GuestMemory.slice_length]; omega),
      List.getElem?_eq_none (by rw [List.length_replicate]; omega)]

theorem slice_header : (probe a b).slice 0 VIRTIO_BLK_HDR_LEN = headerOf a.type a.sector := by
  rw [← length_headerOf a]
  exact GuestMemory.slice_poke _ _ _

theorem asked_probe : asked (probe a b) (probeChain a) = some a := by
  obtain ⟨d, ds, hds, _, hdata⟩ := exists_cons_of_concat (probeData a) ⟨0x800, 1, true⟩
  have hfetch := @GuestMemory.fetch_of_accessible (probe a b) 0 VIRTIO_BLK_HDR_LEN
    (accessible_probe a b (by decide))
  rw [probeChain, hds, asked, hdata, if_neg (by decide)]
  show ((probe a b).fetch 0 _).map _ = _
  rw [hfetch, slice_header, Option.map_some, of_headerOf]

theorem service_probe (d : Device) : d.service (probe a b) Host.sound (probeChain a) =
    answer (perform (probe a b) d.file d.readOnly Host.sound (headerOf a.type a.sector)
      (probeData a)) ⟨0x800, 1, true⟩ := by
  have heq := @serviceRequest_eq (probe a b) d.file d.readOnly Host.sound ⟨0, 16, false⟩
    ⟨0x800, 1, true⟩ (probeData a) (by decide) (accessible_probe a b (by decide))
  rw [← slice_header a b]
  exact heq

end Probe

/-- A request, with guest memory as it is then and what the host does. -/
structure Attempt where
  mem : GuestMemory
  host : Host
  descs : List Desc

/-- The device after a request. -/
def step (d : Device) (t : Attempt) : Option Device :=
  some { d with
    file := (d.service t.mem t.host t.descs).file
    le_length := d.le_length.trans (length_le_serviceRequest _ _ _ _ _) }

/-- **A disk keeps its size.** As long as all requests are inside the capacity or refused, the file
is as long as it was, and it holds what it held beyond the capacity. -/
theorem run_kept (d d' : Device) (ts : List Attempt)
    (h : Meets step (fun d t => ∀ a ∈ asked t.mem t.descs, a.Within d.capacity ∨ d.Refuses a) d ts)
    (hrun : run step d ts = some d') : d'.capacity = d.capacity ∧ d'.file.length = d.file.length ∧
      ∀ p, d.capacity ≤ p → d'.file.bytes[p]? = d.file.bytes[p]? := by
  refine run_invariant (fun x : Device => x.capacity = d.capacity ∧
    x.file.length = d.file.length ∧ ∀ p, d.capacity ≤ p → x.file.bytes[p]? = d.file.bytes[p]?)
    ?_ ts d d' ⟨rfl, rfl, fun _ _ => rfl⟩ h hrun
  rintro x t y ⟨hcap, hlength, hbytes⟩ hconf hstep
  cases hstep
  have hinside := inside_of_confined x t.mem t.host t.descs hconf
  refine ⟨hcap, hinside.length.trans hlength, fun p hp => ?_⟩
  exact (hinside.bytes p (hcap ▸ hp)).trans (hbytes p hp)

end Device

end MicroMachines.Block
