import ReceiveReactor.Proofs.Source

/-!
# Addresses and their layout determine each other

An address is laid out for the kernel and read back from the kernel's area, field by field in
both directions.  What is read is **laid out as it stood**, but for the bytes that carry nothing:
the padding behind an IPv4 address and the flow information of an IPv6 one become zero.

* `StoredAddress.exists_holds_v4`, `StoredAddress.exists_holds_v6` — an area with the right
  family and length holds an address;
* `StoredAddress.toRaw_of_holds_v4`, `StoredAddress.toRaw_of_holds_v6` — the layout of the
  address that an area holds;
* `StoredAddress.isSome_address?_iff` — **which areas have an address**;
* `StoredAddress.raw_round_trip` — both directions, for all addresses and all areas.
-/

namespace ReceiveReactor

namespace StoredAddress

open Address

variable {s : StoredAddress}

/-! ## From the area to the address -/

/-- Every area starts with its family and its port. -/
private theorem area_eq_append (harea : s.area.length = capacity) :
    s.area = Bytes.ofNatLE 2 s.family ++ (Bytes.ofNatBE 2 s.port.toNat ++ s.area.drop 4) := by
  rw [capacity] at harea
  have hinside : 0 + 2 ≤ s.area.length := by omega
  have hfamily : Bytes.ofNatLE 2 s.family = s.area.take 2 := Bytes.ofNatLE_fieldLE hinside
  have hport : Bytes.ofNatBE 2 s.port.toNat = (s.area.drop 2).take 2 := by
    have hwidth : ((s.area.drop 2).take 2).length = 2 := by
      rw [List.length_take, List.length_drop]
      omega
    have hlt : Bytes.toNatBE ((s.area.drop 2).take 2) < 2 ^ 16 := by
      have hlt := Bytes.toNatBE_lt ((s.area.drop 2).take 2)
      rwa [hwidth] at hlt
    rw [port, UInt16.toNat_ofNat', Nat.mod_eq_of_lt hlt, Bytes.ofNatBE_toNatBE hwidth]
  rw [hfamily, hport, ← Bytes.drop_eq_append, List.take_append_drop]

/-- **An area with the family and the length of IPv4** holds an address. -/
theorem exists_holds_v4 (harea : s.area.length = capacity) (hfamily : s.family = familyV4)
    (hlength : V4.rawSize ≤ s.length) : ∃ a, s.Holds (some (.v4 a)) := by
  have hparts := area_eq_append harea
  rw [hfamily, Bytes.drop_eq_append s.area 4 4] at hparts
  have hfour : ((s.area.drop 4).take 4).length = 4 := by
    rw [List.length_take, List.length_drop, harea]
    rfl
  refine ⟨⟨⟨((s.area.drop 4).take 4).toArray, by simpa using hfour⟩, s.port⟩, hlength,
    s.area.drop 8, ?_⟩
  simpa only [Vector.toList, List.toList_toArray] using hparts

/-- **An area with the family and the length of IPv6** holds an address. -/
theorem exists_holds_v6 (harea : s.area.length = capacity) (hfamily : s.family = familyV6)
    (hlength : V6.rawSize ≤ s.length) : ∃ a, s.Holds (some (.v6 a)) := by
  have hparts := area_eq_append harea
  have hscope : Bytes.ofNatLE 4 (UInt32.ofNat (Bytes.fieldLE s.area 24 4)).toNat =
      (s.area.drop 24).take 4 := Bytes.ofNatLE_word32 (by rw [harea, capacity]; decide)
  rw [hfamily, Bytes.drop_eq_append s.area 4 4, Bytes.drop_eq_append s.area 8 16,
    Bytes.drop_eq_append s.area 24 4, ← hscope] at hparts
  have hflow : ((s.area.drop 4).take 4).length = 4 := by
    rw [List.length_take, List.length_drop, harea]
    rfl
  have hsixteen : ((s.area.drop 8).take 16).length = 16 := by
    rw [List.length_take, List.length_drop, harea]
    rfl
  refine ⟨⟨⟨((s.area.drop 8).take 16).toArray, by simpa using hsixteen⟩, s.port,
    UInt32.ofNat (Bytes.fieldLE s.area 24 4)⟩, hlength, (s.area.drop 4).take 4, s.area.drop 28,
    hflow, ?_⟩
  simpa only [Vector.toList, List.toList_toArray] using hparts

/-! ## From the address to the area -/

/-- **An IPv4 area comes back** byte for byte, but for its padding, which comes back as
zeros. -/
theorem toRaw_of_holds_v4 {a : V4} (h : s.Holds (some (.v4 a))) :
    a.toRaw = s.area.take 8 ++ Bytes.zeros 8 := by
  obtain ⟨-, rest, harea⟩ := h
  have hfront : s.area.take 8 =
      Bytes.ofNatLE 2 familyV4 ++ Bytes.ofNatBE 2 a.port.toNat ++ a.octets.toList := by
    rw [harea, ← List.append_assoc, ← List.append_assoc]
    exact List.take_left' (by simp)
  rw [V4.toRaw, hfront]

/-- **So does an IPv6 area**, but for the flow information. -/
theorem toRaw_of_holds_v6 {a : V6} (h : s.Holds (some (.v6 a))) :
    a.toRaw = s.area.take 4 ++ Bytes.zeros 4 ++ (s.area.drop 8).take 20 := by
  obtain ⟨-, flow, rest, hflow, harea⟩ := h
  have hfront : s.area.take 4 = Bytes.ofNatLE 2 familyV6 ++ Bytes.ofNatBE 2 a.port.toNat := by
    rw [harea, ← List.append_assoc]
    exact List.take_left' (by simp)
  have hback : (s.area.drop 8).take 20 = a.octets.toList ++ Bytes.ofNatLE 4 a.scope.toNat := by
    rw [harea, ← List.append_assoc, ← List.append_assoc, ← List.append_assoc a.octets.toList]
    exact Bytes.field_append (by simp [hflow]) (by simp)
  rw [V6.toRaw, hfront, hback, ← List.append_assoc]

/-! ## Both directions -/

/-- Only an area with the family and the length of IPv4 is read as such. -/
theorem eq_family_of_v4? {a : V4} (h : s.v4? = some a) :
    s.family = familyV4 ∧ V4.rawSize ≤ s.length := by
  unfold v4? at h
  split at h
  · cases h
  · next hcovers => simpa [and_comm] using hcovers

/-- What is read as IPv6 is of that family and long enough. -/
theorem eq_family_of_v6? {a : V6} (h : s.v6? = some a) :
    s.family = familyV6 ∧ V6.rawSize ≤ s.length := by
  unfold v6? at h
  split at h
  · cases h
  · next hcovers => simpa [and_comm] using hcovers

/-- An area names an IPv4 address just if it is read as one. -/
theorem address?_eq_v4_iff {a : V4} : s.address? = some (.v4 a) ↔ s.v4? = some a := by
  constructor
  · intro h
    unfold address? at h
    split at h
    · simpa using h
    · split at h <;> simp at h
  · intro h
    rw [address?, if_pos (eq_family_of_v4? h).1, h]
    rfl

/-- So with an IPv6 address. -/
theorem address?_eq_v6_iff {a : V6} : s.address? = some (.v6 a) ↔ s.v6? = some a := by
  constructor
  · intro h
    unfold address? at h
    split at h
    · simp at h
    · split at h <;> simp at h
      exact h
  · intro h
    have hfamily := (eq_family_of_v6? h).1
    have hother : s.family ≠ familyV4 := by
      rw [hfamily]
      decide
    rw [address?, if_neg hother, if_pos hfamily, h]
    rfl

/-- **What is read from an area, the area holds.** -/
theorem holds_of_address? {a : Address} (harea : s.area.length = capacity)
    (h : s.address? = some a) : s.Holds (some a) := by
  cases a with
  | v4 a =>
      obtain ⟨hfamily, hlength⟩ := eq_family_of_v4? (address?_eq_v4_iff.mp h)
      obtain ⟨b, hb⟩ := exists_holds_v4 harea hfamily hlength
      rw [address?_of_holds hb] at h
      exact Option.some.inj h ▸ hb
  | v6 a =>
      obtain ⟨hfamily, hlength⟩ := eq_family_of_v6? (address?_eq_v6_iff.mp h)
      obtain ⟨b, hb⟩ := exists_holds_v6 harea hfamily hlength
      rw [address?_of_holds hb] at h
      exact Option.some.inj h ▸ hb

/-- **An area has an address exactly if** it names a family and its length covers it. -/
theorem isSome_address?_iff (harea : s.area.length = capacity) :
    s.address?.isSome = true ↔
      (s.family = familyV4 ∧ V4.rawSize ≤ s.length) ∨
        (s.family = familyV6 ∧ V6.rawSize ≤ s.length) := by
  constructor
  · intro h
    obtain ⟨a, ha⟩ := Option.isSome_iff_exists.mp h
    cases a with
    | v4 a => exact Or.inl (eq_family_of_v4? (address?_eq_v4_iff.mp ha))
    | v6 a => exact Or.inr (eq_family_of_v6? (address?_eq_v6_iff.mp ha))
  · rintro (⟨hfamily, hlength⟩ | ⟨hfamily, hlength⟩)
    · obtain ⟨a, ha⟩ := exists_holds_v4 harea hfamily hlength
      rw [address?_of_holds ha, Option.isSome_some]
    · obtain ⟨a, ha⟩ := exists_holds_v6 harea hfamily hlength
      rw [address?_of_holds ha, Option.isSome_some]

/-- What is read from an area, and how that is laid out again. -/
structure ReadsBack (s : StoredAddress) : Prop where
  isSome_iff : s.address?.isSome = true ↔
    (s.family = familyV4 ∧ V4.rawSize ≤ s.length) ∨ (s.family = familyV6 ∧ V6.rawSize ≤ s.length)
  /-- The first 16 bytes come back, but for the eight of the padding. -/
  v4_raw : ∀ a : V4, s.address? = some (.v4 a) → a.toRaw = s.area.take 8 ++ Bytes.zeros 8
  /-- The first 28 bytes come back, but for the four of the flow information. -/
  v6_raw : ∀ a : V6, s.address? = some (.v6 a) →
    a.toRaw = s.area.take 4 ++ Bytes.zeros 4 ++ (s.area.drop 8).take 20
  /-- Each family reads its own areas **only**. -/
  v4_iff : ∀ a, s.v4? = some a ↔ s.address? = some (.v4 a)
  v6_iff : ∀ a, s.v6? = some a ↔ s.address? = some (.v6 a)
  v4_other : s.family ≠ familyV4 → s.v4? = none
  v6_other : s.family ≠ familyV6 → s.v6? = none

/-- **Addresses and their layout determine each other.**  Every address reads back from its
layout, and what is read from any area is laid out as it stood there. -/
theorem raw_round_trip (a : Address) (s : StoredAddress) (harea : s.area.length = capacity) :
    (ofBytes a.toRaw a.toRaw.length).address? = some a ∧ s.ReadsBack where
  left := address?_of_holds (holds_ofBytes a)
  right :=
    { isSome_iff := isSome_address?_iff harea
      v4_raw := fun _ h => toRaw_of_holds_v4 (holds_of_address? harea h)
      v6_raw := fun _ h => toRaw_of_holds_v6 (holds_of_address? harea h)
      v4_iff := fun _ => address?_eq_v4_iff.symm
      v6_iff := fun _ => address?_eq_v6_iff.symm
      v4_other := fun hfamily => if_pos (Or.inr hfamily)
      v6_other := fun hfamily => if_pos (Or.inr hfamily) }

/-- An area with a link-local address, flow information in front of it and remains behind. -/
def scopedArea : StoredAddress :=
  ofBytes
    ([10, 0, 8, 104, 1, 2, 3, 4, 0xfe, 0x80] ++ Bytes.zeros 13 ++ [2, 3, 0, 0, 0, 0xaa, 0xbb]) 28

/-- The address is read with its scope, and laid out **without the flow information**. -/
theorem raw_round_trip_scoped :
    scopedArea.area.length = capacity ∧ scopedArea.ReadsBack ∧
      scopedArea.address?.map Address.toRaw =
        some ([10, 0, 8, 104, 0, 0, 0, 0, 0xfe, 0x80] ++ Bytes.zeros 13 ++ [2, 3, 0, 0, 0]) := by
  have harea : scopedArea.area.length = capacity := Bytes.length_padTo capacity _
  exact ⟨harea, (raw_round_trip (.v4 ⟨#v[127, 0, 0, 1], 8080⟩) scopedArea harea).2, by decide⟩

end StoredAddress

end ReceiveReactor
