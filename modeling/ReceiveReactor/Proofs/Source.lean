import ReceiveReactor.Address.Raw
import ReceiveReactor.Proofs.Bytes

/-!
# The source of a datagram

The kernel stores the address of a sender into an area, laid out field by field,
with whatever it likes behind the fields.

* `StoredAddress.Holds` — an area that holds a given address, or none of the two
  families;
* `StoredAddress.address?_of_holds` — the library **reads that address back**;
* `StoredAddress.holds_ofBytes` — every address is held by some area.
-/

namespace ReceiveReactor

namespace Address

/-- Four octets are read as those four. -/
theorem octets4?_toList (octets : Vector UInt8 4) : octets4? octets.toList = some octets := by
  have hlength : octets.toList.length = 4 := by simp
  rw [octets4?, dif_pos hlength]
  simp [Vector.toList]

/-- So are sixteen. -/
theorem octets16?_toList (octets : Vector UInt8 16) : octets16? octets.toList = some octets := by
  have hlength : octets.toList.length = 16 := by simp
  rw [octets16?, dif_pos hlength]
  simp [Vector.toList]

end Address

namespace StoredAddress

open Address

/-- The area holds the address, and its length covers it; without an address, the
area names neither of the two families. -/
def Holds (s : StoredAddress) : Option Address → Prop
  | some (.v4 a) => V4.rawSize ≤ s.length ∧ ∃ rest : Bytes,
    s.area = Bytes.ofNatLE 2 familyV4 ++ (Bytes.ofNatBE 2 a.port.toNat ++ (a.octets.toList ++ rest))
  | some (.v6 a) => V6.rawSize ≤ s.length ∧ ∃ flow rest : Bytes, flow.length = 4 ∧
    s.area = Bytes.ofNatLE 2 familyV6 ++ (Bytes.ofNatBE 2 a.port.toNat ++ (flow ++
      (a.octets.toList ++ (Bytes.ofNatLE 4 a.scope.toNat ++ rest))))
  | none => s.family ≠ familyV4 ∧ s.family ≠ familyV6

/-- Every area starts with its family and its port. -/
private theorem family_port {s : StoredAddress} {family : Nat} {port : UInt16} {rest : Bytes}
    (hfamily : family < 256 ^ 2)
    (harea : s.area = Bytes.ofNatLE 2 family ++ (Bytes.ofNatBE 2 port.toNat ++ rest)) :
    s.family = family ∧ s.port = port := by
  constructor
  · have hfield : Bytes.fieldLE s.area 0 2 = family % 256 ^ 2 := by
      rw [harea]
      exact Bytes.fieldLE_append List.length_nil 2 family
    rw [StoredAddress.family, hfield, Nat.mod_eq_of_lt hfamily]
  · have hfield : (s.area.drop 2).take 2 = Bytes.ofNatBE 2 port.toNat := by
      rw [harea]
      exact Bytes.field_append (Bytes.length_ofNatLE 2 family) (Bytes.length_ofNatBE 2 _)
    rw [StoredAddress.port, hfield, Bytes.toNatBE_ofNatBE]
    exact UInt16.toNat_inj.mp (by simp)

/-- An area of the IPv4 layout is read as its address. -/
private theorem v4?_of_area {s : StoredAddress} {a : V4} {rest : Bytes}
    (hlength : V4.rawSize ≤ s.length)
    (harea : s.area =
      Bytes.ofNatLE 2 familyV4 ++ (Bytes.ofNatBE 2 a.port.toNat ++ (a.octets.toList ++ rest))) :
    s.v4? = some a := by
  obtain ⟨hfamily, hport⟩ := family_port (by decide) harea
  have hoctets : (s.area.drop 4).take 4 = a.octets.toList := by
    rw [harea, ← List.append_assoc]
    exact Bytes.field_append (by simp) (by simp)
  have hcovers : ¬ (s.length < V4.rawSize ∨ s.family ≠ familyV4) := by
    rw [hfamily]
    simpa using hlength
  rw [v4?, if_neg hcovers, hoctets, octets4?_toList, hport]
  rfl

/-- So is one of the IPv6 layout, whatever its flow information. -/
private theorem v6?_of_area {s : StoredAddress} {a : V6} {flow rest : Bytes}
    (hlength : V6.rawSize ≤ s.length) (hflow : flow.length = 4)
    (harea : s.area = Bytes.ofNatLE 2 familyV6 ++ (Bytes.ofNatBE 2 a.port.toNat ++ (flow ++
      (a.octets.toList ++ (Bytes.ofNatLE 4 a.scope.toNat ++ rest))))) :
    s.v6? = some a := by
  obtain ⟨hfamily, hport⟩ := family_port (by decide) harea
  have hoctets : (s.area.drop 8).take 16 = a.octets.toList := by
    rw [harea, ← List.append_assoc, ← List.append_assoc]
    exact Bytes.field_append (by simp [hflow]) (by simp)
  have hscope : Bytes.fieldLE s.area 24 4 = a.scope.toNat := by
    rw [harea, ← List.append_assoc, ← List.append_assoc, ← List.append_assoc,
      Bytes.fieldLE_append (by simp [hflow])]
    exact Nat.mod_eq_of_lt a.scope.toNat_lt
  have hcovers : ¬ (s.length < V6.rawSize ∨ s.family ≠ familyV6) := by
    rw [hfamily]
    simpa using hlength
  rw [v6?, if_neg hcovers, hoctets, octets16?_toList, hport, hscope, UInt32.ofNat_toNat]
  rfl

/-- **The library reads back** the address that the kernel stored. -/
theorem address?_of_holds {s : StoredAddress} {source : Option Address} (h : s.Holds source) :
    s.address? = source := by
  match source, h with
  | none, ⟨hv4, hv6⟩ => rw [address?, if_neg hv4, if_neg hv6]
  | some (.v4 a), ⟨hlength, rest, harea⟩ =>
      have hfamily := (family_port (by decide) harea).1
      rw [address?, if_pos hfamily, v4?_of_area hlength harea]
      rfl
  | some (.v6 a), ⟨hlength, flow, rest, hflow, harea⟩ =>
      have hfamily := (family_port (by decide) harea).1
      have hother : s.family ≠ familyV4 := by
        rw [hfamily]
        decide
      rw [address?, if_neg hother, if_pos hfamily, v6?_of_area hlength hflow harea]
      rfl

/-! ## Areas that hold an address -/

/-- An area that the kernel has not touched names nobody. -/
theorem holds_untouched : untouched.Holds none := by
  constructor <;> decide

/-- An address stored as the library lays it out is held. -/
theorem holds_ofBytes (a : Address) : (ofBytes a.toRaw a.toRaw.length).Holds (some a) := by
  have hwhole : a.toRaw.take capacity = a.toRaw := by
    refine List.take_of_length_le ?_
    cases a <;> simp [toRaw, V4.toRaw, V6.toRaw, capacity]
  have harea : (ofBytes a.toRaw a.toRaw.length).area =
      a.toRaw ++ Bytes.zeros (capacity - a.toRaw.length) := by
    rw [ofBytes, Bytes.padTo, hwhole]
  generalize Bytes.zeros (capacity - a.toRaw.length) = rest at harea
  cases a with
  | v4 a =>
      refine ⟨?_, Bytes.zeros 8 ++ rest, ?_⟩
      · simp [ofBytes, toRaw, V4.toRaw, V4.rawSize]
      · rw [harea]
        simp only [toRaw, V4.toRaw, List.append_assoc]
  | v6 a =>
      refine ⟨?_, Bytes.zeros 4, rest, Bytes.length_zeros 4, ?_⟩
      · simp [ofBytes, toRaw, V6.toRaw, V6.rawSize]
      · rw [harea]
        simp only [toRaw, V6.toRaw, List.append_assoc]

end StoredAddress

end ReceiveReactor
