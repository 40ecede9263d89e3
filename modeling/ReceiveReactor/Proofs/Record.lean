import ReceiveReactor.Control.Record
import ReceiveReactor.Proofs.Bytes

/-!
# Records in a stream of bytes

A record reads back as itself, and so does a run of records that were written
one behind the other.

* `decode_encode` — **one record**;
* `ofStream_flatMap_encode` — a whole run of them;
* `ofStream_encode_append` — a record in front of any bytes comes first;
* `exists_tail_of_flatMap_encode` — whole records **come apart** as records.
-/

namespace ReceiveReactor

namespace ControlRecord

/-- The registration that a record belongs to, as its descriptor. -/
def fd? : ControlRecord → Option Fd
  | exit => none
  | register fd _ | deregister fd _ => some fd

/-- The generation of the registration that a record belongs to. -/
def generation? : ControlRecord → Option UInt64
  | exit => none
  | register _ generation | deregister _ generation => some generation

/-- The records in the first `n` blocks of some bytes; a block that holds none
is left out. -/
def readBlocks : (n : Nat) → Bytes → List ControlRecord
  | 0, _ => []
  | n + 1, bs =>
    match decode (bs.take size) with
    | .ok r => r :: readBlocks n (bs.drop size)
    | .error _ => readBlocks n (bs.drop size)

/-- The records in a stream of bytes, block by block. -/
def ofStream (bs : Bytes) : List ControlRecord := readBlocks (bs.length / size) bs

/-- The three fields of a layout read back. -/
theorem fieldLE_layout (tag : Nat) (fd : Fd) (generation : UInt64) :
    Bytes.fieldLE (layout tag fd generation) 0 4 = tag % 256 ^ 4 ∧
      Bytes.fieldLE (layout tag fd generation) 4 4 = fd.toUInt32.toNat % 256 ^ 4 ∧
      Bytes.fieldLE (layout tag fd generation) 8 8 = generation.toNat % 256 ^ 8 := by
  refine ⟨?_, ?_, ?_⟩
  · rw [layout, List.append_assoc]
    exact Bytes.fieldLE_append List.length_nil 4 tag
  · rw [layout, List.append_assoc]
    exact Bytes.fieldLE_append (Bytes.length_ofNatLE 4 tag) 4 fd.toUInt32.toNat
  · rw [layout, ← List.append_nil (Bytes.ofNatLE 8 _)]
    exact Bytes.fieldLE_append (by simp) 8 generation.toNat

theorem fdField_layout (tag : Nat) (fd : Fd) (generation : UInt64) :
    fdField (layout tag fd generation) = fd := by
  have hlt : fd.toUInt32.toNat % 256 ^ 4 = fd.toUInt32.toNat :=
    Nat.mod_eq_of_lt (by simpa using fd.toUInt32.toNat_lt)
  rw [fdField, (fieldLE_layout tag fd generation).2.1, hlt, UInt32.ofNat_toNat,
    Int32.toInt32_toUInt32]

theorem generationField_layout (tag : Nat) (fd : Fd) (generation : UInt64) :
    generationField (layout tag fd generation) = generation := by
  have hlt : generation.toNat % 256 ^ 8 = generation.toNat :=
    Nat.mod_eq_of_lt (by simpa using generation.toNat_lt)
  rw [generationField, (fieldLE_layout tag fd generation).2.2, hlt, UInt64.ofNat_toNat]

/-- **A record reads back as itself.** -/
theorem decode_encode (r : ControlRecord) : decode r.encode = .ok r := by
  cases r with
  | exit =>
      simp only [decode, encode, (fieldLE_layout _ _ _).1]
      rfl
  | register fd generation =>
      simp only [decode, encode, (fieldLE_layout _ _ _).1, fdField_layout,
        generationField_layout]
      rfl
  | deregister fd generation =>
      simp only [decode, encode, (fieldLE_layout _ _ _).1, fdField_layout,
        generationField_layout]
      rfl

/-- The first of some records comes off in front. -/
theorem cut_flatMap_encode (r : ControlRecord) (rest : List ControlRecord) :
    ((r :: rest).flatMap encode).take size = r.encode ∧
      ((r :: rest).flatMap encode).drop size = rest.flatMap encode := by
  rw [List.flatMap_cons, ← length_encode r]
  exact ⟨List.take_left, List.drop_left⟩

/-- A record in front of any bytes comes first. -/
@[simp] theorem ofStream_encode_append (r : ControlRecord) (bs : Bytes) :
    ofStream (r.encode ++ bs) = r :: ofStream bs := by
  have hblocks : (r.encode ++ bs).length / size = bs.length / size + 1 := by
    simp only [List.length_append, length_encode, size]
    omega
  have htake : (r.encode ++ bs).take size = r.encode := by
    rw [← length_encode r, List.take_left]
  have hdrop : (r.encode ++ bs).drop size = bs := by
    rw [← length_encode r, List.drop_left]
  simp only [ofStream, hblocks, readBlocks, htake, hdrop, decode_encode]

/-- **Records written one behind the other** read back in order. -/
@[simp] theorem ofStream_flatMap_encode (rs : List ControlRecord) :
    ofStream (rs.flatMap encode) = rs := by
  induction rs with
  | nil => rfl
  | cons r rs ih => rw [List.flatMap_cons, ofStream_encode_append, ih]

/-- **Whole records come apart as records.**  What is left of them behind some of
the first ones is whole records again. -/
theorem exists_tail_of_flatMap_encode {rs front : List ControlRecord} {rest : Bytes}
    (h : rs.flatMap encode = front.flatMap encode ++ rest) :
    ∃ tail, rs = front ++ tail ∧ rest = tail.flatMap encode := by
  induction front generalizing rs with
  | nil => exact ⟨rs, rfl, h.symm⟩
  | cons r front ih =>
      have hread := congrArg ofStream h
      rw [ofStream_flatMap_encode, List.flatMap_cons, List.append_assoc,
        ofStream_encode_append] at hread
      obtain ⟨tail, rfl⟩ : ∃ tail, rs = r :: tail := ⟨_, hread⟩
      rw [List.flatMap_cons, List.flatMap_cons, List.append_assoc] at h
      obtain ⟨rest', rfl, hrest⟩ := ih (List.append_cancel_left h)
      exact ⟨rest', rfl, hrest⟩

end ControlRecord

end ReceiveReactor
