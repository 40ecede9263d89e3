import Mathlib.Algebra.Group.Nat.Defs
import ReceiveReactor.Bytes

/-!
# Numbers read back from bytes

* `toNatLE_ofNatLE` — the bytes of a number read back as that number modulo
  the width;
* `ofNatLE_toNatLE` — the number read from some bytes writes those bytes;
* `toNatLE_lt` — and fits into their width;
* `toNatBE_ofNatBE`, `ofNatBE_toNatBE`, `toNatBE_lt` — the same for the other byte order;
* `field_append`, `fieldLE_append` — a field among other bytes;
* `fieldLE_congr` — a field within a prefix depends on that prefix only;
* `ofNatLE_fieldLE` — the number of a field writes the bytes of that field.
-/

namespace ReceiveReactor

namespace Bytes

/-- **Writing then reading.**  The bytes of a number read back as the number
modulo what `width` bytes can hold. -/
theorem toNatLE_ofNatLE (width n : Nat) : toNatLE (ofNatLE width n) = n % 256 ^ width := by
  induction width generalizing n with
  | zero => simp [ofNatLE, toNatLE, Nat.mod_one]
  | succ width ih =>
    simp only [ofNatLE, toNatLE, ih, UInt8.toNat_ofNat', Nat.reducePow]
    rw [Nat.pow_succ', Nat.mod_mul]

/-- **Reading then writing.**  The number that some bytes hold writes the same
bytes. -/
theorem ofNatLE_toNatLE (bs : Bytes) : ofNatLE bs.length (toNatLE bs) = bs := by
  induction bs with
  | nil => rfl
  | cons b bs ih =>
    have hlow : (b.toNat + 256 * toNatLE bs) / 256 = toNatLE bs := by
      have := b.toNat_lt
      omega
    have hhead : UInt8.ofNat (b.toNat + 256 * toNatLE bs) = b := by
      apply UInt8.toNat_inj.mp
      have := b.toNat_lt
      simp only [UInt8.toNat_ofNat']
      omega
    simp [ofNatLE, toNatLE, hlow, hhead, ih]

/-- A number read from bytes fits into their width. -/
theorem toNatLE_lt (bs : Bytes) : toNatLE bs < 256 ^ bs.length := by
  induction bs with
  | nil => simp [toNatLE]
  | cons b bs ih =>
    have := b.toNat_lt
    simp only [toNatLE, List.length_cons, Nat.pow_succ]
    omega

/-- A number written highest byte first reads back. -/
theorem toNatBE_ofNatBE (width n : Nat) : toNatBE (ofNatBE width n) = n % 256 ^ width := by
  rw [toNatBE, ofNatBE, List.reverse_reverse, toNatLE_ofNatLE]

/-- A number read highest byte first writes the bytes that it was read from. -/
theorem ofNatBE_toNatBE {width : Nat} {bs : Bytes} (h : bs.length = width) :
    ofNatBE width (toNatBE bs) = bs := by
  have hwritten := ofNatLE_toNatLE bs.reverse
  rw [List.length_reverse, h] at hwritten
  rw [ofNatBE, toNatBE, hwritten, List.reverse_reverse]

/-- A number of so many bytes is less than as many powers of 256. -/
theorem toNatBE_lt (bs : Bytes) : toNatBE bs < 256 ^ bs.length := by
  have hlt := toNatLE_lt bs.reverse
  rwa [List.length_reverse] at hlt

/-! ## Fields -/

/-- A field between what stands before it and what stands behind it. -/
theorem field_append {front field rest : Bytes} {offset width : Nat}
    (hfront : front.length = offset) (hfield : field.length = width) :
    ((front ++ (field ++ rest)).drop offset).take width = field := by
  subst hfront hfield
  rw [List.drop_left, List.take_left]

/-- A number written between other bytes reads back. -/
theorem fieldLE_append {front rest : Bytes} {offset : Nat} (hfront : front.length = offset)
    (width n : Nat) :
    fieldLE (front ++ (ofNatLE width n ++ rest)) offset width = n % 256 ^ width := by
  rw [fieldLE, field_append hfront (length_ofNatLE width n), toNatLE_ofNatLE]

/-- What stands behind an offset is a field and what stands behind the field. -/
theorem drop_eq_append (bs : Bytes) (offset width : Nat) :
    bs.drop offset = (bs.drop offset).take width ++ bs.drop (offset + width) := by
  rw [← List.drop_drop, List.take_append_drop]

/-- A field within a prefix is the same in all bytes with that prefix. -/
theorem fieldLE_congr {bs bs' : Bytes} {n offset width : Nat} (h : bs'.take n = bs.take n)
    (hwithin : offset + width ≤ n) : fieldLE bs' offset width = fieldLE bs offset width := by
  have hcut : ∀ cs : Bytes, (cs.drop offset).take width = ((cs.take n).drop offset).take width := by
    intro cs
    rw [List.drop_take, List.take_take, Nat.min_eq_left (by omega)]
  rw [fieldLE, fieldLE, hcut bs', hcut bs, h]

/-- A field of so many bytes is less than as many powers of 256. -/
theorem fieldLE_lt (bs : Bytes) (offset width : Nat) : fieldLE bs offset width < 256 ^ width :=
  Nat.lt_of_lt_of_le (toNatLE_lt _)
    (Nat.pow_le_pow_right (by decide) (List.length_take_le _ _))

/-- The bytes of a field are those that its number writes. -/
theorem ofNatLE_fieldLE {bs : Bytes} {offset width : Nat} (h : offset + width ≤ bs.length) :
    ofNatLE width (fieldLE bs offset width) = (bs.drop offset).take width := by
  have hlength : ((bs.drop offset).take width).length = width := by
    rw [List.length_take, List.length_drop]
    omega
  have hwritten := ofNatLE_toNatLE ((bs.drop offset).take width)
  rwa [hlength] at hwritten

/-- Writing back a field of eight bytes gives these bytes. -/
theorem ofNatLE_word64 {bs : Bytes} {offset : Nat} (h : offset + 8 ≤ bs.length) :
    ofNatLE 8 (UInt64.ofNat (fieldLE bs offset 8)).toNat = (bs.drop offset).take 8 := by
  have hlt : fieldLE bs offset 8 < 2 ^ 64 := fieldLE_lt bs offset 8
  rw [UInt64.toNat_ofNat', Nat.mod_eq_of_lt hlt, ofNatLE_fieldLE h]

/-- So it does with four. -/
theorem ofNatLE_word32 {bs : Bytes} {offset : Nat} (h : offset + 4 ≤ bs.length) :
    ofNatLE 4 (UInt32.ofNat (fieldLE bs offset 4)).toNat = (bs.drop offset).take 4 := by
  have hlt : fieldLE bs offset 4 < 2 ^ 32 := fieldLE_lt bs offset 4
  rw [UInt32.toNat_ofNat', Nat.mod_eq_of_lt hlt, ofNatLE_fieldLE h]

/-- So it does with two. -/
theorem ofNatLE_word16 {bs : Bytes} {offset : Nat} (h : offset + 2 ≤ bs.length) :
    ofNatLE 2 (UInt16.ofNat (fieldLE bs offset 2)).toNat = (bs.drop offset).take 2 := by
  have hlt : fieldLE bs offset 2 < 2 ^ 16 := fieldLE_lt bs offset 2
  rw [UInt16.toNat_ofNat', Nat.mod_eq_of_lt hlt, ofNatLE_fieldLE h]

end Bytes

end ReceiveReactor
