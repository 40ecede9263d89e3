/-!
# Bytes of fixed-width words

Every structure that crosses the boundary to the kernel is a list of bytes.
This file holds the two byte orders, the reading of a field at an offset and
the storing of received data over the beginning of a buffer.

* `ofNatLE`, `ofNatBE` and `toNatLE`, `toNatBE` — the two byte orders;
* `length_overlay` — storing data over a buffer keeps the buffer's size.
-/

namespace ReceiveReactor

/-- A run of bytes, first byte first. -/
abbrev Bytes := List UInt8

namespace Bytes

/-- The `width` low bytes of `n`, **lowest first**. -/
def ofNatLE : (width : Nat) → (n : Nat) → Bytes
  | 0, _ => []
  | width + 1, n => UInt8.ofNat n :: ofNatLE width (n / 256)

/-- The number whose bytes, lowest first, are given. -/
def toNatLE : Bytes → Nat
  | [] => 0
  | b :: bs => b.toNat + 256 * toNatLE bs

/-- The `width` low bytes of `n`, **highest first**. -/
def ofNatBE (width n : Nat) : Bytes :=
  (ofNatLE width n).reverse

/-- The number whose bytes, highest first, are given. -/
def toNatBE (bs : Bytes) : Nat :=
  toNatLE bs.reverse

/-- The number that `width` bytes at `offset` hold, lowest byte first; bytes
beyond the end count as absent. -/
def fieldLE (bs : Bytes) (offset width : Nat) : Nat :=
  toNatLE ((bs.drop offset).take width)

/-- `n` zero bytes. -/
def zeros (n : Nat) : Bytes :=
  List.replicate n 0

/-- The first `n` bytes, filled up with zeros where there are fewer. -/
def padTo (n : Nat) (bs : Bytes) : Bytes :=
  bs.take n ++ zeros (n - bs.length)

/-- `data` stored over the beginning of `storage`, cut off at its end. -/
def overlay (data storage : Bytes) : Bytes :=
  data.take storage.length ++ storage.drop data.length

@[simp] theorem length_ofNatLE (width n : Nat) : (ofNatLE width n).length = width := by
  induction width generalizing n with
  | zero => rfl
  | succ width ih => simp [ofNatLE, ih]

@[simp] theorem length_ofNatBE (width n : Nat) : (ofNatBE width n).length = width := by
  simp [ofNatBE]

@[simp] theorem length_zeros (n : Nat) : (zeros n).length = n := by
  simp [zeros]

@[simp] theorem length_padTo (n : Nat) (bs : Bytes) : (padTo n bs).length = n := by
  simp [padTo]
  omega

/-- Storing data keeps the size of the buffer. -/
@[simp] theorem length_overlay (data storage : Bytes) :
    (overlay data storage).length = storage.length := by
  simp [overlay]
  omega

end Bytes

end ReceiveReactor
