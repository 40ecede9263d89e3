import ReceiveReactor.Address.Basic

/-!
# Addresses as the kernel lays them out

An IPv4 address takes 16 bytes: the family, the port highest byte first, the
octets and eight bytes of padding.  An IPv6 address takes 28 bytes: the family,
the port highest byte first, the flow information, the octets and the scope.
Family and scope stand lowest byte first.  The kernel stores an address into an
area of 128 bytes and reports a length beside it.

* `Address.toRaw` — the bytes handed to the kernel;
* `StoredAddress.address?` — the address that the kernel left in the area.
-/

namespace ReceiveReactor

namespace Address

/-- The bytes of an IPv4 address. -/
def V4.rawSize : Nat := 16

/-- The bytes of an IPv6 address. -/
def V6.rawSize : Nat := 28

/-- An IPv4 address as handed to the kernel. -/
def V4.toRaw (a : V4) : Bytes :=
  Bytes.ofNatLE 2 familyV4 ++ Bytes.ofNatBE 2 a.port.toNat ++ a.octets.toList ++ Bytes.zeros 8

/-- An IPv6 address as handed to the kernel. -/
def V6.toRaw (a : V6) : Bytes :=
  Bytes.ofNatLE 2 familyV6 ++ Bytes.ofNatBE 2 a.port.toNat ++ Bytes.zeros 4 ++ a.octets.toList
    ++ Bytes.ofNatLE 4 a.scope.toNat

/-- An address as handed to the kernel. -/
def toRaw : Address → Bytes
  | v4 a => a.toRaw
  | v6 a => a.toRaw

end Address

/-- The area into which the kernel stores an address, with the length that it
reports. -/
structure StoredAddress where
  area : Bytes
  length : Nat
deriving DecidableEq, Repr

namespace StoredAddress

open Address

/-- The size of the area. -/
def capacity : Nat := 128

/-- The untouched area: zeros, with its whole size as the length. -/
def untouched : StoredAddress := ⟨Bytes.zeros capacity, capacity⟩

/-- Some bytes stored at the beginning of the area. -/
def ofBytes (stored : Bytes) (length : Nat) : StoredAddress :=
  ⟨Bytes.padTo capacity stored, length⟩

/-- The family that the area names. -/
def family (s : StoredAddress) : Nat :=
  Bytes.fieldLE s.area 0 2

/-- The port in the area. -/
def port (s : StoredAddress) : UInt16 :=
  UInt16.ofNat (Bytes.toNatBE ((s.area.drop 2).take 2))

/-- The IPv4 address in the area: there is one when the length covers it and
the family is right. -/
def v4? (s : StoredAddress) : Option V4 :=
  if s.length < V4.rawSize ∨ s.family ≠ familyV4 then none
  else (octets4? ((s.area.drop 4).take 4)).map fun octets => { octets, port := s.port }

/-- The IPv6 address in the area: there is one when the length covers it and
the family is right. -/
def v6? (s : StoredAddress) : Option V6 :=
  if s.length < V6.rawSize ∨ s.family ≠ familyV6 then none
  else (octets16? ((s.area.drop 8).take 16)).map fun octets =>
    { octets, port := s.port, scope := UInt32.ofNat (Bytes.fieldLE s.area 24 4) }

/-- The address in the area, of whichever family it names. -/
def address? (s : StoredAddress) : Option Address :=
  if s.family = familyV4 then s.v4?.map .v4
  else if s.family = familyV6 then s.v6?.map .v6
  else none

end StoredAddress

end ReceiveReactor
