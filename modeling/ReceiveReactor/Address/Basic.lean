import ReceiveReactor.Bytes

/-!
# Socket addresses

An IPv4 address with a port, an IPv6 address with a port and a scope, and
either of the two.  The scope names a network interface for link-local
addresses and is 0 otherwise.

* `pairs_unpairs`, `unpairs_pairs` — sixteen octets and eight groups of sixteen
  bits, each highest byte first, are two spellings of the same address.
-/

namespace ReceiveReactor

namespace Address

/-- An IPv4 address with a port. -/
structure V4 where
  octets : Vector UInt8 4
  port : UInt16
deriving DecidableEq, Repr

/-- An IPv6 address with a port and a scope. -/
structure V6 where
  octets : Vector UInt8 16
  port : UInt16
  scope : UInt32 := 0
deriving DecidableEq, Repr

/-- The numbers of a run of byte pairs, each highest byte first. -/
def pairs : Bytes → List UInt16
  | hi :: lo :: rest => UInt16.ofNat (256 * hi.toNat + lo.toNat) :: pairs rest
  | _ => []

/-- The bytes of a run of numbers, each highest byte first. -/
def unpairs : List UInt16 → Bytes
  | [] => []
  | g :: gs => UInt8.ofNat (g.toNat / 256) :: UInt8.ofNat g.toNat :: unpairs gs

/-- Grouping the bytes of some numbers gives the numbers. -/
theorem pairs_unpairs (gs : List UInt16) : pairs (unpairs gs) = gs := by
  induction gs with
  | nil => rfl
  | cons g gs ih =>
    have hg : UInt16.ofNat (256 * (g.toNat / 256 % 256) + g.toNat % 256) = g := by
      apply UInt16.toNat_inj.mp
      have := g.toNat_lt
      simp only [UInt16.toNat_ofNat']
      omega
    simp [unpairs, pairs, ih, hg]

/-- Splitting the groups of an even number of bytes gives the bytes. -/
theorem unpairs_pairs (bs : Bytes) (h : bs.length % 2 = 0) : unpairs (pairs bs) = bs := by
  induction bs using pairs.induct with
  | case1 hi lo rest ih =>
    have hrest : rest.length % 2 = 0 := by
      simp only [List.length_cons] at h
      omega
    have hhi : UInt8.ofNat ((256 * hi.toNat + lo.toNat) % 65536 / 256) = hi := by
      apply UInt8.toNat_inj.mp
      have := hi.toNat_lt
      have := lo.toNat_lt
      simp only [UInt8.toNat_ofNat']
      omega
    have hlo : UInt8.ofNat ((256 * hi.toNat + lo.toNat) % 65536) = lo := by
      apply UInt8.toNat_inj.mp
      have := hi.toNat_lt
      have := lo.toNat_lt
      simp only [UInt8.toNat_ofNat']
      omega
    simp only [pairs, unpairs, ih hrest, UInt16.toNat_ofNat', Nat.reducePow, hhi, hlo]
  | case2 bs hne =>
    match bs with
    | [] => rfl
    | [b] => simp at h
    | hi :: lo :: rest => exact absurd rfl (hne hi lo rest)

@[simp] theorem length_unpairs (gs : List UInt16) : (unpairs gs).length = 2 * gs.length := by
  induction gs with
  | nil => rfl
  | cons g gs ih =>
    simp only [unpairs, List.length_cons, ih]
    omega

/-- Four octets, from a list of that length. -/
def octets4? (bs : Bytes) : Option (Vector UInt8 4) :=
  if h : bs.length = 4 then some ⟨bs.toArray, by simpa using h⟩ else none

/-- Sixteen octets, from a list of that length. -/
def octets16? (bs : Bytes) : Option (Vector UInt8 16) :=
  if h : bs.length = 16 then some ⟨bs.toArray, by simpa using h⟩ else none

/-- The eight groups of an IPv6 address. -/
def V6.groups (a : V6) : List UInt16 :=
  pairs a.octets.toList

end Address

/-- An IPv4 or an IPv6 socket address. -/
inductive Address where
  | v4 (a : Address.V4)
  | v6 (a : Address.V6)
deriving DecidableEq, Repr

namespace Address

/-- The port of an address. -/
def port : Address → UInt16
  | v4 a => a.port
  | v6 a => a.port

/-- The scope of an address; an IPv4 address has none. -/
def scope : Address → UInt32
  | v4 _ => 0
  | v6 a => a.scope

/-- The octets of an address, in network order. -/
def octets : Address → Bytes
  | v4 a => a.octets.toList
  | v6 a => a.octets.toList

/-- The kernel's number for IPv4. -/
def familyV4 : Nat := 2

/-- The kernel's number for IPv6. -/
def familyV6 : Nat := 10

/-- The kernel's number for the family of an address. -/
def family : Address → Nat
  | v4 _ => familyV4
  | v6 _ => familyV6

end Address

end ReceiveReactor
