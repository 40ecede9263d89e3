import ReceiveReactor.Error
import ReceiveReactor.Kernel.Call

/-!
# Control records

The commands that registering threads send to the reactor, and their layout:
sixteen bytes, a tag of four bytes, the descriptor in four and the generation
in eight, each lowest byte first.

* `ControlRecord.encode`, `ControlRecord.decode` — the layout;
* `length_encode` — every record takes `size` bytes.
-/

namespace ReceiveReactor

/-- One command for the reactor thread.  The generation names the registration
that the command belongs to. -/
inductive ControlRecord where
  | exit
  | register (fd : Fd) (generation : UInt64)
  | deregister (fd : Fd) (generation : UInt64)
deriving DecidableEq, Repr

namespace ControlRecord

/-- Bytes of a record. -/
def size : Nat := 16

def exitTag : Nat := 0
def registerTag : Nat := 1
def deregisterTag : Nat := 2

/-- The bytes of a tag, a descriptor and a generation. -/
def layout (tag : Nat) (fd : Fd) (generation : UInt64) : Bytes :=
  Bytes.ofNatLE 4 tag ++ Bytes.ofNatLE 4 fd.toUInt32.toNat ++ Bytes.ofNatLE 8 generation.toNat

/-- A record as bytes.  Exit carries the descriptor -1 and the generation 0. -/
def encode : ControlRecord → Bytes
  | exit => layout exitTag (-1) 0
  | register fd generation => layout registerTag fd generation
  | deregister fd generation => layout deregisterTag fd generation

/-- The descriptor in the bytes of a record. -/
def fdField (bs : Bytes) : Fd := (UInt32.ofNat (Bytes.fieldLE bs 4 4)).toInt32

/-- The generation in the bytes of a record. -/
def generationField (bs : Bytes) : UInt64 := UInt64.ofNat (Bytes.fieldLE bs 8 8)

/-- The record that sixteen bytes hold.  After the tag of Exit the rest is
**ignored**; a tag above 2 is no command. -/
def decode (bs : Bytes) : Except ReactorError ControlRecord :=
  let tag := Bytes.fieldLE bs 0 4
  if tag = exitTag then .ok exit
  else if tag = registerTag then .ok (register (fdField bs) (generationField bs))
  else if tag = deregisterTag then .ok (deregister (fdField bs) (generationField bs))
  else .error (.unknownCommand (UInt32.ofNat tag))

@[simp] theorem length_layout (tag : Nat) (fd : Fd) (generation : UInt64) :
    (layout tag fd generation).length = size := by
  simp [layout, size]

/-- Every record takes the same sixteen bytes. -/
@[simp] theorem length_encode (r : ControlRecord) : r.encode.length = size := by
  cases r <;> simp [encode]

end ControlRecord

end ReceiveReactor
