import ReceiveReactor.Address.Text

/-!
# Bytes as text

Hexadecimal text of a run of bytes, two lower-case digits each, and a short
digest for long runs.

* `Bytes.hex`, `Bytes.ofHex` — there and back;
* `Bytes.digest` — the 64-bit FNV-1a hash.
-/

namespace ReceiveReactor

namespace Bytes

/-- The digits of some bytes. -/
def hex (bs : Bytes) : String :=
  String.ofList (bs.flatMap fun b => [(b.toNat / 16).digitChar, (b.toNat % 16).digitChar])

/-- The bytes that pairs of digits of either case stand for. -/
def ofDigits : List Char → Bytes
  | a :: b :: rest =>
    UInt8.ofNat (16 * (Address.digitValue? a).getD 0 + (Address.digitValue? b).getD 0)
      :: ofDigits rest
  | _ => []

/-- The bytes that a hexadecimal text stands for. -/
def ofHex (s : String) : Bytes := ofDigits s.toList

/-- The hash of some bytes: each is mixed in before a multiplication. -/
def digest (bs : Bytes) : UInt64 :=
  bs.foldl (fun h b => (h ^^^ b.toUInt64) * 0x100000001b3) 0xcbf29ce484222325

end Bytes

end ReceiveReactor
