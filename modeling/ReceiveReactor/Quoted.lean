/-!
# Quoted text

How a name is shown inside a description: between double quotes, with quotes,
backslashes and everything that would not be seen as itself written as an
escape.

* `quoted` — a text with its quotes.
-/

namespace ReceiveReactor

namespace Quoted

/-- Ranges of characters without a shape of their own: controls, blanks other
than the space, joiners and marks, and codes that no character has. -/
def shapeless : List (Nat × Nat) :=
  [(0x00, 0x1f), (0x7f, 0xa0), (0xad, 0xad), (0x300, 0x36f), (0x600, 0x605), (0x61c, 0x61c),
   (0x1680, 0x1680), (0x180b, 0x180f), (0x2000, 0x200f), (0x2028, 0x202f), (0x205f, 0x206f),
   (0x3000, 0x3000), (0xe000, 0xf8ff), (0xfe00, 0xfe0f), (0xfeff, 0xfeff), (0xfff0, 0xfffb),
   (0xe0000, 0xe0fff), (0xf0000, 0x10ffff)]

/-- Whether a character is seen as itself. -/
def isShown (c : Char) : Bool :=
  !shapeless.any fun (first, last) => first ≤ c.toNat && c.toNat ≤ last

/-- The escape of a character by its code. -/
def escape (c : Char) : List Char :=
  ['\\', 'u', '\x7b'] ++ Nat.toDigits 16 c.toNat ++ ['\x7d']

/-- A character inside quotes. -/
def encodeChar (c : Char) : List Char :=
  if c = '"' then ['\\', '"']
  else if c = '\\' then ['\\', '\\']
  else if c = '\n' then ['\\', 'n']
  else if c = '\r' then ['\\', 'r']
  else if c = '\t' then ['\\', 't']
  else if c.toNat = 0 then ['\\', '0']
  else if isShown c then [c]
  else escape c

/-- The characters of a text inside quotes. -/
def encode (cs : List Char) : List Char := cs.flatMap encodeChar

end Quoted

/-- A text with its quotes. -/
def quoted (s : String) : String :=
  String.ofList ('"' :: Quoted.encode s.toList ++ ['"'])

end ReceiveReactor
