import ReceiveReactor.Address.Basic
import ReceiveReactor.Error

/-!
# Addresses as text

An IPv4 address is four decimal numbers from 0 to 255, of one to three digits
without leading zeros, joined by dots.  An IPv6 address is eight groups of one
to four hexadecimal digits joined by colons, where one `::` may stand for one
or more zero groups and the last two groups may be written as an IPv4 address.
The printed form is in lower case without leading zeros; the longest run (the
first of equals) of two or more zero groups is written `::`; an address that
maps an IPv4 one keeps its dotted tail.

* `octet?`, `hexGroup?` — one number of either text;
* `octetsOfText?`, `groupsOfText?` — a whole text;
* `textOfOctets`, `textOfGroups` — the printed forms;
* `Address.parse` — IPv4 is tried first and the error is IPv6's.
-/

namespace ReceiveReactor

namespace Address

/-! ## Numbers -/

/-- The value of a digit of either case, up to sixteen. -/
def digitValue? (c : Char) : Option Nat :=
  if '0' ≤ c ∧ c ≤ '9' then some (c.toNat - '0'.toNat)
  else if 'a' ≤ c ∧ c ≤ 'f' then some (c.toNat - 'a'.toNat + 10)
  else if 'A' ≤ c ∧ c ≤ 'F' then some (c.toNat - 'A'.toNat + 10)
  else none

/-- Whether a character is a digit of the given base. -/
def isDigitOf (base : Nat) (c : Char) : Bool :=
  match digitValue? c with
  | some d => d < base
  | none => false

/-- The number that some digits denote, highest first. -/
def numberOf (base : Nat) (cs : List Char) : Nat :=
  cs.foldl (fun n c => n * base + (digitValue? c).getD 0) 0

/-- The digits of a number below `base ^ width`, highest first and without
leading zeros. -/
def digits (base : Nat) : (width : Nat) → (n : Nat) → List Char
  | 0, _ => []
  | width + 1, n =>
    if n < base then [n.digitChar] else digits base width (n / base) ++ [(n % base).digitChar]

/-- One number of a dotted text: one to three decimal digits, no leading zero,
at most 255. -/
def octet? (cs : List Char) : Option UInt8 :=
  if cs ≠ [] ∧ cs.length ≤ 3 ∧ cs.all (isDigitOf 10) ∧ (cs.length = 1 ∨ cs.head? ≠ some '0')
      ∧ numberOf 10 cs ≤ 255 then
    some (UInt8.ofNat (numberOf 10 cs))
  else none

/-- One group of an IPv6 text: one to four hexadecimal digits. -/
def hexGroup? (cs : List Char) : Option UInt16 :=
  if cs ≠ [] ∧ cs.length ≤ 4 ∧ cs.all (isDigitOf 16) then
    some (UInt16.ofNat (numberOf 16 cs))
  else none

/-! ## Reading -/

/-- The fields of a text between the separators, empty ones included. -/
def fields (separator : Char) : List Char → List (List Char)
  | [] => [[]]
  | c :: cs =>
    if c = separator then [] :: fields separator cs
    else
      match fields separator cs with
      | [] => [[c]]
      | first :: others => (c :: first) :: others

/-- The text before and after the first `::`. -/
def splitGap? : List Char → Option (List Char × List Char)
  | [] => none
  | c :: cs =>
    if c = ':' ∧ cs.head? = some ':' then some ([], cs.tail)
    else (splitGap? cs).map fun (before, after) => (c :: before, after)

/-- The four octets of a dotted text. -/
def octetsOfText? (cs : List Char) : Option (Vector UInt8 4) :=
  ((fields '.' cs).mapM octet?).bind octets4?

/-- The groups of the fields between two colons or gaps; where `dotted`, the
last field may be an IPv4 address and then makes two groups. -/
def groupsOfFields? (dotted : Bool) : List (List Char) → Option (List UInt16)
  | [] => some []
  | [last] =>
    match hexGroup? last with
    | some g => some [g]
    | none =>
      if dotted then (octetsOfText? last).map fun octets => pairs octets.toList else none
  | field :: rest => do
    let g ← hexGroup? field
    let gs ← groupsOfFields? dotted rest
    some (g :: gs)

/-- The groups on one side of a gap, of which there may be none. -/
def groupsOfSide? (dotted : Bool) (cs : List Char) : Option (List UInt16) :=
  if cs = [] then some [] else groupsOfFields? dotted (fields ':' cs)

/-- The eight groups of an IPv6 text.  A gap stands for **at least one** zero
group, and the groups before it are never dotted. -/
def groupsOfText? (cs : List Char) : Option (List UInt16) :=
  match splitGap? cs with
  | none => do
    let gs ← groupsOfSide? true cs
    if gs.length = 8 then some gs else none
  | some (before, after) => do
    let front ← groupsOfSide? false before
    let back ← groupsOfSide? true after
    if front.length + back.length ≤ 7 then
      some (front ++ List.replicate (8 - front.length - back.length) 0 ++ back)
    else none

/-! ## Printing -/

/-- The pieces joined by a separator. -/
def joined (separator : List Char) : List (List Char) → List Char
  | [] => []
  | [piece] => piece
  | piece :: rest => piece ++ separator ++ joined separator rest

/-- The dotted text of some octets. -/
def textOfOctets (octets : Bytes) : List Char :=
  joined ['.'] (octets.map fun b => digits 10 3 b.toNat)

/-- How many groups at the front are zero. -/
def zeroRun (gs : List UInt16) : Nat :=
  (gs.takeWhile (· = 0)).length

/-- Where the longest run of zero groups starts and how long it is; the first
of equals. -/
def longestRun : List UInt16 → Nat × Nat
  | [] => (0, 0)
  | g :: gs =>
    let here := zeroRun (g :: gs)
    let later := longestRun gs
    if later.2 ≤ here then (0, here) else (later.1 + 1, later.2)

/-- Groups joined by colons. -/
def textOfRun (gs : List UInt16) : List Char :=
  joined [':'] (gs.map fun g => digits 16 4 g.toNat)

/-- The text of eight groups. -/
def textOfGroups (gs : List UInt16) : List Char :=
  if gs.take 6 = [0, 0, 0, 0, 0, 0xffff] then
    "::ffff:".toList ++ textOfOctets (unpairs (gs.drop 6))
  else
    let run := longestRun gs
    if 2 ≤ run.2 then
      textOfRun (gs.take run.1) ++ [':', ':'] ++ textOfRun (gs.drop (run.1 + run.2))
    else textOfRun gs

/-! ## Addresses -/

/-- Reads a dotted text and pairs it with a port. -/
def V4.parse (ip : String) (port : UInt16) : Except SocketError V4 :=
  match octetsOfText? ip.toList with
  | some octets => .ok { octets, port }
  | none => .error (.invalidAddress "not an IPv4 address")

/-- Reads an IPv6 text and pairs it with a port; the scope is 0. -/
def V6.parse (ip : String) (port : UInt16) : Except SocketError V6 :=
  match (groupsOfText? ip.toList).bind fun gs => octets16? (unpairs gs) with
  | some octets => .ok { octets, port }
  | none => .error (.invalidAddress "not an IPv6 address")

/-- Overwrites an address from text; on failure it is left as it was. -/
def V4.assign (a : V4) (ip : String) (port : UInt16) : Except SocketError Unit × V4 :=
  match V4.parse ip port with
  | .ok parsed => (.ok (), parsed)
  | .error cause => (.error cause, a)

/-- Overwrites address and port from text, **keeping the scope**; on failure
all is left as it was. -/
def V6.assign (a : V6) (ip : String) (port : UInt16) : Except SocketError Unit × V6 :=
  match V6.parse ip port with
  | .ok parsed => (.ok (), { a with octets := parsed.octets, port := parsed.port })
  | .error cause => (.error cause, a)

/-- The dotted text of an IPv4 address. -/
def V4.ipText (a : V4) : String :=
  String.ofList (textOfOctets a.octets.toList)

/-- The text of an IPv6 address, without its scope. -/
def V6.ipText (a : V6) : String :=
  String.ofList (textOfGroups a.groups)

/-- Reads a text as IPv4, failing that as IPv6, and pairs it with a port. -/
def parse (ip : String) (port : UInt16) : Except SocketError Address :=
  match V4.parse ip port with
  | .ok a => .ok (.v4 a)
  | .error _ => (V6.parse ip port).map .v6

/-- The text of an address, without its port. -/
def ipText : Address → String
  | v4 a => a.ipText
  | v6 a => a.ipText

/-- The text of an address with its port; an IPv6 address stands in brackets. -/
def display (a : Address) : String :=
  match a with
  | v4 b => s!"{b.ipText}:{b.port.toNat}"
  | v6 b => s!"[{b.ipText}]:{b.port.toNat}"

end Address

end ReceiveReactor
