import ReceiveReactor.World.Basic

/-!
# Names in place of numbers

Ports that the host chooses and descriptors differ from run to run.  A label
names a port by the order in which ports are first shown, one label for each
protocol and number; 0 is no port and has none.  A descriptor is shown as the
handle that stands for it.

* `PortLabels.label` — the label of a port, a new one if need be;
* `World.messageOf` — an error's wording with names.
-/

namespace ReceiveReactor

/-- The ports shown so far, in order. -/
structure PortLabels where
  shown : List (Option Protocol × UInt16) := []
deriving DecidableEq, Repr

namespace PortLabels

/-- The label of a port that was shown before. -/
def label? (l : PortLabels) (protocol : Option Protocol) (port : UInt16) : Option String :=
  (l.shown.findIdx? (· == (protocol, port))).map fun i => "p" ++ toString (i + 1)

/-- The label of a port. -/
def label (l : PortLabels) (protocol : Option Protocol) (port : UInt16) : String × PortLabels :=
  match l.label? protocol port with
  | some text => (text, l)
  | none => ("p" ++ toString (l.shown.length + 1), { shown := l.shown ++ [(protocol, port)] })

/-- An address as text with its port written as a label, if it has one. -/
def inAddress (l : PortLabels) (protocol : Option Protocol) (text : String) : String :=
  let cs := text.toList.reverse
  let digits := (cs.takeWhile Char.isDigit).reverse
  let before := (cs.dropWhile Char.isDigit).reverse
  match (String.ofList digits).toNat? with
  | none => text
  | some port =>
    match l.label? protocol (UInt16.ofNat port) with
    | some name => String.ofList before ++ name
    | none => text

/-- An error whose address shows labels. -/
def inError (l : PortLabels) (protocol : Option Protocol) : Error → Error
  | .socket (.bind errno address) => .socket (.bind errno (l.inAddress protocol address))
  | .socket (.connect errno address) => .socket (.connect errno (l.inAddress protocol address))
  | other => other

end PortLabels

namespace World

/-- The descriptor that an error is about. -/
def subject? : Error → Option Fd
  | .reactor (.invalidDescriptor fd) | .reactor (.alreadyRegistered fd)
  | .reactor (.notRegistered fd) => some fd
  | _ => none

/-- The wording of an error that a step on a handle met: ports as labels, and
the descriptor as that handle or as another one that stands for it. -/
def messageOf (w : World) (l : PortLabels) (handle : String) (e : Error) : String :=
  let text := (l.inError (w.slot handle).protocol e).message
  match subject? e with
  | none => text
  | some fd =>
    let name? := if w.fd handle = fd then some handle else w.nameOf? fd
    match name? with
    | none => text
    | some name =>
      text.replace ("descriptor " ++ toString fd.toInt ++ " ") ("descriptor <" ++ name ++ "> ")

end World

end ReceiveReactor
