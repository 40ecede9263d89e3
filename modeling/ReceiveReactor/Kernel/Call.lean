import ReceiveReactor.Address.Raw
import ReceiveReactor.Errno

/-!
# Calls to the kernel and what they answer

Every call that the library makes is a value of `Call`; `Call.Reply` gives the
type of its answer.  A failed call answers an `Errno`; a call that moves data
answers the signed count that the kernel returned beside the bytes that it
stored, because the two need not agree.
-/

namespace ReceiveReactor

/-- A descriptor. -/
abbrev Fd := Int32

/-- A set of readiness events. -/
structure Events where
  bits : UInt16
deriving DecidableEq, Repr

namespace Events

def none : Events := ⟨0⟩
def input : Events := ⟨0x01⟩
def priority : Events := ⟨0x02⟩
def error : Events := ⟨0x08⟩
def hangup : Events := ⟨0x10⟩
/-- The descriptor is not open. -/
def invalid : Events := ⟨0x20⟩

/-- The events of either set. -/
def union (a b : Events) : Events := ⟨a.bits ||| b.bits⟩

instance : Union Events := ⟨union⟩

/-- Whether two sets have an event in common. -/
def meets (a b : Events) : Bool := (a.bits &&& b.bits) != 0

end Events

/-- One descriptor of a readiness wait: the events asked for and the events
that the last wait found. -/
structure PollSlot where
  fd : Fd
  events : Events
  result : Events
deriving DecidableEq, Repr

/-- What a receive into a plain buffer stored. -/
structure Received where
  /-- The count that the kernel returned. -/
  count : Int
  data : Bytes := []
deriving DecidableEq, Repr

/-- What a receive with the sender's address stored. -/
structure ReceivedFrom extends Received where
  sender : StoredAddress := .untouched
deriving DecidableEq, Repr

/-- What a receive with ancillary data stored. -/
structure ReceivedMessage extends ReceivedFrom where
  control : Bytes := []
  /-- What stands in the caller's memory behind its ancillary area.  The kernel leaves it
  alone, but who walks over the records may read it. -/
  beyond : Bytes := []
  flags : Int32 := 0
deriving DecidableEq, Repr

/-- A call to the kernel. -/
inductive Call where
  | socket (family kind protocol : Nat)
  | bind (fd : Fd) (address : Bytes)
  | connect (fd : Fd) (address : Bytes)
  | listen (fd : Fd) (backlog : Int32)
  | accept (fd : Fd) (flags : Nat)
  | getsockname (fd : Fd)
  | getsockopt (fd : Fd) (level option size : Nat)
  | setsockopt (fd : Fd) (level option : Nat) (value : Bytes)
  | recvfrom (fd : Fd) (size flags : Nat)
  | recvmsg (fd : Fd) (size controlSize flags : Nat)
  | sendto (fd : Fd) (data : Bytes) (flags : Nat) (address : Bytes)
  | send (fd : Fd) (data : Bytes) (flags : Nat)
  | read (fd : Fd) (size : Nat)
  | write (fd : Fd) (data : Bytes)
  /-- Asks whether a descriptor is open. -/
  | descriptorFlags (fd : Fd)
  | statusFlags (fd : Fd)
  | setStatusFlags (fd : Fd) (flags : Int32)
  | poll (slots : List PollSlot) (timeout : Int32)
  | pipe (flags : Nat)
  | close (fd : Fd)
deriving DecidableEq, Repr

/-- The type of a call's answer. -/
@[reducible] def Call.Reply : Call → Type
  | socket .. => Except Errno Fd
  | bind .. | connect .. | listen .. => Except Errno Unit
  | accept .. => Except Errno (Fd × StoredAddress)
  | getsockname .. => Except Errno StoredAddress
  | getsockopt .. => Except Errno Bytes
  | setsockopt .. => Except Errno Unit
  | recvfrom .. => Except Errno ReceivedFrom
  | recvmsg .. => Except Errno ReceivedMessage
  | sendto .. | send .. | write .. => Except Errno Int
  | read .. => Except Errno Received
  | descriptorFlags .. => Except Errno Unit
  | statusFlags .. => Except Errno Int32
  | setStatusFlags .. => Except Errno Unit
  | poll .. => Except Errno (Int × List Events)
  | pipe .. => Except Errno (Fd × Fd)
  | close .. => Unit

/-- A count returned by the kernel as an unsigned word of 64 bits. -/
def wordOfCount (count : Int) : Nat :=
  (count % UInt64.size).toNat

end ReceiveReactor
