import ReceiveReactor.Socket.Open
import ReceiveReactor.Socket.Naming
import ReceiveReactor.Socket.Listening
import ReceiveReactor.Socket.Transfer

/-!
# Socket handles

A handle owns at most one descriptor and remembers the address that its socket
was bound to.  It starts out empty; opening fills it, closing empties it again.
Every operation answers the handle that is left beside its result.

* `Handle.open`, `Handle.close`, `Handle.reset`, `Handle.release` — ownership;
* `Handle.bind`, `Handle.connect`, `Handle.listen`, `Handle.accept` — one step
  of setting up;
* `Handle.read` — one read, which closes the handle at the end of the stream;
* `Handle.serveTcp`, `Handle.initSctp`, `Handle.serveSctp` — whole set-ups.
-/

namespace ReceiveReactor

/-- At most one descriptor, and the address of the last successful bind. -/
structure Handle where
  fd : Option Fd := none
  address : Option Address := none
deriving DecidableEq, Repr

namespace Handle

/-- A handle without a descriptor. -/
def empty : Handle := {}

/-- A handle that takes a descriptor over. -/
def ofFd (fd : Fd) : Handle := { fd := some fd }

/-- Whether the handle owns a descriptor. -/
def isOpen (h : Handle) : Bool := h.fd.isSome

/-- Opens a socket into an empty handle. -/
def «open» (h : Handle) (family : AddressFamily) (kind : SocketKind) (protocol : Protocol) :
    Program (Except SocketError Unit × Handle) := do
  match h.fd with
  | some _ => return (.error .alreadyOpen, h)
  | none =>
    match ← openSocket family kind protocol with
    | .error cause => return (.error cause, h)
    | .ok fd => return (.ok (), { h with fd := some fd })

/-- Closes the descriptor.  The recorded address **stays**. -/
def close (h : Handle) : Program Handle := do
  match h.fd with
  | none => return h
  | some fd =>
    Program.ask (.close fd)
    return { h with fd := none }

/-- Closes the descriptor and forgets the recorded address. -/
def reset (h : Handle) : Program Handle := do
  let closed ← h.close
  return { closed with address := none }

/-- Gives the descriptor up without closing it; nothing is left. -/
def release (h : Handle) : Option Fd × Handle := (h.fd, empty)

/-- Binds and records the address that the socket got. -/
def bind (h : Handle) (ip : String) (port : UInt16) :
    Program (Except SocketError Address × Handle) := do
  match h.fd with
  | none => return (.error .notOpen, h)
  | some fd =>
    match ← bindAddress fd ip port with
    | .error cause => return (.error cause, h)
    | .ok a => return (.ok a, { h with address := some a })

/-- Connects; the handle stays as it is. -/
def connect (h : Handle) (ip : String) (port : UInt16) :
    Program (Except SocketError Address) := do
  match h.fd with
  | none => return .error .notOpen
  | some fd => connectTo fd ip port

/-- Makes the socket passive. -/
def listen (h : Handle) (backlog : Int32) : Program (Except SocketError Unit) := do
  match h.fd with
  | none => return .error .notOpen
  | some fd => listenOn fd backlog

/-- Accepts one connection into a new handle. -/
def accept (h : Handle) : Program (Except SocketError (Handle × Address)) := do
  match h.fd with
  | none => return .error .notOpen
  | some fd =>
    match ← acceptFrom fd with
    | .error cause => return .error cause
    | .ok (accepted, peer) => return .ok (ofFd accepted, peer)

/-- Reads once into a buffer of `size` bytes; answers the count and what was
stored.  A count of 0 **closes the handle**. -/
def read (h : Handle) (size : Nat) : Program (Except Error (Nat × Bytes) × Handle) := do
  match h.fd with
  | none => return (.error (SocketError.notOpen : Error), h)
  | some fd =>
    match ← readStream fd size with
    | .error cause => return (.error (cause : Error), h)
    | .ok (0, stored) => return (.ok (0, stored), ← h.close)
    | .ok (count, stored) => return (.ok (count, stored), h)

/-- Opens a socket into the handle and binds it; a failed bind empties the
handle again. -/
def openBound (h : Handle) (kind : SocketKind) (protocol : Protocol) (ip : String)
    (port : UInt16) : Program (Except SocketError Unit × Handle) := do
  match ← h.open .ipv4 kind protocol with
  | (.error cause, h) => return (.error cause, h)
  | (.ok (), opened) =>
    match ← opened.bind ip port with
    | (.ok _, bound) => return (.ok (), bound)
    | (.error cause, opened) => return (.error cause, ← opened.reset)

/-- An SCTP endpoint, bound. -/
def initSctp (h : Handle) (kind : SocketKind) (ip : String) (port : UInt16) :
    Program (Except SocketError Unit × Handle) :=
  h.openBound kind .sctp ip port

/-- An SCTP client, bound to a port that the kernel chooses. -/
def initSctpClient (h : Handle) (kind : SocketKind) (ip : String) :
    Program (Except SocketError Unit × Handle) :=
  h.initSctp kind ip 0

/-- The backlog of an SCTP server. -/
def maxBacklog : Int32 := 4096

/-- A bound endpoint that listens.  A failed listen leaves it open and bound. -/
def serve (h : Handle) (kind : SocketKind) (protocol : Protocol) (ip : String) (port : UInt16)
    (backlog : Int32) : Program (Except SocketError Unit × Handle) := do
  match ← h.openBound kind protocol ip port with
  | (.error cause, h) => return (.error cause, h)
  | (.ok (), bound) => return (← bound.listen backlog, bound)

/-- An SCTP server. -/
def serveSctp (h : Handle) (kind : SocketKind) (ip : String) (port : UInt16) :
    Program (Except SocketError Unit × Handle) :=
  h.serve kind .sctp ip port maxBacklog

/-- A TCP server. -/
def serveTcp (h : Handle) (ip : String) (port : UInt16) (backlog : Int32) :
    Program (Except SocketError Unit × Handle) :=
  h.serve .stream .tcp ip port backlog

end Handle

end ReceiveReactor
