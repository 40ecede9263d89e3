import ReceiveReactor.Address.Raw
import ReceiveReactor.Kernel.Call
import ReceiveReactor.Socket.Kind

/-!
# Sockets of the host

The host has no network interface that is up.  Sockets of one machine talk to
each other (family `unix`, unnamed pairs and a listener with its clients); IPv4
and IPv6 sockets can be opened, named and configured, but no route leads from
them anywhere.

* `Endpoint.receive` — what a receive finds in the inbox;
* `Endpoint.readEvents` — what a wait for input finds.
-/

namespace ReceiveReactor

namespace Host

/-- The family of a socket of the host. -/
inductive Family where
  | unix
  | ipv4
  | ipv6
deriving DecidableEq, Repr

/-- A socket.  One of the family `unix` has no name that matters; an IPv4 or
IPv6 one never has a far end. -/
structure Endpoint where
  family : Family
  kind : SocketKind
  /-- Still open in some descriptor, or pending at a listener. -/
  alive : Bool := true
  /-- Linked to a far end, now or before. -/
  connected : Bool := false
  /-- The far end. -/
  peer : Option Nat := none
  /-- Received and not yet read, oldest first. -/
  inbox : List Bytes := []
  /-- An error that the next operation reports. -/
  pending : Option Errno := none
  /-- Nothing more can be received. -/
  receiveShut : Bool := false
  /-- Nothing more can be sent. -/
  sendShut : Bool := false
  listening : Bool := false
  /-- Connections waiting to be accepted, oldest first. -/
  backlog : List Nat := []
  /-- The local address, once there is one. -/
  name : Option Address := none
  reuseAddress : Bool := false
  receiveBuffer : Nat := 212992
  sendBuffer : Nat := 212992
  receiveTimeout : Nat × Nat := (0, 0)
  /-- The sender's credentials are delivered beside the data. -/
  credentials : Bool := false
deriving DecidableEq, Repr

/-- What one receive takes out of an inbox. -/
structure Taken where
  count : Nat
  data : Bytes
  /-- A datagram was cut. -/
  cut : Bool := false
deriving DecidableEq, Repr

namespace Endpoint

/-- Whether the socket carries a stream without boundaries. -/
def isStream (e : Endpoint) : Bool := e.kind = .stream

/-- Takes up to `size` bytes off a run of chunks. -/
def takeChunks : (size : Nat) → List Bytes → Bytes × List Bytes
  | _, [] => ([], [])
  | size, chunk :: rest =>
    if chunk.length ≤ size then
      let (data, rest) := takeChunks (size - chunk.length) rest
      (chunk ++ data, rest)
    else (chunk.take size, chunk.drop size :: rest)

/-- Reports and forgets a pending error, or goes on. -/
def orPending (e : Endpoint) (otherwise : Except Errno Taken × Endpoint) :
    Except Errno Taken × Endpoint :=
  match e.pending with
  | some errno => (.error errno, { e with pending := none })
  | none => otherwise

/-- Receives from a stream: bytes first, then a pending error, then its end. -/
def receiveBytes (e : Endpoint) (size : Nat) : Except Errno Taken × Endpoint :=
  if !e.connected then (.error .invalidArgument, e)
  else if e.inbox ≠ [] then
    let (data, inbox) := takeChunks size e.inbox
    (.ok { count := data.length, data }, { e with inbox })
  else
    e.orPending (if e.receiveShut then .ok { count := 0, data := [] } else .error .wouldBlock, e)

/-- Receives one message: a pending error first.  With `whole` the count is the
message's real size.  Only a sequenced socket has an end. -/
def receiveMessage (e : Endpoint) (size : Nat) (whole : Bool) : Except Errno Taken × Endpoint :=
  if e.kind = .seqPacket ∧ !e.connected then (.error .notConnected, e)
  else
    e.orPending <|
      match e.inbox with
      | message :: inbox =>
        (.ok
          { count := if whole then message.length else min size message.length
            data := message.take size
            cut := size < message.length },
          { e with inbox })
      | [] =>
        (if e.kind = .seqPacket ∧ e.receiveShut then .ok { count := 0, data := [] }
         else .error .wouldBlock, e)

/-- Receives without waiting.  An IPv4 or IPv6 socket never has anything, but a
stream that was shut down is at its end. -/
def receive (e : Endpoint) (size : Nat) (whole : Bool) : Except Errno Taken × Endpoint :=
  match e.family with
  | .unix => if e.isStream then e.receiveBytes size else e.receiveMessage size whole
  | _ =>
    (if !e.isStream then .error .wouldBlock
     else if e.receiveShut && !e.listening then .ok { count := 0, data := [] }
     else .error .notConnected, e)

/-- How far a socket has been read: messages left, bytes left of the first, and
whether an error is pending. -/
def level (e : Endpoint) : Nat × Nat × Bool :=
  (e.inbox.length, ((e.inbox.head?).map (·.length)).getD 0, e.pending.isSome)

/-- What a wait for input finds. -/
def readEvents (e : Endpoint) : Events :=
  let pending := if e.pending.isSome then Events.error else .none
  match e.family with
  | .unix =>
    let data := if e.inbox = [] ∧ e.backlog = [] ∧ !e.receiveShut then Events.none else .input
    let gone := if e.kind ≠ .datagram ∧ !e.connected ∧ !e.listening then Events.hangup else .none
    let shut := if e.receiveShut ∧ e.sendShut then Events.hangup else .none
    pending ∪ data ∪ gone ∪ shut
  | _ =>
    let data := if e.receiveShut then Events.input else .none
    let gone := if e.isStream ∧ !e.listening then Events.hangup else .none
    pending ∪ data ∪ gone

/-- Bytes that a queued message takes of its sender's buffer. -/
def footprint (message : Bytes) : Nat := message.length + 768

/-- Bytes of its sender's buffer that the messages in an inbox take. -/
def load (e : Endpoint) : Nat := e.inbox.foldl (fun total message => total + footprint message) 0

end Endpoint

end Host

end ReceiveReactor
