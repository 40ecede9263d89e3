import ReceiveReactor.Host.Inet

/-!
# Data between sockets of the host

Sockets of one machine deliver at once: what is sent stands in the far end's
inbox when the call returns.  An IPv4 or IPv6 socket finds no route.

* `Host.transmit` — sending to the far end;
* `Host.transmitTo` — sending to an address;
* `Host.receive` — receiving without waiting;
* `Host.shutdown` — ending one direction or both.
-/

namespace ReceiveReactor

namespace Host

/-! ## Sending -/

/-- Cuts a stream's data into the pieces for which there is room, of at most
`piece` bytes each, while less than `limit` is used. -/
def admitted (limit piece : Nat) : (used : Nat) → Bytes → List Bytes
  | used, data =>
    if _h : data = [] ∨ limit ≤ used ∨ piece = 0 then []
    else
      data.take piece
        :: admitted limit piece (used + Endpoint.footprint (data.take piece)) (data.drop piece)
termination_by _ data => data.length
decreasing_by
  simp only [not_or] at _h
  have := List.length_pos_iff.mpr _h.1
  simp only [List.length_drop]
  omega

/-- Sends bytes into a stream; the far end gets as many as there is room for. -/
def transmitBytes (h : Host) (id : Nat) (e : Endpoint) (data : Bytes) :
    Except Errno Int × Host :=
  match e.peer with
  | none => (.error .notConnected, h)
  | some far =>
    if e.sendShut then (.error .brokenPipe, h)
    else if data = [] then (.ok 0, h)
    else
      let used := ((h.endpoint? far).map Endpoint.load).getD 0
      match admitted e.sendBuffer (min 32768 (e.sendBuffer / 2 - 64)) used data with
      | [] => (.error (e.pending.getD .wouldBlock), h.modifyEndpoint id fun e => { e with pending := none })
      | pieces =>
        (.ok pieces.flatten.length,
          h.modifyEndpoint far fun f => { f with inbox := f.inbox ++ pieces })

/-- What happens to a datagram socket whose far end turns out to be gone: it
is linked to nothing any more, and what it had not read is lost. -/
def disconnect (e : Endpoint) : Endpoint :=
  { e with peer := none, connected := false, inbox := [] }

/-- Sends one message.  The far end gets it whole or not at all. -/
def transmitMessage (h : Host) (id : Nat) (e : Endpoint) (message : Bytes) :
    Except Errno Int × Host :=
  let forgotten := h.modifyEndpoint id fun e => { e with pending := none }
  match e.peer.bind fun far => (h.endpoint? far).map (far, ·) with
  | none => (.error .notConnected, h)
  | some (far, other) =>
    if e.sendBuffer < message.length + 32 then (.error .messageTooLong, h)
    else
      match e.pending with
      | some errno => (.error errno, forgotten)
      | none =>
        if e.sendShut then (.error .brokenPipe, h)
        else if e.sendBuffer ≤ other.load then (.error .wouldBlock, h)
        else if !other.alive then (.error .connectionRefused, h.modifyEndpoint id disconnect)
        else if other.receiveShut then (.error .brokenPipe, h)
        else
          (.ok message.length,
            h.modifyEndpoint far fun f => { f with inbox := f.inbox ++ [message] })

/-- The largest datagram that is looked at before its route. -/
def maxDatagram : Nat := 65535

/-- Sends to the far end. -/
def transmit (h : Host) (id : Nat) (e : Endpoint) (data : Bytes) : Except Errno Int × Host :=
  match e.family with
  | .unix => if e.isStream then h.transmitBytes id e data else h.transmitMessage id e data
  | family =>
    if e.isStream then (.error .brokenPipe, h)
    else
      (.error (if family = .ipv4 && maxDatagram < data.length then .messageTooLong
        else .destinationRequired), h.ensureName id e)

/-- Sends to an address. -/
def transmitTo (h : Host) (id : Nat) (e : Endpoint) (data raw : Bytes) :
    Except Errno Int × Host :=
  match e.family, e.kind with
  | .unix, .stream =>
    (.error (if e.listening then .operationNotSupported else .alreadyConnected), h)
  | .unix, .datagram => (.error .invalidArgument, h)
  | .unix, .seqPacket => h.transmitMessage id e data
  | _, .stream => (.error .brokenPipe, h)
  | family, _ =>
    let h := h.ensureName id e
    let isV4 := (StoredAddress.ofBytes raw raw.length).family = Address.familyV4
    let port := (StoredAddress.ofBytes raw raw.length).port
    if (family = .ipv4 || isV4) && maxDatagram < data.length then (.error .messageTooLong, h)
    else if family = .ipv4 && !isV4 then (.error .familyNotSupported, h)
    else if port = 0 then (.error .invalidArgument, h)
    else (.error .networkUnreachable, h)

/-! ## Receiving -/

/-- Receives without waiting.  With `whole` the count of a cut message is its
real size. -/
def receive (h : Host) (id : Nat) (e : Endpoint) (size : Nat) (whole : Bool) :
    Except Errno Taken × Host :=
  let (result, e) := e.receive size whole
  (result, h.modifyEndpoint id fun _ => e)

/-- The ancillary record with the sender's credentials, which are not told. -/
def credentialRecord : Bytes :=
  Bytes.ofNatLE 8 28 ++ Bytes.ofNatLE 4 1 ++ Bytes.ofNatLE 4 2 ++ Bytes.zeros 12

/-- Set in the flags of a message that was cut. -/
def cutFlag : Int32 := 0x20

/-- Ends directions of a socket; the far end of a stream or of a sequenced
socket sees it. -/
def shutdown (h : Host) (fd : Fd) (receiving sending : Bool) : Except Errno Unit × Host :=
  match h.find? fd with
  | none => (.error .badDescriptor, h)
  | some d =>
    match d.target with
    | .socket id =>
      match h.endpoint? id with
      | none => (.error .badDescriptor, h)
      | some e =>
        let shut (receiving sending : Bool) (e : Endpoint) : Endpoint :=
          { e with
            receiveShut := e.receiveShut || receiving
            sendShut := e.sendShut || sending }
        if e.family = .unix then
          let h := h.modifyEndpoint id (shut receiving sending)
          match e.peer with
          | some far =>
            (.ok (), if e.kind = .datagram then h else h.modifyEndpoint far (shut sending receiving))
          | none => (.ok (), h)
        else if e.listening then
          (.ok (), if receiving then h.modifyEndpoint id fun e => { e with listening := false } else h)
        else (.error .notConnected, h.modifyEndpoint id (shut receiving sending))
    | _ => (.error .notSocket, h)

end Host

end ReceiveReactor
