import ReceiveReactor.Host.Option
import ReceiveReactor.Host.Transfer
import ReceiveReactor.Kernel.Program

/-!
# The host as a kernel

What the host answers to each call.  A call on a number that is not open is
refused first, then one on something that is no socket.

* `Host.kernel` — the host's answers.
-/

namespace ReceiveReactor

namespace Host

/-- Goes on with the socket behind a descriptor. -/
def onSocket {α : Type} (h : Host) (fd : Fd)
    (f : Descriptor → Nat → Endpoint → Except Errno α × Host) : Except Errno α × Host :=
  match h.find? fd with
  | none => (.error .badDescriptor, h)
  | some d =>
    match d.target with
    | .socket id =>
      match h.endpoint? id with
      | some e => f d id e
      | none => (.error .badDescriptor, h)
    | _ => (.error .notSocket, h)

/-- Whether a set of flags holds a flag. -/
def hasFlag (flags flag : Nat) : Bool := flags / flag % 2 = 1

/-- Opens a socket of a family, a kind and a protocol.  The host knows streams
over TCP and datagrams over UDP. -/
def openSocket (h : Host) (family kind protocol : Nat) : Except Errno Fd × Host :=
  let opened (family : Family) (kind' : SocketKind) (receiveBuffer sendBuffer : Nat) :=
    let (id, h) := h.addEndpoint { family, kind := kind', receiveBuffer, sendBuffer }
    let (fd, h) := h.openDescriptor (.socket id) (hasFlag kind 0x800) (hasFlag kind 0x80000)
    (.ok fd, h)
  let known (family : Family) : Except Errno Fd × Host :=
    match SocketKind.ofNumber? (kind % 16) with
    | some .stream =>
      if protocol = Protocol.tcp.number then opened family .stream 131072 16384
      else (.error .protocolNotSupported, h)
    | some .datagram =>
      if protocol = Protocol.udp.number then opened family .datagram 212992 212992
      else (.error .protocolNotSupported, h)
    | some .seqPacket => (.error .kindNotSupported, h)
    | none => (.error .invalidArgument, h)
  if family = AddressFamily.ipv4.number then known .ipv4
  else if family = AddressFamily.ipv6.number then known .ipv6
  else (.error .familyNotSupported, h)

/-- Accepts the connection that has waited longest.  Its far end has no
address. -/
def accept (h : Host) (id : Nat) (e : Endpoint) (flags : Nat) :
    Except Errno (Fd × StoredAddress) × Host :=
  if e.kind = .datagram then (.error .operationNotSupported, h)
  else if !e.listening then (.error .invalidArgument, h)
  else
    match e.backlog with
    | [] => (.error .wouldBlock, h)
    | waiting :: backlog =>
      let h := h.modifyEndpoint id fun e => { e with backlog }
      let (fd, h) := h.openDescriptor (.socket waiting) (hasFlag flags 0x800) (hasFlag flags 0x80000)
      (.ok (fd, .ofBytes (Bytes.ofNatLE 2 1) 2), h)

/-- Reads from a pipe or a socket.  A read of no bytes answers 0 on a socket
whatever is there. -/
def read (h : Host) (fd : Fd) (size : Nat) : Except Errno Received × Host :=
  match h.find? fd with
  | none => (.error .badDescriptor, h)
  | some d =>
    match d.target with
    | .pipeWriter _ => (.error .badDescriptor, h)
    | .pipeReader id =>
      match h.pipes[id]? with
      | none => (.error .badDescriptor, h)
      | some p =>
        let (result, p) := p.read size
        (result, h.modifyPipe id fun _ => p)
    | .socket id =>
      match h.endpoint? id with
      | none => (.error .badDescriptor, h)
      | some e =>
        if size = 0 then (.ok { count := 0 }, h)
        else
          let (result, h) := h.receive id e size false
          (result.map fun t => { count := t.count, data := t.data }, h)

/-- Writes into a pipe or a socket. -/
def write (h : Host) (fd : Fd) (data : Bytes) : Except Errno Int × Host :=
  match h.find? fd with
  | none => (.error .badDescriptor, h)
  | some d =>
    match d.target with
    | .pipeReader _ => (.error .badDescriptor, h)
    | .pipeWriter id =>
      match h.pipes[id]? with
      | none => (.error .badDescriptor, h)
      | some p =>
        let (result, p) := p.write data
        (result, h.modifyPipe id fun _ => p)
    | .socket id =>
      match h.endpoint? id with
      | none => (.error .badDescriptor, h)
      | some e => h.transmit id e data

/-- Receives with the sender's address, which no sender here has. -/
def receiveFrom (h : Host) (fd : Fd) (size flags : Nat) : Except Errno ReceivedFrom × Host :=
  h.onSocket fd fun _ id e =>
    let (result, h) := h.receive id e size (hasFlag flags 0x20)
    (result.map fun t => { count := t.count, data := t.data, sender := .ofBytes [] 0 }, h)

/-- Receives with ancillary data. -/
def receiveMessage (h : Host) (fd : Fd) (size controlSize flags : Nat) :
    Except Errno ReceivedMessage × Host :=
  h.onSocket fd fun _ id e =>
    let (result, h) := h.receive id e size (hasFlag flags 0x20)
    (result.map fun t =>
      { count := t.count
        data := t.data
        sender := .ofBytes [] 0
        control := if e.credentials then credentialRecord.take controlSize else []
        flags := if t.cut then cutFlag else 0 }, h)

/-- The access mode of a descriptor, as its status flags show it. -/
def accessMode : Target → Int32
  | .pipeReader _ => 0
  | .pipeWriter _ => 1
  | .socket _ => 2

/-- The status flags of a descriptor. -/
def statusFlags (h : Host) (fd : Fd) : Except Errno Int32 :=
  match h.find? fd with
  | none => .error .badDescriptor
  | some d =>
    .ok (accessMode d.target ||| if d.nonBlocking then Options.nonBlockingFlag else 0)

/-- Sets the status flags of a descriptor, of which only one can change. -/
def setStatusFlags (h : Host) (fd : Fd) (flags : Int32) : Except Errno Unit × Host :=
  match h.find? fd with
  | none => (.error .badDescriptor, h)
  | some d =>
    let nonBlocking := (flags &&& Options.nonBlockingFlag) != 0
    (.ok (),
      { h with descriptors := h.descriptors.map fun other =>
          if other.number = d.number then { other with nonBlocking } else other })

/-- Looks at descriptors without waiting: what is ready on each, and how many
are.  A failure that is due comes first. -/
def poll (h : Host) (slots : List PollSlot) : Except Errno (Int × List Events) × Host :=
  match h.waitFailures with
  | errno :: waitFailures => (.error errno, { h with waitFailures })
  | [] =>
    let results := slots.map fun s => h.readEvents s.fd
    (.ok ((results.filter (· != .none)).length, results), h)

/-- What the host answers to a call. -/
def answer (c : Call) (h : Host) : c.Reply × Host :=
  match c with
  | .socket family kind protocol => h.openSocket family kind protocol
  | .bind fd address => h.onSocket fd fun _ id e => h.bind id e address
  | .connect fd address => h.onSocket fd fun _ id e => h.connect id e address
  | .listen fd _ => h.onSocket fd fun _ id e => h.listen id e
  | .accept fd flags => h.onSocket fd fun _ id e => h.accept id e flags
  | .getsockname fd => h.onSocket fd fun _ _ e => (.ok (localName e), h)
  | .getsockopt fd level option size =>
    h.onSocket fd fun _ _ e => ((e.getOption level option).map (·.take size), h)
  | .setsockopt fd level option value => h.onSocket fd fun _ id e =>
    match e.setOption level option value with
    | .ok e => (.ok (), h.modifyEndpoint id fun _ => e)
    | .error errno => (.error errno, h)
  | .recvfrom fd size flags => h.receiveFrom fd size flags
  | .recvmsg fd size controlSize flags => h.receiveMessage fd size controlSize flags
  | .sendto fd data _ address => h.onSocket fd fun _ id e => h.transmitTo id e data address
  | .send fd data _ => h.onSocket fd fun _ id e => h.transmit id e data
  | .read fd size => h.read fd size
  | .write fd data => h.write fd data
  | .descriptorFlags fd =>
    (if (h.find? fd).isSome then .ok () else .error .badDescriptor, h)
  | .statusFlags fd => (h.statusFlags fd, h)
  | .setStatusFlags fd flags => h.setStatusFlags fd flags
  | .poll slots _ => h.poll slots
  | .pipe flags =>
    let (ends, h) := h.newPipe (hasFlag flags 0x800) (hasFlag flags 0x80000)
    (.ok ends, h)
  | .close fd => ((), h.close fd)

/-- The host as a kernel. -/
def kernel : Kernel Host := ⟨answer⟩

end Host

end ReceiveReactor
