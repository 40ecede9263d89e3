import ReceiveReactor.Socket.Options

/-!
# SCTP options and messages

The structures of the SCTP socket interface with the kernel's layout, the
options that prepare a fresh socket, and the receive that picks the sender's
information out of the ancillary data.

* `prepare` — subscribes to events, ignoring a failure, then tunes the timers
  for fast failure detection;
* `receiveMessage` — one message or notification;
* `findSendInfo?` — the walk over the ancillary records.
-/

namespace ReceiveReactor

namespace Sctp

/-! ## Constants -/

/-- The level of the SCTP options, and of SCTP's ancillary records. -/
def level : Nat := 132

def retransmissionOption : Nat := 0
def initOption : Nat := 2
def eventsOption : Nat := 11

/-- The type of the ancillary record that carries the sender's information. -/
def sendInfoType : Nat := 1

/-- Set in the flags of a message that is a notification, not user data. -/
def notificationFlag : Int32 := 0x8000

/-- Upper bound on the retransmission timeout, in milliseconds. -/
def maxRetransmissionTimeout : UInt32 := 6000

/-- Tries of the initial handshake before a connection gives up. -/
def maxInitAttempts : UInt16 := 3

/-- Upper bound on the timeout of one such try, in milliseconds. -/
def maxInitTimeout : UInt16 := 5000

/-! ## Structures -/

/-- Retransmission timeouts of an association, in milliseconds. -/
structure RetransmissionInfo where
  association : Int32 := 0
  initial : UInt32 := 0
  max : UInt32 := 0
  min : UInt32 := 0
deriving DecidableEq, Repr

namespace RetransmissionInfo

/-- Bytes of the structure. -/
def size : Nat := 16

/-- The structure as bytes. -/
def encode (i : RetransmissionInfo) : Bytes :=
  Bytes.ofNatLE 4 i.association.toUInt32.toNat ++ Bytes.ofNatLE 4 i.initial.toNat
    ++ Bytes.ofNatLE 4 i.max.toNat ++ Bytes.ofNatLE 4 i.min.toNat

/-- The structure in some bytes. -/
def decode (bs : Bytes) : RetransmissionInfo where
  association := (UInt32.ofNat (Bytes.fieldLE bs 0 4)).toInt32
  initial := UInt32.ofNat (Bytes.fieldLE bs 4 4)
  max := UInt32.ofNat (Bytes.fieldLE bs 8 4)
  min := UInt32.ofNat (Bytes.fieldLE bs 12 4)

end RetransmissionInfo

/-- Parameters of the initial handshake. -/
structure InitInfo where
  outStreams : UInt16 := 0
  inStreams : UInt16 := 0
  attempts : UInt16 := 0
  timeout : UInt16 := 0
deriving DecidableEq, Repr

namespace InitInfo

/-- Bytes of the structure. -/
def size : Nat := 8

/-- The structure as bytes. -/
def encode (i : InitInfo) : Bytes :=
  Bytes.ofNatLE 2 i.outStreams.toNat ++ Bytes.ofNatLE 2 i.inStreams.toNat
    ++ Bytes.ofNatLE 2 i.attempts.toNat ++ Bytes.ofNatLE 2 i.timeout.toNat

/-- The structure in some bytes. -/
def decode (bs : Bytes) : InitInfo where
  outStreams := UInt16.ofNat (Bytes.fieldLE bs 0 2)
  inStreams := UInt16.ofNat (Bytes.fieldLE bs 2 2)
  attempts := UInt16.ofNat (Bytes.fieldLE bs 4 2)
  timeout := UInt16.ofNat (Bytes.fieldLE bs 6 2)

end InitInfo

/-- What SCTP tells about one received message. -/
structure SendInfo where
  stream : UInt16 := 0
  sequence : UInt16 := 0
  flags : UInt16 := 0
  payloadProtocol : UInt32 := 0
  context : UInt32 := 0
  timeToLive : UInt32 := 0
  transmission : UInt32 := 0
  cumulative : UInt32 := 0
  association : Int32 := 0
deriving DecidableEq, Repr

namespace SendInfo

/-- Bytes of the structure, two of them padding. -/
def size : Nat := 32

/-- The structure in some bytes. -/
def decode (bs : Bytes) : SendInfo where
  stream := UInt16.ofNat (Bytes.fieldLE bs 0 2)
  sequence := UInt16.ofNat (Bytes.fieldLE bs 2 2)
  flags := UInt16.ofNat (Bytes.fieldLE bs 4 2)
  payloadProtocol := UInt32.ofNat (Bytes.fieldLE bs 8 4)
  context := UInt32.ofNat (Bytes.fieldLE bs 12 4)
  timeToLive := UInt32.ofNat (Bytes.fieldLE bs 16 4)
  transmission := UInt32.ofNat (Bytes.fieldLE bs 20 4)
  cumulative := UInt32.ofNat (Bytes.fieldLE bs 24 4)
  association := (UInt32.ofNat (Bytes.fieldLE bs 28 4)).toInt32

end SendInfo

/-! ## Options -/

/-- The event subscription: data, peer addresses and shutdown. -/
def subscription : Bytes := [1, 0, 1, 0, 0, 1, 0, 0, 0, 0]

/-- Subscribes to message information and to the notifications of shutdown and
of changes of the peer's addresses. -/
def subscribeEvents (fd : Fd) : Program (Except SocketError Unit) :=
  Options.setOption fd level eventsOption "SCTP_EVENTS" subscription

/-- Reads the retransmission timeouts. -/
def retransmissionInfo (fd : Fd) : Program (Except SocketError RetransmissionInfo) := do
  return (← Options.getOption fd level retransmissionOption RetransmissionInfo.size
    "SCTP_RTOINFO").map RetransmissionInfo.decode

/-- Writes the retransmission timeouts. -/
def setRetransmissionInfo (fd : Fd) (i : RetransmissionInfo) : Program (Except SocketError Unit) :=
  Options.setOption fd level retransmissionOption "SCTP_RTOINFO" i.encode

/-- Reads the parameters of the initial handshake. -/
def initInfo (fd : Fd) : Program (Except SocketError InitInfo) := do
  return (← Options.getOption fd level initOption InitInfo.size "SCTP_INITMSG").map InitInfo.decode

/-- Writes the parameters of the initial handshake. -/
def setInitInfo (fd : Fd) (i : InitInfo) : Program (Except SocketError Unit) :=
  Options.setOption fd level initOption "SCTP_INITMSG" i.encode

/-- Shortens failure detection on a fresh socket.  Fields that are not named
here keep the kernel's values. -/
def tuneFailureDetection (fd : Fd) : Program (Except SocketError Unit) := do
  match ← retransmissionInfo fd with
  | .error cause => return .error cause
  | .ok rto =>
    match ← setRetransmissionInfo fd
        { rto with association := 0, max := maxRetransmissionTimeout } with
    | .error cause => return .error cause
    | .ok () =>
      match ← initInfo fd with
      | .error cause => return .error cause
      | .ok init =>
        setInitInfo fd { init with attempts := maxInitAttempts, timeout := maxInitTimeout }

/-- Prepares a fresh socket.  A failed subscription is **ignored**; a failed
tuning fails the whole. -/
def prepare (fd : Fd) : Program (Except SocketError Unit) := do
  let _ ← subscribeEvents fd
  tuneFailureDetection fd

/-! ## Messages -/

/-- Bytes of the header of an ancillary record: a length of eight bytes, which
counts the header, a level and a type of four each. -/
def headerSize : Nat := 16

/-- Bytes of the ancillary area: one record with the sender's information. -/
def controlSize : Nat := headerSize + SendInfo.size

/-- A length rounded up to the alignment of ancillary records, as a word of 64
bits. -/
def aligned (n : Nat) : Nat := (n + 7) % UInt64.size / 8 * 8

/-- Whether the record at `offset` is the one with the sender's information. -/
def isSendInfoAt (area : Bytes) (offset : Nat) : Bool :=
  Bytes.fieldLE area (offset + 8) 4 = level && Bytes.fieldLE area (offset + 12) 4 = sendInfoType

/-- Where the record after the one at `offset` starts.  There is one only when
it fits **as a whole** into the part that the kernel filled. -/
def nextRecord? (area : Bytes) (filled offset : Nat) : Option Nat :=
  let length := Bytes.fieldLE area offset 8
  let next := offset + aligned length
  if length < headerSize then none
  else if filled < next + headerSize then none
  else if filled < next + aligned (Bytes.fieldLE area next 8) then none
  else some next

/-- Walks over the ancillary records from `offset` on and answers where the
first one with the sender's information starts. -/
def findSendInfo? (area : Bytes) (filled : Nat) : (fuel : Nat) → (offset : Nat) → Option Nat
  | 0, _ => none
  | fuel + 1, offset =>
    if isSendInfoAt area offset then some offset
    else
      match nextRecord? area filled offset with
      | some next => findSendInfo? area filled fuel next
      | none => none

/-- The sender's information in an ancillary area of which the kernel filled
`filled` bytes; all zero when there is no such record. -/
def sendInfoOf (area : Bytes) (filled : Nat) : SendInfo :=
  if filled < headerSize then {}
  else
    match findSendInfo? area filled (filled / headerSize + 1) 0 with
    | some offset => SendInfo.decode (area.drop (offset + headerSize))
    | none => {}

/-- One received message or notification. -/
structure Message where
  /-- Bytes written into the caller's buffer. -/
  len : Nat
  /-- What is stored at the beginning of the caller's buffer. -/
  stored : Bytes
  sender : Option Address
  info : SendInfo
  flags : Int32
deriving DecidableEq, Repr

/-- Whether some flags mark a notification. -/
def isNotification (flags : Int32) : Bool := (flags &&& notificationFlag) != 0

/-- The flags of a received message that have names, in the order in which they
are shown. -/
def namedFlags : List (Int32 × String) :=
  [(0x20, "TRUNC"), (0x08, "CTRUNC"), (0x80, "EOR"), (notificationFlag, "NOTIFICATION")]

/-- The names of the flags that are set. -/
def flagNames (flags : Int32) : List String :=
  (namedFlags.filter fun (flag, _) => (flags &&& flag) != 0).map (·.2)

/-- The memory from the beginning of the ancillary area on, after a receive. -/
def ancillaryArea (received : ReceivedMessage) : Bytes :=
  Bytes.padTo controlSize received.control ++ received.beyond

/-- Receives one message into a buffer of `size` bytes. -/
def receiveMessage (fd : Fd) (size : Nat) : Program (Except IoError Message) := do
  match ← Program.ask (.recvmsg fd size controlSize 0) with
  | .error errno => return .error (IoError.ofReceive errno)
  | .ok received =>
    return .ok
      { len := wordOfCount received.count
        stored := received.data
        sender := received.sender.address?
        info := sendInfoOf (ancillaryArea received) received.control.length
        flags := received.flags }

end Sctp

end ReceiveReactor
