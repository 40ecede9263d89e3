/-!
# Families, kinds and protocols of sockets

The three words that open a socket, with the kernel's number for each.
-/

namespace ReceiveReactor

/-- The address family of a socket. -/
inductive AddressFamily where
  | ipv4
  | ipv6
deriving DecidableEq, Repr

/-- The kernel's number for a family. -/
def AddressFamily.number : AddressFamily → Nat
  | ipv4 => 2
  | ipv6 => 10

/-- The kind of a socket. -/
inductive SocketKind where
  /-- A reliable, ordered stream of bytes. -/
  | stream
  /-- Unreliable, unordered packets. -/
  | datagram
  /-- Reliable messages with boundaries. -/
  | seqPacket
deriving DecidableEq, Repr

namespace SocketKind

/-- The kernel's number for a kind. -/
def number : SocketKind → Nat
  | stream => 1
  | datagram => 2
  | seqPacket => 5

/-- The kind with a number. -/
def ofNumber? (n : Nat) : Option SocketKind :=
  if n = 1 then some stream
  else if n = 2 then some datagram
  else if n = 5 then some seqPacket
  else none

/-- The name under which a kind is shown. -/
def name : SocketKind → String
  | stream => "Stream"
  | datagram => "Datagram"
  | seqPacket => "SeqPacket"

end SocketKind

/-- The transport protocol of a socket. -/
inductive Protocol where
  | tcp
  | udp
  | sctp
deriving DecidableEq, Repr

namespace Protocol

/-- The kernel's number for a protocol. -/
def number : Protocol → Nat
  | tcp => 6
  | udp => 17
  | sctp => 132

/-- The name under which a protocol is shown. -/
def name : Protocol → String
  | tcp => "TCP"
  | udp => "UDP"
  | sctp => "SCTP"

end Protocol

end ReceiveReactor
