import ReceiveReactor.Host.Basic

/-!
# Names of IPv4 and IPv6 sockets

What the host answers to binding, connecting and listening.  No interface is
up: an IPv4 socket may be bound to any address, an IPv6 socket to the
unspecified one and to those that map IPv4; a connection finds no route.

* `conflicts` — who stands in the way of a name;
* `Host.bind`, `Host.connect`, `Host.listen` — the three calls.
-/

namespace ReceiveReactor

namespace Host

/-- The octets that tell hosts apart: an IPv6 address that maps an IPv4 one
counts as that. -/
def hostOctets : Address → Bytes
  | .v4 a => a.octets.toList
  | .v6 a =>
    if a.groups.take 6 = [0, 0, 0, 0, 0, 0xffff] then a.octets.toList.drop 12
    else a.octets.toList

/-- Whether an address stands for every address of the host. -/
def isUnspecified (a : Address) : Bool := (hostOctets a).all (· == 0)

/-- Whether traffic to one address may be traffic to the other. -/
def overlap (a b : Address) : Bool :=
  isUnspecified a || isUnspecified b || hostOctets a == hostOctets b

/-- Whether a name is taken for a socket: by another one of its kind with the
same port and an overlapping address, unless both allow reuse and the other
does not listen. -/
def conflicts (h : Host) (id : Nat) (e : Endpoint) (wanted : Address) : Bool :=
  h.endpoints.zipIdx.any fun (other, i) =>
    i != id && other.alive && other.kind == e.kind &&
      match other.name with
      | none => false
      | some taken =>
        taken.port == wanted.port && overlap taken wanted
          && !(e.reuseAddress && other.reuseAddress && !other.listening)

/-- The same address with another port. -/
def withPort (port : UInt16) : Address → Address
  | .v4 a => .v4 { a with port }
  | .v6 a => .v6 { a with port }

/-- The unspecified address of a family. -/
def unspecified : Family → Address
  | .ipv6 => .v6 { octets := Vector.replicate 16 0, port := 0 }
  | _ => .v4 { octets := Vector.replicate 4 0, port := 0 }

/-- The first port from the next one on that is free for a socket. -/
def freePort (h : Host) (id : Nat) (e : Endpoint) (wanted : Address) : (fuel : Nat) → Nat → Nat
  | 0, port => port
  | fuel + 1, port =>
    if h.conflicts id e (withPort (UInt16.ofNat port) wanted) then
      h.freePort id e wanted fuel (port + 1)
    else port

/-- The first and the last port that the host chooses by itself. -/
def chosenPorts : Nat × Nat := (32768, 60999)

/-- Gives a socket a name; the host chooses the port where none is given. -/
def giveName (h : Host) (id : Nat) (e : Endpoint) (wanted : Address) : Except Errno Unit × Host :=
  if wanted.port = 0 then
    let port := h.freePort id e wanted 1000 h.nextPort
    let next := if chosenPorts.2 ≤ port then chosenPorts.1 else port + 1
    (.ok (),
      { h.modifyEndpoint id fun e => { e with name := some (withPort (UInt16.ofNat port) wanted) }
        with nextPort := next })
  else if h.conflicts id e wanted then (.error .addressInUse, h)
  else (.ok (), h.modifyEndpoint id fun e => { e with name := some wanted })

/-- Gives a socket without a name some port of every address of the host. -/
def ensureName (h : Host) (id : Nat) (e : Endpoint) : Host :=
  match e.name with
  | some _ => h
  | none => (h.giveName id e (unspecified e.family)).2

/-- Whether a socket may have an IPv6 address at all. -/
def allowsV6 (e : Endpoint) (a : Address) : Except Errno Unit :=
  let octets := hostOctets a
  let first := (octets.headD 0).toNat
  let second := (octets.drop 1).headD 0 |>.toNat
  if octets.length = 4 || isUnspecified a then .ok ()
  else if first = 0xff then
    if e.isStream || second % 16 = 1 || second % 16 = 2 then .error .invalidArgument else .ok ()
  else if first = 0xfe && second / 64 = 2 then .error .invalidArgument
  else .error .addressNotAvailable

/-- The address that a call names for a socket; the wrong family is refused in
a way that depends on the socket's. -/
def addressFor (e : Endpoint) (raw : Bytes) : Except Errno Address :=
  match e.family, (StoredAddress.ofBytes raw raw.length).address? with
  | .ipv4, some (.v4 a) => .ok (.v4 a)
  | .ipv4, _ => .error .familyNotSupported
  | .ipv6, some (.v6 a) => .ok (.v6 a)
  | _, _ => .error .invalidArgument

/-- Binds a socket.  An impossible address goes before a second bind. -/
def bind (h : Host) (id : Nat) (e : Endpoint) (raw : Bytes) : Except Errno Unit × Host :=
  match addressFor e raw with
  | .error errno => (.error errno, h)
  | .ok wanted =>
    match if e.family = .ipv6 then allowsV6 e wanted else .ok () with
    | .error errno => (.error errno, h)
    | .ok () => if e.name.isSome then (.error .invalidArgument, h) else h.giveName id e wanted

/-- Connects a socket: there is no route to anywhere. -/
def connect (h : Host) (id : Nat) (e : Endpoint) (raw : Bytes) : Except Errno Unit × Host :=
  match e.family with
  | .unix => (.error .invalidArgument, h)
  | family =>
    if e.isStream then
      if e.listening then (.error .alreadyConnected, h)
      else
        match addressFor e raw with
        | .error errno => (.error errno, h)
        | .ok _ => (.error .networkUnreachable, h)
    else
      let h := h.ensureName id e
      match family, addressFor e raw with
      | .ipv4, .error errno => (.error errno, h)
      | _, _ => (.error .networkUnreachable, h)

/-- Makes a socket passive.  It gets a name if it has none, and must be alone
under it. -/
def listen (h : Host) (id : Nat) (e : Endpoint) : Except Errno Unit × Host :=
  match e.family with
  | .unix =>
    if e.kind = .datagram then (.error .operationNotSupported, h)
    else if e.listening then (.ok (), h)
    else (.error .invalidArgument, h)
  | _ =>
    if !e.isStream then (.error .operationNotSupported, h)
    else if e.listening then (.ok (), h)
    else
      let h := h.ensureName id e
      match (h.endpoint? id).bind (·.name) with
      | some name =>
        if h.conflicts id e name then (.error .addressInUse, h)
        else (.ok (), h.modifyEndpoint id fun e => { e with listening := true })
      | none => (.error .addressInUse, h)

/-- The local address of a socket. -/
def localName (e : Endpoint) : StoredAddress :=
  match e.family with
  | .unix => .ofBytes (Bytes.ofNatLE 2 1) 2
  | family =>
    let raw := (e.name.getD (unspecified family)).toRaw
    .ofBytes raw raw.length

end Host

end ReceiveReactor
