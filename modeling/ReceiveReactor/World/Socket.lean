import ReceiveReactor.World.Basic

/-!
# Named handles

What can be done with a named handle besides running a program on its
descriptor: operations of the handle itself, things made without the library,
and plain calls of a user.

* `WorldM.onHandle` — an operation that may change the handle;
* `WorldM.waitsForever` — whether a receive now would never return.
-/

namespace ReceiveReactor

namespace WorldM

open World

/-- Puts a handle into a slot.  A new address tells the port that it is bound
to. -/
def store (name : String) (handle : Handle) : WorldM Unit :=
  modifySlot name fun s =>
    let port := if handle.address = s.handle.address then none else handle.address.map (·.port)
    { s with handle, last := handle.fd.getD s.last, boundPort := port.getD s.boundPort }

/-- Makes a fresh slot for a descriptor. -/
def adopt (name : String) (fd : Fd) (protocol : Option Protocol) : WorldM Unit :=
  modify fun w =>
    { w with slots := assign name { handle := .ofFd fd, last := fd, protocol } w.slots }

/-- Runs an operation on a named handle and keeps the handle that it leaves. -/
def onHandle {α : Type} (name : String) (f : Handle → Program (α × Handle)) : WorldM α := do
  let (result, handle) ← perform (f ((← get).slot name).handle)
  store name handle
  return result

/-- Runs an operation on a handle that leaves it as it is. -/
def withHandle {α : Type} (name : String) (f : Handle → Program α) : WorldM α := do
  perform (f ((← get).slot name).handle)

/-- Notes which protocol a handle that is not open yet is to speak. -/
def noteProtocol (name : String) (protocol : Option Protocol) : WorldM Unit :=
  modifySlot name fun s =>
    if s.handle.isOpen then s else { s with protocol := protocol.or s.protocol }

/-- Drops a handle, which closes it; a new empty one takes its place. -/
def renew (name : String) : WorldM Unit := do
  onHandle name fun h => return ((), ← h.close)
  modifySlot name fun s => { s with handle := .empty }

/-- Accepts a connection into another slot; answers the peer and whether the
new handle has an address. -/
def accept (name into : String) : WorldM (Except SocketError (Address × Bool)) := do
  match ← withHandle name Handle.accept with
  | .error cause => return .error cause
  | .ok (accepted, peer) =>
    let protocol := ((← get).slot name).protocol
    adopt into (accepted.fd.getD (-1)) protocol
    return .ok (peer, accepted.address.isSome)

/-- Moves a handle's descriptor into another slot; answers whether there was
one. -/
def hand (name into : String) : WorldM Bool := do
  let s := (← get).slot name
  match s.handle.release with
  | (none, _) => return false
  | (some fd, handle) =>
    modifySlot name fun s => { s with handle }
    adopt into fd s.protocol
    return true

/-- A pipe with its ends in two slots, both non-blocking. -/
def newPipe (reader writer : String) : WorldM Unit := do
  let (r, w) ← modifyGet fun w =>
    let (ends, host) := w.host.newPipe true true
    (ends, { w with host })
  adopt reader r none
  adopt writer w none

/-- Two linked sockets in two slots. -/
def newPair (a b : String) (kind : SocketKind) : WorldM Unit := do
  let (left, right) ← modifyGet fun w =>
    let (ends, host) := w.host.newPair kind
    (ends, { w with host })
  adopt a left none
  adopt b right none

/-- A listener with a client that waits to be accepted. -/
def newListener (name peer : String) : WorldM Unit := do
  let (left, right) ← modifyGet fun w =>
    let (ends, host) := w.host.newListener
    (ends, { w with host })
  adopt name left none
  adopt peer right none

/-- Whether a receive on a descriptor would never return: nothing is ready, the
descriptor is blocking and no timeout is set. -/
def waitsForever (fd : Fd) : WorldM Bool := do
  let h := (← get).host
  let hasTimeout := ((h.socket? fd).map (·.receiveTimeout)).getD (0, 0) != (0, 0)
  return h.readEvents fd == .none &&
    match h.find? fd with
    | none => false
    | some d => !d.nonBlocking && !hasTimeout

/-- Whether a descriptor is a listening socket. -/
def listens (fd : Fd) : WorldM Bool :=
  return (((← get).host.socket? fd).map (·.listening)).getD false

/-- A change of a socket behind the library's back; answers whether the
descriptor is one. -/
def changeEndpoint (fd : Fd) (f : Host.Endpoint → Host.Endpoint) : WorldM Bool :=
  modifyGet fun w =>
    match w.host.find? fd with
    | some { target := .socket id, .. } => (true, { w with host := w.host.modifyEndpoint id f })
    | _ => (false, w)

/-- Ends directions of a socket; answers whether that worked. -/
def shutdown (fd : Fd) (receiving sending : Bool) : WorldM Bool :=
  modifyGet fun w =>
    let (result, host) := w.host.shutdown fd receiving sending
    (result.toBool, { w with host })

/-- One plain call that moves data: the count, or -1. -/
def plainCount (p : Program (Except Errno Int)) : WorldM Int := do
  match ← perform p with
  | .ok count => return count
  | .error _ => return -1

/-- How a transfer between two handles stands. -/
structure Transit where
  /-- What is still to be sent. -/
  rest : Bytes
  received : Bytes := []
  /-- Why sending stopped early. -/
  failure : Option Errno := none
deriving DecidableEq, Repr

/-- How a transfer ends for its reader. -/
inductive TransitEnd where
  | finished
  | failed (cause : Error)
  /-- Nothing more will come, and no end either. -/
  | waitsForever
deriving DecidableEq, Repr

/-- Whether the sender has nothing left to do. -/
def Transit.isSent (t : Transit) : Bool := t.rest = [] || t.failure.isSome

/-- One send of as much as there is room for. -/
def sendSome (source : String) (t : Transit) : WorldM Transit := do
  if t.isSent then return t
  match ← Program.ask (.send ((← get).fd source) t.rest Transfer.noSignalFlag) with
  | .ok count => return { t with rest := t.rest.drop count.toNat }
  | .error errno => return if errno = .wouldBlock then t else { t with failure := some errno }

/-- Sends from one handle while another one reads, until the reader meets an
end or an error.  The sender's handle is closed when it is done. -/
def transfer (source target : String) (size : Nat) :
    (fuel : Nat) → Transit → WorldM (Transit × TransitEnd)
  | 0, t => return (t, .waitsForever)
  | fuel + 1, t => do
    let t ← sendSome source t
    if t.isSent then onHandle source fun h => return ((), ← h.close)
    match ← onHandle target fun h => h.read size with
    | .ok (0, _) => return (t, .finished)
    | .ok (_, data) => transfer source target size fuel { t with received := t.received ++ data }
    | .error cause =>
      if cause ≠ .io .wouldBlock then return (t, .failed cause)
      else if t.isSent then return (t, .waitsForever)
      else transfer source target size fuel t

end WorldM

end ReceiveReactor
