import ReceiveReactor.Host.Endpoint
import ReceiveReactor.Host.Pipe

/-!
# The host

The descriptors of one process and what they refer to.  A new descriptor gets
the **lowest number that is free**.

* `Host.find?` — the view: what a descriptor refers to;
* `Host.newPipe`, `Host.newPair`, `Host.newListener` — things made without the
  library;
* `Host.close` — a descriptor's end, with its consequences for the far end.
-/

namespace ReceiveReactor

namespace Host

/-- What a descriptor refers to. -/
inductive Target where
  | pipeReader (id : Nat)
  | pipeWriter (id : Nat)
  | socket (id : Nat)
deriving DecidableEq, Repr

/-- An open descriptor. -/
structure Descriptor where
  number : Nat
  target : Target
  nonBlocking : Bool
  closeOnExec : Bool
deriving DecidableEq, Repr

end Host

open Host in
/-- The descriptors of a process, and all pipes and sockets ever made. -/
structure Host where
  descriptors : List Descriptor := []
  pipes : List Pipe := []
  endpoints : List Endpoint := []
  /-- The next port that the kernel chooses. -/
  nextPort : Nat := 32768
  /-- The failures of the next waits. -/
  waitFailures : List Errno := []
deriving DecidableEq, Repr

namespace Host

/-- The lowest number a descriptor can get; those below are taken. -/
def firstNumber : Nat := 3

/-- The descriptor with a number, if it is open. -/
def find? (h : Host) (fd : Fd) : Option Descriptor :=
  if fd < 0 then none else h.descriptors.find? fun d => d.number == fd.toInt.toNat

/-- The lowest number that is free. -/
def freeNumber (h : Host) : Nat :=
  ((List.range (h.descriptors.length + 1)).map (· + firstNumber)).find?
    (fun n => !h.descriptors.any fun d => d.number == n) |>.getD firstNumber

/-- Opens a descriptor. -/
def openDescriptor (h : Host) (target : Target) (nonBlocking closeOnExec : Bool) : Fd × Host :=
  let number := h.freeNumber
  (Int32.ofNat number,
    { h with descriptors := { number, target, nonBlocking, closeOnExec } :: h.descriptors })

/-- The socket with an identity. -/
def endpoint? (h : Host) (id : Nat) : Option Endpoint := h.endpoints[id]?

/-- The socket behind a descriptor, if it is one. -/
def socket? (h : Host) (fd : Fd) : Option Endpoint :=
  (h.find? fd).bind fun d =>
    match d.target with
    | .socket id => h.endpoint? id
    | _ => none

/-- Changes a socket. -/
def modifyEndpoint (h : Host) (id : Nat) (f : Endpoint → Endpoint) : Host :=
  { h with endpoints := h.endpoints.modify id f }

/-- Changes a pipe. -/
def modifyPipe (h : Host) (id : Nat) (f : Pipe → Pipe) : Host :=
  { h with pipes := h.pipes.modify id f }

/-- A pipe, read end first. -/
def newPipe (h : Host) (nonBlocking closeOnExec : Bool) : (Fd × Fd) × Host :=
  let id := h.pipes.length
  let h := { h with pipes := h.pipes ++ [Pipe.empty] }
  let (reader, h) := h.openDescriptor (.pipeReader id) nonBlocking closeOnExec
  let (writer, h) := h.openDescriptor (.pipeWriter id) nonBlocking closeOnExec
  ((reader, writer), h)

/-- A new socket without a descriptor. -/
def addEndpoint (h : Host) (e : Endpoint) : Nat × Host :=
  (h.endpoints.length, { h with endpoints := h.endpoints ++ [e] })

/-- Two unnamed sockets linked to each other, both non-blocking. -/
def newPair (h : Host) (kind : SocketKind) : (Fd × Fd) × Host :=
  let (a, h) := h.addEndpoint { family := .unix, kind, connected := true }
  let (b, h) := h.addEndpoint { family := .unix, kind, connected := true, peer := some a }
  let h := h.modifyEndpoint a fun e => { e with peer := some b }
  let (left, h) := h.openDescriptor (.socket a) true true
  let (right, h) := h.openDescriptor (.socket b) true true
  ((left, right), h)

/-- A listening stream socket of this machine and a client linked to it, whose
connection waits to be accepted. -/
def newListener (h : Host) : (Fd × Fd) × Host :=
  let (server, h) := h.addEndpoint { family := .unix, kind := .stream, connected := true }
  let (client, h) := h.addEndpoint
    { family := .unix, kind := .stream, connected := true, peer := some server }
  let h := h.modifyEndpoint server fun e => { e with peer := some client }
  let (listener, h) := h.addEndpoint
    { family := .unix, kind := .stream, listening := true, backlog := [server] }
  let (left, h) := h.openDescriptor (.socket listener) false true
  let (right, h) := h.openDescriptor (.socket client) true true
  ((left, right), h)

/-- What the far end of a linked socket sees when this one goes: nothing more
can move, and data that was never read counts as a reset.  A datagram socket's
far end sees nothing. -/
def abandon (e : Endpoint) (far : Endpoint) : Endpoint :=
  if e.kind = .datagram then far
  else
    { far with
      receiveShut := true
      sendShut := true
      pending := if e.inbox = [] then far.pending else some .connectionReset }

/-- Ends a socket, and with a listener the connections that wait at it. -/
def closeEndpoint (h : Host) (id : Nat) : Host :=
  match h.endpoint? id with
  | none => h
  | some e =>
    let h := h.modifyEndpoint id fun e => { e with alive := false, backlog := [], listening := false }
    let h := match e.peer with
      | some far => h.modifyEndpoint far (abandon e)
      | none => h
    e.backlog.foldl
      (fun h waiting =>
        match h.endpoint? waiting with
        | some w =>
          let h := h.modifyEndpoint waiting fun w => { w with alive := false }
          match w.peer with
          | some far => h.modifyEndpoint far fun f =>
            { abandon w f with pending := some .connectionReset }
          | none => h
        | none => h)
      h

/-- Closes a descriptor. -/
def close (h : Host) (fd : Fd) : Host :=
  match h.find? fd with
  | none => h
  | some d =>
    let h := { h with descriptors := h.descriptors.filter fun other => other.number != d.number }
    match d.target with
    | .pipeReader id => h.modifyPipe id fun p => { p with readerOpen := false }
    | .pipeWriter id => h.modifyPipe id fun p => { p with writerOpen := false }
    | .socket id => h.closeEndpoint id

/-- What receiving changes about a host: how far everything has been read, what
is open, and the failures that are due. -/
structure Level where
  pipes : List (Nat × Nat)
  endpoints : List (Nat × Nat × Bool)
  descriptors : Nat
  failures : Nat
deriving DecidableEq, Repr

/-- How far everything has been read. -/
def level (h : Host) : Level where
  pipes := h.pipes.map Pipe.level
  endpoints := h.endpoints.map Endpoint.level
  descriptors := h.descriptors.length
  failures := h.waitFailures.length

/-- What a wait for input finds on a descriptor. -/
def readEvents (h : Host) (fd : Fd) : Events :=
  if fd < 0 then .none
  else
    match h.find? fd with
    | none => .invalid
    | some d =>
      match d.target with
      | .pipeReader id => ((h.pipes[id]?).map Pipe.readEvents).getD .none
      | .pipeWriter id => ((h.pipes[id]?).map Pipe.writeEvents).getD .none
      | .socket id => ((h.endpoint? id).map Endpoint.readEvents).getD .none

end Host

end ReceiveReactor
