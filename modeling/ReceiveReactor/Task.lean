import ReceiveReactor.Buffer
import ReceiveReactor.Registry
import ReceiveReactor.Socket.Sctp
import ReceiveReactor.Socket.Transfer

/-!
# Receive tasks

A task performs at most one receive per attempt and says whether its descriptor
stays registered.  The three kinds share one plan: take a buffer, receive into
it, hand it filled to the consumer.  They differ in what ends a registration:

    outcome                 datagram   message    stream
    pool exhausted          keep       keep       keep
    no data, interrupted    keep       keep       keep
    other receive error     keep       keep       retire
    receive of length 0     deliver    retire     retire

A message of length 0 that is a notification is delivered all the same.

* `ReceiveTask.attempt` — one attempt: the verdict, what to hand to the
  consumer, and the pool that is left.
-/

namespace ReceiveReactor

/-- What a task receives. -/
inductive TaskKind where
  | datagram
  | message
  | stream
deriving DecidableEq, Repr

/-- What is known about the origin of received data. -/
structure Origin where
  /-- Who sent it, where the receive tells. -/
  sender : Option Address := none
  info : Sctp.SendInfo := {}
  flags : Int32 := 0
deriving DecidableEq, Repr

/-- A filled buffer on its way to the consumer. -/
structure Delivery where
  buffer : Buffer
  origin : Origin
deriving DecidableEq, Repr

/-- How an attempt went: its verdict and the buffer that now belongs to the
consumer, if any. -/
structure Attempt where
  verdict : Verdict
  delivery : Option Delivery := none
deriving DecidableEq, Repr

/-- How a receive into a buffer went: the verdict, the buffer as the kernel
left it, and where its data came from if there is something to deliver. -/
structure Reception where
  verdict : Verdict
  buffer : Buffer
  origin : Option Origin := none
deriving DecidableEq, Repr

namespace ReceiveTask

/-- Receives one datagram.  Errors keep the registration. -/
def receiveDatagram (fd : Fd) (buffer : Buffer) : Program Reception := do
  match ← receiveFrom fd buffer.capacity with
  | .error _ => return ⟨.keep, buffer, none⟩
  | .ok d => return ⟨.keep, (buffer.receive d.stored).setLen d.len, some { sender := d.sender }⟩

/-- Receives one message.  An empty one that is no notification ends the
registration; errors keep it. -/
def receiveMessage (fd : Fd) (buffer : Buffer) : Program Reception := do
  match ← Sctp.receiveMessage fd buffer.capacity with
  | .error _ => return ⟨.keep, buffer, none⟩
  | .ok m =>
    let filled := buffer.receive m.stored
    if m.len = 0 && !Sctp.isNotification m.flags then return ⟨.retire, filled, none⟩
    else
      return ⟨.keep, filled.setLen m.len,
        some { sender := m.sender, info := m.info, flags := m.flags }⟩

/-- Reads once from a stream.  Its end and every error that is not transient
end the registration. -/
def receiveStream (fd : Fd) (buffer : Buffer) : Program Reception := do
  match ← readStream fd buffer.capacity with
  | .error cause => return ⟨if cause.isTransient then .keep else .retire, buffer, none⟩
  | .ok (count, stored) =>
    let filled := buffer.receive stored
    if count = 0 then return ⟨.retire, filled, none⟩
    else return ⟨.keep, filled.setLen count, some {}⟩

/-- Receives once, as the kind of the task says. -/
def receive : TaskKind → Fd → Buffer → Program Reception
  | .datagram => receiveDatagram
  | .message => receiveMessage
  | .stream => receiveStream

/-- One attempt.  An exhausted pool makes **no receive at all**.  The buffer of
a receive that delivers nothing goes back to the pool; a delivered one belongs
to the consumer.  Storage that cannot be made panics. -/
def attempt (kind : TaskKind) (fd : Fd) (pool : BufferPool) : Program (Attempt × BufferPool) := do
  match pool.allocate with
  | (.exhausted, pool) => return (⟨.keep, none⟩, pool)
  | (.panicked, pool) => return (⟨.panic, none⟩, pool)
  | (.granted buffer, pool) =>
    let outcome ← receive kind fd buffer
    match outcome.origin with
    | some origin => return (⟨outcome.verdict, some ⟨outcome.buffer, origin⟩⟩, pool)
    | none => return (⟨outcome.verdict, none⟩, pool.release outcome.buffer)

end ReceiveTask

end ReceiveReactor
