import ReceiveReactor.Task

/-!
# Tasks with a visible consumer

A task as users of the library write it: what it receives, and a consumer that
keeps a record of everything that it was given.  A consumer may also stop its
reactor, call back into it, or panic.

* `Work`, `Action` — what a task does;
* `Event` — the record that one call of the consumer leaves.
-/

namespace ReceiveReactor

namespace World

/-- What one attempt of a task does. -/
inductive Work where
  /-- One of the receive tasks, with buffers from a pool. -/
  | receive (kind : TaskKind) (pool : Nat)
  /-- A single datagram receive into a buffer of its own. -/
  | closure (size : Nat)
  /-- Nothing at all. -/
  | idle
deriving DecidableEq, Repr

/-- What the consumer does besides keeping a record. -/
inductive Action where
  | none
  /-- Stops its reactor. -/
  | stop
  /-- Tries to register and to deregister another descriptor. -/
  | reenter (other : Fd)
  | panic
deriving DecidableEq, Repr

/-- A task with its consumer. -/
structure Job where
  /-- Tells jobs apart. -/
  id : Nat
  /-- The name under which its records are kept; one without a name keeps
  none. -/
  label : Option String
  work : Work
  action : Action := .none
  /-- The reactor that it was registered with. -/
  reactor : Option String := Option.none
  /-- The consumer keeps the buffers that it gets. -/
  retain : Bool := false
  /-- What a closure answers, attempt by attempt; then always to stay. -/
  answers : List Bool := []
deriving DecidableEq, Repr

/-- What a consumer was given. -/
inductive Observation where
  | delivered (kind : TaskKind) (data : Bytes) (origin : Origin)
  | datagram (data : Bytes) (wireLen : Nat) (truncated : Bool)
  | failed (cause : IoError)
deriving DecidableEq, Repr

/-- What came of the consumer's action. -/
inductive Aftermath where
  | none
  | stopped (running : Bool)
  | reentered (register deregister : Option ReactorError) (state : Option RegistrationState)
      (running : Bool)
deriving DecidableEq, Repr

/-- The record of one call of a consumer. -/
structure Event where
  task : String
  seen : Observation
  after : Aftermath := .none
deriving DecidableEq, Repr

end World

end ReceiveReactor
