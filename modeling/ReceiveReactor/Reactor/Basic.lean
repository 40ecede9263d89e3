import ReceiveReactor.Control.Channel
import ReceiveReactor.Reactor.Config
import ReceiveReactor.Registry

/-!
# The shared half of a reactor

What the users of a reactor share with its thread: the registry under one lock
and the sending end of the control channel under another.  Membership has two
views.  The registry is changed by callers; the readiness set is changed by the
reactor thread alone, which follows the records in the channel.

* a registration is entered as pending and announced; on failure it is rolled
  back;
* a deregistration is announced and then taken out; on failure nothing changes;
* the exit record is sent **at most once**.

Each `try` operation below is one stretch under both locks.  A full channel
makes it answer `retry`: the caller lets the locks go and tries again.
-/

namespace ReceiveReactor

/-- What one stretch of a call under the locks came to. -/
inductive Progress where
  | done
  | failed (cause : ReactorError)
  /-- The control channel is full; nothing has changed. -/
  | retry
  /-- The calling thread panics; nothing has changed. -/
  | panicked
deriving DecidableEq, Repr

/-- The registry, the sending end while there is one, whether the reactor was
told to exit, and whether its thread has still to be joined. -/
structure Reactor (τ : Type) where
  registry : Registry τ := {}
  sender : Option ControlSender
  exitSent : Bool := false
  joinable : Bool := true
deriving DecidableEq, Repr

namespace Reactor

variable {τ : Type}

/-- A reactor that has just been started on a channel. -/
def ofSender (sender : ControlSender) : Reactor τ := { sender := some sender }

/-- The sending end, as long as the reactor has not been told to exit. -/
def runningSender? (r : Reactor τ) : Option ControlSender :=
  if r.exitSent then none else r.sender

/-- Whether the reactor has **not yet been told to exit**. -/
def isRunning (r : Reactor τ) : Bool := r.runningSender?.isSome

/-- The state of a descriptor's registration.  On the reactor thread, where the
registry is locked for dispatch, there is none to see. -/
def state? (r : Reactor τ) (onReactorThread : Bool) (fd : Fd) : Option RegistrationState :=
  if onReactorThread then none else r.registry.state? fd

/-- Whether a descriptor is open. -/
def isOpenDescriptor (fd : Fd) : Program Bool := do
  if fd < 0 then return false
  match ← Program.ask (.descriptorFlags fd) with
  | .error _ => return false
  | .ok () => return true

/-- What speaks against a registration before any lock is taken. -/
def refusesRegister (onReactorThread : Bool) (fd : Fd) : Program (Option ReactorError) := do
  if onReactorThread then return some .reentrantCall
  if ← isOpenDescriptor fd then return none
  return some (.invalidDescriptor fd)

/-- What speaks against a deregistration before any lock is taken. -/
def refusesDeregister (onReactorThread : Bool) : Option ReactorError :=
  if onReactorThread then some .reentrantCall else none

/-- One stretch of a registration: enter the task as pending, announce it, and
take it out again when that fails. -/
def tryRegister (r : Reactor τ) (fd : Fd) (task : τ) : Program (Progress × Reactor τ) := do
  match r.runningSender? with
  | none => return (.failed .stopped, r)
  | some sender =>
    match r.registry.insert fd task with
    | (.refused cause, _) => return (.failed cause, r)
    | (.panicked, _) => return (.panicked, r)
    | (.entered generation, entered) =>
      match ← sender.send (.register fd generation) with
      | .ok () => return (.done, { r with registry := entered })
      | .error cause =>
        let rolledBack := { r with registry := entered.erase fd }
        return (if cause.isChannelFull then .retry else .failed cause, rolledBack)

/-- One stretch of a deregistration: announce it, then take the entry out. -/
def tryDeregister (r : Reactor τ) (fd : Fd) : Program (Progress × Reactor τ) := do
  match r.runningSender? with
  | none => return (.failed .stopped, r)
  | some sender =>
    match r.registry.generation? fd with
    | none => return (.failed (.notRegistered fd), r)
    | some generation =>
      match ← sender.send (.deregister fd generation) with
      | .ok () => return (.done, { r with registry := r.registry.erase fd })
      | .error cause => return (if cause.isChannelFull then .retry else .failed cause, r)

/-- One stretch of a stop: send the exit record.  A failure other than a full
channel **counts as told** too. -/
def tryExit (r : Reactor τ) : Program (Progress × Reactor τ) := do
  match r.runningSender? with
  | none => return (.done, r)
  | some sender =>
    match ← sender.send .exit with
    | .ok () => return (.done, { r with exitSent := true })
    | .error cause =>
      if cause.isChannelFull then return (.retry, r)
      else return (.done, { r with exitSent := true })

/-- Takes the right to join the thread; only one caller gets it. -/
def takeJoin (r : Reactor τ) : Bool × Reactor τ :=
  (r.joinable, { r with joinable := false })

/-- Closes the sending end of the channel. -/
def closeChannel (r : Reactor τ) : Program (Reactor τ) := do
  if let some sender := r.sender then Program.ask (.close sender.fd)
  return { r with sender := none }

/-- Drops every registration that is left. -/
def dropAll (r : Reactor τ) : Reactor τ := { r with registry := r.registry.clear }

/-- What the caller that joined the thread does last: close the channel, under
its lock, and drop the registrations, under theirs. -/
def finishStop (r : Reactor τ) : Program (Reactor τ) := do
  return (← r.closeChannel).dropAll

/-- How a reactor describes itself. -/
def describe (r : Reactor τ) (quotedName : String) : String :=
  "SocketReactor \x7b name: " ++ quotedName ++ ", running: " ++ toString r.isRunning ++ ", .. \x7d"

end Reactor

end ReceiveReactor
