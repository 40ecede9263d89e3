import ReceiveReactor.Control.Record
import ReceiveReactor.Kernel.Program

/-!
# The control channel

A private pipe between registering threads and the reactor.  Producers write
one record per command; the reactor waits on the read end beside its sockets
and reads one record per wake.  Both ends are non-blocking, so a full pipe is
a failure that the sender may retry.

* `ControlChannel.open` — the two ends;
* `ControlSender.send` — all of a record or an error;
* `ControlReceiver.receive` — one whole record or an error.
-/

namespace ReceiveReactor

/-- The write end, shared by every registering thread. -/
structure ControlSender where
  fd : Fd
deriving DecidableEq, Repr

/-- The read end, owned by the reactor thread. -/
structure ControlReceiver where
  fd : Fd
deriving DecidableEq, Repr

namespace ControlChannel

/-- The flag that closes a descriptor when another program is started. -/
def closeOnExec : Nat := 0x80000

/-- The flag that makes a descriptor non-blocking. -/
def nonBlocking : Nat := 0x800

/-- Opens the pipe. -/
def «open» : Program (Except Errno (ControlSender × ControlReceiver)) := do
  match ← Program.ask (.pipe (closeOnExec ||| nonBlocking)) with
  | .error errno => return .error errno
  | .ok (readEnd, writeEnd) => return .ok (⟨writeEnd⟩, ⟨readEnd⟩)

/-- The error of a transfer that moved `count` bytes instead of a record. -/
def shortTransfer (count : Int) (errno : Errno) : ReactorError :=
  .controlChannel count.toNat ControlRecord.size errno

end ControlChannel

/-- Writes one record.  Never waits: a full pipe is an error, and then nothing
was written. -/
def ControlSender.send (s : ControlSender) (r : ControlRecord) :
    Program (Except ReactorError Unit) := do
  match ← Program.ask (.write s.fd r.encode) with
  | .error errno => return .error (ControlChannel.shortTransfer 0 errno)
  | .ok count =>
    if count = ControlRecord.size then return .ok ()
    else return .error (ControlChannel.shortTransfer count Errno.none)

/-- Reads one record.  A read that is cut short is an error and **what it did
read is dropped**. -/
def ControlReceiver.receive (c : ControlReceiver) :
    Program (Except ReactorError ControlRecord) := do
  match ← Program.ask (.read c.fd ControlRecord.size) with
  | .error errno => return .error (ControlChannel.shortTransfer 0 errno)
  | .ok received =>
    if received.count = ControlRecord.size then
      return ControlRecord.decode (Bytes.padTo ControlRecord.size received.data)
    else return .error (ControlChannel.shortTransfer received.count Errno.none)

end ReceiveReactor
