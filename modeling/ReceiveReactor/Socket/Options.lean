import ReceiveReactor.Error
import ReceiveReactor.Kernel.Program
import ReceiveReactor.Socket.Kind

/-!
# Socket options

The general options of a socket: blocking or not, reuse of addresses, sizes of
the kernel's buffers, the receive timeout, and the kind read back.

* `Options.getOption`, `Options.setOption` — one option call with the name
  that its error shows;
* `timeval` — the structure that carries a receive timeout.
-/

namespace ReceiveReactor

namespace Options

/-- The level of the general options. -/
def socketLevel : Nat := 1

def reuseAddress : Nat := 2
def kindOption : Nat := 3
def sendBuffer : Nat := 7
def receiveBuffer : Nat := 8
def receiveTimeout : Nat := 20

/-- Sets one option; `shown` is its name in an error. -/
def setOption (fd : Fd) (level option : Nat) (shown : String) (value : Bytes) :
    Program (Except SocketError Unit) := do
  match ← Program.ask (.setsockopt fd level option value) with
  | .error errno => return .error (.setOption errno shown)
  | .ok () => return .ok ()

/-- Reads one option of `size` bytes; bytes that the kernel leaves alone are
zero. -/
def getOption (fd : Fd) (level option size : Nat) (shown : String) :
    Program (Except SocketError Bytes) := do
  match ← Program.ask (.getsockopt fd level option size) with
  | .error errno => return .error (.getOption errno shown)
  | .ok value => return .ok (Bytes.padTo size value)

/-- A size as the kernel's signed word of 32 bits: the **low** bits of it. -/
def narrow (size : Nat) : Bytes := Bytes.ofNatLE 4 size

/-- The two words of a receive timeout: the seconds, as a signed word of 64
bits, and the whole microseconds. -/
def timeval (seconds : UInt64) (nanoseconds : Nat) : Bytes :=
  Bytes.ofNatLE 8 seconds.toNat ++ Bytes.ofNatLE 8 (nanoseconds / 1000)

/-- The status flag of a non-blocking descriptor. -/
def nonBlockingFlag : Int32 := 0x800

end Options

open Options

/-- Sets or clears the non-blocking flag, leaving the other status flags as
they are. -/
def setNonBlocking (fd : Fd) (on : Bool) : Program (Except SocketError Unit) := do
  match ← Program.ask (.statusFlags fd) with
  | .error errno => return .error (.getOption errno "F_GETFL")
  | .ok flags =>
    let wanted := if on then flags ||| nonBlockingFlag else flags &&& ~~~nonBlockingFlag
    match ← Program.ask (.setStatusFlags fd wanted) with
    | .error errno => return .error (.setOption errno "O_NONBLOCK")
    | .ok () => return .ok ()

/-- Allows or forbids binding to an address that was in use a moment ago. -/
def setReuseAddress (fd : Fd) (on : Bool) : Program (Except SocketError Unit) :=
  setOption fd socketLevel reuseAddress "SO_REUSEADDR" (Bytes.ofNatLE 4 (if on then 1 else 0))

/-- Sets the size of the kernel's receive buffer. -/
def setReceiveBufferSize (fd : Fd) (size : Nat) : Program (Except SocketError Unit) :=
  setOption fd socketLevel receiveBuffer "SO_RCVBUF" (narrow size)

/-- Sets the size of the kernel's send buffer. -/
def setSendBufferSize (fd : Fd) (size : Nat) : Program (Except SocketError Unit) :=
  setOption fd socketLevel sendBuffer "SO_SNDBUF" (narrow size)

/-- Sets how long a blocking receive waits; zero waits for ever. -/
def setReceiveTimeout (fd : Fd) (seconds : UInt64) (nanoseconds : Nat) :
    Program (Except SocketError Unit) :=
  setOption fd socketLevel receiveTimeout "SO_RCVTIMEO" (timeval seconds nanoseconds)

/-- The kind of an open socket; nothing for a negative descriptor, for what is
no socket and for a kind without a name. -/
def socketKind (fd : Fd) : Program (Option SocketKind) := do
  if fd < 0 then return none
  match ← Program.ask (.getsockopt fd socketLevel kindOption 4) with
  | .error _ => return none
  | .ok value => return SocketKind.ofNumber? (Bytes.toNatLE (Bytes.padTo 4 value))

end ReceiveReactor
