import ReceiveReactor.Address.Text
import ReceiveReactor.Kernel.Program

/-!
# Binding and connecting

Both read the address from text first, so that malformed text fails **before
any call**.  Binding answers the address that the socket ended up with, which
differs from the requested one when the kernel chose the port.
-/

namespace ReceiveReactor

/-- The local address of a socket. -/
def boundAddress (fd : Fd) : Program (Except SocketError Address) := do
  match ← Program.ask (.getsockname fd) with
  | .error errno => return .error (.getOption errno "getsockname")
  | .ok stored =>
    match stored.address? with
    | some a => return .ok a
    | none => return .error (.invalidAddress "unsupported local address family")

/-- Binds a socket and answers the address that it got; where the kernel does
not tell, the requested one. -/
def bindAddress (fd : Fd) (ip : String) (port : UInt16) :
    Program (Except SocketError Address) := do
  match Address.parse ip port with
  | .error cause => return .error cause
  | .ok wanted =>
    match ← Program.ask (.bind fd wanted.toRaw) with
    | .error errno => return .error (.bind errno wanted.display)
    | .ok () =>
      match ← boundAddress fd with
      | .ok a => return .ok a
      | .error _ => return .ok wanted

/-- Connects a socket and answers the address read from the text. -/
def connectTo (fd : Fd) (ip : String) (port : UInt16) :
    Program (Except SocketError Address) := do
  match Address.parse ip port with
  | .error cause => return .error cause
  | .ok wanted =>
    match ← Program.ask (.connect fd wanted.toRaw) with
    | .error errno => return .error (.connect errno wanted.display)
    | .ok () => return .ok wanted

end ReceiveReactor
