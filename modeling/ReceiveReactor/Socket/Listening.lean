import ReceiveReactor.Address.Text
import ReceiveReactor.Kernel.Program

/-!
# Listening and accepting

A listener hands out connected sockets with the peer's address.  A connection
whose peer has no address of a known family is **closed again** and refused.
-/

namespace ReceiveReactor

/-- Makes a socket passive, with room for `backlog` pending connections. -/
def listenOn (fd : Fd) (backlog : Int32) : Program (Except SocketError Unit) := do
  match ← Program.ask (.listen fd backlog) with
  | .error errno => return .error (.listen errno backlog)
  | .ok () => return .ok ()

/-- Accepts one pending connection. -/
def acceptFrom (fd : Fd) : Program (Except SocketError (Fd × Address)) := do
  match ← Program.ask (.accept fd 0x80000) with
  | .error errno => return .error (.accept errno)
  | .ok (accepted, peer) =>
    match peer.address? with
    | some a => return .ok (accepted, a)
    | none =>
      Program.ask (.close accepted)
      return .error (.invalidAddress "invalid client address")

end ReceiveReactor
