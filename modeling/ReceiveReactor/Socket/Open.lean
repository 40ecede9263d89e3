import ReceiveReactor.Socket.Sctp

/-!
# Opening a socket

A socket is created so that it closes when another program is started.  An
SCTP socket is prepared on top, and **closed again** when that fails.
-/

namespace ReceiveReactor

/-- Opens a socket of a family, a kind and a protocol. -/
def openSocket (family : AddressFamily) (kind : SocketKind) (protocol : Protocol) :
    Program (Except SocketError Fd) := do
  match ← Program.ask (.socket family.number (kind.number ||| 0x80000) protocol.number) with
  | .error errno => return .error (.create errno protocol.name)
  | .ok fd =>
    if protocol = .sctp then
      match ← Sctp.prepare fd with
      | .ok () => return .ok fd
      | .error cause =>
        Program.ask (.close fd)
        return .error cause
    else return .ok fd

end ReceiveReactor
