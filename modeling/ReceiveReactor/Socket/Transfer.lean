import ReceiveReactor.Address.Text
import ReceiveReactor.Kernel.Program

/-!
# Moving data

One datagram with its sender, one read of a stream, one datagram to an address,
and a whole buffer into a stream.

* `receiveFrom` — asks for the real size of a datagram even when it is cut;
* `readStream` — one read; 0 is the end of the stream;
* `sendStream` — sends on until all is out or a send moves nothing.
-/

namespace ReceiveReactor

namespace Transfer

/-- Asks for the real size of a datagram. -/
def truncateFlag : Nat := 0x20

/-- Asks not to be interrupted when the far end is gone. -/
def noSignalFlag : Nat := 0x4000

end Transfer

open Transfer

/-- One received datagram. -/
structure Datagram where
  /-- Bytes written into the caller's buffer. -/
  len : Nat
  /-- Size of the datagram on the wire. -/
  wireLen : Nat
  /-- What is stored at the beginning of the caller's buffer. -/
  stored : Bytes
  sender : Option Address
deriving DecidableEq, Repr

/-- Whether a datagram was longer than what was written. -/
def Datagram.isTruncated (d : Datagram) : Bool := d.len < d.wireLen

/-- Receives one datagram into a buffer of `size` bytes. -/
def receiveFrom (fd : Fd) (size : Nat) : Program (Except IoError Datagram) := do
  match ← Program.ask (.recvfrom fd size truncateFlag) with
  | .error errno => return .error (IoError.ofReceive errno)
  | .ok received =>
    let wireLen := wordOfCount received.count
    return .ok
      { len := min wireLen size
        wireLen
        stored := received.data
        sender := received.sender.address? }

/-- Sends one datagram; answers how many bytes went out. -/
def sendTo (fd : Fd) (data : Bytes) (address : Address) : Program (Except IoError Nat) := do
  match ← Program.ask (.sendto fd data noSignalFlag address.toRaw) with
  | .error errno => return .error (.write errno)
  | .ok count =>
    if 0 ≤ count then return .ok count.toNat else return .error (.write Errno.none)

/-- Reads once from a stream into a buffer of `size` bytes; answers the count
and what was stored.  0 is the end of the stream. -/
def readStream (fd : Fd) (size : Nat) : Program (Except IoError (Nat × Bytes)) := do
  match ← Program.ask (.read fd size) with
  | .error errno => return .error (IoError.ofReceive errno)
  | .ok received => return .ok (wordOfCount received.count, received.data)

/-- Sends the rest of a buffer of which `sent` bytes are out. -/
def sendRest (fd : Fd) (sent : Nat) (rest : Bytes) : Program (Except IoError Nat) :=
  if rest = [] then pure (.ok sent)
  else do
    match ← Program.ask (.send fd rest noSignalFlag) with
    | .error errno => return .error (.partialSend sent rest.length errno)
    | .ok count =>
      if count < 1 then return .error (.partialSend sent rest.length Errno.none)
      else sendRest fd (sent + count.toNat) (rest.drop count.toNat)
termination_by rest.length
decreasing_by
  have : 0 < rest.length := List.length_pos_iff.mpr ‹_›
  simp only [List.length_drop]
  omega

/-- Sends all of a buffer, going on after short writes; a send that moves less
than one byte ends it with how far it got. -/
def sendStream (fd : Fd) (data : Bytes) : Program (Except IoError Nat) :=
  sendRest fd 0 data

end ReceiveReactor
