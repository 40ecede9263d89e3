import ReceiveReactor.Host.Basic
import ReceiveReactor.Socket.Sctp

/-!
# Socket options of the host

The general options that the host knows, with what it makes of a value, and
the refusal of every SCTP option.

* `Endpoint.setOption`, `Endpoint.getOption` — one option of a socket.
-/

namespace ReceiveReactor

namespace Host

namespace Endpoint

/-- The largest size that a caller may ask for. -/
def maxBuffer : Nat := 212992

/-- The smallest receive buffer. -/
def minReceiveBuffer : Nat := 2304

/-- The smallest send buffer. -/
def minSendBuffer : Nat := 4608

/-- What a wanted buffer size becomes: **twice as much**, within bounds. -/
def granted (least wanted : Nat) : Nat := max least (2 * min wanted maxBuffer)

/-- Ticks of the host's clock in a second; a timeout is rounded up to them. -/
def ticks : Nat := 250

/-- The largest number of ticks of a timeout. -/
def maxTicks : Nat := UInt64.size / 2 - 1

/-- What a timeout becomes, as seconds and microseconds.  Seconds below zero
and more than the clock can count read back as none. -/
def timeout? (seconds : Int) (micros : Nat) : Option (Nat × Nat) :=
  if 1000000 ≤ micros then none
  else if seconds < 0 ∨ maxTicks / ticks - 1 ≤ seconds.toNat then some (0, 0)
  else
    let unit := 1000000 / ticks
    let all := seconds.toNat * ticks + (micros + unit - 1) / unit
    some (all / ticks, all % ticks * unit)

/-- Sets an option. -/
def setOption (e : Endpoint) (level option : Nat) (value : Bytes) : Except Errno Endpoint :=
  let number := Bytes.fieldLE value 0 4
  if level = Sctp.level then
    .error (if e.family = .unix then .operationNotSupported else .optionNotAvailable)
  else if option = Options.reuseAddress then .ok { e with reuseAddress := number != 0 }
  else if option = Options.receiveBuffer then
    .ok { e with receiveBuffer := granted minReceiveBuffer number }
  else if option = Options.sendBuffer then
    .ok { e with sendBuffer := granted minSendBuffer number }
  else if option = Options.receiveTimeout then
    match timeout? (Int64.ofNat (Bytes.fieldLE value 0 8)).toInt (Bytes.fieldLE value 8 8) with
    | some receiveTimeout => .ok { e with receiveTimeout }
    | none => .error .outOfDomain
  else .error .optionNotAvailable

/-- Reads an option. -/
def getOption (e : Endpoint) (level option : Nat) : Except Errno Bytes :=
  if level = Sctp.level then
    .error (if e.family = .ipv6 then .optionNotAvailable else .operationNotSupported)
  else if option = Options.kindOption then .ok (Bytes.ofNatLE 4 e.kind.number)
  else if option = Options.reuseAddress then
    .ok (Bytes.ofNatLE 4 (if e.reuseAddress then 1 else 0))
  else if option = Options.receiveBuffer then .ok (Bytes.ofNatLE 4 e.receiveBuffer)
  else if option = Options.sendBuffer then .ok (Bytes.ofNatLE 4 e.sendBuffer)
  else if option = Options.receiveTimeout then
    .ok (Bytes.ofNatLE 8 e.receiveTimeout.1 ++ Bytes.ofNatLE 8 e.receiveTimeout.2)
  else .error .optionNotAvailable

end Endpoint

end Host

end ReceiveReactor
