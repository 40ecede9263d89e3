import ReceiveReactor.Proofs.Attempt
import ReceiveReactor.Proofs.Footprint
import ReceiveReactor.Proofs.Source

/-!
# A descriptor with its datagrams

Datagrams wait on a descriptor in the order in which they came.  A receive takes the
oldest one or nothing, and no other call takes any.

* `DatagramPort` — such a descriptor, with **what the kernel promises**;
* `DatagramPort.receive_cases` — what a task's receive into a buffer comes to.
-/

namespace ReceiveReactor

open Transfer

/-- A datagram: what it carries, and who sent it where that is an internet
address. -/
structure Message where
  data : Bytes
  source : Option Address
deriving DecidableEq, Repr

/-- A datagram in a buffer of some size. -/
def Message.cut (size : Nat) (m : Message) : Message := { m with data := m.data.take size }

/-- What a callback sees of a delivery. -/
def Delivery.message (d : Delivery) : Message := ⟨d.buffer.filled, d.origin.sender⟩

/-- An open descriptor on which datagrams wait, oldest first.  A receive that asks for
the real size takes the oldest one, stores what fits and its sender, and returns the
real size; or it fails, and then nothing has moved. -/
structure DatagramPort {σ ω : Type} (K : ControlPipe σ ω) (fd : Fd) where
  queued : σ → List Message
  /-- What something that happens elsewhere brings. -/
  arrives : ω → σ → List Message
  ne_sender : K.sender.fd ≠ fd
  ne_receiver : K.receiver.fd ≠ fd
  queued_outside : ∀ o h, queued (K.outside o h) = queued h ++ arrives o h
  queued_spared : ∀ c h, c.spares K.sender fd = true →
    queued (K.kernel.answer c h).2 = queued h
  recvfrom_cases : ∀ size h,
    (∃ m received, (K.kernel.answer (.recvfrom fd size truncateFlag) h).1 = .ok received ∧
      m.data.length < UInt64.size ∧ received.count = m.data.length ∧
      received.data = m.data.take size ∧ received.sender.Holds m.source ∧
      queued h = m :: queued (K.kernel.answer (.recvfrom fd size truncateFlag) h).2) ∨
    ∃ errno, (K.kernel.answer (.recvfrom fd size truncateFlag) h).1 = .error errno ∧
      queued (K.kernel.answer (.recvfrom fd size truncateFlag) h).2 = queued h

namespace DatagramPort

variable {σ ω : Type} {K : ControlPipe σ ω} {fd : Fd}

/-- **A receive into a buffer** fills it with the oldest datagram, or fails and takes
nothing. -/
theorem receive_cases (P : DatagramPort K fd) (b : Buffer) (h : σ) :
    (∃ m origin, P.queued h =
        m :: P.queued ((ReceiveTask.receive .datagram fd b).run K.kernel h).2 ∧
      ((ReceiveTask.receive .datagram fd b).run K.kernel h).1.origin = some origin ∧
      Delivery.message ⟨((ReceiveTask.receive .datagram fd b).run K.kernel h).1.buffer, origin⟩ =
        m.cut b.capacity) ∨
    ((ReceiveTask.receive .datagram fd b).run K.kernel h).1.origin = none ∧
      (∃ errno, (K.kernel.answer (.recvfrom fd b.capacity truncateFlag) h).1 = .error errno) ∧
      P.queued ((ReceiveTask.receive .datagram fd b).run K.kernel h).2 = P.queued h := by
  have hcases := P.recvfrom_cases b.capacity h
  simp only [ReceiveTask.receive, ReceiveTask.receiveDatagram, receiveFrom, Program.run_bind]
  rw [Program.run_ask]
  generalize K.kernel.answer (.recvfrom fd b.capacity truncateFlag) h = answer at hcases ⊢
  obtain ⟨result, host⟩ := answer
  rcases hcases with
    ⟨m, received, rfl, hlt, hcount, hdata, hholds, hqueued⟩ | ⟨errno, rfl, hqueued⟩
  · left
    have hwire : wordOfCount received.count = m.data.length := by
      rw [hcount, wordOfCount_natCast hlt]
    have hlen : min (wordOfCount received.count) b.capacity =
        (m.data.take b.capacity).length := by
      rw [hwire, List.length_take, Nat.min_comm]
    refine ⟨m, { sender := received.sender.address? }, hqueued, rfl, ?_⟩
    simp only [Program.run_pure, hlen, hdata, Delivery.message, Message.cut,
      StoredAddress.address?_of_holds hholds]
    rw [Buffer.filled_receive (List.length_take_le _ _)]
  · exact Or.inr ⟨rfl, ⟨errno, rfl⟩, hqueued⟩

end DatagramPort

end ReceiveReactor
