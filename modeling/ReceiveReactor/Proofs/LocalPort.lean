import ReceiveReactor.Proofs.DatagramPort
import ReceiveReactor.Proofs.LocalPipe

/-!
# A host with one pipe and one port

The host of `localPipe` with one descriptor more, on which datagrams wait.  The outside
sends them.

* `PortHost.answer` — the kernel;
* `localPort`, `datagramPort` — the laws of a control channel and those of a port hold
  for it.
-/

namespace ReceiveReactor

/-- A host with one pipe, and the datagrams that wait on its port. -/
structure PortHost extends PipeHost where
  queued : List Message := []
deriving DecidableEq, Repr

namespace PortHost

def port : Fd := 5

/-- The area that names a sender. -/
def areaOf : Option Address → StoredAddress
  | some a => .ofBytes a.toRaw a.toRaw.length
  | none => .untouched

theorem holds_areaOf (source : Option Address) : (areaOf source).Holds source := by
  cases source with
  | none => exact StoredAddress.holds_untouched
  | some a => exact StoredAddress.holds_ofBytes a

/-- A receive takes the oldest datagram, unless no count can tell its size. -/
def recvfrom (size : Nat) (h : PortHost) : Except Errno ReceivedFrom × PortHost :=
  match h.queued with
  | [] => (.error Errno.wouldBlock, h)
  | m :: rest =>
    if m.data.length < UInt64.size then
      (.ok { count := m.data.length, data := m.data.take size, sender := areaOf m.source },
        { h with queued := rest })
    else (.error Errno.messageTooLong, h)

/-- The kernel. -/
def answer (capacity : Nat) : (c : Call) → PortHost → c.Reply × PortHost
  | .recvfrom fd size _, h =>
    if fd = port then h.recvfrom size else (.error Errno.badDescriptor, h)
  | c, h =>
    let (reply, pipe) := PipeHost.answer capacity c h.toPipeHost
    (reply, { h with toPipeHost := pipe })

/-- A call that leaves the port alone moves the pipe at most. -/
theorem queued_answer (capacity : Nat) {c : Call} (h : PortHost)
    (hc : ∀ size flags, c ≠ .recvfrom port size flags) :
    (answer capacity c h).2.queued = h.queued := by
  cases c with
  | recvfrom fd size flags =>
      have hfd : fd ≠ port := by
        rintro rfl
        exact hc size flags rfl
      simp only [answer, if_neg hfd]
  | _ => rfl

/-- A receive leaves the pipe alone. -/
theorem bytes_recvfrom (size : Nat) (h : PortHost) : (h.recvfrom size).2.bytes = h.bytes := by
  unfold recvfrom
  split
  · rfl
  · split <;> rfl

end PortHost

/-- The pipe of a host with a port as a control channel. -/
def localPort (capacity : Nat) : ControlPipe PortHost (List Events × List Message) where
  kernel := ⟨PortHost.answer capacity⟩
  initial := {}
  outside o h := { h with found := o.1, queued := h.queued ++ o.2 }
  sender := ⟨PipeHost.writeEnd⟩
  receiver := ⟨PipeHost.readEnd⟩
  contents h := h.bytes
  contents_initial := rfl
  contents_outside := fun _ _ => rfl
  contents_poll := fun _ _ _ => rfl
  contents_close := fun fd h => h.toPipeHost.bytes_close fd
  write_cases := fun r h => (localPipe capacity).write_cases r h.toPipeHost
  read_cases := fun h => (localPipe capacity).read_cases h.toPipeHost

/-- Only the reactor reads the pipe of that host. -/
theorem private_localPort (capacity : Nat) : (localPort capacity).Private := by
  intro fd c h hfd hc
  cases c with
  | read other size =>
      obtain rfl : other = fd := of_decide_eq_true hc
      have hother : ¬ other = PipeHost.readEnd := hfd
      show (PortHost.answer capacity (.read other size) h).2.bytes = h.bytes
      simp only [PortHost.answer, PipeHost.answer, if_neg hother]
  | recvfrom other size flags =>
      show (PortHost.answer capacity (.recvfrom other size flags) h).2.bytes = h.bytes
      simp only [PortHost.answer]
      split
      · exact h.bytes_recvfrom size
      · rfl
  | recvmsg => rfl
  | _ => cases hc

/-- The port of that host. -/
def datagramPort (capacity : Nat) : DatagramPort (localPort capacity) PortHost.port where
  queued := PortHost.queued
  arrives o _ := o.2
  ne_sender := show PipeHost.writeEnd ≠ PortHost.port by decide
  ne_receiver := show PipeHost.readEnd ≠ PortHost.port by decide
  queued_outside := fun _ _ => rfl
  queued_spared := by
    intro c h hc
    refine PortHost.queued_answer capacity h ?_
    rintro size flags rfl
    exact absurd hc (by simp [Call.spares])
  recvfrom_cases := by
    intro size h
    have hanswer : (localPort capacity).kernel.answer
        (.recvfrom PortHost.port size Transfer.truncateFlag) h = h.recvfrom size := rfl
    rw [hanswer]
    unfold PortHost.recvfrom
    cases hqueued : h.queued with
    | nil => exact Or.inr ⟨_, rfl, hqueued⟩
    | cons m rest =>
        by_cases hlength : m.data.length < UInt64.size
        · simp only [if_pos hlength]
          exact Or.inl ⟨m, _, rfl, hlength, rfl, rfl, PortHost.holds_areaOf m.source, rfl⟩
        · simp only [if_neg hlength]
          exact Or.inr ⟨_, rfl, hqueued⟩

end ReceiveReactor
