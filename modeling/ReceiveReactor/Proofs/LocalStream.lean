import ReceiveReactor.Proofs.LocalPipe
import ReceiveReactor.Proofs.StreamPort

/-!
# A host with one pipe and one stream

The host of `localPipe` with one descriptor more, which is the near end of a stream.
The outside is the far end: it writes, and it goes away.

* `StreamHost.answer` — the kernel;
* `localStream`, `streamPort` — the laws of a control channel and those of a stream hold
  for it.
-/

namespace ReceiveReactor

/-- A host with one pipe, and the near end of a stream. -/
structure StreamHost extends PipeHost where
  unread : Bytes := []
  /-- The far end is gone, and after the unread bytes comes the end. -/
  ended : Bool := false
  isOpen : Bool := true
deriving DecidableEq, Repr

/-- What the outside does: it decides what the next waits find, writes some bytes into the
stream, and may go away. -/
structure StreamHost.Doing where
  found : List Events := []
  bytes : Bytes := []
  ends : Bool := false

namespace StreamHost

def port : Fd := 5

/-- The kernel transfers no more bytes in one call, whatever room there is. -/
def longestTransfer : Nat := 0x7ffff000

/-- A read takes what is there, as far as there is room; of an empty stream it waits for
the far end, or finds that there is none. -/
def read (size : Nat) (h : StreamHost) : Except Errno Received × StreamHost :=
  if h.isOpen = false then (.error Errno.badDescriptor, h)
  else if h.unread = [] then
    (if h.ended then .ok { count := 0 } else .error Errno.wouldBlock, h)
  else
    let most := min size longestTransfer
    (.ok { count := (h.unread.take most).length, data := h.unread.take most },
      { h with unread := h.unread.drop most })

/-- The kernel. -/
def answer (capacity : Nat) : (c : Call) → StreamHost → c.Reply × StreamHost
  | .read fd size, h =>
    if fd = port then h.read size
    else
      let (reply, pipe) := PipeHost.answer capacity (.read fd size) h.toPipeHost
      (reply, { h with toPipeHost := pipe })
  | .close fd, h =>
    ((), if fd = port then { h with isOpen := false }
      else { h with toPipeHost := h.toPipeHost.close fd })
  | c, h =>
    let (reply, pipe) := PipeHost.answer capacity c h.toPipeHost
    (reply, { h with toPipeHost := pipe })

/-- A read of the stream leaves all else alone. -/
theorem read_frame (size : Nat) (h : StreamHost) :
    (h.read size).2.toPipeHost = h.toPipeHost ∧ (h.read size).2.isOpen = h.isOpen := by
  unfold read
  split
  · exact ⟨rfl, rfl⟩
  · split <;> exact ⟨rfl, rfl⟩

/-- Nothing but a read of the stream takes anything out of it. -/
theorem unread_answer (capacity : Nat) {c : Call} (h : StreamHost)
    (hc : ∀ size, c ≠ .read port size) : (answer capacity c h).2.unread = h.unread := by
  cases c with
  | read fd size =>
      have hfd : fd ≠ port := by
        rintro rfl
        exact hc size rfl
      simp only [answer, if_neg hfd]
  | close fd =>
      simp only [answer]
      split <;> rfl
  | _ => rfl

/-- Nothing but its closing closes the stream. -/
theorem isOpen_answer (capacity : Nat) {c : Call} (h : StreamHost) (hc : c ≠ .close port) :
    (answer capacity c h).2.isOpen = h.isOpen := by
  cases c with
  | read fd size =>
      simp only [answer]
      split
      · exact (h.read_frame size).2
      · rfl
  | close fd =>
      have hfd : fd ≠ port := by
        rintro rfl
        exact hc rfl
      simp only [answer, if_neg hfd]
  | _ => rfl

end StreamHost

/-- The pipe of a host with a stream as a control channel. -/
def localStream (capacity : Nat) : ControlPipe StreamHost StreamHost.Doing where
  kernel := ⟨StreamHost.answer capacity⟩
  initial := {}
  outside o h :=
    { h with found := o.found, unread := h.unread ++ o.bytes, ended := h.ended || o.ends }
  sender := ⟨PipeHost.writeEnd⟩
  receiver := ⟨PipeHost.readEnd⟩
  contents h := h.bytes
  contents_initial := rfl
  contents_outside := fun _ _ => rfl
  contents_poll := fun _ _ _ => rfl
  contents_close := by
    intro fd h
    show (StreamHost.answer capacity (.close fd) h).2.bytes = h.bytes
    simp only [StreamHost.answer]
    split
    · rfl
    · exact h.toPipeHost.bytes_close fd
  write_cases := fun r h => (localPipe capacity).write_cases r h.toPipeHost
  read_cases := fun h => (localPipe capacity).read_cases h.toPipeHost

/-- Only the reactor reads the pipe of that host. -/
theorem private_localStream (capacity : Nat) : (localStream capacity).Private := by
  intro fd c h hfd hc
  cases c with
  | read other size =>
      obtain rfl : other = fd := of_decide_eq_true hc
      have hother : ¬ other = PipeHost.readEnd := hfd
      show (StreamHost.answer capacity (.read other size) h).2.bytes = h.bytes
      simp only [StreamHost.answer]
      split
      · rw [(h.read_frame size).1]
      · simp only [PipeHost.answer, if_neg hother]
  | recvfrom | recvmsg => rfl
  | _ => cases hc

/-- The near end of the stream of that host. -/
def streamPort (capacity : Nat) : StreamPort (localStream capacity) StreamHost.port where
  unread := StreamHost.unread
  isOpen := StreamHost.isOpen
  written o _ := o.bytes
  ne_sender := show PipeHost.writeEnd ≠ StreamHost.port by decide
  ne_receiver := show PipeHost.readEnd ≠ StreamHost.port by decide
  unread_outside := fun _ _ => rfl
  unread_spared := by
    intro c h hc
    refine StreamHost.unread_answer capacity h ?_
    rintro size rfl
    exact absurd hc (by simp [Call.spares])
  isOpen_answer := fun _ h hc => StreamHost.isOpen_answer capacity h hc
  read_cases := by
    intro size h
    show (∃ front : Bytes,
        (h.read size).1 = .ok { count := front.length, data := front } ∧
        front.length ≤ size ∧ front.length < UInt64.size ∧
        (front = [] → size = 0 ∨ h.unread = []) ∧ h.unread = front ++ (h.read size).2.unread) ∨
      ∃ errno, (h.read size).1 = .error errno ∧ (h.read size).2.unread = h.unread
    by_cases hclosed : h.isOpen = false
    · rw [StreamHost.read, if_pos hclosed]
      exact Or.inr ⟨_, rfl, rfl⟩
    · rw [StreamHost.read, if_neg hclosed]
      by_cases hempty : h.unread = []
      · rw [if_pos hempty]
        cases h.ended with
        | true => exact Or.inl ⟨[], rfl, Nat.zero_le _, by decide, fun _ => Or.inr hempty, rfl⟩
        | false => exact Or.inr ⟨_, rfl, rfl⟩
      · rw [if_neg hempty]
        have hlength : (h.unread.take (min size StreamHost.longestTransfer)).length ≤
            min size StreamHost.longestTransfer := List.length_take_le _ _
        have hword : StreamHost.longestTransfer < UInt64.size := by decide
        refine Or.inl ⟨_, rfl, Nat.le_trans hlength (Nat.min_le_left _ _),
          Nat.lt_of_le_of_lt (Nat.le_trans hlength (Nat.min_le_right _ _)) hword, ?_,
          (List.take_append_drop _ _).symm⟩
        intro hfront
        rcases List.take_eq_nil_iff.mp hfront with hzero | hnil
        · left
          unfold StreamHost.longestTransfer at hzero
          omega
        · exact absurd hnil hempty

end ReceiveReactor
