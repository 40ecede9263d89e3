import ReceiveReactor.Proofs.Attempt
import ReceiveReactor.Proofs.Footprint

/-!
# A descriptor with a stream

The bytes of a stream wait on its descriptor in the order in which they were written.
A read takes some of them from the front or fails, and no other call takes any.

* `StreamPort` — such a descriptor, with **what the kernel promises**;
* `StreamPort.receive_cases` — what a task's receive into a buffer comes to.
-/

namespace ReceiveReactor

/-- An open descriptor on which the bytes of a stream wait.  A read takes them in order,
as many as it says, and none only if there is no room for any or none are left; or it
fails, and then nothing has moved.  Nothing but closing it closes the descriptor. -/
structure StreamPort {σ ω : Type} (K : ControlPipe σ ω) (fd : Fd) where
  unread : σ → Bytes
  isOpen : σ → Bool
  /-- What is written into the stream by something that happens elsewhere. -/
  written : ω → σ → Bytes
  ne_sender : K.sender.fd ≠ fd
  ne_receiver : K.receiver.fd ≠ fd
  unread_outside : ∀ o h, unread (K.outside o h) = unread h ++ written o h
  unread_spared : ∀ c h, c.spares K.sender fd = true →
    unread (K.kernel.answer c h).2 = unread h
  isOpen_answer : ∀ c h, c ≠ .close fd → isOpen (K.kernel.answer c h).2 = isOpen h
  read_cases : ∀ size h,
    (∃ front : Bytes,
      (K.kernel.answer (.read fd size) h).1 = .ok { count := front.length, data := front } ∧
      front.length ≤ size ∧ front.length < UInt64.size ∧
      (front = [] → size = 0 ∨ unread h = []) ∧
      unread h = front ++ unread (K.kernel.answer (.read fd size) h).2) ∨
    ∃ errno, (K.kernel.answer (.read fd size) h).1 = .error errno ∧
      unread (K.kernel.answer (.read fd size) h).2 = unread h

/-- What an errno of a read leaves of a registration. -/
def Verdict.ofReadError (errno : Errno) : Verdict :=
  if (IoError.ofReceive errno).isTransient then .keep else .retire

namespace StreamPort

variable {σ ω : Type} {K : ControlPipe σ ω} {fd : Fd}

/-- **A receive into a buffer** fills it from the front of what is unread; or it meets the
end of the stream, or fails, and takes nothing. -/
theorem receive_cases (P : StreamPort K fd) (b : Buffer) (h : σ) :
    (∃ origin, ((ReceiveTask.receive .stream fd b).run K.kernel h).1.origin = some origin ∧
      ((ReceiveTask.receive .stream fd b).run K.kernel h).1.verdict = .keep ∧
      ((ReceiveTask.receive .stream fd b).run K.kernel h).1.buffer.filled ≠ [] ∧
      P.unread h = ((ReceiveTask.receive .stream fd b).run K.kernel h).1.buffer.filled ++
        P.unread ((ReceiveTask.receive .stream fd b).run K.kernel h).2) ∨
    (((ReceiveTask.receive .stream fd b).run K.kernel h).1.origin = none ∧
      ((ReceiveTask.receive .stream fd b).run K.kernel h).1.verdict = .retire ∧
      (b.capacity = 0 ∨ P.unread h = []) ∧
      P.unread ((ReceiveTask.receive .stream fd b).run K.kernel h).2 = P.unread h) ∨
    ∃ errno, (K.kernel.answer (.read fd b.capacity) h).1 = .error errno ∧
      ((ReceiveTask.receive .stream fd b).run K.kernel h).1.origin = none ∧
      ((ReceiveTask.receive .stream fd b).run K.kernel h).1.verdict = .ofReadError errno ∧
      P.unread ((ReceiveTask.receive .stream fd b).run K.kernel h).2 = P.unread h := by
  have hcases := P.read_cases b.capacity h
  simp only [ReceiveTask.receive, ReceiveTask.receiveStream, readStream, Program.run_bind]
  rw [Program.run_ask]
  generalize K.kernel.answer (.read fd b.capacity) h = answer at hcases ⊢
  obtain ⟨result, host⟩ := answer
  rcases hcases with ⟨front, rfl, hfits, hlt, hend, hunread⟩ | ⟨errno, rfl, hunread⟩
  · have hcount : wordOfCount (front.length : Int) = front.length := wordOfCount_natCast hlt
    by_cases hfront : front = []
    · subst hfront
      exact Or.inr (Or.inl ⟨rfl, rfl, hend rfl, hunread.symm⟩)
    · have hpositive : ¬ front.length = 0 := mt List.length_eq_zero_iff.mp hfront
      left
      simp only [Program.run_pure, hcount, if_neg hpositive, Buffer.filled_receive hfits, true_and]
      exact ⟨{}, rfl, hfront, hunread⟩
  · exact Or.inr (Or.inr ⟨errno, rfl, rfl, rfl, hunread⟩)

end StreamPort

end ReceiveReactor
