import ReceiveReactor.Proofs.Effect

/-!
# A host with one pipe

The smallest kernel under which a reactor runs: a pipe of a fixed capacity and,
beside it, what the next waits find for watched descriptors, which the outside
decides.  A write that does not fit and a read of nothing fail as they do on a
non-blocking pipe.  Either end can be closed: then a write finds **a broken pipe**, and a
read **the end** of what was written.

* `PipeHost.answer` — the kernel;
* `localPipe` — the laws of a control channel hold for it.
-/

namespace ReceiveReactor

/-- What a call answers that is refused.  Closing never is. -/
def Call.refused (errno : Errno) : (c : Call) → c.Reply
  | .close .. => ()
  | .socket .. | .bind .. | .connect .. | .listen .. | .accept .. => .error errno
  | .getsockname .. | .getsockopt .. | .setsockopt .. => .error errno
  | .recvfrom .. | .recvmsg .. | .sendto .. | .send .. | .read .. | .write .. => .error errno
  | .descriptorFlags .. | .statusFlags .. | .setStatusFlags .. => .error errno
  | .poll .. | .pipe .. => .error errno

/-- A pipe with its two ends, and what the next waits find for the watched descriptors in
set order. -/
structure PipeHost where
  bytes : Bytes := []
  found : List Events := []
  readerOpen : Bool := true
  writerOpen : Bool := true
deriving DecidableEq, Repr

namespace PipeHost

def readEnd : Fd := 3
def writeEnd : Fd := 4

/-- Neither end has been closed. -/
def BothOpen (h : PipeHost) : Prop := h.readerOpen = true ∧ h.writerOpen = true

instance (h : PipeHost) : Decidable h.BothOpen :=
  inferInstanceAs (Decidable (h.readerOpen = true ∧ h.writerOpen = true))

/-- A write is all or nothing.  Without a reader it finds a broken pipe. -/
def write (capacity : Nat) (data : Bytes) (h : PipeHost) : Except Errno Int × PipeHost :=
  if h.writerOpen = false then (.error Errno.badDescriptor, h)
  else if h.readerOpen = false then (.error Errno.brokenPipe, h)
  else if h.bytes.length + data.length ≤ capacity then
    (.ok data.length, { h with bytes := h.bytes ++ data })
  else (.error Errno.wouldBlock, h)

/-- A read takes what is there.  Of an empty pipe it finds the end, once there is no
writer. -/
def read (size : Nat) (h : PipeHost) : Except Errno Received × PipeHost :=
  if h.readerOpen = false then (.error Errno.badDescriptor, h)
  else if h.bytes = [] ∧ h.writerOpen = true then (.error Errno.wouldBlock, h)
  else (.ok { count := (h.bytes.take size).length, data := h.bytes.take size },
    { h with bytes := h.bytes.drop size })

/-- What a wait finds on the read end. -/
def events (h : PipeHost) : Events :=
  if h.readerOpen = false then .invalid
  else (if h.bytes = [] then .none else .input) ∪ (if h.writerOpen then .none else .hangup)

/-- A wait finds the control channel readable exactly if the pipe holds
something. -/
def poll (h : PipeHost) : Except Errno (Int × List Events) :=
  let results := h.events :: h.found
  .ok ((results.filter fun e => e ≠ .none).length, results)

/-- The end of an end. -/
def close (fd : Fd) (h : PipeHost) : PipeHost :=
  if fd = readEnd then { h with readerOpen := false }
  else if fd = writeEnd then { h with writerOpen := false }
  else h

/-- The kernel.  Nothing but the pipe is open. -/
def answer (capacity : Nat) : (c : Call) → PipeHost → c.Reply × PipeHost
  | .write fd data, h =>
    if fd = writeEnd then h.write capacity data else (.error Errno.badDescriptor, h)
  | .read fd size, h => if fd = readEnd then h.read size else (.error Errno.badDescriptor, h)
  | .poll _ _, h => (h.poll, h)
  | .close fd, h => ((), h.close fd)
  | c, h => (c.refused Errno.badDescriptor, h)

/-- Closing an end moves no bytes. -/
@[simp] theorem bytes_close (fd : Fd) (h : PipeHost) : (h.close fd).bytes = h.bytes := by
  unfold close
  split
  · rfl
  · split <;> rfl

/-- What a write comes to while both ends are open. -/
theorem write_of_bothOpen {h : PipeHost} (hopen : h.BothOpen) (capacity : Nat) (data : Bytes) :
    h.write capacity data =
      if h.bytes.length + data.length ≤ capacity then
        (.ok data.length, { h with bytes := h.bytes ++ data })
      else (.error Errno.wouldBlock, h) := by
  simp [write, hopen.1, hopen.2]

/-- What a read comes to while both ends are open. -/
theorem read_of_bothOpen {h : PipeHost} (hopen : h.BothOpen) (size : Nat) :
    h.read size =
      if h.bytes = [] then (.error Errno.wouldBlock, h)
      else (.ok { count := (h.bytes.take size).length, data := h.bytes.take size },
        { h with bytes := h.bytes.drop size }) := by
  simp [read, hopen.1, hopen.2]

variable {h : PipeHost}

/-- A write closes no end. -/
theorem BothOpen.write (hopen : h.BothOpen) (capacity : Nat) (data : Bytes) :
    (h.write capacity data).2.BothOpen := by
  rw [write_of_bothOpen hopen]
  split <;> exact hopen

/-- Nor does a read. -/
theorem BothOpen.read (hopen : h.BothOpen) (size : Nat) : (h.read size).2.BothOpen := by
  rw [read_of_bothOpen hopen]
  split <;> exact hopen

end PipeHost

/-- The pipe of a host as a control channel. -/
def localPipe (capacity : Nat) : ControlPipe PipeHost (List Events) where
  kernel := ⟨PipeHost.answer capacity⟩
  initial := {}
  outside found h := { h with found }
  sender := ⟨PipeHost.writeEnd⟩
  receiver := ⟨PipeHost.readEnd⟩
  contents := PipeHost.bytes
  contents_initial := rfl
  contents_outside := fun _ _ => rfl
  contents_poll := fun _ _ _ => rfl
  contents_close := fun fd h => h.bytes_close fd
  write_cases := by
    intro r h
    show ((h.write capacity r.encode).1 = .ok (ControlRecord.size : Int) ∧
        (h.write capacity r.encode).2.bytes = h.bytes ++ r.encode) ∨
      ∃ errno, (h.write capacity r.encode).1 = .error errno ∧
        (h.write capacity r.encode).2.bytes = h.bytes
    unfold PipeHost.write
    split_ifs
    · exact Or.inr ⟨_, rfl, rfl⟩
    · exact Or.inr ⟨_, rfl, rfl⟩
    · exact Or.inl ⟨by rw [ControlRecord.length_encode], rfl⟩
    · exact Or.inr ⟨_, rfl, rfl⟩
  read_cases := by
    intro h
    show ((h.read ControlRecord.size).1 = .ok
            { count := (h.bytes.take ControlRecord.size).length
              data := h.bytes.take ControlRecord.size } ∧
        (h.read ControlRecord.size).2.bytes = h.bytes.drop ControlRecord.size) ∨
      ∃ errno, (h.read ControlRecord.size).1 = .error errno ∧
        (h.read ControlRecord.size).2.bytes = h.bytes
    unfold PipeHost.read
    split_ifs
    · exact Or.inr ⟨_, rfl, rfl⟩
    · exact Or.inr ⟨_, rfl, rfl⟩
    · exact Or.inl ⟨rfl, rfl⟩

/-- A record that fits is sent. -/
theorem localPipe_send {capacity : Nat} {h : PipeHost} (r : ControlRecord) (hopen : h.BothOpen)
    (hfits : h.bytes.length + ControlRecord.size ≤ capacity) :
    ((localPipe capacity).sender.send r).run (localPipe capacity).kernel h =
      (.ok (), { h with bytes := h.bytes ++ r.encode }) := by
  have hwrite : h.write capacity r.encode =
      (.ok (ControlRecord.size : Int), { h with bytes := h.bytes ++ r.encode }) := by
    rw [PipeHost.write_of_bothOpen hopen, ControlRecord.length_encode, if_pos hfits]
  simp only [ControlSender.send, Program.run_bind]
  rw [Program.run_ask, show (localPipe capacity).kernel.answer
    (.write (localPipe capacity).sender.fd r.encode) h = h.write capacity r.encode from rfl, hwrite]
  rfl

/-- Once the receiving end is closed, no record fits. -/
example : ((localPipe 65536).sender.send .exit).run (localPipe 65536).kernel
      (PipeHost.close PipeHost.readEnd {}) =
    (.error (.controlChannel 0 ControlRecord.size Errno.brokenPipe), { readerOpen := false }) :=
  rfl

namespace System

variable {capacity : Nat} {s : System PipeHost Nat}

/-- A registration whose record fits. -/
theorem register_localPipe {fd : Fd} {task : Nat} (hlocked : s.stage.isLocked = false)
    (hrun : s.reactor.runningSender? = some (localPipe capacity).sender)
    (haccepts : s.reactor.registry.Accepts fd) (hopen : s.host.BothOpen)
    (hfits : s.host.bytes.length + ControlRecord.size ≤ capacity) :
    (s.step (localPipe capacity) (.register fd task)).2 =
      s.withRegistry
        { s.host with
          bytes := s.host.bytes ++
            (ControlRecord.register fd (s.reactor.registry.latest + 1)).encode }
        (s.reactor.registry.entered fd task) := by
  have hsend := localPipe_send (.register fd (s.reactor.registry.latest + 1)) hopen hfits
  simp only [step, hlocked, register, Reactor.tryRegister, hrun,
    Registry.insert_of_accepts haccepts, Program.run_bind, hsend]
  rfl

/-- A deregistration whose record fits. -/
theorem deregister_localPipe {fd : Fd} {e : Entry Nat} (hlocked : s.stage.isLocked = false)
    (hrun : s.reactor.runningSender? = some (localPipe capacity).sender)
    (hfind : s.reactor.registry.find? fd = some e) (hopen : s.host.BothOpen)
    (hfits : s.host.bytes.length + ControlRecord.size ≤ capacity) :
    (s.step (localPipe capacity) (.deregister fd)).2 =
      s.withRegistry
        { s.host with
          bytes := s.host.bytes ++ (ControlRecord.deregister fd e.generation).encode }
        (s.reactor.registry.erase fd) := by
  have hsend := localPipe_send (.deregister fd e.generation) hopen hfits
  have hgeneration : s.reactor.registry.generation? fd = some e.generation := by
    simp [Registry.generation?, hfind]
  simp only [step, hlocked, deregister, Reactor.tryDeregister, hrun, hgeneration,
    Program.run_bind, hsend]
  rfl

/-- A registration and its end, when both records fit, leave two records and use a
generation up. -/
theorem pair_localPipe {fd : Fd} {task : Nat} (hlocked : s.stage.isLocked = false)
    (hrun : s.reactor.runningSender? = some (localPipe capacity).sender)
    (haccepts : s.reactor.registry.Accepts fd) (hopen : s.host.BothOpen)
    (hfits : s.host.bytes.length + 2 * ControlRecord.size ≤ capacity) :
    (s.runFrom (localPipe capacity) [.register fd task, .deregister fd]).2 =
      s.withRegistry
        { s.host with
          bytes := s.host.bytes ++
              (ControlRecord.register fd (s.reactor.registry.latest + 1)).encode ++
            (ControlRecord.deregister fd (s.reactor.registry.latest + 1)).encode }
        (s.reactor.registry.withdrawn fd task) := by
  rw [runFrom_cons, runFrom_cons]
  have hfirst : (s.step (localPipe capacity) (.register fd task)).2 = _ :=
    register_localPipe hlocked hrun haccepts hopen (by omega)
  generalize (s.step (localPipe capacity) (.register fd task)).2 = u at hfirst ⊢
  have hlocked' : u.stage.isLocked = false := by rw [hfirst]; exact hlocked
  have hrun' : u.reactor.runningSender? = some (localPipe capacity).sender := by
    rw [hfirst]
    exact hrun
  have hfind : u.reactor.registry.find? fd =
      some ⟨task, .pending, s.reactor.registry.latest + 1⟩ := by
    rw [hfirst]
    exact (Registry.find?_entered haccepts task fd).trans (if_pos rfl)
  have hopen' : u.host.BothOpen := by
    rw [hfirst]
    exact hopen
  have hfits' : u.host.bytes.length + ControlRecord.size ≤ capacity := by
    rw [hfirst]
    simp only [withRegistry, List.length_append, ControlRecord.length_encode]
    omega
  refine (deregister_localPipe hlocked' hrun' hfind hopen' hfits').trans ?_
  rw [hfirst]
  rfl

/-- A registration is applied and found readable; before the pass takes the lock
it is over, and its descriptor is registered again. -/
def reuse : List (Action Nat (List Events)) :=
  [.register 5 7, .wait, .lock, .control, .outside [.input], .wait, .deregister 5, .register 5 9]

end System

end ReceiveReactor
