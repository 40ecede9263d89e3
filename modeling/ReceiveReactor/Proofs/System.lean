import ReceiveReactor.Proofs.Record
import ReceiveReactor.Reactor.Basic
import ReceiveReactor.Reactor.Wake

/-!
# A reactor among its users

The whole system around one reactor: its thread, any number of users' threads,
and the kernel.  A run is a list of actions, which a scheduler may order in any
way; an action that cannot happen now **does nothing**.

* `ControlPipe` — a kernel, with what the channel relies on;
* `Stage`, `StopStage` — where the reactor thread and a call of stop stand;
* `System.step`, `System.run` — one action, and a whole run;
* `System.Reachable` — the states that runs come to.

What a thread does under a lock is one step.  The registry lock is held from
`lock` to the end of a pass, so that registrations and deregistrations wait
meanwhile.  Stopping takes only the control lock and may fall **between any two
visits**, also while a callback runs.  Other calls that a callback makes are
refused before they take a lock (`Reactor.refusesRegister`,
`Reactor.refusesDeregister`) and are no steps.
-/

namespace ReceiveReactor

/-- A kernel and its account of one pipe: a queue of bytes, where writing a
record is all or nothing and a read takes what is there, up to its size.  A
call may fail at any time; then nothing has moved. -/
structure ControlPipe (σ ω : Type) where
  kernel : Kernel σ
  initial : σ
  /-- Whatever else happens on the host: data that arrives, descriptors that are
  opened and closed, what tasks do. -/
  outside : ω → σ → σ
  sender : ControlSender
  receiver : ControlReceiver
  /-- The bytes written and not yet read, oldest first. -/
  contents : σ → Bytes
  contents_initial : contents initial = []
  contents_outside : ∀ o h, contents (outside o h) = contents h
  contents_poll : ∀ slots timeout h,
    contents (kernel.answer (.poll slots timeout) h).2 = contents h
  contents_close : ∀ fd h, contents (kernel.answer (.close fd) h).2 = contents h
  write_cases : ∀ (r : ControlRecord) h,
    ((kernel.answer (.write sender.fd r.encode) h).1 = .ok (ControlRecord.size : Int) ∧
      contents (kernel.answer (.write sender.fd r.encode) h).2 = contents h ++ r.encode) ∨
    ∃ errno, (kernel.answer (.write sender.fd r.encode) h).1 = .error errno ∧
      contents (kernel.answer (.write sender.fd r.encode) h).2 = contents h
  read_cases : ∀ h,
    ((kernel.answer (.read receiver.fd ControlRecord.size) h).1 =
        .ok { count := ((contents h).take ControlRecord.size).length
              data := (contents h).take ControlRecord.size } ∧
      contents (kernel.answer (.read receiver.fd ControlRecord.size) h).2 =
        (contents h).drop ControlRecord.size) ∨
    ∃ errno, (kernel.answer (.read receiver.fd ControlRecord.size) h).1 = .error errno ∧
      contents (kernel.answer (.read receiver.fd ControlRecord.size) h).2 = contents h

/-- What the reactor thread is doing. -/
inductive Stage where
  /-- It holds no lock and is about to wait. -/
  | waits
  /-- The wait has returned; the registry lock is still to be taken. -/
  | woken
  /-- It holds the registry lock and has some reports still to visit. -/
  | visits (rest : List Readiness)
  /-- It is inside the callback of a registration, perhaps in a call of stop
  from there. -/
  | calls (fd : Fd) (generation : UInt64) (rest : List Readiness) (stopping : Bool)
  /-- Its loop is over, perhaps by a panic; the receiving end is still open. -/
  | leaves (panicked : Bool)
  | ended (panicked : Bool)
deriving DecidableEq, Repr

namespace Stage

/-- Whether the thread holds the registry lock. -/
def isLocked : Stage → Bool
  | visits _ | calls .. => true
  | _ => false

/-- Whether the thread is still in its loop. -/
def isRunning : Stage → Bool
  | leaves _ | ended _ => false
  | _ => true

/-- Whether a panic took the thread out of its loop. -/
def isPanicked : Stage → Bool
  | leaves panicked | ended panicked => panicked
  | _ => false

/-- Whether the thread can be joined. -/
def isEnded : Stage → Bool
  | ended _ => true
  | _ => false

end Stage

/-- Where a call of stop outside the reactor thread stands. -/
inductive StopStage where
  /-- It tells the reactor to exit, again and again while the channel is full. -/
  | telling
  | taking
  | joining
  | closing
  | clearing
  | returned
deriving DecidableEq, Repr

/-- Where a whole system stands. -/
structure System (σ τ : Type) where
  host : σ
  reactor : Reactor τ
  live : ReadinessSet
  stage : Stage := .waits
  /-- The calls of stop outside the reactor thread, in the order in which they
  began. -/
  stops : List StopStage := []

/-- The task of a registration that may be attempted. -/
def Registry.attemptable? {τ : Type} (r : Registry τ) (fd : Fd) (generation : UInt64) : Option τ :=
  (r.findGeneration? fd generation).bind fun e => if e.state = .active then some e.task else none

namespace System

/-- What can happen next. -/
inductive Action (τ ω : Type) where
  | outside (o : ω)
  /-- One stretch of a registration under both locks, by any thread. -/
  | register (fd : Fd) (task : τ)
  | deregister (fd : Fd)
  /-- A user's thread calls stop. -/
  | callStop
  /-- The next step of a call of stop, by its place among them. -/
  | advanceStop (i : Nat)
  /-- The reactor thread's wait. -/
  | wait
  | lock
  /-- The next report of a pass. -/
  | visit
  /-- The running callback calls stop. -/
  | callbackStop
  /-- The callback's call of stop tells the reactor to exit, once. -/
  | callbackTell
  /-- The running callback comes to its end. -/
  | answer (verdict : Verdict) (task : τ)
  /-- The control record at the end of a pass. -/
  | control
  /-- The thread drops the receiving end. -/
  | leave

/-- What a step shows. -/
inductive Event (τ : Type) where
  | registered (fd : Fd) (generation : UInt64) (task : τ)
  | registerRetries (fd : Fd)
  | registerFails (fd : Fd) (cause : ReactorError)
  | registerPanics (fd : Fd)
  | deregistered (fd : Fd) (generation : UInt64)
  | deregisterRetries (fd : Fd)
  | deregisterFails (fd : Fd) (cause : ReactorError)
  /-- The exit record was written. -/
  | exitWritten
  /-- A call of stop from a callback has returned. -/
  | callbackStopped
  /-- The reactor thread calls a task. -/
  | attempted (fd : Fd) (generation : UInt64) (task : τ)
  /-- The task has answered and is left as given. -/
  | answered (fd : Fd) (generation : UInt64) (verdict : Verdict) (task : τ)
  /-- A registration's descriptor was found closed. -/
  | dropped (fd : Fd) (generation : UInt64)
  /-- The reactor thread read and applied a record. -/
  | applied (record : ControlRecord)
  /-- A call of stop dropped every registration. -/
  | cleared

variable {σ τ ω : Type}

/-- A reactor that has just been started. -/
def start (K : ControlPipe σ ω) : System σ τ :=
  { host := K.initial, reactor := .ofSender K.sender, live := .ofControl K.receiver.fd }

/-- The records in the control pipe, oldest first. -/
def queue (K : ControlPipe σ ω) (s : System σ τ) : List ControlRecord :=
  ControlRecord.ofStream (K.contents s.host)

/-- The two views of membership. -/
def membership (s : System σ τ) : Membership τ := ⟨s.reactor.registry, s.live⟩

/-- Enters what the reactor thread did to the two views. -/
def setMembership (s : System σ τ) (m : Membership τ) : System σ τ :=
  { s with reactor := { s.reactor with registry := m.registry }, live := m.live }

/-- A program of the reactor thread on the kernel. -/
def perform (K : ControlPipe σ ω) {α : Type} (p : Program α) : StateM σ α :=
  p.run K.kernel

/-! ## Steps of users -/

/-- One stretch of a registration. -/
def register (K : ControlPipe σ ω) (s : System σ τ) (fd : Fd) (task : τ) :
    List (Event τ) × System σ τ :=
  let ((progress, reactor), host) := (s.reactor.tryRegister fd task).run K.kernel s.host
  ([match progress with
    | .done => .registered fd reactor.registry.latest task
    | .retry => .registerRetries fd
    | .failed cause => .registerFails fd cause
    | .panicked => .registerPanics fd],
    { s with host, reactor })

/-- One stretch of a deregistration. -/
def deregister (K : ControlPipe σ ω) (s : System σ τ) (fd : Fd) : List (Event τ) × System σ τ :=
  let ((progress, reactor), host) := (s.reactor.tryDeregister fd).run K.kernel s.host
  ([match progress with
    | .done => .deregistered fd ((s.reactor.registry.generation? fd).getD 0)
    | .failed cause => .deregisterFails fd cause
    | .retry | .panicked => .deregisterRetries fd],
    { s with host, reactor })

/-- One stretch of a stop that tells the reactor to exit. -/
def tell (K : ControlPipe σ ω) (s : System σ τ) : Progress × List (Event τ) × System σ τ :=
  let ((progress, reactor), host) := s.reactor.tryExit.run K.kernel s.host
  (progress, if K.contents host = K.contents s.host then [] else [.exitWritten],
    { s with host, reactor })

/-- Moves a call of stop on. -/
def setStop (s : System σ τ) (i : Nat) (stage : StopStage) : System σ τ :=
  { s with stops := s.stops.set i stage }

/-- The next step of a call of stop that stands somewhere. -/
def advanceStop (K : ControlPipe σ ω) (s : System σ τ) (i : Nat) :
    StopStage → List (Event τ) × System σ τ
  | .telling =>
    let (progress, events, s) := s.tell K
    (events, s.setStop i (if progress = .retry then .telling else .taking))
  | .taking =>
    let (first, reactor) := s.reactor.takeJoin
    ([], { s with reactor }.setStop i (if first then .joining else .returned))
  | .joining => if s.stage.isEnded then ([], s.setStop i .closing) else ([], s)
  | .closing =>
    let (reactor, host) := s.reactor.closeChannel.run K.kernel s.host
    ([], { s with host, reactor }.setStop i .clearing)
  | .clearing =>
    if s.stage.isLocked then ([], s)
    else ([.cleared], { s with reactor := s.reactor.dropAll }.setStop i .returned)
  | .returned => ([], s)

/-! ## Steps of the reactor thread -/

/-- The wait.  After a failure the thread waits again. -/
def wait (K : ControlPipe σ ω) (s : System σ τ) : System σ τ :=
  let ((result, live), host) := s.live.wait.run K.kernel s.host
  { s with
    host, live
    stage := match result with
      | .ok _ => .woken
      | .error _ => .waits }

/-- Follows a report up, with what the task answers if it is attempted. -/
def followUp (s : System σ τ) (attempt : Fd → τ → Id (Verdict × τ)) (r : Readiness)
    (rest : List Readiness) : System σ τ :=
  let (goesOn, m) := Membership.visit attempt s.membership r
  { s.setMembership m with stage := if goesOn then .visits rest else .leaves true }

/-- The next report.  A task that may be attempted is called; every other report
is followed up at once. -/
def visit (s : System σ τ) : List Readiness → List (Event τ) × System σ τ
  | [] => ([], s)
  | .readable fd generation :: rest =>
    match s.reactor.registry.attemptable? fd generation with
    | some task =>
      ([.attempted fd generation task], { s with stage := .calls fd generation rest false })
    | none => ([], s.followUp (fun _ task => (.keep, task)) (.readable fd generation) rest)
  | .closed fd generation :: rest =>
    ((s.reactor.registry.findGeneration? fd generation).toList.map fun _ => .dropped fd generation,
      s.followUp (fun _ task => (.keep, task)) (.closed fd generation) rest)

/-- The record that the end of the pass reads, if it reads one. -/
def received? (K : ControlPipe σ ω) (s : System σ τ) : Option ControlRecord :=
  if s.live.controlReady then (K.receiver.receive.run K.kernel s.host).1.toOption else none

/-- The end of a pass. -/
def control (K : ControlPipe σ ω) (s : System σ τ) : List (Event τ) × System σ τ :=
  let ((ending, m), host) := Membership.control (perform K) K.receiver s.membership s.host
  ((s.received? K).toList.map .applied,
    { s.setMembership m with host, stage := if ending = .waits then .waits else .leaves false })

/-- One action, with what it shows. -/
def step (K : ControlPipe σ ω) (s : System σ τ) : Action τ ω → List (Event τ) × System σ τ
  | .outside o => ([], { s with host := K.outside o s.host })
  | .register fd task => if s.stage.isLocked then ([], s) else s.register K fd task
  | .deregister fd => if s.stage.isLocked then ([], s) else s.deregister K fd
  | .callStop => ([], { s with stops := s.stops ++ [.telling] })
  | .advanceStop i =>
    match s.stops[i]? with
    | some stage => s.advanceStop K i stage
    | none => ([], s)
  | .wait => if s.stage = .waits then ([], s.wait K) else ([], s)
  | .lock => if s.stage = .woken then ([], { s with stage := .visits s.live.ready }) else ([], s)
  | .visit =>
    match s.stage with
    | .visits rest => s.visit rest
    | _ => ([], s)
  | .callbackStop =>
    match s.stage with
    | .calls fd generation rest _ => ([], { s with stage := .calls fd generation rest true })
    | _ => ([], s)
  | .callbackTell =>
    match s.stage with
    | .calls fd generation rest true =>
      let (progress, events, s) := s.tell K
      if progress = .retry then (events, s)
      else (events ++ [.callbackStopped], { s with stage := .calls fd generation rest false })
    | _ => ([], s)
  | .answer verdict task =>
    match s.stage with
    | .calls fd generation rest false =>
      ([.answered fd generation verdict task],
        s.followUp (fun _ _ => (verdict, task)) (.readable fd generation) rest)
    | _ => ([], s)
  | .control => if s.stage = .visits [] then s.control K else ([], s)
  | .leave =>
    match s.stage with
    | .leaves panicked =>
      ([], { s with
        host := (K.kernel.answer (.close K.receiver.fd) s.host).2
        stage := .ended panicked })
    | _ => ([], s)

/-- A call of stop outside the reactor thread moves neither the thread nor its set. -/
theorem step_advanceStop_frame (K : ControlPipe σ ω) (s : System σ τ) (i : Nat) :
    (s.step K (.advanceStop i)).2.stage = s.stage ∧
      (s.step K (.advanceStop i)).2.live = s.live := by
  simp only [step]
  split
  · next stage hstop =>
      cases stage with
      | joining | clearing =>
          simp only [advanceStop]
          split <;> exact ⟨rfl, rfl⟩
      | telling | taking | closing | returned => exact ⟨rfl, rfl⟩
  · exact ⟨rfl, rfl⟩

/-! ## Runs -/

/-- Some actions one after the other, with all that they show. -/
def runFrom (K : ControlPipe σ ω) (s : System σ τ) :
    List (Action τ ω) → List (Event τ) × System σ τ
  | [] => ([], s)
  | a :: as =>
    let (events, t) := s.step K a
    let (more, u) := t.runFrom K as
    (events ++ more, u)

/-- A run of a reactor from its start. -/
def run (K : ControlPipe σ ω) (as : List (Action τ ω)) : List (Event τ) × System σ τ :=
  (start K).runFrom K as

/-- A state that some run comes to. -/
def Reachable (K : ControlPipe σ ω) (s : System σ τ) : Prop := ∃ as, (run K as).2 = s

@[simp] theorem runFrom_nil (K : ControlPipe σ ω) (s : System σ τ) : s.runFrom K [] = ([], s) := rfl

theorem runFrom_cons (K : ControlPipe σ ω) (s : System σ τ) (a : Action τ ω)
    (as : List (Action τ ω)) :
    s.runFrom K (a :: as) =
      ((s.step K a).1 ++ ((s.step K a).2.runFrom K as).1, ((s.step K a).2.runFrom K as).2) := rfl

/-- **Runs compose.** -/
theorem runFrom_append (K : ControlPipe σ ω) (s : System σ τ) (as bs : List (Action τ ω)) :
    s.runFrom K (as ++ bs) =
      ((s.runFrom K as).1 ++ ((s.runFrom K as).2.runFrom K bs).1,
        ((s.runFrom K as).2.runFrom K bs).2) := by
  induction as generalizing s with
  | nil => rfl
  | cons a as ih => simp only [List.cons_append, runFrom_cons, ih, List.append_assoc]

/-- What goes on from a reachable state stays reachable. -/
theorem Reachable.runFrom {K : ControlPipe σ ω} {s : System σ τ} (h : s.Reachable K)
    (as : List (Action τ ω)) : (s.runFrom K as).2.Reachable K := by
  obtain ⟨before, rfl⟩ := h
  exact ⟨before ++ as, by rw [run, runFrom_append]; rfl⟩

/-- **Induction over runs.**  What holds of the start and is kept by every step
holds of every reachable state. -/
theorem Reachable.invariant {K : ControlPipe σ ω} {P : System σ τ → Prop}
    (hstart : P (start K)) (hstep : ∀ s a, P s → P (s.step K a).2)
    {s : System σ τ} (h : s.Reachable K) : P s := by
  obtain ⟨as, rfl⟩ := h
  have hrun : ∀ t, P t → P (t.runFrom K as).2 := by
    induction as with
    | nil => exact fun t ht => ht
    | cons a as ih => exact fun t ht => ih _ (hstep t a ht)
  exact hrun _ hstart

end System

end ReceiveReactor
