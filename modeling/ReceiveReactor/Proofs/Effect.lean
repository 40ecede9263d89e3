import ReceiveReactor.Proofs.Readiness
import ReceiveReactor.Proofs.Registry

/-!
# What one step can do

Every action of a system either does nothing or has one of the effects listed
here, with all that it needs and all that it changes.  Properties of runs are
proved by cases on the effect and **never look into an action** again.

* `ControlPipe.send_answers`, `ControlPipe.receive_answers` — a send and a receive, as
  the kernel answers;
* `ControlPipe.send_cases`, `ControlPipe.receive_cases` — a record into the pipe
  and out of it, whole or not at all;
* `System.Effect` — the effects;
* `System.Coherent` — what a state must have for its steps to have effects;
* `System.control_cases`, `System.Steady.step_effect` — what a step does **whatever the
  pipe holds**;
* `System.step_effect` — **every step has an effect**;
* `System.Reachable.coherent` — and every reachable state is such;
* `System.queue_runFrom` — the queue, **first in, first out**, over whole runs.
-/

namespace ReceiveReactor

namespace ControlPipe

variable {σ ω : Type}

/-- **Sending** goes as the kernel answers: all of the record is put at the end of the
pipe, or nothing. -/
theorem send_answers (K : ControlPipe σ ω) (r : ControlRecord) (h : σ) :
    (∃ host, (K.kernel.answer (.write K.sender.fd r.encode) h).1 = .ok ControlRecord.size ∧
      (K.sender.send r).run K.kernel h = (.ok (), host) ∧
      K.contents host = K.contents h ++ r.encode) ∨
    ∃ errno host, (K.kernel.answer (.write K.sender.fd r.encode) h).1 = .error errno ∧
      (K.sender.send r).run K.kernel h =
        (.error (ControlChannel.shortTransfer 0 errno), host) ∧ K.contents host = K.contents h := by
  have hcases := K.write_cases r h
  simp only [ControlSender.send, Program.run_bind]
  rw [Program.run_ask]
  generalize K.kernel.answer (.write K.sender.fd r.encode) h = answer at hcases ⊢
  obtain ⟨result, host⟩ := answer
  rcases hcases with ⟨rfl, hcontents⟩ | ⟨errno, rfl, hcontents⟩
  · exact Or.inl ⟨host, rfl, rfl, hcontents⟩
  · exact Or.inr ⟨errno, host, rfl, rfl, hcontents⟩

/-- A record is sent whole, or **without a trace**. -/
theorem send_cases (K : ControlPipe σ ω) (r : ControlRecord) (h : σ) :
    (∃ host, (K.sender.send r).run K.kernel h = (.ok (), host) ∧
      K.contents host = K.contents h ++ r.encode) ∨
    ∃ errno host, (K.sender.send r).run K.kernel h =
      (.error (ControlChannel.shortTransfer 0 errno), host) ∧ K.contents host = K.contents h := by
  rcases K.send_answers r h with ⟨host, -, hsent⟩ | ⟨errno, host, -, hfails⟩
  · exact Or.inl ⟨host, hsent⟩
  · exact Or.inr ⟨errno, host, hfails⟩

/-- What the receiving end makes of the bytes that a read took. -/
def interpret (front : Bytes) : Except ReactorError ControlRecord :=
  if front.length = ControlRecord.size then ControlRecord.decode front
  else .error (ControlChannel.shortTransfer front.length Errno.none)

/-- A whole record is taken for what it is. -/
theorem interpret_encode (r : ControlRecord) : interpret r.encode = .ok r := by
  rw [interpret, if_pos (ControlRecord.length_encode r), ControlRecord.decode_encode]

/-- **Receiving** goes as the kernel answers: up to one record's bytes are taken off the
front of the pipe, whatever they are, or nothing. -/
theorem receive_answers (K : ControlPipe σ ω) (h : σ) :
    (∃ received host,
      (K.kernel.answer (.read K.receiver.fd ControlRecord.size) h).1 = .ok received ∧
      K.receiver.receive.run K.kernel h =
        (interpret ((K.contents h).take ControlRecord.size), host) ∧
      K.contents host = (K.contents h).drop ControlRecord.size) ∨
    ∃ errno host, (K.kernel.answer (.read K.receiver.fd ControlRecord.size) h).1 = .error errno ∧
      K.receiver.receive.run K.kernel h =
        (.error (ControlChannel.shortTransfer 0 errno), host) ∧ K.contents host = K.contents h := by
  have hcases := K.read_cases h
  simp only [ControlReceiver.receive, Program.run_bind]
  rw [Program.run_ask]
  generalize K.kernel.answer (.read K.receiver.fd ControlRecord.size) h = answer at hcases ⊢
  obtain ⟨result, host⟩ := answer
  rcases hcases with ⟨rfl, hcontents⟩ | ⟨errno, rfl, hcontents⟩
  · refine Or.inl ⟨_, host, rfl, ?_, hcontents⟩
    generalize (K.contents h).take ControlRecord.size = front
    simp only [interpret, Int.ofNat_inj]
    split
    · next hwhole =>
        have hpad : Bytes.padTo ControlRecord.size front = front := by
          simp [Bytes.padTo, Bytes.zeros, ← hwhole]
        rw [hpad]
        rfl
    · rfl
  · exact Or.inr ⟨errno, host, rfl, rfl, hcontents⟩

/-- Receiving from a pipe of whole records takes **one whole record**, or fails without a
trace. -/
theorem receive_cases (K : ControlPipe σ ω) {rs : List ControlRecord} {h : σ}
    (hwhole : K.contents h = rs.flatMap ControlRecord.encode) :
    (∃ r rest host, rs = r :: rest ∧ K.receiver.receive.run K.kernel h = (.ok r, host) ∧
      K.contents host = rest.flatMap ControlRecord.encode) ∨
    ∃ cause host, K.receiver.receive.run K.kernel h = (.error cause, host) ∧
      K.contents host = K.contents h := by
  rcases K.receive_answers h with ⟨-, host, -, hrun, hcontents⟩ | ⟨errno, host, -, hrun, hcontents⟩
  · cases rs with
    | nil =>
        rw [hwhole] at hrun hcontents ⊢
        exact Or.inr ⟨_, host, hrun, hcontents⟩
    | cons r rest =>
        obtain ⟨htake, hdrop⟩ := ControlRecord.cut_flatMap_encode r rest
        rw [hwhole, htake, interpret_encode] at hrun
        rw [hwhole, hdrop] at hcontents
        exact Or.inl ⟨r, rest, host, rfl, hrun, hcontents⟩
  · exact Or.inr ⟨_, host, hrun, hcontents⟩

end ControlPipe

namespace System

variable {σ τ ω : Type}

/-- The same system with another host and another registry. -/
def withRegistry (s : System σ τ) (host : σ) (registry : Registry τ) : System σ τ :=
  { s with host, reactor := { s.reactor with registry } }

/-- What a stretch of a stop that tells the reactor to exit can do. -/
inductive Tells (K : ControlPipe σ ω) (s : System σ τ) :
    Progress → List (Event τ) → System σ τ → Prop where
  /-- It was told before, or the channel is closed. -/
  | already (h : s.reactor.runningSender? = none) : Tells K s .done [] s
  | written (host : σ) (hrun : s.reactor.runningSender? = some K.sender)
      (hcontents : K.contents host = K.contents s.host ++ ControlRecord.exit.encode) :
      Tells K s .done [.exitWritten] { s with host, reactor := { s.reactor with exitSent := true } }
  /-- The write fails, and the reactor counts as told. -/
  | failed (host : σ) (hrun : s.reactor.runningSender? = some K.sender)
      (hcontents : K.contents host = K.contents s.host) :
      Tells K s .done [] { s with host, reactor := { s.reactor with exitSent := true } }
  | full (host : σ) (hrun : s.reactor.runningSender? = some K.sender)
      (hcontents : K.contents host = K.contents s.host) :
      Tells K s .retry [] { s with host }

/-- Telling leaves the thread where it is. -/
theorem Tells.stage {K : ControlPipe σ ω} {s t : System σ τ} {progress : Progress}
    {events : List (Event τ)} (h : Tells K s progress events t) : t.stage = s.stage := by
  cases h <;> rfl

/-- What a step can do. -/
inductive Effect (K : ControlPipe σ ω) (s : System σ τ) : List (Event τ) → System σ τ → Prop where
  /-- At most something elsewhere on the host. -/
  | elsewhere (host : σ) (hcontents : K.contents host = K.contents s.host) :
      Effect K s [] { s with host }
  -- Registrations
  | refusesRegister (fd : Fd) (cause : ReactorError)
      (hcause : cause = .stopped ∧ s.reactor.runningSender? = none ∨
        cause = .alreadyRegistered fd ∧ s.reactor.registry.find? fd ≠ none) :
      Effect K s [.registerFails fd cause] s
  | panics (fd : Fd) (hlast : s.reactor.registry.latest = Registry.lastGeneration) :
      Effect K s [.registerPanics fd] s
  | rollsBack (fd : Fd) (task : τ) (event : Event τ) (host : σ) (hfree : s.stage.isLocked = false)
      (hrun : s.reactor.runningSender? = some K.sender)
      (haccepts : s.reactor.registry.Accepts fd)
      (hevent : event = .registerRetries fd ∨
        ∃ errno, event = .registerFails fd (ControlChannel.shortTransfer 0 errno))
      (hcontents : K.contents host = K.contents s.host) :
      Effect K s [event] (s.withRegistry host (s.reactor.registry.withdrawn fd task))
  | registers (fd : Fd) (task : τ) (host : σ) (hfree : s.stage.isLocked = false)
      (hrun : s.reactor.runningSender? = some K.sender)
      (haccepts : s.reactor.registry.Accepts fd)
      (hcontents : K.contents host = K.contents s.host ++
        (ControlRecord.register fd (s.reactor.registry.latest + 1)).encode) :
      Effect K s [.registered fd (s.reactor.registry.latest + 1) task]
        (s.withRegistry host (s.reactor.registry.entered fd task))
  -- Deregistrations
  | refusesDeregister (fd : Fd) (cause : ReactorError)
      (hcause : cause = .stopped ∧ s.reactor.runningSender? = none ∨
        cause = .notRegistered fd ∧ s.reactor.registry.find? fd = none) :
      Effect K s [.deregisterFails fd cause] s
  | keeps (fd : Fd) (event : Event τ) (host : σ)
      (hevent : event = .deregisterRetries fd ∨
        ∃ errno, event = .deregisterFails fd (ControlChannel.shortTransfer 0 errno))
      (hcontents : K.contents host = K.contents s.host) :
      Effect K s [event] { s with host }
  | deregisters (fd : Fd) (e : Entry τ) (host : σ) (hfree : s.stage.isLocked = false)
      (hrun : s.reactor.runningSender? = some K.sender)
      (hfind : s.reactor.registry.find? fd = some e)
      (hcontents : K.contents host = K.contents s.host ++
        (ControlRecord.deregister fd e.generation).encode) :
      Effect K s [.deregistered fd e.generation]
        (s.withRegistry host (s.reactor.registry.erase fd))
  -- Stops outside the reactor thread
  | beginsStop : Effect K s [] { s with stops := s.stops ++ [.telling] }
  | stopTells (i : Nat) (progress : Progress) (events : List (Event τ)) (t : System σ τ)
      (hstop : s.stops[i]? = some .telling) (htells : Tells K s progress events t) :
      Effect K s events (t.setStop i (if progress = .retry then .telling else .taking))
  | stopTakes (i : Nat) (hstop : s.stops[i]? = some .taking) :
      Effect K s []
        ({ s with reactor := { s.reactor with joinable := false } }.setStop i
          (if s.reactor.joinable then .joining else .returned))
  | stopJoins (i : Nat) (hstop : s.stops[i]? = some .joining) (hended : s.stage.isEnded = true) :
      Effect K s [] (s.setStop i .closing)
  | stopCloses (i : Nat) (host : σ) (hstop : s.stops[i]? = some .closing)
      (hcontents : K.contents host = K.contents s.host) :
      Effect K s []
        ({ s with host, reactor := { s.reactor with sender := none } }.setStop i .clearing)
  | stopClears (i : Nat) (hstop : s.stops[i]? = some .clearing)
      (hfree : s.stage.isLocked = false) :
      Effect K s [.cleared] ({ s with reactor := s.reactor.dropAll }.setStop i .returned)
  -- The reactor thread
  | waits (host : σ) (live : ReadinessSet) (stage : Stage) (hstage : s.stage = .waits)
      (hwakes : stage = .waits ∨ stage = .woken) (hpairs : live.pairs = s.live.pairs)
      (hcontents : K.contents host = K.contents s.host) :
      Effect K s [] { s with host, live, stage }
  | locks (hstage : s.stage = .woken) : Effect K s [] { s with stage := .visits s.live.ready }
  | attempts (fd : Fd) (g : UInt64) (rest : List Readiness) (task : τ)
      (hstage : s.stage = .visits (.readable fd g :: rest))
      (htask : s.reactor.registry.attemptable? fd g = some task) :
      Effect K s [.attempted fd g task] { s with stage := .calls fd g rest false }
  | passes (fd : Fd) (g : UInt64) (rest : List Readiness)
      (hstage : s.stage = .visits (.readable fd g :: rest))
      (hidle : s.reactor.registry.attemptable? fd g = none) :
      Effect K s [] { s with stage := .visits rest }
  | drops (fd : Fd) (g : UInt64) (rest : List Readiness)
      (hstage : s.stage = .visits (.closed fd g :: rest)) :
      Effect K s ((s.reactor.registry.findGeneration? fd g).toList.map fun _ => .dropped fd g)
        { s.setMembership ⟨(s.reactor.registry.removeGeneration fd g).2, (s.live.remove fd).2⟩ with
          stage := .visits rest }
  | callbackStops (fd : Fd) (g : UInt64) (rest : List Readiness) (stopping : Bool)
      (hstage : s.stage = .calls fd g rest stopping) :
      Effect K s [] { s with stage := .calls fd g rest true }
  | callbackTells (fd : Fd) (g : UInt64) (rest : List Readiness) (progress : Progress)
      (events : List (Event τ)) (t : System σ τ) (hstage : s.stage = .calls fd g rest true)
      (htells : Tells K s progress events t) :
      Effect K s (if progress = .retry then events else events ++ [.callbackStopped])
        { t with stage := .calls fd g rest (progress = .retry) }
  | answers (fd : Fd) (g : UInt64) (rest : List Readiness) (before task : τ) (verdict : Verdict)
      (hstage : s.stage = .calls fd g rest false)
      (hbefore : s.reactor.registry.attemptable? fd g = some before) :
      Effect K s [.answered fd g verdict task]
        { s.setMembership (s.membership.afterAttempt fd task verdict).2 with
          stage := if verdict = .panic then .leaves true else .visits rest }
  | receives (r : ControlRecord) (host : σ) (hstage : s.stage = .visits [])
      (hcontents : K.contents s.host = r.encode ++ K.contents host) :
      Effect K s [.applied r]
        { s.setMembership (s.membership.apply r).2 with
          host, stage := if r = .exit then .leaves false else .waits }
  | receivesNothing (host : σ) (hstage : s.stage = .visits [])
      (hcontents : K.contents host = K.contents s.host) :
      Effect K s [] { s with host, stage := .waits }
  | leaves (panicked : Bool) (host : σ) (hstage : s.stage = .leaves panicked)
      (hcontents : K.contents host = K.contents s.host) :
      Effect K s [] { s with host, stage := .ended panicked }

/-- A state whose sending end is that of its channel, whose pipe holds whole
records, and whose running callback belongs to an active registration. -/
structure Coherent (K : ControlPipe σ ω) (s : System σ τ) : Prop where
  sender : ∀ x, s.reactor.sender = some x → x = K.sender
  stream : ∃ rs : List ControlRecord, K.contents s.host = rs.flatMap ControlRecord.encode
  called : ∀ fd g rest stopping, s.stage = .calls fd g rest stopping →
    s.reactor.registry.attemptable? fd g ≠ none

/-- What of it does not depend on the pipe. -/
structure Steady (K : ControlPipe σ ω) (s : System σ τ) : Prop where
  sender : ∀ x, s.reactor.sender = some x → x = K.sender
  called : ∀ fd g rest stopping, s.stage = .calls fd g rest stopping →
    s.reactor.registry.attemptable? fd g ≠ none

section

variable {K : ControlPipe σ ω} {s : System σ τ}

/-- What is coherent is steady, whatever the pipe holds. -/
theorem Coherent.steady (h : s.Coherent K) : s.Steady K := ⟨h.sender, h.called⟩

/-- A reactor that has not been told to exit sends through its own channel. -/
theorem Steady.runningSender? (h : s.Steady K) {x : ControlSender}
    (hx : s.reactor.runningSender? = some x) : x = K.sender := by
  apply h.sender
  unfold Reactor.runningSender? at hx
  split at hx
  · cases hx
  · exact hx

/-! ## Actions that must wait -/

/-- What happens only in some states does nothing in the others. -/
theorem Effect.guarded {p : Prop} [Decidable p] {outcome : List (Event τ) × System σ τ}
    (h : p → Effect K s outcome.1 outcome.2) :
    Effect K s (if p then outcome else ([], s)).1 (if p then outcome else ([], s)).2 := by
  split
  · next hp => exact h hp
  · exact .elsewhere s.host rfl

/-- What takes the registry lock does nothing while the thread holds it. -/
theorem Effect.unlocked {outcome : List (Event τ) × System σ τ}
    (h : s.stage.isLocked = false → Effect K s outcome.1 outcome.2) :
    Effect K s (if s.stage.isLocked then ([], s) else outcome).1
      (if s.stage.isLocked then ([], s) else outcome).2 := by
  split
  · exact .elsewhere s.host rfl
  · next hfree => exact h (Bool.not_eq_true _ ▸ hfree)

/-! ## Users -/

/-- **A registration** enters and sends, is taken back, or is refused. -/
theorem register_effect (h : s.Steady K) (hfree : s.stage.isLocked = false) (fd : Fd)
    (task : τ) : Effect K s (s.register K fd task).1 (s.register K fd task).2 := by
  unfold register Reactor.tryRegister
  cases hrun : s.reactor.runningSender? with
  | none => exact .refusesRegister fd .stopped (Or.inl ⟨rfl, hrun⟩)
  | some x =>
      obtain rfl := h.runningSender? hrun
      by_cases hfind : s.reactor.registry.find? fd = none
      · by_cases hlast : s.reactor.registry.latest = Registry.lastGeneration
        · have hinsert : s.reactor.registry.insert fd task = (.panicked, s.reactor.registry) := by
            simp [Registry.insert, Registry.contains, hfind, hlast]
          simp only [hinsert]
          exact .panics fd hlast
        · have haccepts : s.reactor.registry.Accepts fd := ⟨hfind, hlast⟩
          have hlatest := Registry.latest_entered haccepts task
          simp only [Registry.insert_of_accepts haccepts, Program.run_bind]
          rcases K.send_cases (.register fd (s.reactor.registry.latest + 1)) s.host with
            ⟨host, hsend, hcontents⟩ | ⟨errno, host, hsend, hcontents⟩
          · simp only [hsend, Program.run_pure, hlatest]
            exact .registers fd task host hfree hrun haccepts hcontents
          · simp only [hsend, Program.run_pure]
            refine .rollsBack fd task _ host hfree hrun haccepts ?_ hcontents
            by_cases hfull : (ControlChannel.shortTransfer 0 errno).isChannelFull = true
            · exact Or.inl (by simp only [hfull, if_true])
            · exact Or.inr ⟨errno, by simp only [hfull]; rfl⟩
      · have hinsert : s.reactor.registry.insert fd task =
            (.refused (.alreadyRegistered fd), s.reactor.registry) := by
          simp [Registry.insert, Registry.contains, Option.isSome_iff_ne_none, hfind]
        simp only [hinsert]
        exact .refusesRegister fd _ (Or.inr ⟨rfl, hfind⟩)

/-- **A deregistration** sends and erases, or changes nothing. -/
theorem deregister_effect (h : s.Steady K) (hfree : s.stage.isLocked = false) (fd : Fd) :
    Effect K s (s.deregister K fd).1 (s.deregister K fd).2 := by
  unfold deregister Reactor.tryDeregister
  cases hrun : s.reactor.runningSender? with
  | none => exact .refusesDeregister fd .stopped (Or.inl ⟨rfl, hrun⟩)
  | some x =>
      obtain rfl := h.runningSender? hrun
      cases hfind : s.reactor.registry.find? fd with
      | none =>
          have hnone : s.reactor.registry.generation? fd = none := by
            simp [Registry.generation?, hfind]
          simp only [hnone]
          exact .refusesDeregister fd _ (Or.inr ⟨rfl, hfind⟩)
      | some e =>
          have hsome : s.reactor.registry.generation? fd = some e.generation := by
            simp [Registry.generation?, hfind]
          simp only [hsome, Program.run_bind]
          rcases K.send_cases (.deregister fd e.generation) s.host with
            ⟨host, hsend, hcontents⟩ | ⟨errno, host, hsend, hcontents⟩
          · simp only [hsend, Program.run_pure]
            exact .deregisters fd e host hfree hrun hfind hcontents
          · simp only [hsend, Program.run_pure]
            refine .keeps fd _ host ?_ hcontents
            by_cases hfull : (ControlChannel.shortTransfer 0 errno).isChannelFull = true
            · exact Or.inl (by simp only [hfull, if_true])
            · exact Or.inr ⟨errno, by simp only [hfull]; rfl⟩

/-- Telling the reactor to exit comes to one of the ways of `Tells`. -/
theorem tell_tells (h : s.Steady K) :
    Tells K s (s.tell K).1 (s.tell K).2.1 (s.tell K).2.2 := by
  unfold tell Reactor.tryExit
  cases hrun : s.reactor.runningSender? with
  | none =>
      simp only [Program.run_pure, if_true]
      exact .already hrun
  | some x =>
      obtain rfl := h.runningSender? hrun
      simp only [Program.run_bind]
      rcases K.send_cases .exit s.host with
        ⟨host, hsend, hcontents⟩ | ⟨errno, host, hsend, hcontents⟩
      · have hgrown : ¬ K.contents host = K.contents s.host := by
          intro heq
          have hlength := congrArg List.length (hcontents.symm.trans heq)
          rw [List.length_append, ControlRecord.length_encode, ControlRecord.size] at hlength
          omega
        simp only [hsend, Program.run_pure, if_neg hgrown]
        exact .written host hrun hcontents
      · simp only [hsend]
        split
        · simp only [Program.run_pure, hcontents, if_true]
          exact .full host hrun hcontents
        · simp only [Program.run_pure, hcontents, if_true]
          exact .failed host hrun hcontents

/-- **A step of a stop** outside the reactor thread has one of the effects of its stage. -/
theorem advanceStop_effect (h : s.Steady K) (i : Nat) {stage : StopStage}
    (hstop : s.stops[i]? = some stage) :
    Effect K s (s.advanceStop K i stage).1 (s.advanceStop K i stage).2 := by
  cases stage with
  | telling => exact .stopTells i _ _ _ hstop (tell_tells h)
  | taking => exact .stopTakes i hstop
  | joining => exact .guarded (.stopJoins i hstop)
  | closing =>
      unfold advanceStop Reactor.closeChannel
      cases hsender : s.reactor.sender with
      | none => exact .stopCloses i s.host hstop rfl
      | some x => exact .stopCloses i _ hstop (K.contents_close x.fd s.host)
  | clearing => exact .unlocked (.stopClears i hstop)
  | returned => exact .elsewhere s.host rfl

/-! ## The reactor thread -/

/-- A wait that succeeds wakes the thread; one that fails comes again. -/
theorem wait_effect (hstage : s.stage = .waits) : Effect K s [] (s.wait K) := by
  unfold wait ReadinessSet.wait
  have hcontents := K.contents_poll s.live.forget.slots (-1) s.host
  simp only [Program.run_bind]
  rw [Program.run_ask]
  generalize K.kernel.answer (.poll s.live.forget.slots (-1)) s.host = answer at hcontents ⊢
  obtain ⟨result, host⟩ := answer
  cases result with
  | error errno =>
      exact .waits host _ _ hstage (Or.inl rfl) (ReadinessSet.pairs_forget _) hcontents
  | ok found =>
      refine .waits host _ _ hstage (Or.inr rfl) ?_ hcontents
      exact (ReadinessSet.pairs_record _ _).trans (ReadinessSet.pairs_forget _)

/-- **A visit** drops what was found closed, calls what may be attempted, or passes by. -/
theorem visit_effect {reports : List Readiness} (hstage : s.stage = .visits reports) :
    Effect K s (s.visit reports).1 (s.visit reports).2 := by
  match reports, hstage with
  | [], _ => exact .elsewhere s.host rfl
  | .readable fd g :: rest, hstage =>
      cases htask : s.reactor.registry.attemptable? fd g with
      | some task =>
          simp only [visit, htask]
          exact .attempts fd g rest task hstage htask
      | none =>
          have hvisit : s.membership.visit (m := Id) (fun _ task => (.keep, task))
              (.readable fd g) = (true, s.membership) := Membership.visit_idle _ htask
          simp only [visit, htask, followUp, hvisit, if_true]
          exact .passes fd g rest hstage htask
  | .closed fd g :: rest, hstage => exact .drops fd g rest hstage

/-- **The end of a callback** keeps or retires, and a panic leaves the loop. -/
theorem answer_effect (h : s.Steady K) {fd : Fd} {g : UInt64} {rest : List Readiness}
    (hstage : s.stage = .calls fd g rest false) (verdict : Verdict) (task : τ) :
    Effect K s [.answered fd g verdict task]
      (s.followUp (fun _ _ => (verdict, task)) (.readable fd g) rest) := by
  obtain ⟨before, hbefore⟩ := Option.ne_none_iff_exists'.mp (h.called fd g rest false hstage)
  have hvisit : s.membership.visit (m := Id) (fun _ _ => (verdict, task)) (.readable fd g) =
      s.membership.afterAttempt fd task verdict := Membership.visit_active _ hbefore
  have hafter := Effect.answers (K := K) fd g rest before task verdict hstage hbefore
  unfold followUp
  rw [hvisit]
  cases verdict <;> exact hafter

/-- A pass that finds the channel readable ends with what it receives. -/
theorem control_of_ready (hready : s.live.controlReady = true) {host : σ}
    {received : Except ReactorError ControlRecord}
    (hreceive : K.receiver.receive.run K.kernel s.host = (received, host)) :
    Membership.control (perform K) K.receiver s.membership s.host =
        (match received with
          | .ok r => s.membership.apply r
          | .error _ => (.waits, s.membership), host) ∧
      s.received? K = received.toOption := by
  have hmember : s.membership.live.controlReady = true := hready
  constructor
  · simp only [Membership.control, hmember, if_true, perform, bind, StateT.bind, hreceive]
    cases received <;> rfl
  · simp only [received?, hready, if_true, hreceive]

/-- Every other pass ends as it is. -/
theorem control_of_unready (hready : ¬ s.live.controlReady = true) :
    Membership.control (perform K) K.receiver s.membership s.host =
        ((.waits, s.membership), s.host) ∧
      s.received? K = none := by
  have hmember : ¬ s.membership.live.controlReady = true := hready
  constructor
  · simp only [Membership.control, hmember]
    rfl
  · rw [received?, if_neg hready]

/-- **The end of a pass**, whatever the pipe holds, applies the record that is received,
or does nothing. -/
theorem control_cases (K : ControlPipe σ ω) (s : System σ τ) :
    (∃ r host, K.receiver.receive.run K.kernel s.host = (.ok r, host) ∧
      s.control K = ([.applied r], { s.setMembership (s.membership.apply r).2 with
        host, stage := if r = .exit then .leaves false else .waits })) ∨
    (∃ cause host, K.receiver.receive.run K.kernel s.host = (.error cause, host) ∧
      s.control K = ([], { s with host, stage := .waits })) ∨
    s.control K = ([], { s with stage := .waits }) := by
  by_cases hready : s.live.controlReady = true
  · cases hreceive : K.receiver.receive.run K.kernel s.host with
    | mk received host =>
        obtain ⟨hcontrol, hreceived⟩ := control_of_ready hready hreceive
        cases received with
        | error cause =>
            refine Or.inr (Or.inl ⟨cause, host, rfl, ?_⟩)
            rw [control, hcontrol, hreceived]
            rfl
        | ok r =>
            refine Or.inl ⟨r, host, rfl, ?_⟩
            have hending := Membership.ending_apply s.membership r
            rw [control, hcontrol, hreceived]
            by_cases hexit : r = .exit
            · rw [if_pos hexit] at hending ⊢
              simp only [hending]
              rfl
            · rw [if_neg hexit] at hending ⊢
              simp only [hending]
              rfl
  · obtain ⟨hcontrol, hreceived⟩ := control_of_unready hready
    refine Or.inr (Or.inr ?_)
    rw [control, hcontrol, hreceived]
    rfl

/-- **The control record** of a pass is applied, or dropped when there is none whole. -/
theorem control_effect (h : s.Coherent K) (hstage : s.stage = .visits []) :
    Effect K s (s.control K).1 (s.control K).2 := by
  obtain ⟨rs, hwhole⟩ := h.stream
  have hreceives := K.receive_cases hwhole
  rcases s.control_cases K with
    ⟨r, host, hrun, hcontrol⟩ | ⟨cause, host, hrun, hcontrol⟩ | hcontrol
  · rw [hrun] at hreceives
    rcases hreceives with ⟨r', rest, host', rfl, hsame, hcontents⟩ | ⟨cause, host', hsame, -⟩
    · cases hsame
      rw [hcontrol]
      refine .receives r host hstage ?_
      rw [hwhole, hcontents, List.flatMap_cons]
    · cases hsame
  · rw [hrun] at hreceives
    rcases hreceives with ⟨r', rest, host', -, hsame, -⟩ | ⟨cause, host', hsame, hcontents⟩
    · cases hsame
    · cases hsame
      rw [hcontrol]
      exact .receivesNothing host hstage hcontents
  · rw [hcontrol]
    exact .receivesNothing s.host hstage rfl

/-- A step that does not read the pipe has an effect, **whatever the pipe holds**. -/
theorem Steady.step_effect (h : s.Steady K) {a : Action τ ω} (ha : a ≠ .control) :
    Effect K s (s.step K a).1 (s.step K a).2 := by
  have hidle : Effect K s [] s := .elsewhere s.host rfl
  cases a with
  | outside o => exact .elsewhere _ (K.contents_outside o s.host)
  | register fd task => exact .unlocked fun hfree => register_effect h hfree fd task
  | deregister fd => exact .unlocked fun hfree => deregister_effect h hfree fd
  | callStop => exact .beginsStop
  | advanceStop i =>
      cases hstop : s.stops[i]? with
      | none => simpa [step, hstop] using hidle
      | some stage => simpa [step, hstop] using advanceStop_effect h i hstop
  | wait => exact .guarded wait_effect
  | lock => exact .guarded .locks
  | visit =>
      simp only [step]
      split
      · next rest hstage => exact visit_effect hstage
      · exact hidle
  | callbackStop =>
      simp only [step]
      split
      · next fd g rest stopping hstage => exact .callbackStops fd g rest stopping hstage
      · exact hidle
  | callbackTell =>
      simp only [step]
      split
      · next fd g rest hstage =>
          have htells := tell_tells h
          generalize s.tell K = told at htells ⊢
          obtain ⟨progress, events, t⟩ := told
          have heffect := Effect.callbackTells fd g rest progress events t hstage htells
          by_cases hretry : progress = .retry
          · have hsame : { t with stage := .calls fd g rest true } = t := by
              rw [← hstage, ← htells.stage]
            simpa [hretry, hsame] using heffect
          · simpa [hretry] using heffect
      · exact hidle
  | answer verdict task =>
      simp only [step]
      split
      · next fd g rest hstage => exact answer_effect h hstage verdict task
      · exact hidle
  | control => exact absurd rfl ha
  | leave =>
      simp only [step]
      split
      · next panicked hstage => exact .leaves panicked _ hstage (K.contents_close _ _)
      · exact hidle

/-- **Every step has an effect.** -/
theorem step_effect (h : s.Coherent K) (a : Action τ ω) :
    Effect K s (s.step K a).1 (s.step K a).2 := by
  by_cases ha : a = .control
  · subst ha
    exact .guarded (control_effect h)
  · exact h.steady.step_effect ha

/-! ## The pipe -/

/-- The records that some events put into the pipe. -/
def sent (events : List (Event τ)) : List ControlRecord :=
  events.filterMap fun
    | .registered fd g _ => some (.register fd g)
    | .deregistered fd g => some (.deregister fd g)
    | .exitWritten => some .exit
    | _ => none

/-- The records that the reactor thread took out of the pipe. -/
def received (events : List (Event τ)) : List ControlRecord :=
  events.filterMap fun
    | .applied r => some r
    | _ => none

/-- What some steps and then others sent is both, in order. -/
@[simp] theorem sent_append (events more : List (Event τ)) :
    sent (events ++ more) = sent events ++ sent more := List.filterMap_append

/-- And so is what they received. -/
@[simp] theorem received_append (events more : List (Event τ)) :
    received (events ++ more) = received events ++ received more := List.filterMap_append

/-- The return of a call of stop puts nothing into the pipe. -/
@[simp] theorem sent_returned (progress : Progress) (events : List (Event τ)) :
    sent (if progress = .retry then events else events ++ [.callbackStopped]) = sent events := by
  split
  · rfl
  · rw [sent_append]
    exact List.append_nil _

/-- The return of a call of stop receives nothing. -/
@[simp] theorem received_returned (progress : Progress) (events : List (Event τ)) :
    received (if progress = .retry then events else events ++ [.callbackStopped]) =
      received events := by
  split
  · rfl
  · rw [received_append]
    exact List.append_nil _

/-- Telling puts what it sends behind the other records, and receives nothing. -/
theorem Tells.contents {progress : Progress} {events : List (Event τ)} {t : System σ τ}
    (h : Tells K s progress events t) :
    received events = [] ∧
      K.contents s.host ++ (sent events).flatMap ControlRecord.encode = K.contents t.host := by
  cases h <;> simp_all [sent, received]

/-- **First in, first out.**  What was in the pipe and what was put behind it
is what was taken out and what is in the pipe then. -/
theorem Effect.contents {events : List (Event τ)} {t : System σ τ} (h : Effect K s events t) :
    K.contents s.host ++ (sent events).flatMap ControlRecord.encode =
      (received events).flatMap ControlRecord.encode ++ K.contents t.host := by
  cases h with
  | rollsBack fd task event host hfree hrun haccepts hevent hcontents =>
      rcases hevent with rfl | ⟨errno, rfl⟩ <;> simp [sent, received, withRegistry, hcontents]
  | keeps fd event host hevent hcontents =>
      rcases hevent with rfl | ⟨errno, rfl⟩ <;> simp [sent, received, hcontents]
  | drops fd g rest hstage =>
      cases s.reactor.registry.findGeneration? fd g <;> simp [sent, received, setMembership]
  | stopTells i progress events t hstop htells =>
      obtain ⟨hreceived, hcontents⟩ := htells.contents
      rw [hreceived, hcontents]
      rfl
  | callbackTells fd g rest progress events t hstage htells =>
      obtain ⟨hreceived, hcontents⟩ := htells.contents
      rw [sent_returned, received_returned, hreceived, hcontents]
      rfl
  | _ => simp_all [sent, received, withRegistry, setMembership, setStop]

/-- The sending end stays or is closed. -/
theorem Effect.sender {events : List (Event τ)} {t : System σ τ} (h : Effect K s events t) :
    t.reactor.sender = s.reactor.sender ∨ t.reactor.sender = none := by
  cases h with
  | stopTells i progress events t hstop htells => cases htells <;> exact Or.inl rfl
  | callbackTells fd g rest progress events t hstage htells => cases htells <;> exact Or.inl rfl
  | stopCloses i host hstop hcontents => exact Or.inr rfl
  | _ => exact Or.inl rfl

/-- A reactor thread that holds no lock is in no callback. -/
private theorem not_calls_of_unlocked {stage : Stage} (h : stage.isLocked = false) (fd : Fd)
    (g : UInt64) (rest : List Readiness) (stopping : Bool) :
    stage ≠ .calls fd g rest stopping := by
  rintro rfl
  cases h

/-- What belongs to a running callback does so after a step. -/
private theorem Effect.called {events : List (Event τ)} {t : System σ τ} (hs : s.Steady K)
    (h : Effect K s events t) (fd : Fd) (g : UInt64) (rest : List Readiness) (stopping : Bool)
    (ht : t.stage = .calls fd g rest stopping) :
    t.reactor.registry.attemptable? fd g ≠ none := by
  have hkept := hs.called fd g rest
  cases h with
  | rollsBack _ _ _ _ hfree => exact absurd ht (not_calls_of_unlocked hfree _ _ _ _)
  | registers _ _ _ hfree => exact absurd ht (not_calls_of_unlocked hfree _ _ _ _)
  | deregisters _ _ _ hfree => exact absurd ht (not_calls_of_unlocked hfree _ _ _ _)
  | stopClears _ _ hfree => exact absurd ht (not_calls_of_unlocked hfree _ _ _ _)
  | stopTells i progress events t hstop htells => cases htells <;> exact hkept _ ht
  | callbackTells fd g rest progress events t hstage htells =>
      cases ht
      cases htells <;> exact hkept true hstage
  | attempts fd g rest task hstage htask =>
      cases ht
      rw [htask]
      exact Option.some_ne_none task
  | callbackStops fd g rest before hstage =>
      cases ht
      exact hkept before hstage
  | waits host live stage hstage hwakes =>
      rcases hwakes with rfl | rfl <;> cases ht
  | answers fd g rest before task verdict hstage hbefore =>
      exfalso
      revert ht
      simp only
      split <;> exact fun h => nomatch h
  | receives r host hstage hcontents =>
      exfalso
      revert ht
      simp only
      split <;> exact fun h => nomatch h
  | locks hstage => cases ht
  | passes fd g rest hstage hidle => cases ht
  | drops fd g rest hstage => cases ht
  | receivesNothing host hstage hcontents => cases ht
  | leaves panicked host hstage hcontents => cases ht
  | _ => exact hkept _ ht

/-- The pipe of a coherent state holds its queue. -/
theorem Coherent.contents_eq (h : s.Coherent K) :
    K.contents s.host = (s.queue K).flatMap ControlRecord.encode := by
  obtain ⟨rs, hrs⟩ := h.stream
  rw [queue, hrs, ControlRecord.ofStream_flatMap_encode]

/-- **The queue** before a step with what is sent is what is received with the
queue after it. -/
theorem Effect.queue {events : List (Event τ)} {t : System σ τ} (hs : s.Coherent K)
    (h : Effect K s events t) :
    K.contents t.host = (t.queue K).flatMap ControlRecord.encode ∧
      s.queue K ++ sent events = received events ++ t.queue K := by
  have haccount := h.contents
  rw [hs.contents_eq, ← List.flatMap_append] at haccount
  obtain ⟨tail, hqueue, htail⟩ := ControlRecord.exists_tail_of_flatMap_encode haccount
  have ht : t.queue K = tail := by
    rw [System.queue, htail, ControlRecord.ofStream_flatMap_encode]
  rw [ht]
  exact ⟨htail, hqueue⟩

/-- What does not depend on the pipe is kept by every effect. -/
theorem Effect.steady {events : List (Event τ)} {t : System σ τ} (hs : s.Steady K)
    (h : Effect K s events t) : t.Steady K := by
  refine ⟨?_, h.called hs⟩
  intro x hx
  rcases h.sender with hsame | hnone
  · exact hs.sender x (hsame ▸ hx)
  · rw [hnone] at hx
    cases hx

/-- **Coherence is kept** by every effect. -/
theorem Effect.coherent {events : List (Event τ)} {t : System σ τ} (hs : s.Coherent K)
    (h : Effect K s events t) : t.Coherent K :=
  have hsteady := h.steady hs.steady
  ⟨hsteady.sender, ⟨t.queue K, (h.queue hs).1⟩, hsteady.called⟩

end

/-- A reactor that has just started is coherent. -/
theorem coherent_start (K : ControlPipe σ ω) : (start K : System σ τ).Coherent K where
  sender := fun _ hx => (Option.some.inj hx).symm
  stream := ⟨[], K.contents_initial⟩
  called := fun _ _ _ _ h => nomatch h

/-- **Every reachable state is coherent.** -/
theorem Reachable.coherent {K : ControlPipe σ ω} {s : System σ τ} (h : s.Reachable K) :
    s.Coherent K :=
  h.invariant (coherent_start K) fun _ a hs => (step_effect hs a).coherent hs

/-- What goes on from a coherent state stays coherent. -/
theorem Coherent.runFrom {K : ControlPipe σ ω} {s : System σ τ} (hs : s.Coherent K)
    (as : List (Action τ ω)) : (s.runFrom K as).2.Coherent K := by
  induction as generalizing s with
  | nil => exact hs
  | cons a as ih => exact ih ((step_effect hs a).coherent hs)

/-- **The queue accounts for a run.**  What was queued with what is sent meanwhile
is what is received meanwhile with what is queued then. -/
theorem queue_runFrom {K : ControlPipe σ ω} {s : System σ τ} (hs : s.Coherent K)
    (as : List (Action τ ω)) :
    s.queue K ++ sent (s.runFrom K as).1 =
      received (s.runFrom K as).1 ++ (s.runFrom K as).2.queue K := by
  induction as generalizing s with
  | nil => simp [sent, received]
  | cons a as ih =>
      have heffect := step_effect hs a
      have hrest := ih (heffect.coherent hs)
      rw [runFrom_cons, sent_append, received_append, ← List.append_assoc,
        (heffect.queue hs).2, List.append_assoc, hrest, List.append_assoc]

end System

end ReceiveReactor
