import ReceiveReactor.Proofs.Agreement
import ReceiveReactor.Proofs.Pass
import ReceiveReactor.Proofs.Stop

/-!
# The exit record

Every record is sent under the lock that also guards whether the reactor was told
to exit.  The exit record is therefore **the last one**, and a reactor thread that
has read it has read everything.

* `System.ExitsOnce` — one exit record, and nothing behind it;
* `System.Finished` — what a thread that has read it leaves behind;
* `System.TurnsAway` — what later calls meet;
* `System.exit_is_final` — all three, **in every run**.
-/

namespace ReceiveReactor

namespace System

variable {σ τ ω : Type}

/-- The exit record among the records of a run. -/
structure ExitsOnce (K : ControlPipe σ ω) (as : List (Action τ ω)) : Prop where
  /-- It is written once, and no record is written behind it. -/
  last_sent : ∀ before after, (run K as).1 = before ++ .exitWritten :: after →
    .exitWritten ∉ before ∧ sent after = []
  last_queued : ∀ front back, (run K as).2.queue K = front ++ .exit :: back → back = []

/-- What a run has come to whose reactor thread has read the exit record. -/
structure Finished (K : ControlPipe σ ω) (as : List (Action τ ω)) : Prop where
  drained : (run K as).2.queue K = []
  /-- Every registration and every deregistration that was made was applied. -/
  registers_applied : ∀ fd g task, .registered fd g task ∈ (run K as).1 →
    .applied (.register fd g) ∈ (run K as).1
  deregisters_applied : ∀ fd g, .deregistered fd g ∈ (run K as).1 →
    .applied (.deregister fd g) ∈ (run K as).1
  active : ∀ fd e, (run K as).2.reactor.registry.find? fd = some e → e.state = .active
  /-- The pass that read the exit record attempted, before it did, every descriptor
  that its wait reported readable and that was active for the generation of its
  slot when the thread had the lock. -/
  dispatched : ∀ front a back, as = front ++ a :: back →
    .applied .exit ∈ ((run K front).2.step K a).1 →
    ∃ p : LastPass K front, ∀ fd g task, .readable fd g ∈ p.polled.live.ready →
      p.taken.reactor.registry.attemptable? fd g = some task →
      .attempted fd g task ∈ (p.taken.runFrom K p.visits).1

/-- Nothing is registered, and every call is turned away.  A registration of an open
descriptor gets as far as the locks. -/
structure TurnsAway (K : ControlPipe σ ω) (s : System σ τ) : Prop where
  empty : ∀ fd, s.reactor.registry.find? fd = none
  open_passes : ∀ fd, 0 ≤ fd → (K.kernel.answer (.descriptorFlags fd) s.host).1 = .ok () →
    ((Reactor.refusesRegister false fd).run K.kernel s.host).1 = none
  registers : ∀ fd task, s.step K (.register fd task) = ([.registerFails fd .stopped], s)
  deregisters : ∀ fd, s.step K (.deregister fd) = ([.deregisterFails fd .stopped], s)

section

variable {K : ControlPipe σ ω} {s t : System σ τ} {events : List (Event τ)}

/-! ## The last record -/

theorem Effect.sent_of_told (h : Effect K s events t) (hs : s.reactor.exitSent = true) :
    sent events = [] := by
  rcases h.sent_cases with hnone | ⟨r, -, hnot, -⟩
  · exact hnone
  · rw [hs] at hnot
    cases hnot

/-- A reactor that was told to exit **sends nothing more**. -/
theorem sent_runFrom_of_told (hs : s.Coherent K) (htold : s.reactor.exitSent = true)
    (as : List (Action τ ω)) : sent (s.runFrom K as).1 = [] := by
  induction as generalizing s with
  | nil => rfl
  | cons a as ih =>
      have heffect := step_effect hs a
      rw [runFrom_cons, sent_append, heffect.sent_of_told htold,
        ih (heffect.coherent hs) (heffect.exitSent_mono htold)]
      rfl

/-- Nothing is sent behind the exit record. -/
private theorem sent_after_exit (hs : s.Coherent K) {as : List (Action τ ω)}
    {before after : List (Event τ)}
    (h : (s.runFrom K as).1 = before ++ .exitWritten :: after) : sent after = [] := by
  obtain ⟨front, a, back, earlier, later, rfl, -, hstep, rfl⟩ := exists_step_of_event h
  have hcoherent := hs.runFrom front
  have heffect := step_effect hcoherent a
  have hrecords : sent ((s.runFrom K front).2.step K a).1 =
      sent earlier ++ .exit :: sent later := by
    rw [hstep]
    simp [sent]
  rcases heffect.sent_cases with hnone | ⟨r, hone, -, htold⟩
  · simp [hrecords] at hnone
  · -- One record at most is sent by a step, so that this one is the exit record.
    rw [hrecords] at hone
    have hlength := congrArg List.length hone
    simp only [List.length_append, List.length_cons, List.length_nil] at hlength
    have hearlier : sent earlier = [] := List.length_eq_zero_iff.mp (by omega)
    have hlater : sent later = [] := List.length_eq_zero_iff.mp (by omega)
    rw [hearlier, hlater] at hone
    obtain rfl : .exit = r := (List.cons.inj hone).1
    rw [sent_append, hlater, sent_runFrom_of_told (heffect.coherent hcoherent) (htold rfl)]
    rfl

/-- **The exit record is written once at most**, and nothing behind it. -/
theorem exitsOnce (K : ControlPipe σ ω) (as : List (Action τ ω)) : ExitsOnce K as where
  last_sent := by
    intro before after h
    refine ⟨fun hmem => ?_, sent_after_exit (coherent_start K) h⟩
    -- A first exit record would have the second one behind it.
    obtain ⟨first, mid, rfl⟩ := List.append_of_mem hmem
    rw [List.append_assoc, List.cons_append] at h
    have hnone := sent_after_exit (coherent_start K) h
    simp [sent] at hnone
  last_queued := by
    intro front back hqueue
    have hinv : (run K as).2.Invariant K := Reachable.holds ⟨as, rfl⟩
    obtain ⟨records, hnot, hcases⟩ := hinv.exits
    rcases hcases with hrecords | ⟨-, hrecords⟩
    · rw [hrecords] at hqueue
      exact absurd (hqueue ▸ by simp) hnot
    · rw [hrecords] at hqueue
      rcases List.eq_nil_or_concat back with rfl | ⟨between, last, rfl⟩
      · rfl
      · have hsplit : records ++ [.exit] = (front ++ .exit :: between) ++ [last] := by
          simpa using hqueue
        obtain ⟨hfront, -⟩ := List.append_inj' hsplit rfl
        exact absurd (hfront ▸ by simp) hnot

/-! ## The thread that has read it -/

/-- A thread that reads the exit record has read everything, and nothing comes
behind it. -/
theorem drained_of_exit (hs : s.Invariant K) {a : Action τ ω}
    (hexit : .applied .exit ∈ (s.step K a).1) :
    s.stage = .visits [] ∧ (s.step K a).2.queue K = [] ∧
      (s.step K a).2.reactor.exitSent = true := by
  have heffect := step_effect hs.coherent a
  have hreceived : .exit ∈ received (s.step K a).1 := List.mem_filterMap.mpr ⟨_, hexit, rfl⟩
  rcases heffect.received_cases with hnone | ⟨r, hone, -, hstage, hleaves⟩
  · rw [hnone] at hreceived
    cases hreceived
  · rw [hone] at hreceived
    obtain rfl := List.mem_singleton.mp hreceived
    rw [if_pos rfl] at hleaves
    obtain ⟨htold, hempty⟩ := (heffect.invariant hs).drained (by rw [hleaves]; rfl)
      (by rw [hleaves]; rfl)
    exact ⟨hstage, hempty, htold⟩

/-- The records of a run with an empty pipe have all been applied. -/
private theorem applied_of_sent {as : List (Action τ ω)} (hempty : (run K as).2.queue K = [])
    {r : ControlRecord} (hr : r ∈ sent (run K as).1) : .applied r ∈ (run K as).1 := by
  have haccount : (start K).queue K ++ sent (run K as).1 =
      received (run K as).1 ++ (run K as).2.queue K := queue_runFrom (coherent_start K) as
  rw [queue_start, hempty, List.nil_append, List.append_nil] at haccount
  rw [haccount] at hr
  obtain ⟨ev, hev, heq⟩ := List.mem_filterMap.mp hr
  cases ev <;> simp at heq
  rwa [heq] at hev

/-- **Once it is applied** everything that was sent has been, and the last pass has left out
nothing that was readable. -/
theorem finished_of_exit {as : List (Action τ ω)} (h : .applied .exit ∈ (run K as).1) :
    Finished K as := by
  have hdrained : (run K as).2.queue K = [] := by
    obtain ⟨before, after, hsplit⟩ := List.append_of_mem h
    obtain ⟨front, a, back, earlier, later, rfl, -, hstep, -⟩ := exists_step_of_event hsplit
    have hinv : (run K front).2.Invariant K := Reachable.holds ⟨front, rfl⟩
    have hexit : .applied .exit ∈ ((run K front).2.step K a).1 := by
      rw [show ((run K front).2.step K a).1 = _ from hstep]
      simp
    obtain ⟨-, hempty, htold⟩ := drained_of_exit hinv hexit
    have hcoherent := (step_effect hinv.coherent a).coherent hinv.coherent
    have haccount := queue_runFrom hcoherent back
    rw [hempty, sent_runFrom_of_told hcoherent htold] at haccount
    rw [run, runFrom_append, runFrom_cons]
    exact (List.append_eq_nil_iff.mp haccount.symm).2
  have hinv : (run K as).2.Invariant K := Reachable.holds ⟨as, rfl⟩
  constructor
  case drained => exact hdrained
  case registers_applied =>
    exact fun fd g task hmem => applied_of_sent hdrained (List.mem_filterMap.mpr ⟨_, hmem, rfl⟩)
  case deregisters_applied =>
    exact fun fd g hmem => applied_of_sent hdrained (List.mem_filterMap.mpr ⟨_, hmem, rfl⟩)
  case active => exact fun fd e hfind => hinv.active_of_empty hdrained hfind
  case dispatched =>
    intro front a back hsplit hexit
    have hfront : (run K front).2.Invariant K := Reachable.holds ⟨front, rfl⟩
    obtain ⟨hover, -, -⟩ := drained_of_exit hfront hexit
    have hlocked : (run K front).2.stage.isLocked = true := by rw [hover]; rfl
    obtain ⟨p⟩ := exists_lastPass hlocked
    exact ⟨p, fun fd g task hready htask => p.attempted hover hready htask⟩

/-! ## Calls that come later -/

/-- A call that has returned stood there before, or this step has moved it there. -/
private theorem eq_of_set_returned {stops : List StopStage} {i j : Nat} {stop new : StopStage}
    (hstop : stops[i]? = some stop) (hjoin : stop.isJoiner = true)
    (hreturned : (stops.set j new)[i]? = some .returned) : j = i ∧ new = .returned := by
  by_cases hji : j = i
  · subst hji
    obtain ⟨hlt, -⟩ := List.getElem?_eq_some_iff.mp hstop
    rw [List.getElem?_set_self hlt] at hreturned
    exact ⟨rfl, Option.some.inj hreturned⟩
  · rw [List.getElem?_set_ne hji, hstop] at hreturned
    rw [Option.some.inj hreturned] at hjoin
    cases hjoin

/-- The call of stop that joined the thread **drops everything** before it
returns. -/
theorem Effect.cleared_of_returned (hs : s.Invariant K) (h : Effect K s events t) {i : Nat}
    {stop : StopStage} (hstop : s.stops[i]? = some stop) (hjoin : stop.isJoiner = true)
    (hreturned : t.stops[i]? = some .returned) : t.IsCleared := by
  have hkept (hsame : t.stops = s.stops) : t.IsCleared := by
    rw [hsame, hstop] at hreturned
    rw [Option.some.inj hreturned] at hjoin
    cases hjoin
  have hmoved {j : Nat} {new : StopStage} (hset : t.stops = s.stops.set j new) :
      j = i ∧ new = .returned := eq_of_set_returned hstop hjoin (hset ▸ hreturned)
  cases h with
  | beginsStop =>
      obtain ⟨hlt, -⟩ := List.getElem?_eq_some_iff.mp hstop
      have hold : (s.stops ++ [.telling])[i]? = some .returned := hreturned
      rw [List.getElem?_append_left hlt, hstop] at hold
      rw [Option.some.inj hold] at hjoin
      cases hjoin
  | stopTells j progress events u htelling htells =>
      obtain ⟨-, -, hstops⟩ := htells.frame
      have hset : (u.setStop j (if progress = .retry then .telling else .taking)).stops =
          s.stops.set j (if progress = .retry then .telling else .taking) := by
        rw [← hstops]
        rfl
      obtain ⟨-, hnew⟩ := hmoved hset
      split at hnew <;> cases hnew
  | callbackTells fd g rest progress events u hstage htells => exact hkept htells.frame.2.2
  | stopTakes j htaking =>
      obtain ⟨rfl, -⟩ := hmoved rfl
      rw [hstop] at htaking
      obtain rfl := Option.some.inj htaking
      cases hjoin
  | stopJoins j hjoining hended => exact nomatch (hmoved rfl).2
  | stopCloses j host hclosing hcontents => exact nomatch (hmoved rfl).2
  | stopClears j hclearing hfree =>
      obtain ⟨hended, hclosed⟩ := (hs.stops _ (List.mem_of_getElem? hclearing)).2 rfl
      exact ⟨fun _ => rfl, hclosed, hended⟩
  | _ => exact hkept rfl

/-- Nothing but the locks stands between an open descriptor and its registration. -/
theorem refusesRegister_of_open (k : Kernel σ) {fd : Fd} {h : σ} (hfd : 0 ≤ fd)
    (hopen : (k.answer (.descriptorFlags fd) h).1 = .ok ()) :
    ((Reactor.refusesRegister false fd).run k h).1 = none := by
  have hnot : ¬ fd < 0 := Int32.not_lt.mpr hfd
  simp only [Reactor.refusesRegister, Bool.false_eq_true, if_false, Reactor.isOpenDescriptor,
    if_neg hnot, Program.run_bind]
  rw [Program.run_ask]
  generalize k.answer (.descriptorFlags fd) h = answer at hopen ⊢
  obtain ⟨result, host⟩ := answer
  obtain rfl : result = .ok () := hopen
  rfl

/-- What is cleared **turns every call away**. -/
theorem IsCleared.turnsAway (h : s.IsCleared) : s.TurnsAway K := by
  have hfree : s.stage.isLocked = false := by
    have hended := h.ended
    cases hstage : s.stage <;> simp [hstage, Stage.isEnded, Stage.isLocked] at hended ⊢
  have hrun : s.reactor.runningSender? = none := by
    rw [Reactor.runningSender?, h.closed]
    exact ite_self none
  constructor
  case empty => exact h.empty
  case open_passes => exact fun fd hfd hopen => refusesRegister_of_open K.kernel hfd hopen
  case registers =>
    intro fd task
    simp only [step, hfree, register, Reactor.tryRegister, hrun, Program.run_pure]
    rfl
  case deregisters =>
    intro fd
    simp only [step, hfree, deregister, Reactor.tryDeregister, hrun, Program.run_pure]
    rfl

end

/-- **The exit record is final**, in every run.

It is written at most once and no record is written behind it.  Once the reactor
thread has read it, the pipe is empty, every registration and deregistration that
was made has been applied, every entry that is left is active, and the last pass
has attempted what it could.  And once the call of stop that joined the thread has
returned, nothing is registered any more and every call is turned away. -/
theorem exit_is_final (K : ControlPipe σ ω) (as : List (Action τ ω)) :
    ExitsOnce K as ∧
    (.applied .exit ∈ (run K as).1 → Finished K as) ∧
    ∀ front a back (i : Nat) stop, as = front ++ a :: back →
      (run K front).2.stops[i]? = some stop → stop.isJoiner = true →
      ((run K front).2.step K a).2.stops[i]? = some .returned →
      (run K as).2.TurnsAway K := by
  refine ⟨exitsOnce K as, finished_of_exit, ?_⟩
  intro front a back i stop hsplit hstop hjoin hreturned
  have hinv : (run K front).2.Invariant K := Reachable.holds ⟨front, rfl⟩
  have heffect := step_effect hinv.coherent a
  have hcleared := heffect.cleared_of_returned hinv hstop hjoin hreturned
  have hlater := (hcleared.runFrom (heffect.coherent hinv.coherent) back).1
  rw [hsplit, run, runFrom_append, runFrom_cons]
  exact hlater.turnsAway

/-- A stop while descriptor 5 is readable, up to the last step of the call. -/
def stopWhileReadable : List (Action Nat (List Events)) :=
  untilWoken ++ [.callStop, .advanceStop 0, .lock, .visit, .answer .keep 0, .control, .wait,
    .lock, .visit, .answer .keep 0, .control, .leave, .advanceStop 0, .advanceStop 0,
    .advanceStop 0]

/-- The pass that reads the exit record attempts the task before it does; when the
call has returned, nothing is left. -/
theorem exit_is_final_readable :
    (run (localPipe 65536) (stopWhileReadable ++ [.advanceStop 0])).1 =
      [.registered 5 1 0, .applied (.register 5 1), .exitWritten, .attempted 5 1 0,
        .answered 5 1 .keep 0, .attempted 5 1 0, .answered 5 1 .keep 0, .applied .exit, .cleared] ∧
    Finished (localPipe 65536) (stopWhileReadable ++ [.advanceStop 0]) ∧
    (run (localPipe 65536) (stopWhileReadable ++ [.advanceStop 0])).2.TurnsAway
      (localPipe 65536) := by
  have hrun : (run (localPipe 65536) (stopWhileReadable ++ [.advanceStop 0])).1 =
      [.registered 5 1 0, .applied (.register 5 1), .exitWritten, .attempted 5 1 0,
        .answered 5 1 .keep 0, .attempted 5 1 0, .answered 5 1 .keep 0, .applied .exit,
        .cleared] := rfl
  obtain ⟨-, hfinished, hturns⟩ :=
    exit_is_final (localPipe 65536) (stopWhileReadable ++ [.advanceStop 0])
  refine ⟨hrun, hfinished (by rw [hrun]; simp), ?_⟩
  exact hturns stopWhileReadable (.advanceStop 0) [] 0 .clearing rfl (by decide) rfl (by decide)

end System

end ReceiveReactor
