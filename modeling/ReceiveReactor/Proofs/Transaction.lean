import ReceiveReactor.Proofs.Footprint
import ReceiveReactor.Proofs.History

/-!
# Registrations and deregistrations are transactions

A registration enters its task and announces it, and a deregistration announces its
end and takes the entry out.  Each such stretch holds both locks; when the channel
is full, the call lets them go and takes another stretch later, with any steps of
others between.

* `System.Enters`, `System.Withdraws`, `System.Untraced` — **all of it or nothing**;
* `System.Event.LeavesBehind`, `System.Effect.leavesBehind` — what each event leaves behind;
* `System.Calls` — a call with all its stretches;
* `System.calls_are_transactions` — what the stretches of a call come to.
-/

namespace ReceiveReactor

/-! ## What a stretch answers -/

namespace Reactor

variable {σ τ : Type}

/-- Sending fails for good only if the channel is not full. -/
private theorem not_full_of_failed {cause cause' : ReactorError}
    (h : (if cause'.isChannelFull then Progress.retry else .failed cause') = .failed cause) :
    cause.isChannelFull = false := by
  split at h
  · cases h
  · next hnot =>
      obtain rfl := Progress.failed.inj h
      simpa using hnot

/-- **A full channel is no failure** of a registration. -/
theorem not_full_of_tryRegister (r : Reactor τ) (fd : Fd) (task : τ) (k : Kernel σ) (h : σ)
    {cause : ReactorError} (hfails : ((r.tryRegister fd task).run k h).1.1 = .failed cause) :
    cause.isChannelFull = false := by
  unfold tryRegister at hfails
  cases hrun : r.runningSender? with
  | none =>
      rw [hrun] at hfails
      obtain rfl : .stopped = cause := Progress.failed.inj hfails
      rfl
  | some sender =>
      rcases hinsert : r.registry.insert fd task with ⟨insertion, entered⟩
      simp only [hrun, hinsert] at hfails
      cases insertion with
      | refused cause' =>
          obtain rfl : cause' = cause := Progress.failed.inj hfails
          unfold Registry.insert at hinsert
          split at hinsert
          · obtain ⟨hrefused, -⟩ := Prod.mk.inj hinsert
            rw [← Insertion.refused.inj hrefused]
            rfl
          · split at hinsert <;> cases hinsert
      | panicked => cases hfails
      | entered g =>
          simp only [Program.run_bind] at hfails
          cases hsend : ((sender.send (.register fd g)).run k h).1 with
          | ok u => simp [hsend] at hfails
          | error cause' => exact not_full_of_failed (by simpa [hsend] using hfails)

/-- **Nor of a deregistration.** -/
theorem not_full_of_tryDeregister (r : Reactor τ) (fd : Fd) (k : Kernel σ) (h : σ)
    {cause : ReactorError} (hfails : ((r.tryDeregister fd).run k h).1.1 = .failed cause) :
    cause.isChannelFull = false := by
  unfold tryDeregister at hfails
  cases hrun : r.runningSender? with
  | none =>
      rw [hrun] at hfails
      obtain rfl : .stopped = cause := Progress.failed.inj hfails
      rfl
  | some sender =>
      cases hgeneration : r.registry.generation? fd with
      | none =>
          simp only [hrun, hgeneration] at hfails
          obtain rfl : .notRegistered fd = cause := Progress.failed.inj hfails
          rfl
      | some g =>
          simp only [hrun, hgeneration, Program.run_bind] at hfails
          cases hsend : ((sender.send (.deregister fd g)).run k h).1 with
          | ok u => simp [hsend] at hfails
          | error cause' => exact not_full_of_failed (by simpa [hsend] using hfails)

end Reactor

namespace System

variable {σ τ ω : Type}

/-- A stretch has entered a task: one entry more, pending, under a fresh generation,
and its register record behind all others.  Everything else is as it was. -/
structure Enters (K : ControlPipe σ ω) (s t : System σ τ) (fd : Fd) (g : UInt64) (task : τ) :
    Prop where
  free : s.reactor.registry.find? fd = none
  fresh : s.reactor.registry.latest < g
  entries : t.reactor.registry.entries.Perm
    ((fd, { task, state := .pending, generation := g }) :: s.reactor.registry.entries)
  pipe : K.contents t.host = K.contents s.host ++ (ControlRecord.register fd g).encode
  rest : t = s.withRegistry t.host t.reactor.registry

/-- A stretch has taken a registration out: one entry less, and its deregister record
behind all others.  Everything else is as it was. -/
structure Withdraws (K : ControlPipe σ ω) (s t : System σ τ) (fd : Fd) (g : UInt64) : Prop where
  entries : ∃ e : Entry τ, e.generation = g ∧
    s.reactor.registry.entries.Perm ((fd, e) :: t.reactor.registry.entries)
  gone : t.reactor.registry.find? fd = none
  pipe : K.contents t.host = K.contents s.host ++ (ControlRecord.deregister fd g).encode
  rest : t = s.withRegistry t.host
    { s.reactor.registry with entries := t.reactor.registry.entries }

/-- A stretch has left no trace: entries, set and pipe are as it found them, and so
is everything else but a generation that may be used up. -/
structure Untraced (K : ControlPipe σ ω) (s t : System σ τ) : Prop where
  entries : t.reactor.registry.entries = s.reactor.registry.entries
  latest_le : s.reactor.registry.latest ≤ t.reactor.registry.latest
  live : t.live = s.live
  pipe : K.contents t.host = K.contents s.host
  rest : t = s.withRegistry t.host t.reactor.registry

/-- What an event of a call leaves behind. -/
def Event.LeavesBehind (K : ControlPipe σ ω) (s t : System σ τ) : Event τ → Prop
  | .registered fd g task => Enters K s t fd g task
  | .registerRetries fd => s.reactor.registry.Accepts fd ∧ Untraced K s t
  | .registerFails fd cause => Untraced K s t ∧
    (cause = .stopped ∧ s.reactor.runningSender? = none ∨
      cause = .alreadyRegistered fd ∧ s.reactor.registry.find? fd ≠ none ∨
      ∃ errno, cause = ControlChannel.shortTransfer 0 errno)
  | .registerPanics _ => Untraced K s t ∧ s.reactor.registry.latest = Registry.lastGeneration
  | .deregistered fd g => Withdraws K s t fd g
  | .deregisterRetries _ => Untraced K s t ∧ t.reactor.registry = s.reactor.registry
  | .deregisterFails fd cause =>
    (Untraced K s t ∧ t.reactor.registry = s.reactor.registry) ∧
      (cause = .stopped ∧ s.reactor.runningSender? = none ∨
        cause = .notRegistered fd ∧ s.reactor.registry.find? fd = none ∨
        ∃ errno, cause = ControlChannel.shortTransfer 0 errno)
  | _ => True

section

variable {K : ControlPipe σ ω} {s t : System σ τ} {events : List (Event τ)}

/-! ## One step -/

theorem Reachable.distinct (h : s.Reachable K) : s.reactor.registry.Distinct := by
  have hboth : s.Coherent K ∧ s.reactor.registry.Distinct := by
    refine h.invariant (P := fun u => u.Coherent K ∧ u.reactor.registry.Distinct)
      ⟨coherent_start K, List.nodup_nil⟩ fun u a hu => ?_
    have heffect := step_effect hu.1 a
    exact ⟨heffect.coherent hu.1, heffect.distinct hu.2⟩
  exact hboth.2

/-- What changes nothing but the host leaves no trace. -/
private theorem untraced_of_host {host : σ} (hcontents : K.contents host = K.contents s.host) :
    Untraced K s { s with host } ∧ ({ s with host } : System σ τ).reactor.registry =
      s.reactor.registry :=
  ⟨⟨rfl, UInt64.le_refl _, rfl, hcontents, rfl⟩, rfl⟩

/-- **What a step shows of a call is all that it does**, or else nothing is done. -/
theorem Effect.leavesBehind (hs : s.reactor.registry.Distinct) (h : Effect K s events t)
    {ev : Event τ} (hmem : ev ∈ events) : ev.LeavesBehind K s t := by
  have hidle : Untraced K s s ∧ s.reactor.registry = s.reactor.registry := untraced_of_host rfl
  cases h with
  | refusesRegister fd cause hcause =>
      obtain rfl := List.mem_singleton.mp hmem
      exact ⟨hidle.1, hcause.imp id Or.inl⟩
  | panics fd hlast =>
      obtain rfl := List.mem_singleton.mp hmem
      exact ⟨hidle.1, hlast⟩
  | rollsBack fd task event host hfree hrun haccepts hevent hcontents =>
      obtain rfl := List.mem_singleton.mp hmem
      have huntraced : Untraced K s
          (s.withRegistry host (s.reactor.registry.withdrawn fd task)) := by
        refine ⟨?_, ?_, rfl, hcontents, rfl⟩
        · simp [withRegistry, Registry.withdrawn_eq haccepts]
        · simp only [withRegistry, Registry.withdrawn_eq haccepts]
          exact UInt64.le_of_lt haccepts.latest_lt
      rcases hevent with rfl | ⟨errno, rfl⟩
      · exact ⟨haccepts, huntraced⟩
      · exact ⟨huntraced, Or.inr (Or.inr ⟨errno, rfl⟩)⟩
  | registers fd task host hfree hrun haccepts hcontents =>
      obtain rfl := List.mem_singleton.mp hmem
      exact ⟨haccepts.1, haccepts.latest_lt, Registry.entered_perm haccepts task, hcontents, rfl⟩
  | refusesDeregister fd cause hcause =>
      obtain rfl := List.mem_singleton.mp hmem
      exact ⟨hidle, hcause.imp id Or.inl⟩
  | keeps fd event host hevent hcontents =>
      obtain rfl := List.mem_singleton.mp hmem
      rcases hevent with rfl | ⟨errno, rfl⟩
      · exact untraced_of_host hcontents
      · exact ⟨untraced_of_host hcontents, Or.inr (Or.inr ⟨errno, rfl⟩)⟩
  | deregisters fd e host hfree hrun hfind hcontents =>
      obtain rfl := List.mem_singleton.mp hmem
      refine ⟨⟨e, rfl, Registry.erase_perm hs hfind⟩, ?_, hcontents, rfl⟩
      simp [withRegistry, Registry.find?_erase]
  | drops fd g rest hstage =>
      obtain ⟨e, -, rfl⟩ := List.mem_map.mp hmem
      exact trivial
  | stopTells i progress events t hstop htells =>
      rcases htells.shows hmem with rfl
      exact trivial
  | callbackTells fd g rest progress events t hstage htells =>
      rcases htells.shows_returned hmem with rfl | rfl <;> exact trivial
  | _ =>
      first
        | exact absurd hmem List.not_mem_nil
        | (obtain rfl := List.mem_singleton.mp hmem; exact trivial)

/-- A shown failure of a registration is never that of a full channel. -/
theorem register_shows {fd : Fd} {task : τ} {ev : Event τ}
    (h : s.step K (.register fd task) = ([ev], t)) :
    (∃ g, ev = .registered fd g task) ∨ ev = .registerRetries fd ∨
      (∃ cause, ev = .registerFails fd cause ∧ cause.isChannelFull = false) ∨
      ev = .registerPanics fd := by
  simp only [step] at h
  split at h
  · cases h
  · have hev : [ev] = (s.register K fd task).1 := by rw [h]
    have hfails (cause : ReactorError) :
        ((s.reactor.tryRegister fd task).run K.kernel s.host).1.1 = .failed cause →
          cause.isChannelFull = false :=
      s.reactor.not_full_of_tryRegister fd task K.kernel s.host
    unfold register at hev
    generalize (s.reactor.tryRegister fd task).run K.kernel s.host = answer at hev hfails
    obtain ⟨⟨progress, reactor⟩, host⟩ := answer
    obtain ⟨rfl, -⟩ := List.cons.inj hev
    cases progress with
    | done => exact Or.inl ⟨_, rfl⟩
    | retry => exact Or.inr (Or.inl rfl)
    | failed cause => exact Or.inr (Or.inr (Or.inl ⟨cause, rfl, hfails cause rfl⟩))
    | panicked => exact Or.inr (Or.inr (Or.inr rfl))

/-- Nor is one of a deregistration. -/
theorem deregister_shows {fd : Fd} {ev : Event τ} (h : s.step K (.deregister fd) = ([ev], t)) :
    (∃ g, ev = .deregistered fd g) ∨ ev = .deregisterRetries fd ∨
      ∃ cause, ev = .deregisterFails fd cause ∧ cause.isChannelFull = false := by
  simp only [step] at h
  split at h
  · cases h
  · have hev : [ev] = (s.deregister K fd).1 := by rw [h]
    have hfails (cause : ReactorError) :
        ((s.reactor.tryDeregister fd).run K.kernel s.host).1.1 = .failed cause →
          cause.isChannelFull = false :=
      s.reactor.not_full_of_tryDeregister fd K.kernel s.host
    unfold deregister at hev
    generalize (s.reactor.tryDeregister fd).run K.kernel s.host = answer at hev hfails
    obtain ⟨⟨progress, reactor⟩, host⟩ := answer
    obtain ⟨rfl, -⟩ := List.cons.inj hev
    cases progress with
    | done => exact Or.inl ⟨_, rfl⟩
    | retry | panicked => exact Or.inr (Or.inl rfl)
    | failed cause => exact Or.inr (Or.inr ⟨cause, rfl, hfails cause rfl⟩)

/-! ## Whole calls -/

/-- A stretch of a call under the locks, with the states around it. -/
structure Stretch (σ τ : Type) where
  before : System σ τ
  shows : Event τ
  after : System σ τ

/-- Whether a stretch found the channel full. -/
def Event.isRetry : Event τ → Bool
  | .registerRetries _ | .deregisterRetries _ => true
  | _ => false

/-- A call from a state on: stretches that found the channel full, and a last one
with which it returns, each after some steps of others. -/
inductive Calls (K : ControlPipe σ ω) (a : Action τ ω) :
    System σ τ → List (Stretch σ τ) → Stretch σ τ → Prop where
  | retries {s : System σ τ} {tried : List (Stretch σ τ)} {last : Stretch σ τ}
      (others : List (Action τ ω)) (p : Stretch σ τ) (hbefore : p.before = (s.runFrom K others).2)
      (hstep : p.before.step K a = ([p.shows], p.after)) (hretry : p.shows.isRetry = true)
      (more : Calls K a p.after tried last) : Calls K a s (p :: tried) last
  | returns {s : System σ τ} (others : List (Action τ ω)) (last : Stretch σ τ)
      (hbefore : last.before = (s.runFrom K others).2)
      (hstep : last.before.step K a = ([last.shows], last.after))
      (hreturns : last.shows.isRetry = false) : Calls K a s [] last

/-- Every stretch of a call in a run is a step between reachable states, and what it
shows is all that it does. -/
theorem Calls.stretches (h : s.Reachable K) {a : Action τ ω} {tried : List (Stretch σ τ)}
    {last : Stretch σ τ} (hcalls : Calls K a s tried last) :
    (∀ p ∈ tried, p.before.step K a = ([p.shows], p.after) ∧ p.shows.isRetry = true ∧
      p.shows.LeavesBehind K p.before p.after) ∧
    last.before.step K a = ([last.shows], last.after) ∧ last.shows.isRetry = false ∧
      last.shows.LeavesBehind K last.before last.after := by
  have hleaves {p : Stretch σ τ} (hreach : p.before.Reachable K)
      (hstep : p.before.step K a = ([p.shows], p.after)) :
      p.shows.LeavesBehind K p.before p.after := by
    have heffect := step_effect hreach.coherent a
    rw [hstep] at heffect
    exact heffect.leavesBehind hreach.distinct (List.mem_singleton_self _)
  induction hcalls with
  | retries others p hbefore hstep hretry more ih =>
      have hreach : p.before.Reachable K := hbefore ▸ h.runFrom others
      have hafter : p.after.Reachable K := by
        have hnext := hreach.runFrom [a]
        rwa [runFrom_cons, hstep] at hnext
      obtain ⟨htried, hlast⟩ := ih hafter
      refine ⟨List.forall_mem_cons.mpr ⟨?_, htried⟩, hlast⟩
      exact ⟨hstep, hretry, hleaves hreach hstep⟩
  | returns others last hbefore hstep hreturns =>
      refine ⟨fun p hp => (nomatch hp), hstep, hreturns, ?_⟩
      exact hleaves (hbefore ▸ h.runFrom others) hstep

/-- What the last stretch of a registration comes to. -/
inductive RegisterReturns (K : ControlPipe σ ω) (fd : Fd) (task : τ) (p : Stretch σ τ) : Prop where
  | ok (g : UInt64) (hshows : p.shows = .registered fd g task)
      (enters : Enters K p.before p.after fd g task)
  | error (cause : ReactorError) (hshows : p.shows = .registerFails fd cause)
      (hcause : cause = .stopped ∧ p.before.reactor.runningSender? = none ∨
        cause = .alreadyRegistered fd ∧ p.before.reactor.registry.find? fd ≠ none ∨
        ∃ errno, errno ≠ Errno.wouldBlock ∧ cause = ControlChannel.shortTransfer 0 errno)
      (untraced : Untraced K p.before p.after)
  /-- The generations are used up, and the calling thread panics. -/
  | panics (hshows : p.shows = .registerPanics fd)
      (hused : p.before.reactor.registry.latest = Registry.lastGeneration)
      (untraced : Untraced K p.before p.after)

/-- What the last stretch of a deregistration comes to. -/
inductive DeregisterReturns (K : ControlPipe σ ω) (fd : Fd) (p : Stretch σ τ) : Prop where
  | ok (g : UInt64) (hshows : p.shows = .deregistered fd g)
      (withdraws : Withdraws K p.before p.after fd g)
  | error (cause : ReactorError) (hshows : p.shows = .deregisterFails fd cause)
      (hcause : cause = .stopped ∧ p.before.reactor.runningSender? = none ∨
        cause = .notRegistered fd ∧ p.before.reactor.registry.find? fd = none ∨
        ∃ errno, errno ≠ Errno.wouldBlock ∧ cause = ControlChannel.shortTransfer 0 errno)
      (untraced : Untraced K p.before p.after)
      (hsame : p.after.reactor.registry = p.before.reactor.registry)

/-- An error of the channel that is not that of a full one. -/
private theorem errno_ne {cause : ReactorError} (hnot : cause.isChannelFull = false) {errno : Errno}
    (h : cause = ControlChannel.shortTransfer 0 errno) : errno ≠ Errno.wouldBlock := by
  rintro rfl
  rw [h] at hnot
  cases hnot

/-- What speaks against a registration before the locks only looks at the
descriptor. -/
private theorem only_refusesRegister (onReactorThread : Bool) (fd : Fd) :
    (Reactor.refusesRegister onReactorThread fd).Only fun c => c = .descriptorFlags fd := by
  have hopen : (Reactor.isOpenDescriptor fd).Only fun c => c = .descriptorFlags fd := by
    unfold Reactor.isOpenDescriptor
    split
    · exact Program.only_pure _
    · refine Program.only_bind (Program.only_ask rfl) fun result => ?_
      cases result <;> exact Program.only_pure _
  unfold Reactor.refusesRegister
  split
  · exact Program.only_pure _
  · refine Program.only_bind hopen fun isOpen => ?_
    cases isOpen <;> exact Program.only_pure _

/-- A registration, with all its stretches. -/
private theorem Calls.registers (h : s.Reachable K) {fd : Fd} {task : τ}
    {tried : List (Stretch σ τ)} {last : Stretch σ τ}
    (hcalls : Calls K (.register fd task) s tried last) :
    (∀ p ∈ tried, p.shows = .registerRetries fd ∧ Untraced K p.before p.after ∧
      ((p.before.reactor.registry.entered fd task).remove fd).1.map (·.task) = some task) ∧
    RegisterReturns K fd task last := by
  obtain ⟨htried, hstep, hreturns, hlast⟩ := hcalls.stretches h
  refine ⟨fun p hp => ?_, ?_⟩
  · obtain ⟨hpstep, hretry, hleft⟩ := htried p hp
    rcases register_shows hpstep with ⟨g, hev⟩ | hev | ⟨cause, hev, -⟩ | hev
    · simp [hev, Event.isRetry] at hretry
    · rw [hev] at hleft
      exact ⟨hev, hleft.2, Registry.remove_entered hleft.1 task⟩
    · simp [hev, Event.isRetry] at hretry
    · simp [hev, Event.isRetry] at hretry
  · rcases register_shows hstep with ⟨g, hev⟩ | hev | ⟨cause, hev, hnot⟩ | hev
    · rw [hev] at hlast
      exact .ok g hev hlast
    · simp [hev, Event.isRetry] at hreturns
    · rw [hev] at hlast
      obtain ⟨huntraced, hcause⟩ := hlast
      refine .error cause hev (hcause.imp id (Or.imp id ?_)) huntraced
      exact fun ⟨errno, herrno⟩ => ⟨errno, errno_ne hnot herrno, herrno⟩
    · rw [hev] at hlast
      exact .panics hev hlast.2 hlast.1

/-- A deregistration, with all its stretches. -/
private theorem Calls.deregisters (h : s.Reachable K) {fd : Fd} {tried : List (Stretch σ τ)}
    {last : Stretch σ τ} (hcalls : Calls K (.deregister fd) s tried last) :
    (∀ p ∈ tried, p.shows = .deregisterRetries fd ∧ Untraced K p.before p.after ∧
      p.after.reactor.registry = p.before.reactor.registry) ∧
    DeregisterReturns K fd last := by
  obtain ⟨htried, hstep, hreturns, hlast⟩ := hcalls.stretches h
  refine ⟨fun p hp => ?_, ?_⟩
  · obtain ⟨hpstep, hretry, hleft⟩ := htried p hp
    rcases deregister_shows hpstep with ⟨g, hev⟩ | hev | ⟨cause, hev, -⟩
    · simp [hev, Event.isRetry] at hretry
    · rw [hev] at hleft
      exact ⟨hev, hleft⟩
    · simp [hev, Event.isRetry] at hretry
  · rcases deregister_shows hstep with ⟨g, hev⟩ | hev | ⟨cause, hev, hnot⟩
    · rw [hev] at hlast
      exact .ok g hev hlast
    · simp [hev, Event.isRetry] at hreturns
    · rw [hev] at hlast
      obtain ⟨⟨huntraced, hsame⟩, hcause⟩ := hlast
      refine .error cause hev (hcause.imp id (Or.imp id ?_)) huntraced hsame
      exact fun ⟨errno, herrno⟩ => ⟨errno, errno_ne hnot herrno, herrno⟩

/-- **Calls are transactions**, from every reachable state, whatever others do
between two stretches.

A registration that finds the channel full leaves no trace and takes the task back;
in the end it has entered the task and announced it, both exactly once, or has left
no trace.  A deregistration that finds the channel full changes nothing; in the end
it has taken the entry out and announced that, both exactly once, or has changed
nothing.  What speaks against a registration before the locks only looks at the
descriptor. -/
theorem calls_are_transactions (h : s.Reachable K) (fd : Fd) (task : τ) :
    (∀ tried last, Calls K (.register fd task) s tried last →
      (∀ p ∈ tried, p.shows = .registerRetries fd ∧ Untraced K p.before p.after ∧
        ((p.before.reactor.registry.entered fd task).remove fd).1.map (·.task) = some task) ∧
      RegisterReturns K fd task last) ∧
    (∀ tried last, Calls K (.deregister fd) s tried last →
      (∀ p ∈ tried, p.shows = .deregisterRetries fd ∧ Untraced K p.before p.after ∧
        p.after.reactor.registry = p.before.reactor.registry) ∧
      DeregisterReturns K fd last) ∧
    ∀ onReactorThread host, ∀ c ∈ (Reactor.refusesRegister onReactorThread fd).calls K.kernel host,
      c = .descriptorFlags fd :=
  ⟨fun _ _ hcalls => hcalls.registers h, fun _ _ hcalls => hcalls.deregisters h,
    fun onReactorThread _ _ hc => (only_refusesRegister onReactorThread fd).of_mem_calls hc⟩

end

/-- A pipe with room for one record, and that record in it. -/
def brimful : System PipeHost Nat := (run (localPipe 16) [.register 5 7]).2

/-- A registration finds it full. -/
def fullStretch : Stretch PipeHost Nat :=
  ⟨brimful, .registerRetries 6, (brimful.step (localPipe 16) (.register 6 9)).2⟩

/-- Then the reactor thread reads a record. -/
def drained : System PipeHost Nat :=
  (fullStretch.after.runFrom (localPipe 16) [.wait, .lock, .control]).2

def roomyStretch : Stretch PipeHost Nat :=
  ⟨drained, .registered 6 3 9, (drained.step (localPipe 16) (.register 6 9)).2⟩

/-- A registration that finds the pipe full once, and then has room. -/
theorem calls_are_transactions_brimful :
    Calls (localPipe 16) (.register 6 9) brimful [fullStretch] roomyStretch ∧
      Untraced (localPipe 16) fullStretch.before fullStretch.after ∧
      RegisterReturns (localPipe 16) 6 9 roomyStretch := by
  have hcalls : Calls (localPipe 16) (.register 6 9) brimful [fullStretch] roomyStretch :=
    .retries [] fullStretch rfl rfl rfl
      (.returns [.wait, .lock, .control] roomyStretch rfl rfl rfl)
  obtain ⟨hregister, -, -⟩ :=
    calls_are_transactions (K := localPipe 16) ⟨[.register 5 7], rfl⟩ 6 9
  obtain ⟨htried, hreturns⟩ := hregister _ _ hcalls
  obtain ⟨-, huntraced, -⟩ := htried fullStretch List.mem_cons_self
  exact ⟨hcalls, huntraced, hreturns⟩

end System

end ReceiveReactor
