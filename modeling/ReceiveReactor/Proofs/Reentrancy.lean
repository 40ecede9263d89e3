import ReceiveReactor.Proofs.LocalPipe
import ReceiveReactor.Proofs.Sweep

/-!
# Callbacks that call back

A callback runs on the reactor thread, inside a pass, and may call the reactor that
runs it.  Such a call is refused **before it takes a lock**, so that the callback sees
a refusal and the reactor stays as it is.  Hence a pass is a sweep whatever its callbacks
do.

* `Reactor.register`, `Reactor.deregister` — a call, with the thread that makes it;
* `Callback` — callbacks with effects of their own and calls to the reactor;
* `Callback.run_onReactorThread` — on the reactor thread every call is refused;
* `Membership.sweeps` — a pass with such callbacks.
-/

namespace ReceiveReactor

namespace Reactor

variable {τ : Type}

/-- A registration: the checks before any lock, and then a stretch under the locks. -/
def register (r : Reactor τ) (onReactorThread : Bool) (fd : Fd) (task : τ) :
    Program (Progress × Reactor τ) := do
  match ← refusesRegister onReactorThread fd with
  | some cause => return (.failed cause, r)
  | none => r.tryRegister fd task

/-- A deregistration: the check before any lock, and then a stretch under the locks. -/
def deregister (r : Reactor τ) (onReactorThread : Bool) (fd : Fd) :
    Program (Progress × Reactor τ) :=
  match refusesDeregister onReactorThread with
  | some cause => return (.failed cause, r)
  | none => r.tryDeregister fd

/-- **On the reactor thread** neither call comes to the locks, or to the kernel. -/
theorem register_onReactorThread (r : Reactor τ) (fd : Fd) (task : τ) :
    r.register true fd task = pure (.failed .reentrantCall, r) := rfl

theorem deregister_onReactorThread (r : Reactor τ) (fd : Fd) :
    r.deregister true fd = pure (.failed .reentrantCall, r) := rfl

theorem state?_onReactorThread (r : Reactor τ) (fd : Fd) : r.state? true fd = none := rfl

end Reactor

/-- A callback: effects of its own, and calls to a reactor between them. -/
inductive Callback (m : Type → Type) (τ α : Type) : Type 1 where
  | done (a : α)
  | effect {β : Type} (x : m β) (next : β → Callback m τ α)
  | register (fd : Fd) (task : τ) (next : Progress → Callback m τ α)
  | deregister (fd : Fd) (next : Progress → Callback m τ α)
  | state (fd : Fd) (next : Option RegistrationState → Callback m τ α)

namespace Callback

variable {τ α : Type} {m : Type → Type} [Monad m]

/-- Runs a callback, with the reactor that it calls. -/
def run (perform : {α : Type} → Program α → m α) (onReactorThread : Bool) :
    Callback m τ α → StateT (Reactor τ) m α
  | done a => pure a
  | effect x next => do
    let b ← x
    (next b).run perform onReactorThread
  | register fd task next => do
    let (progress, r) ← perform ((← get).register onReactorThread fd task)
    set r
    (next progress).run perform onReactorThread
  | deregister fd next => do
    let (progress, r) ← perform ((← get).deregister onReactorThread fd)
    set r
    (next progress).run perform onReactorThread
  | state fd next => do
    let r ← get
    (next (r.state? onReactorThread fd)).run perform onReactorThread

/-- The effects of a callback every call of which is refused. -/
def refused : Callback m τ α → m α
  | done a => pure a
  | effect x next => do
    let b ← x
    (next b).refused
  | register _ _ next | deregister _ next => (next (.failed .reentrantCall)).refused
  | state _ next => (next none).refused

/-- **On the reactor thread every call is refused**, and the reactor stays as it is. -/
theorem run_onReactorThread [LawfulMonad m] {perform : {α : Type} → Program α → m α}
    (hperform : ∀ {α : Type} (a : α), perform (pure a) = pure a) (c : Callback m τ α) :
    c.run perform true = liftM c.refused := by
  induction c with
  | done a => simp only [run, refused, liftM_pure]
  | effect x next ih => simp only [run, refused, ih, liftM_bind]
  | register fd task next ih =>
      refine StateT.ext fun r => ?_
      simp [run, refused, Reactor.register_onReactorThread, hperform, ih]
  | deregister fd next ih =>
      refine StateT.ext fun r => ?_
      simp [run, refused, Reactor.deregister_onReactorThread, hperform, ih]
  | state fd next ih =>
      refine StateT.ext fun r => ?_
      simp [run, refused, Reactor.state?_onReactorThread, ih]

end Callback

/-- Attempts that leave a state alone are lifted one by one. -/
theorem attemptAll_liftM {σ τ : Type} {m : Type → Type} [Monad m] [LawfulMonad m]
    (attempt : Fd → τ → m (Verdict × τ)) (due : List (Due τ)) :
    attemptAll (fun fd task => (liftM (attempt fd task) : StateT σ m _)) due =
      liftM (attemptAll attempt due) := by
  induction due with
  | nil => simp only [attemptAll, liftM_pure]
  | cons d due ih =>
      simp only [attemptAll, ih, liftM_bind]
      refine bind_congr fun answer => ?_
      obtain ⟨verdict, task⟩ := answer
      by_cases hpanic : verdict = .panic
      · simp only [hpanic, if_true, liftM_pure]
      · simp only [hpanic, if_false, liftM_bind, liftM_pure]

namespace Membership

variable {σ τ : Type} {m : Type → Type} [Monad m] [LawfulMonad m]

/-- A sweep whose tasks do not look at the reactor leaves the reactor alone. -/
theorem sweep_liftM (attempt : Fd → τ → m (Verdict × τ))
    (perform : {α : Type} → Program α → m α) (receiver : ControlReceiver) (s : Membership τ) :
    s.sweep (m := StateT σ m) (fun fd task => liftM (attempt fd task))
        (fun p => liftM (perform p)) receiver =
      liftM (s.sweep attempt perform receiver) := by
  simp only [sweep, attemptAll_liftM, liftM_bind]
  refine bind_congr fun answers => ?_
  split
  · simp only [liftM_pure]
  · split
    · simp only [liftM_bind]
      refine bind_congr fun received => ?_
      cases received <;> simp only [liftM_pure]
    · simp only [liftM_pure]

/-- **A pass does what the wait reported.**  Whatever the tasks answer and whatever their
callbacks ask of their reactor, the pass is the sweep over the slots, each of them once, and
the reactor that the callbacks call stays as it is.  Both views are maps: no descriptor is
watched twice, and none has two entries. -/
theorem sweeps (perform : {α : Type} → Program α → m α)
    (hperform : ∀ {α : Type} (a : α), perform (pure a) = pure a) (receiver : ControlReceiver)
    (callback : Fd → τ → Callback m τ (Verdict × τ)) {s : Membership τ} (hlive : s.live.Distinct)
    (hregistry : s.registry.Distinct) :
    s.pass (m := StateT (Reactor τ) m) (fun fd task => (callback fd task).run perform true)
        (fun p => liftM (perform p)) receiver =
      liftM (s.sweep (fun fd task => (callback fd task).refused) perform receiver) ∧
    (s.due.map (·.slot)).Nodup ∧
    ∀ answers, AnswersTo s.due answers → Swept s answers (s.after answers) := by
  refine ⟨?_, nodup_due hlive, fun answers hanswers => swept_after hlive hanswers⟩
  simp only [Callback.run_onReactorThread hperform]
  rw [pass_eq_sweep _ _ _ hlive hregistry, sweep_liftM]

/-- A closed slot, one whose task retires, one of an earlier registration, one that is
pending and one whose task stays; and a record for the registration that is pending now. -/
def mixed : Membership Nat where
  registry :=
    { entries :=
        [(5, ⟨50, .active, 1⟩), (6, ⟨60, .active, 2⟩), (7, ⟨70, .pending, 6⟩),
          (8, ⟨80, .pending, 4⟩), (9, ⟨90, .active, 5⟩)]
      latest := 6 }
  live :=
    { control := PipeHost.readEnd
      controlResult := .input
      watched :=
        [⟨5, 1, .input ∪ .invalid⟩, ⟨6, 2, .input⟩, ⟨7, 3, .hangup⟩, ⟨8, 4, .input⟩,
          ⟨9, 5, .input⟩] }

/-- A callback that calls its reactor three times, and retires when one call is not refused,
or on another descriptor than 9. -/
def insistent (fd : Fd) (task : Nat) : Callback (StateM PipeHost) Nat (Verdict × Nat) :=
  .register 11 task fun registered =>
    .deregister fd fun deregistered =>
      .state fd fun seen =>
        let refused := registered = .failed .reentrantCall ∧
          deregistered = .failed .reentrantCall ∧ seen = none
        .done (if refused ∧ fd = 9 then .keep else .retire, task + 1)

/-- A closed descriptor, a pending one and two that are attempted, by callbacks that call
their reactor in vain; then the control record is applied. -/
theorem sweeps_mixed :
    let K := localPipe 65536
    let reactor : Reactor Nat := .ofSender K.sender
    let answers : List (Answer Nat) := [⟨(6, 2), .retire, 61⟩, ⟨(9, 5), .keep, 91⟩]
    mixed.live.Distinct ∧ mixed.registry.Distinct ∧
      ((mixed.pass (m := StateT (Reactor Nat) (StateM PipeHost))
          (fun fd task => (insistent fd task).run (System.perform K) true)
          (fun p => liftM (System.perform K p)) K.receiver).run reactor).run
            { bytes := (ControlRecord.register 7 6).encode } =
        (((.waits,
            { registry :=
                { entries :=
                    [(7, ⟨70, .active, 6⟩), (8, ⟨80, .pending, 4⟩), (9, ⟨91, .active, 5⟩)]
                  latest := 6 }
              live :=
                { control := PipeHost.readEnd
                  controlResult := .input
                  watched := [⟨9, 5, .input⟩, ⟨8, 4, .input⟩, ⟨7, 6, .none⟩] } }),
          reactor), {}) ∧
      Swept mixed answers (mixed.after answers) := by
  have hlive : mixed.live.Distinct := by decide
  have hregistry : mixed.registry.Distinct := by decide
  obtain ⟨hpass, -, hswept⟩ := sweeps (System.perform (localPipe 65536)) (fun _ => rfl)
    (localPipe 65536).receiver insistent hlive hregistry
  refine ⟨hlive, hregistry, ?_, hswept _ (by decide)⟩
  rw [hpass]
  rfl

end Membership

end ReceiveReactor
