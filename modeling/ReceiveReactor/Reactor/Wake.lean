import ReceiveReactor.Control.Channel
import ReceiveReactor.Readiness
import ReceiveReactor.Registry

/-!
# Wakes of the reactor thread

The thread waits on its readiness set without any lock; then, **holding the
registry lock**, it visits what the wait reported, in set order, and last reads
one control record if the wait found the channel readable.

* `Membership.visit`, `Membership.visitAll` — the tasks of ready descriptors;
* `Membership.apply` — one control record;
* `Membership.pass` — everything under the lock;
* `Membership.wake` — a wait and its pass.

Attempts and calls to the kernel are effects of a monad, so that one and the
same loop runs in a simulated world and under any behaviour of tasks.
-/

namespace ReceiveReactor

/-- The two views of membership that the thread holds during a pass. -/
structure Membership (τ : Type) where
  registry : Registry τ
  live : ReadinessSet

/-- How a pass ends for the thread. -/
inductive PassEnd where
  /-- It waits again. -/
  | waits
  /-- It was told to exit. -/
  | exits
  /-- A callback panicked. -/
  | unwinds
deriving DecidableEq, Repr

namespace Membership

variable {τ : Type} {m : Type → Type} [Monad m]

/-- Visits one reported descriptor.  A readable one is dispatched and leaves
the set when its task retires; a closed one leaves set and registry.  Answers
whether the thread goes on. -/
def visit (attempt : Fd → τ → m (Verdict × τ)) (s : Membership τ) :
    Readiness → m (Bool × Membership τ)
  | .readable fd generation => do
    let (verdict, registry) ← s.registry.dispatch attempt fd generation
    match verdict with
    | some .panic => pure (false, { s with registry })
    | some .retire => pure (true, { registry, live := (s.live.remove fd).2 })
    | _ => pure (true, { s with registry })
  | .closed fd generation =>
    pure (true,
      { registry := (s.registry.removeGeneration fd generation).2
        live := (s.live.remove fd).2 })

/-- Visits reported descriptors in order, until a callback panics. -/
def visitAll (attempt : Fd → τ → m (Verdict × τ)) (s : Membership τ) :
    List Readiness → m (Bool × Membership τ)
  | [] => pure (true, s)
  | r :: rest => do
    let (goesOn, s) ← s.visit attempt r
    if goesOn then s.visitAll attempt rest else pure (false, s)

/-- Applies one control record.  A registration is applied only while its entry
is there; a deregistration unwatches the descriptor **whatever the
generation**. -/
def apply (s : Membership τ) : ControlRecord → PassEnd × Membership τ
  | .exit => (.exits, s)
  | .register fd generation =>
    match s.registry.activate fd generation with
    | (true, registry) => (.waits, { registry, live := s.live.insert fd generation })
    | (false, _) => (.waits, s)
  | .deregister fd _ => (.waits, { s with live := (s.live.remove fd).2 })

/-- Reads and applies one record if the last wait found the channel readable; a
record that cannot be read is dropped. -/
def control (perform : {α : Type} → Program α → m α) (receiver : ControlReceiver)
    (s : Membership τ) : m (PassEnd × Membership τ) := do
  if s.live.controlReady then
    match ← perform receiver.receive with
    | .ok record => pure (s.apply record)
    | .error _ => pure (.waits, s)
  else pure (.waits, s)

/-- Goes on with a pass of which some reports are still to be visited. -/
def resume (attempt : Fd → τ → m (Verdict × τ)) (perform : {α : Type} → Program α → m α)
    (receiver : ControlReceiver) (s : Membership τ) (rest : List Readiness) :
    m (PassEnd × Membership τ) := do
  let (goesOn, s) ← s.visitAll attempt rest
  if goesOn then s.control perform receiver else pure (.unwinds, s)

/-- Everything that a wake does under the registry lock. -/
def pass (attempt : Fd → τ → m (Verdict × τ)) (perform : {α : Type} → Program α → m α)
    (receiver : ControlReceiver) (s : Membership τ) : m (PassEnd × Membership τ) :=
  s.resume attempt perform receiver s.live.ready

/-- One wake: a wait and, unless it failed, its pass. -/
def wake (attempt : Fd → τ → m (Verdict × τ)) (perform : {α : Type} → Program α → m α)
    (receiver : ControlReceiver) (s : Membership τ) : m (PassEnd × Membership τ) := do
  match ← perform s.live.wait with
  | (.error _, live) => pure (.waits, { s with live })
  | (.ok _, live) => pass attempt perform receiver { s with live }

end Membership

end ReceiveReactor
