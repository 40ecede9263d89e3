import ReceiveReactor.Reactor.Config
import ReceiveReactor.World.Attempt

/-!
# Named reactors

Reactors of the world and their users.  Between two steps of a user every
reactor comes **to rest**: it wakes until a wake changes nothing any more.  A
reactor can be parked at the start of a wake; what users do meanwhile piles up
and happens when it is let go.

* `WorldM.settle` — all reactors to rest;
* `WorldM.register`, `WorldM.deregister`, `WorldM.stop` — the users' calls;
* `WorldM.park`, `WorldM.letGo` — a wake held open.
-/

namespace ReceiveReactor

namespace WorldM

open World

/-! ## Wakes -/

/-- What a pass leaves behind.  A thread that ends drops the receiving end of
its channel. -/
def finishPass (name : String) (ending : PassEnd) (s : Membership Job) : WorldM Unit := do
  let thread : Thread := if ending = .waits then .waits else .ended
  modifyCell name fun c =>
    { c with
      reactor := { c.reactor with registry := s.registry }
      live := s.live
      thread }
  if thread = .ended then
    if let some c ← cell? name then perform (.ask (.close c.receiver.fd))

/-- One wake of a reactor whose thread waits. -/
def wake (name : String) : WorldM Unit := do
  if let some c ← cell? name then
    if c.thread = .waits then
      let (ending, s) ← Membership.wake attempt perform c.receiver ⟨c.reactor.registry, c.live⟩
      finishPass name ending s

/-- The latest call of stop tells the thread to exit and takes the right to join it.  When an
earlier call has that right, it **returns at once**. -/
def tellStop (name : String) : WorldM Unit := do
  if (← tellExit name) ≠ .retry then
    modifyCell name fun c =>
      let (first, reactor) := c.reactor.takeJoin
      { c with reactor, stop := if first then .joining else .returned }

/-- The latest call of stop joins the thread, if that has ended, and drops everything. -/
def joinStop (name : String) : WorldM Unit := do
  if let some c ← cell? name then
    if c.thread = .ended then
      let reactor ← perform c.reactor.finishStop
      modifyCell name fun c => { c with reactor, stop := .returned }

/-- What the latest call of stop can do now. -/
def pursueStop (name : String) : WorldM Unit := do
  if ((← cell? name).map (·.stop)) = some .telling then tellStop name
  if ((← cell? name).map (·.stop)) = some .joining then joinStop name

/-- One wake and what follows from it. -/
def turn (name : String) : WorldM Unit := do
  wake name
  pursueStop name

/-- What a wake can change: how far the host has been read, the reactors, the
pools and the records kept. -/
def pulse (w : World) : Host.Level × List (String × Cell) × List (Nat × Nat) × Nat :=
  (w.host.level, w.cells, w.pools.map fun p => (p.outstanding, p.free.length), w.events.length)

/-- Wakes a reactor until a wake changes nothing. -/
def rest (name : String) : (fuel : Nat) → WorldM Unit
  | 0 => pure ()
  | fuel + 1 => do
    let before := pulse (← get)
    turn name
    if pulse (← get) = before then pure () else rest name fuel

/-- More wakes than any pile of records and data asks for. -/
def manyWakes : Nat := 20000

/-- Lets every reactor come to rest. -/
def settle : WorldM Unit := do
  (← get).cells.forM fun (name, _) => rest name manyWakes

/-! ## Users' calls -/

/-- What a call of a user comes to. -/
inductive Outcome where
  | done
  | failed (cause : ReactorError)
  /-- It waits for the registry lock. -/
  | waits
  /-- The caller's thread panicked. -/
  | panicked
deriving DecidableEq, Repr

/-- Takes a stretch of a call under the locks until the channel has room, with
a wake of the reactor in between. -/
def insist (name : String) (stretch : Reactor Job → Program (Progress × Reactor Job)) :
    (fuel : Nat) → WorldM Outcome
  | 0 => return .waits
  | fuel + 1 => do
    match ← cell? name with
    | none => return .failed .stopped
    | some c =>
      let (progress, reactor) ← perform (stretch c.reactor)
      modifyCell name fun c => { c with reactor }
      match progress with
      | .done => return .done
      | .failed cause => return .failed cause
      | .panicked => return .panicked
      | .retry =>
        turn name
        insist name stretch fuel

/-- A call that has passed its first checks. -/
def enter (name : String) (call : WaitingCall) : WorldM Outcome :=
  match call with
  | .register fd job => insist name (fun r => r.tryRegister fd job) manyWakes
  | .deregister fd => insist name (fun r => r.tryDeregister fd) manyWakes

/-- A call that has passed its first checks and may have to wait for the
lock. -/
def enterOrWait (name : String) (call : WaitingCall) : WorldM Outcome := do
  match ← cell? name with
  | some { thread := .parked _, .. } =>
    modifyCell name fun c => { c with waiting := some call }
    return .waits
  | _ => enter name call

/-- Registers a descriptor. -/
def register (name : String) (fd : Fd) (job : Job) : WorldM Outcome := do
  match ← perform (Reactor.refusesRegister false fd) with
  | some cause => return .failed cause
  | none => enterOrWait name (.register fd job)

/-- Deregisters a descriptor. -/
def deregister (name : String) (fd : Fd) : WorldM Outcome :=
  enterOrWait name (.deregister fd)

/-- Registers and deregisters a descriptor many times; answers how many of the
calls failed. -/
def burst (name : String) (fd : Fd) : (times : Nat) → WorldM Nat
  | 0 => return 0
  | times + 1 => do
    let job ← newJob none .idle .none none false []
    let entered ← register name fd job
    let left ← deregister name fd
    let failures := (if entered = .done then 0 else 1) + (if left = .done then 0 else 1)
    return failures + (← burst name fd times)

/-- The state of a registration, as a user sees it. -/
def state (name : String) (fd : Fd) : WorldM (Option RegistrationState) :=
  return (← cell? name).bind fun c => c.reactor.state? false fd

/-- Stops a reactor; answers whether it still counts as running.  While the
thread is parked the rest happens when it is let go. -/
def stop (name : String) : WorldM Bool := do
  modifyCell name fun c => { c with stop := .telling }
  pursueStop name
  if let some c ← cell? name then
    if let .parked _ := c.thread then pure () else rest name manyWakes
  isRunning name

/-- Stops a reactor and forgets it. -/
def dropReactor (name : String) : WorldM Unit := do
  let _ ← stop name
  modify fun w => { w with cells := w.cells.filter fun (other, _) => other ≠ name }

/-- Starts a reactor.  A thread's name cannot hold the character of code 0:
then the channel is closed again and nothing has started. -/
def start (name : String) (config : ReactorConfig) : WorldM (Except Error Bool) := do
  match ← perform ControlChannel.open with
  | .error errno => return .error (.system errno)
  | .ok (sender, receiver) =>
    if config.name.toList.any (·.toNat = 0) then
      perform (.ask (.close receiver.fd))
      perform (.ask (.close sender.fd))
      return .ok false
    else
      match ← perform (.ask (.pipe 0)) with
      | .error errno => return .error (.system errno)
      | .ok gate =>
        modify fun w =>
          let (pool, w) := w.addPool config.pool
          let cell : Cell :=
            { title := config.name, reactor := .ofSender sender, receiver
              live := .ofControl receiver.fd, pool, gate }
          { w with cells := assign name cell w.cells }
        let job ← newJob none .idle .none none false []
        let _ ← register name gate.1 job
        rest name manyWakes
        return .ok true

/-! ## A wake held open -/

/-- Waits until a wait succeeds, and stops there with what it reported. -/
def parkNow (name : String) : (fuel : Nat) → WorldM Unit
  | 0 => pure ()
  | fuel + 1 => do
    if let some c ← cell? name then
      match ← perform c.live.wait with
      | (.error _, live) =>
        modifyCell name fun c => { c with live }
        parkNow name fuel
      | (.ok _, live) =>
        let others := live.ready.filter fun r =>
          match r with
          | .readable fd _ => fd ≠ c.gate.1
          | .closed _ _ => true
        modifyCell name fun c => { c with live, thread := .parked others }

/-- Parks a reactor's thread at the start of a wake; answers whether there was
a thread to park. -/
def park (name : String) : WorldM Bool := do
  match ← cell? name with
  | some c =>
    if c.reactor.isRunning && c.thread = .waits then
      let _ ← perform (.ask (.write c.gate.2 [0]))
      parkNow name manyWakes
      return true
    else return false
  | none => return false

/-- Lets a parked thread go on with its pass, and waits for the latest call of
stop.  When the reactor has come to rest, a call that waited is made; answers
what it came to. -/
def letGo (name : String) : WorldM (Option (Option Outcome)) := do
  match ← cell? name with
  | some { thread := .parked rest', reactor, receiver, live, gate, waiting, .. } =>
    let _ ← perform (.ask (.read gate.1 1))
    let (ending, s) ←
      Membership.resume attempt perform receiver ⟨reactor.registry, live⟩ rest'
    finishPass name ending s
    pursueStop name
    rest name manyWakes
    match waiting with
    | none => return some none
    | some call =>
      let outcome ← enter name call
      modifyCell name fun c => { c with waiting := none }
      rest name manyWakes
      return some (some outcome)
  | _ => return none

/-- What an injection behind a reactor's back comes to. -/
inductive Injection where
  | count (n : Int)
  | full
  | notRunning
deriving DecidableEq, Repr

/-- Writes bytes into a reactor's control channel. -/
def inject (name : String) (data : Bytes) : WorldM Injection := do
  match (← cell? name).bind (·.reactor.runningSender?) with
  | none => return .notRunning
  | some sender =>
    match ← perform (.ask (.write sender.fd data)) with
    | .ok count => return .count count
    | .error _ => return .count (-1)

/-- A record that no reactor knows. -/
def unknownRecord : Bytes := ControlRecord.layout 99 0 0

/-- Fills a reactor's control channel with unknown records. -/
def injectUntilFull (name : String) : (fuel : Nat) → WorldM Injection
  | 0 => return .full
  | fuel + 1 => do
    match ← inject name unknownRecord with
    | .notRunning => return .notRunning
    | .count n => if n = ControlRecord.size then injectUntilFull name fuel else return .full
    | .full => return .full

/-- Makes the next waits fail. -/
def failWaits (failures : List Errno) : WorldM Unit :=
  modify fun w => { w with host := { w.host with waitFailures := failures } }

end WorldM

end ReceiveReactor
