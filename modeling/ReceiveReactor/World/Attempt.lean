import ReceiveReactor.World.Basic

/-!
# Attempts of jobs

One attempt of a job: a receive of the library, then the consumer, which keeps
a record and acts.  The consumer runs with whatever locks the caller holds; on
a reactor thread these include the registry's.

* `WorldM.attempt` — one attempt, with its verdict and the job that is left.
-/

namespace ReceiveReactor

namespace WorldM

open World

/-- Sends the exit record of a reactor, if it can be sent now. -/
def tellExit (name : String) : WorldM Progress := do
  match ← cell? name with
  | none => return .done
  | some c =>
    let (progress, reactor) ← perform c.reactor.tryExit
    modifyCell name fun c =>
      { c with reactor := { c.reactor with exitSent := reactor.exitSent } }
    return progress

/-- Whether a reactor has not been told to exit; one that does not exist has. -/
def isRunning (name : String) : WorldM Bool :=
  return ((← cell? name).map (·.reactor.isRunning)).getD false

/-- Why a result failed, if it did. -/
def causeOf : Progress → Option ReactorError
  | .failed cause => some cause
  | _ => none

/-- What the consumer of a job does besides keeping its record. -/
def act (job : Job) : WorldM Aftermath := do
  match job.action, job.reactor with
  | .stop, some name =>
    -- Nobody else drains the channel while this thread asks again and again.
    if (← tellExit name) = .retry then modify fun w => { w with stuck := true }
    return .stopped (← isRunning name)
  | .reenter other, some name =>
    let register ← perform (Reactor.refusesRegister true other)
    let deregister := Reactor.refusesDeregister true
    let state := (← cell? name).bind fun c => c.reactor.state? true other
    return .reentered register deregister state (← isRunning name)
  | _, _ => return .none

/-- Calls the consumer of a job; answers whether it panicked. -/
def consume (job : Job) (seen : Observation) : WorldM Bool := do
  let after ← act job
  if let some task := job.label then
    modify fun w => { w with events := w.events ++ [{ task, seen, after }] }
  return job.action = .panic

/-- The verdict of an attempt whose consumer may have panicked. -/
def verdictOf (panicked : Bool) (otherwise : Verdict) : Verdict :=
  if panicked then .panic else otherwise

/-- One attempt of a receive task.  A buffer that the consumer does not keep
goes back to its pool, also when the consumer panics. -/
def attemptReceive (job : Job) (kind : TaskKind) (id : Nat) (fd : Fd) : WorldM Verdict := do
  let (outcome, pool) ← perform (ReceiveTask.attempt kind fd ((← get).pool id))
  modify fun w => w.setPool id pool
  match outcome.delivery with
  | none => return outcome.verdict
  | some d =>
    let panicked ← consume job (.delivered kind d.buffer.filled d.origin)
    if job.retain && !panicked then
      modify fun w => { w with retained := w.retained ++ [(id, d.buffer)] }
    else giveBack id d.buffer
    return verdictOf panicked outcome.verdict

/-- One attempt of a closure. -/
def attemptClosure (job : Job) (size : Nat) (fd : Fd) : WorldM (Verdict × Job) := do
  let seen := match ← perform (receiveFrom fd size) with
    | .ok d => .datagram (Bytes.padTo d.len d.stored) d.wireLen d.isTruncated
    | .error cause => .failed cause
  let panicked ← consume job seen
  let stays := job.answers.headD true
  return (verdictOf panicked (if stays then .keep else .retire),
    { job with answers := job.answers.tail })

/-- One attempt of a job on a descriptor. -/
def attempt (fd : Fd) (job : Job) : WorldM (Verdict × Job) := do
  match job.work with
  | .receive kind id => return (← attemptReceive job kind id fd, job)
  | .closure size => attemptClosure job size fd
  | .idle => return (.keep, job)

/-! ## Jobs and pools by name -/

/-- Makes a named pool. -/
def newPool (name : String) (capacity limit : Nat) : WorldM Unit :=
  modify fun w =>
    let (id, w) := w.addPool (.ofLimits capacity limit)
    { w with poolNames := assign name id w.poolNames }

/-- The identity of a named pool. -/
def poolId (name : String) : WorldM Nat :=
  return ((← get).poolNames.lookup name).getD (← get).pools.length

/-- Takes a buffer out of a pool and keeps it. -/
def takeBuffer (id : Nat) : WorldM Allocation :=
  modifyGet fun w =>
    let (result, pool) := (w.pool id).allocate
    let w := w.setPool id pool
    match result with
    | .granted b => (result, { w with taken := w.taken ++ [(id, b)] })
    | _ => (result, w)

/-- Drops some kept buffers; answers how many there were. -/
def dropBuffers (buffers : List (Nat × Buffer)) : WorldM Nat := do
  buffers.forM fun (id, b) => giveBack id b
  return buffers.length

/-- Drops the buffers that were taken out of pools by hand. -/
def releaseTaken : WorldM Nat := do
  let all := (← get).taken
  modify fun w => { w with taken := [] }
  dropBuffers all

/-- Drops the buffers that consumers keep. -/
def releaseRetained : WorldM Nat := do
  let all := (← get).retained
  modify fun w => { w with retained := [] }
  dropBuffers all

/-- Gives a job a name of its own. -/
def nameJob (name : String) (job : Job) : WorldM Unit :=
  modify fun w => { w with jobs := assign name job w.jobs }

/-- Forgets a named job. -/
def dropJob (name : String) : WorldM Unit :=
  modify fun w => { w with jobs := w.jobs.filter fun (other, _) => other ≠ name }

/-- Attempts a named job directly; nothing when there is none. -/
def attemptNamed (name : String) (fd : Fd) : WorldM (Option Verdict) := do
  match (← get).jobs.lookup name with
  | none => return none
  | some job =>
    let (verdict, job) ← attempt fd job
    nameJob name job
    return some verdict

end WorldM

end ReceiveReactor
