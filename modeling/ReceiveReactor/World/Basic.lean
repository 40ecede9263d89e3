import ReceiveReactor.Host.Answer
import ReceiveReactor.Reactor.Basic
import ReceiveReactor.Reactor.Wake
import ReceiveReactor.Socket.Handle
import ReceiveReactor.World.Task

/-!
# A world of named things

One process on a host: handles, buffer pools, tasks and reactors, all by name.
Everything runs in one deterministic order.  A reactor thread is a value: it
waits, is parked in the middle of a pass, or has ended.

* `World` — the whole state;
* `WorldM.perform` — a program run on the host;
* `World.collect` — what became visible since the last time.
-/

namespace ReceiveReactor

namespace World

/-- A named handle.  A closed one still stands for its last descriptor. -/
structure Slot where
  handle : Handle := {}
  /-- The last descriptor that it owned. -/
  last : Fd := -1
  protocol : Option Protocol := none
  /-- The port that it was last bound to. -/
  boundPort : UInt16 := 0
deriving DecidableEq, Repr

/-- What a reactor thread is doing. -/
inductive Thread where
  | waits
  /-- Stopped inside a pass, with reports still to be visited. -/
  | parked (rest : List Readiness)
  | ended
deriving DecidableEq, Repr

/-- A call that waits for the registry lock. -/
inductive WaitingCall where
  | register (fd : Fd) (job : Job)
  | deregister (fd : Fd)
deriving DecidableEq, Repr

/-- Where the latest call of stop stands.  An earlier one that has not returned yet is waited
for by nobody, and has **no turn** any more. -/
inductive StopCall where
  /-- It has returned, or there is none. -/
  | returned
  /-- It tells the thread to exit. -/
  | telling
  /-- It has taken the right to join the thread, and waits for its end. -/
  | joining
deriving DecidableEq, Repr

/-- A reactor with its thread. -/
structure Cell where
  /-- The name that it was configured with. -/
  title : String
  reactor : Reactor Job
  receiver : ControlReceiver
  live : ReadinessSet
  thread : Thread := .waits
  /-- The identity of the reactor's buffer pool. -/
  pool : Nat
  /-- The two ends of the pipe that parks the thread. -/
  gate : Fd × Fd
  stop : StopCall := .returned
  waiting : Option WaitingCall := none
deriving DecidableEq, Repr

end World

open World in
/-- The state of the world. -/
structure World where
  host : Host := {}
  slots : List (String × Slot) := []
  /-- All buffer pools ever made, by identity. -/
  pools : List BufferPool := []
  poolNames : List (String × Nat) := []
  /-- Buffers taken out of a pool by hand. -/
  taken : List (Nat × Buffer) := []
  /-- Buffers that consumers keep. -/
  retained : List (Nat × Buffer) := []
  jobs : List (String × Job) := []
  nextJob : Nat := 0
  /-- The jobs with a name that were there the last time. -/
  known : List (Nat × String) := []
  cells : List (String × Cell) := []
  events : List Event := []
  /-- A reactor thread is in a callback that never returns. -/
  stuck : Bool := false
deriving DecidableEq, Repr

/-- A computation in the world. -/
abbrev WorldM := StateM World

namespace World

/-- Puts a value under a name, in place of an earlier one. -/
def assign {α : Type} (name : String) (a : α) : List (String × α) → List (String × α)
  | [] => [(name, a)]
  | (other, b) :: rest =>
    if other = name then (name, a) :: rest else (other, b) :: assign name a rest

/-- The slot with a name; an unknown one is empty. -/
def slot (w : World) (name : String) : Slot := (w.slots.lookup name).getD {}

/-- The descriptor that a handle stands for. -/
def fd (w : World) (name : String) : Fd :=
  (w.slot name).handle.fd.getD (w.slot name).last

/-- A handle that stands for a descriptor, an open one before a closed one. -/
def nameOf? (w : World) (fd : Fd) : Option String :=
  ((w.slots.find? fun (_, s) => s.handle.fd == some fd).orElse fun _ =>
    w.slots.find? fun (_, s) => s.handle.fd.isNone && s.last == fd).map (·.1)

/-- The pool with an identity. -/
def pool (w : World) (id : Nat) : BufferPool := (w.pools[id]?).getD (.ofLimits 0 0)

/-- Replaces a pool. -/
def setPool (w : World) (id : Nat) (p : BufferPool) : World :=
  { w with pools := w.pools.set id p }

/-- Adds a pool. -/
def addPool (w : World) (p : BufferPool) : Nat × World :=
  (w.pools.length, { w with pools := w.pools ++ [p] })

/-- The jobs of all reactors and all those with a name of their own. -/
def allJobs (w : World) : List Job :=
  w.jobs.map (·.2) ++ w.cells.flatMap fun (_, c) =>
    (c.reactor.registry.entries.map fun (_, e) => e.task)
      ++ match c.waiting with
        | some (.register _ job) => [job]
        | _ => []

/-- Takes the records kept since the last time, and the names of the jobs that
are gone, in order. -/
def collect (w : World) : (List Event × List String) × World :=
  let alive := w.allJobs.map (·.id)
  let gone := w.known.filter fun (id, _) => !alive.contains id
  let known := w.known.filter fun (id, _) => alive.contains id
  ((w.events, (gone.map (·.2)).mergeSort fun a b => !decide (b < a)),
    { w with events := [], known })

end World

namespace WorldM

/-- Runs a program on the host. -/
def perform {α : Type} (p : Program α) : WorldM α := fun w =>
  let (a, host) := p.run Host.kernel w.host
  (a, { w with host })

instance : MonadLift Program WorldM := ⟨perform⟩

/-- Changes a slot. -/
def modifySlot (name : String) (f : World.Slot → World.Slot) : WorldM Unit :=
  modify fun w => { w with slots := World.assign name (f (w.slot name)) w.slots }

/-- Changes a reactor, if there is one of that name. -/
def modifyCell (name : String) (f : World.Cell → World.Cell) : WorldM Unit :=
  modify fun w =>
    { w with cells := w.cells.map fun (other, c) => (other, if other = name then f c else c) }

/-- The reactor with a name. -/
def cell? (name : String) : WorldM (Option World.Cell) :=
  return (← get).cells.lookup name

/-- Gives a buffer back to its pool. -/
def giveBack (id : Nat) (b : Buffer) : WorldM Unit :=
  modify fun w => w.setPool id ((w.pool id).release b)

/-- Makes a job; one with a name becomes known by it. -/
def newJob (label : Option String) (work : World.Work) (action : World.Action)
    (reactor : Option String) (retain : Bool) (answers : List Bool) : WorldM World.Job :=
  modifyGet fun w =>
    let id := w.nextJob
    ({ id, label, work, action, reactor, retain, answers },
      { w with
        nextJob := id + 1
        known := match label with
          | some l => w.known ++ [(id, l)]
          | none => w.known })

end WorldM

end ReceiveReactor
