import ReceiveReactor.Kernel.Program

/-!
# The readiness set

The descriptors that the reactor thread waits on.  The first slot always holds
the control channel's read end; every other slot is a watched descriptor,
tagged with the generation of the registration that it is watched for, and
keeps the result of the last wait.

* `ReadinessSet.insert`, `ReadinessSet.remove` — membership; removal moves the
  **last slot into the gap**;
* `ReadinessSet.wait` — one `poll` without a timeout over all slots;
* `ReadinessSet.ready` — what the last wait reported, in set order.
-/

namespace ReceiveReactor

/-- The events that make a descriptor worth a receive attempt. -/
def Events.readable : Events := .input ∪ .priority ∪ .error ∪ .hangup

/-- What a wait reported for one watched descriptor. -/
inductive Readiness where
  /-- Data, an error or a hangup is pending. -/
  | readable (fd : Fd) (generation : UInt64)
  /-- The descriptor is no longer open. -/
  | closed (fd : Fd) (generation : UInt64)
deriving DecidableEq, Repr

/-- A watched descriptor. -/
structure Watch where
  fd : Fd
  generation : UInt64
  result : Events := .none
deriving DecidableEq, Repr

/-- What a slot's last result amounts to.  A descriptor that is not open is
reported as closed **whatever else** was found. -/
def Watch.readiness? (w : Watch) : Option Readiness :=
  if w.result.meets .invalid then some (.closed w.fd w.generation)
  else if w.result.meets .readable then some (.readable w.fd w.generation)
  else none

/-- The control slot and the watched descriptors, in set order. -/
structure ReadinessSet where
  control : Fd
  controlResult : Events := .none
  watched : List Watch := []
deriving DecidableEq, Repr

namespace ReadinessSet

/-- A set that watches nothing but the control channel. -/
def ofControl (control : Fd) : ReadinessSet := { control }

/-- How many descriptors are watched; the control slot does not count. -/
def size (s : ReadinessSet) : Nat := s.watched.length

/-- Where a descriptor stands among the watched ones. -/
def position? (s : ReadinessSet) (fd : Fd) : Option Nat :=
  s.watched.findIdx? fun w => w.fd == fd

/-- The generation for which a descriptor is watched. -/
def generation? (s : ReadinessSet) (fd : Fd) : Option UInt64 :=
  (s.watched.find? fun w => w.fd == fd).map (·.generation)

/-- Starts watching a descriptor.  One that is watched already gets the new
generation, keeps its place and **loses its last result**. -/
def insert (s : ReadinessSet) (fd : Fd) (generation : UInt64) : ReadinessSet :=
  match s.position? fd with
  | some i => { s with watched := s.watched.set i { fd, generation } }
  | none => { s with watched := s.watched ++ [{ fd, generation }] }

/-- Takes the element at a place out and moves the last one there. -/
def swapOut {α : Type} (i : Nat) (xs : List α) : List α :=
  match xs.getLast? with
  | some last => (xs.set i last).dropLast
  | none => xs

/-- Stops watching a descriptor; answers whether it was watched. -/
def remove (s : ReadinessSet) (fd : Fd) : Bool × ReadinessSet :=
  match s.position? fd with
  | some i => (true, { s with watched := swapOut i s.watched })
  | none => (false, s)

/-- The set with every result forgotten. -/
def forget (s : ReadinessSet) : ReadinessSet :=
  { s with controlResult := .none, watched := s.watched.map fun w => { w with result := .none } }

/-- All slots as the wait sees them, the control slot first. -/
def slots (s : ReadinessSet) : List PollSlot :=
  ⟨s.control, .input, s.controlResult⟩ ::
    s.watched.map fun w => ⟨w.fd, .input, w.result⟩

/-- The results of a wait entered slot by slot; a slot without one reports
nothing. -/
def record (s : ReadinessSet) (results : List Events) : ReadinessSet :=
  { s with
    controlResult := results.headD .none
    watched := s.watched.mapIdx fun i w => { w with result := (results[i + 1]?).getD .none } }

/-- Waits, without a timeout, until something in the set is ready; answers how
many slots are.  **Every result is forgotten first**, so that a failed wait
leaves no slot ready. -/
def wait (s : ReadinessSet) : Program (Except Errno Nat × ReadinessSet) := do
  let fresh := s.forget
  match ← Program.ask (.poll fresh.slots (-1)) with
  | .error errno => return (.error errno, fresh)
  | .ok (count, results) => return (.ok (wordOfCount count), fresh.record results)

/-- Whether the last wait found the control channel readable. -/
def controlReady (s : ReadinessSet) : Bool := s.controlResult.meets .readable

/-- The watched descriptors that the last wait reported, in set order. -/
def ready (s : ReadinessSet) : List Readiness :=
  s.watched.filterMap Watch.readiness?

end ReadinessSet

end ReceiveReactor
