import ReceiveReactor.Error
import ReceiveReactor.Kernel.Call

/-!
# The registry of receive tasks

Which descriptors are registered, each with its task, its state and its
generation.  Registering threads and the reactor share it under a lock.  Every
insertion gets a **fresh generation**, and commands that travel to the reactor
carry it, so that a command for an earlier registration of the same descriptor
can be told apart from the current one.

* `Registry.find?` — the view: the entry of a descriptor;
* `find?_insert`, `find?_erase`, `find?_update` — what each change does to it;
* `Registry.dispatch` — runs the task of an active entry of that generation.
-/

namespace ReceiveReactor

/-- Where a registration stands: entered but not yet applied by the reactor, or
watched by it. -/
inductive RegistrationState where
  | pending
  | active
deriving DecidableEq, Repr

/-- The name under which a state is shown. -/
def RegistrationState.name : RegistrationState → String
  | pending => "Pending"
  | active => "Active"

/-- What a receive attempt says about its descriptor. -/
inductive Verdict where
  /-- Stay registered. -/
  | keep
  /-- Leave the registry. -/
  | retire
  /-- The task's callback panicked: the thread that ran it unwinds. -/
  | panic
deriving DecidableEq, Repr

/-- What an insertion comes to. -/
inductive Insertion where
  | entered (generation : UInt64)
  | refused (cause : ReactorError)
  /-- The generations are used up: counting on overflows, and the calling thread
  panics. -/
  | panicked
deriving DecidableEq, Repr

/-- A registration. -/
structure Entry (τ : Type) where
  task : τ
  state : RegistrationState
  generation : UInt64
deriving DecidableEq, Repr

/-- How an entry describes itself. -/
def Entry.describe {τ : Type} (e : Entry τ) : String :=
  "Entry \x7b state: " ++ e.state.name ++ ", generation: " ++ toString e.generation.toNat
    ++ ", .. \x7d"

/-- Descriptors with their registrations, by ascending descriptor, and the
generation of the latest insertion. -/
structure Registry (τ : Type) where
  entries : List (Fd × Entry τ) := []
  latest : UInt64 := 0
deriving DecidableEq, Repr

namespace Registry

variable {τ : Type}

/-- Puts an entry at its place among ascending descriptors. -/
def place (fd : Fd) (e : Entry τ) : List (Fd × Entry τ) → List (Fd × Entry τ)
  | [] => [(fd, e)]
  | (other, f) :: rest =>
    if fd < other then (fd, e) :: (other, f) :: rest else (other, f) :: place fd e rest

/-- The entry of a descriptor. -/
def find? (r : Registry τ) (fd : Fd) : Option (Entry τ) :=
  r.entries.lookup fd

/-- Takes the entry of a descriptor out. -/
def erase (r : Registry τ) (fd : Fd) : Registry τ :=
  { r with entries := r.entries.filter fun (other, _) => other != fd }

/-- Changes the entry of a descriptor in place. -/
def update (r : Registry τ) (fd : Fd) (f : Entry τ → Entry τ) : Registry τ :=
  { r with entries := r.entries.map fun (other, e) => (other, if other = fd then f e else e) }

/-- How many descriptors are registered. -/
def size (r : Registry τ) : Nat := r.entries.length

/-- Whether a descriptor is registered. -/
def contains (r : Registry τ) (fd : Fd) : Bool := (r.find? fd).isSome

/-- The generation of a descriptor's registration. -/
def generation? (r : Registry τ) (fd : Fd) : Option UInt64 :=
  (r.find? fd).map (·.generation)

/-- The state of a descriptor's registration. -/
def state? (r : Registry τ) (fd : Fd) : Option RegistrationState :=
  (r.find? fd).map (·.state)

/-- The entry of a descriptor if it is the registration of that generation. -/
def findGeneration? (r : Registry τ) (fd : Fd) (generation : UInt64) : Option (Entry τ) :=
  (r.find? fd).filter fun e => e.generation == generation

/-- The greatest generation that a word holds. -/
def lastGeneration : UInt64 := 0xffffffffffffffff

/-- Adds a pending entry and answers its generation.  An insertion that fails
changes nothing and **uses no generation up**. -/
def insert (r : Registry τ) (fd : Fd) (task : τ) : Insertion × Registry τ :=
  if r.contains fd then (.refused (.alreadyRegistered fd), r)
  else if r.latest = lastGeneration then (.panicked, r)
  else
    let generation := r.latest + 1
    (.entered generation,
      { entries := place fd { task, state := .pending, generation } r.entries
        latest := generation })

/-- Takes a descriptor's entry out and answers it. -/
def remove (r : Registry τ) (fd : Fd) : Option (Entry τ) × Registry τ :=
  (r.find? fd, r.erase fd)

/-- Takes a descriptor's entry out only if it is the registration of that
generation. -/
def removeGeneration (r : Registry τ) (fd : Fd) (generation : UInt64) :
    Option (Entry τ) × Registry τ :=
  match r.findGeneration? fd generation with
  | some e => (some e, r.erase fd)
  | none => (none, r)

/-- Turns the registration of that generation active; answers whether there was
one. -/
def activate (r : Registry τ) (fd : Fd) (generation : UInt64) : Bool × Registry τ :=
  match r.findGeneration? fd generation with
  | some _ => (true, r.update fd fun e => { e with state := .active })
  | none => (false, r)

/-- Runs one attempt of an active entry of that generation and answers its
verdict.  **Nothing runs for any other entry.**  After `retire` the entry is
gone; after a panic it is still there. -/
def dispatch {m : Type → Type} [Monad m] (attempt : Fd → τ → m (Verdict × τ)) (r : Registry τ)
    (fd : Fd) (generation : UInt64) : m (Option Verdict × Registry τ) :=
  match r.findGeneration? fd generation with
  | none => pure (none, r)
  | some e =>
    if e.state = .active then do
      let (verdict, task) ← attempt fd e.task
      match verdict with
      | .retire => pure (some .retire, r.erase fd)
      | verdict => pure (some verdict, r.update fd fun e => { e with task })
    else pure (none, r)

/-- Takes every entry out. -/
def clear (r : Registry τ) : Registry τ := { r with entries := [] }

/-! ## The view -/

theorem find?_place (fd other : Fd) (e : Entry τ) (es : List (Fd × Entry τ))
    (h : es.lookup fd = none) :
    (place fd e es).lookup other = if other = fd then some e else es.lookup other := by
  induction es with
  | nil =>
    by_cases ho : other = fd <;> simp [place, List.lookup_cons, ho]
    simp [beq_eq_false_iff_ne.mpr ho]
  | cons p es ih =>
    obtain ⟨k, f⟩ := p
    have hk : fd ≠ k := by
      intro hk
      simp [hk] at h
    have hrest : es.lookup fd = none := by
      simpa [List.lookup_cons, beq_eq_false_iff_ne.mpr hk] using h
    by_cases hlt : fd < k
    · by_cases ho : other = fd
      · simp [place, hlt, ho]
      · simp [place, hlt, List.lookup_cons, ho, beq_eq_false_iff_ne.mpr ho]
    · by_cases hok : other = k
      · have : other ≠ fd := fun heq => hk (heq ▸ hok)
        simp [place, hlt, hok, Ne.symm hk]
      · simp [place, hlt, List.lookup_cons, beq_eq_false_iff_ne.mpr hok, ih hrest]

/-- **Insertion.**  The new entry is found under its descriptor and nothing
else changes. -/
theorem find?_insert {r r' : Registry τ} {fd : Fd} {task : τ} {g : UInt64}
    (h : r.insert fd task = (.entered g, r')) (other : Fd) :
    r'.find? other =
      if other = fd then some { task, state := .pending, generation := g } else r.find? other := by
  unfold insert at h
  split at h
  · simp at h
  · next hfree =>
    split at h
    · simp at h
    simp only [Prod.mk.injEq, Insertion.entered.injEq] at h
    obtain ⟨rfl, rfl⟩ := h
    have hnone : r.entries.lookup fd = none := by
      simpa only [contains, find?, Bool.not_eq_true, Option.isSome_eq_false_iff,
        Option.isNone_iff_eq_none] using hfree
    exact find?_place fd other _ r.entries hnone

/-- **Removal.**  A removed descriptor has no entry and nothing else changes. -/
theorem find?_erase (r : Registry τ) (fd other : Fd) :
    (r.erase fd).find? other = if other = fd then none else r.find? other := by
  obtain ⟨es, latest⟩ := r
  simp only [erase, find?]
  induction es with
  | nil => simp
  | cons p es ih =>
    obtain ⟨k, e⟩ := p
    by_cases hk : k = fd
    · by_cases ho : other = fd
      · simp [List.filter, hk, ho] at ih ⊢
        exact ih
      · have : (other == k) = false := beq_eq_false_iff_ne.mpr fun h => ho (h.trans hk)
        simp [List.filter, hk, ho, List.lookup_cons] at ih ⊢
        rw [ih]
        simp [beq_eq_false_iff_ne.mpr ho]
    · have hne : (k != fd) = true := by simp [hk]
      by_cases hok : other = k
      · have : other ≠ fd := fun h => hk (hok ▸ h)
        simp [List.filter, hne, hok, hk]
      · simp [List.filter, hne, List.lookup_cons, beq_eq_false_iff_ne.mpr hok] at ih ⊢
        exact ih

/-- **Change in place.**  The entry of the descriptor is changed and nothing
else. -/
theorem find?_update (r : Registry τ) (fd other : Fd) (f : Entry τ → Entry τ) :
    (r.update fd f).find? other =
      if other = fd then (r.find? other).map f else r.find? other := by
  obtain ⟨es, latest⟩ := r
  simp only [update, find?]
  induction es with
  | nil => simp
  | cons p es ih =>
    obtain ⟨k, e⟩ := p
    by_cases hok : other = k
    · subst hok
      by_cases ho : other = fd <;> simp [ho]
    · simp only [List.map_cons, List.lookup_cons, beq_eq_false_iff_ne.mpr hok]
      exact ih

end Registry

end ReceiveReactor
