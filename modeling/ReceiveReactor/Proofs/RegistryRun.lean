import ReceiveReactor.Proofs.Registry

/-!
# Operations on a registry in any order

What a registry can be asked for, one operation after the other, with what each answers and
the tasks that it runs.  What an operation leaves of an entry hangs on the **descriptor and
the entry alone**, whatever else is registered.

* `Registry.step`, `Registry.runFrom` — one operation, and a run of them;
* `Registry.Operation.settle` — what an operation leaves of an entry;
* `Registry.find?_step_of_not_insert` — every operation but an insertion does just that;
* `Registry.find?_step_of_ne` — other descriptors keep their entries;
* `Registry.Passage` — the few ways in which an entry comes along;
* `Registry.ran_step` — **a task runs only by the dispatch of its active entry**.
-/

namespace ReceiveReactor

namespace Registry

/-- What can be done with a registry.  A dispatch comes with the answer that the task gives,
if it runs. -/
inductive Operation (τ : Type) where
  | insert (fd : Fd) (task : τ)
  | remove (fd : Fd)
  | removeGeneration (fd : Fd) (generation : UInt64)
  | activate (fd : Fd) (generation : UInt64)
  | dispatch (fd : Fd) (generation : UInt64) (answer : τ → Verdict × τ)
  | clear

/-- What an operation answers. -/
inductive Reply (τ : Type) where
  | insertion (i : Insertion)
  | taken (e : Option (Entry τ))
  | activated (found : Bool)
  | dispatched (verdict : Option Verdict)
  | cleared
deriving DecidableEq, Repr

/-- What an operation answers, and the tasks that it runs, each on its descriptor. -/
structure Outcome (τ : Type) where
  answer : Reply τ
  ran : List (Fd × τ) := []
deriving DecidableEq, Repr

variable {τ : Type}

/-- An attempt that gives a prepared answer and is written down. -/
def noted (answer : τ → Verdict × τ) (fd : Fd) (task : τ) :
    StateM (List (Fd × τ)) (Verdict × τ) :=
  fun ran => (answer task, ran ++ [(fd, task)])

/-- One operation. -/
def step (r : Registry τ) : Operation τ → Outcome τ × Registry τ
  | .insert fd task => (⟨.insertion (r.insert fd task).1, []⟩, (r.insert fd task).2)
  | .remove fd => (⟨.taken (r.remove fd).1, []⟩, (r.remove fd).2)
  | .removeGeneration fd generation =>
    (⟨.taken (r.removeGeneration fd generation).1, []⟩, (r.removeGeneration fd generation).2)
  | .activate fd generation =>
    (⟨.activated (r.activate fd generation).1, []⟩, (r.activate fd generation).2)
  | .dispatch fd generation answer =>
    let ((verdict, after), ran) := (r.dispatch (noted answer) fd generation).run []
    (⟨.dispatched verdict, ran⟩, after)
  | .clear => (⟨.cleared, []⟩, r.clear)

/-- Some operations, one after the other: each with its outcome, and the registry after
them. -/
def runFrom (r : Registry τ) : List (Operation τ) → List (Operation τ × Outcome τ) × Registry τ
  | [] => ([], r)
  | op :: ops =>
    let (log, after) := runFrom (r.step op).2 ops
    ((op, (r.step op).1) :: log, after)

/-- The operations on a new registry with their outcomes. -/
def logOf (ops : List (Operation τ)) : List (Operation τ × Outcome τ) := (runFrom {} ops).1

/-- The registry after some operations on a new one. -/
def after (ops : List (Operation τ)) : Registry τ := (runFrom {} ops).2

namespace Operation

/-- Whether an operation is an insertion. -/
def isInsert : Operation τ → Bool
  | insert .. => true
  | _ => false

/-- The descriptor that an operation is on. -/
def fd? : Operation τ → Option Fd
  | insert fd _ | remove fd | removeGeneration fd _ | activate fd _ | dispatch fd _ _ => some fd
  | clear => none

/-- Whether an operation is for the registration of one generation only. -/
def Names (fd : Fd) (generation : UInt64) : Operation τ → Prop
  | removeGeneration fd' generation' | activate fd' generation' | dispatch fd' generation' _ =>
    fd' = fd ∧ generation' = generation
  | _ => False

/-- What an operation leaves of the entry of a descriptor. -/
def settle (fd : Fd) (e : Entry τ) : Operation τ → Option (Entry τ)
  | insert .. => some e
  | remove fd' => if fd' = fd then none else some e
  | removeGeneration fd' generation =>
    if fd' = fd ∧ generation = e.generation then none else some e
  | activate fd' generation =>
    if fd' = fd ∧ generation = e.generation then some { e with state := .active } else some e
  | dispatch fd' generation answer =>
    if fd' = fd ∧ generation = e.generation ∧ e.state = .active then
      if (answer e.task).1 = .retire then none else some { e with task := (answer e.task).2 }
    else some e
  | clear => none

/-- The descriptor and the generation that a successful insertion answers. -/
def entered? : Operation τ × Outcome τ → Option (Fd × Nat)
  | (insert fd _, ⟨.insertion (.entered g), _⟩) => some (fd, g.toNat)
  | _ => none

/-- An entry keeps its generation as long as it stands. -/
theorem generation_settle {op : Operation τ} {fd : Fd} {e e' : Entry τ}
    (h : op.settle fd e = some e') : e'.generation = e.generation := by
  cases op <;> grind [settle]

/-- An operation on another descriptor leaves an entry as it is. -/
theorem settle_of_ne {op : Operation τ} {fd other : Fd} (hop : op.fd? = some fd)
    (hne : other ≠ fd) (e : Entry τ) : op.settle other e = some e := by
  cases op <;> grind [settle, fd?]

/-- An operation for another generation leaves an entry as it is. -/
theorem settle_of_names {op : Operation τ} {fd other : Fd} {g : UInt64} (hop : op.Names fd g)
    {e : Entry τ} (hne : ¬ (other = fd ∧ e.generation = g)) : op.settle other e = some e := by
  cases op <;> grind [settle, Names]

end Operation

/-! ## The entries after an operation -/

/-- What an activation leaves under each descriptor. -/
theorem find?_activate (r : Registry τ) (fd other : Fd) (g : UInt64) :
    (r.activate fd g).2.find? other =
      (r.find? other).map fun e =>
        if fd = other ∧ g = e.generation then { e with state := .active } else e := by
  unfold activate
  cases hfind : r.find? other with
  | none =>
      cases hfound : r.findGeneration? fd g with
      | none => simp [hfind]
      | some e₀ => simp [find?_update, hfind]
  | some e =>
      -- The activation looks at the entry of its own descriptor, which may be another one.
      cases hfound : r.findGeneration? fd g with
      | none =>
          have hstale := findGeneration?_eq_none_iff.mp hfound
          grind
      | some e₀ =>
          have he₀ := findGeneration?_eq_some_iff.mp hfound
          simp only [find?_update, hfind]
          grind

/-- What a dispatch comes to: nothing runs, or the task of an active entry of that
generation does. -/
theorem step_dispatch (r : Registry τ) (fd : Fd) (g : UInt64) (answer : τ → Verdict × τ) :
    r.step (.dispatch fd g answer) =
      match r.attemptable? fd g with
      | none => (⟨.dispatched none, []⟩, r)
      | some task =>
        (⟨.dispatched (some (answer task).1), [(fd, task)]⟩,
          if (answer task).1 = .retire then r.erase fd
          else r.update fd fun e => { e with task := (answer task).2 }) := by
  cases htask : r.attemptable? fd g with
  | none =>
      simp only [step, dispatch_idle (noted answer) htask]
      rfl
  | some task =>
      obtain ⟨verdict, after, hanswer⟩ : ∃ verdict after, answer task = (verdict, after) :=
        ⟨_, _, rfl⟩
      have hnoted : noted answer fd task = fun ran => ((verdict, after), ran ++ [(fd, task)]) := by
        unfold noted
        rw [hanswer]
      simp only [step, dispatch_active (noted answer) htask, hnoted, hanswer]
      cases verdict <;> rfl

/-- What a dispatch leaves under each descriptor. -/
theorem find?_dispatch (r : Registry τ) (fd other : Fd) (g : UInt64)
    (answer : τ → Verdict × τ) :
    (r.step (.dispatch fd g answer)).2.find? other =
      (r.find? other).bind fun e => Operation.settle other e (.dispatch fd g answer) := by
  rw [step_dispatch]
  cases htask : r.attemptable? fd g with
  | none =>
      cases hfind : r.find? other with
      | none => rfl
      | some e =>
          have hidle : ¬ (fd = other ∧ g = e.generation ∧ e.state = .active) := by
            rintro ⟨rfl, hg, hactive⟩
            rw [attemptable?_eq_some_iff.mpr ⟨e, hfind, hg.symm, hactive, rfl⟩] at htask
            cases htask
          simp only [Option.bind_some, Operation.settle, if_neg hidle]
  | some task =>
      obtain ⟨e, hfind, hg, hactive, rfl⟩ := attemptable?_eq_some_iff.mp htask
      by_cases hother : other = fd
      · subst hother
        have hrun : other = other ∧ g = e.generation ∧ e.state = .active :=
          ⟨rfl, hg.symm, hactive⟩
        by_cases hretire : (answer e.task).1 = .retire
        · simp [hretire, find?_erase, hfind, Operation.settle, hrun]
        · simp [hretire, find?_update, hfind, Operation.settle, hrun]
      · have hkept : ∀ e', Operation.settle other e' (.dispatch fd g answer) = some e' :=
          Operation.settle_of_ne rfl hother
        simp only [hkept, Option.bind_fun_some]
        by_cases hretire : (answer e.task).1 = .retire
        · simp [hretire, find?_erase, hother]
        · simp [hretire, find?_update, hother]

/-- **What becomes of an entry** is for the operation to say, by the descriptor and the
entry alone. -/
theorem find?_step_of_not_insert (r : Registry τ) {op : Operation τ} (hop : op.isInsert = false)
    (fd : Fd) : (r.step op).2.find? fd = (r.find? fd).bind fun e => op.settle fd e := by
  cases op with
  | insert fd' task => cases hop
  | remove fd' =>
      show (r.erase fd').find? fd = _
      rw [find?_erase]
      cases hfind : r.find? fd with
      | none => simp
      | some e => grind [Operation.settle]
  | removeGeneration fd' g =>
      show (r.removeGeneration fd' g).2.find? fd = _
      rw [find?_removeGeneration]
      cases hfind : r.find? fd with
      | none => simp
      | some e => grind [Operation.settle, findGeneration?]
  | activate fd' g =>
      show (r.activate fd' g).2.find? fd = _
      rw [find?_activate]
      cases hfind : r.find? fd with
      | none => rfl
      | some e => grind [Operation.settle]
  | dispatch fd' g answer => exact find?_dispatch r fd' fd g answer
  | clear =>
      show (r.clear).find? fd = _
      cases hfind : r.find? fd <;> rfl

/-- The latest generation changes with an insertion only. -/
theorem latest_step_of_not_insert (r : Registry τ) {op : Operation τ}
    (hop : op.isInsert = false) : (r.step op).2.latest = r.latest := by
  cases op with
  | insert fd task => cases hop
  | remove | clear => rfl
  | removeGeneration fd g => exact latest_removeGeneration r fd g
  | activate fd g =>
      simp only [step, activate]
      cases r.findGeneration? fd g <;> rfl
  | dispatch fd g answer =>
      rw [step_dispatch]
      cases r.attemptable? fd g with
      | none => rfl
      | some task =>
          by_cases hretire : (answer task).1 = .retire
          · simp [hretire, erase]
          · simp [hretire, update]

/-- A descriptor that has an entry is refused, and nothing changes. -/
theorem step_insert_of_some {r : Registry τ} {fd : Fd} {e : Entry τ} (h : r.find? fd = some e)
    (task : τ) :
    r.step (.insert fd task) = (⟨.insertion (.refused (.alreadyRegistered fd)), []⟩, r) := by
  simp [step, insert, contains, h]

/-- A descriptor without an entry is entered while generations are left. -/
theorem step_insert_of_accepts {r : Registry τ} {fd : Fd} (h : r.Accepts fd) (task : τ) :
    r.step (.insert fd task) =
      (⟨.insertion (.entered (r.latest + 1)), []⟩, r.entered fd task) := by
  simp only [step, insert_of_accepts h]

/-- A longer run ends with its last operation, and with what that answers. -/
theorem runFrom_concat (r : Registry τ) (ops : List (Operation τ)) (op : Operation τ) :
    r.runFrom (ops ++ [op]) =
      ((r.runFrom ops).1 ++ [(op, ((r.runFrom ops).2.step op).1)],
        ((r.runFrom ops).2.step op).2) := by
  induction ops generalizing r with
  | nil => rfl
  | cons o ops ih =>
      rw [List.cons_append, runFrom, ih]
      rfl

/-- What the next operation answers. -/
def outcomeOf (ops : List (Operation τ)) (op : Operation τ) : Outcome τ := ((after ops).step op).1

theorem after_concat (ops : List (Operation τ)) (op : Operation τ) :
    after (ops ++ [op]) = ((after ops).step op).2 := by
  simp only [after, runFrom_concat]

/-- The log of a longer run ends with its last operation. -/
theorem logOf_concat (ops : List (Operation τ)) (op : Operation τ) :
    logOf (ops ++ [op]) = logOf ops ++ [(op, outcomeOf ops op)] := by
  simp only [logOf, runFrom_concat, outcomeOf, after]

/-- An outcome of which nothing comes. -/
def Outcome.Idle (o : Outcome τ) : Prop :=
  (o.answer = .taken none ∨ o.answer = .activated false ∨ o.answer = .dispatched none) ∧
    o.ran = []

/-- An operation for a generation that is not there does nothing. -/
theorem step_of_absent {r : Registry τ} {op : Operation τ} {fd : Fd} {g : UInt64}
    (hop : op.Names fd g) (habsent : r.findGeneration? fd g = none) :
    (r.step op).2 = r ∧ (r.step op).1.Idle := by
  cases op with
  | insert | remove | clear => exact hop.elim
  | removeGeneration fd' g' =>
      obtain ⟨rfl, rfl⟩ := hop
      simp [step, removeGeneration, habsent, Outcome.Idle]
  | activate fd' g' =>
      obtain ⟨rfl, rfl⟩ := hop
      simp [step, activate, habsent, Outcome.Idle]
  | dispatch fd' g' answer =>
      obtain ⟨rfl, rfl⟩ := hop
      have hidle : r.attemptable? fd' g' = none := by rw [attemptable?, habsent, Option.bind_none]
      simp [step_dispatch, hidle, Outcome.Idle]

/-- Only the dispatch of an active entry runs a task, and it runs that of the entry. -/
theorem ran_step (r : Registry τ) (op : Operation τ) :
    (r.step op).1.ran = [] ∨
      ∃ fd answer e, op = .dispatch fd e.generation answer ∧ r.find? fd = some e ∧
        e.state = .active ∧ (r.step op).1.ran = [(fd, e.task)] := by
  cases op with
  | insert | remove | removeGeneration | activate | clear => exact Or.inl rfl
  | dispatch fd g answer =>
      rw [step_dispatch]
      cases htask : r.attemptable? fd g with
      | none => exact Or.inl rfl
      | some task =>
          obtain ⟨e, hfind, rfl, hactive, rfl⟩ := attemptable?_eq_some_iff.mp htask
          exact Or.inr ⟨fd, answer, e, rfl, hfind, hactive, rfl⟩

/-- An operation on one descriptor leaves the entry of another as it is. -/
theorem find?_step_of_ne (r : Registry τ) {op : Operation τ} {fd other : Fd}
    (hop : op.fd? = some fd) (hne : other ≠ fd) : (r.step op).2.find? other = r.find? other := by
  cases hinsert : op.isInsert with
  | false =>
      rw [find?_step_of_not_insert r hinsert]
      simp only [Operation.settle_of_ne hop hne, Option.bind_fun_some]
  | true =>
      cases op with
      | insert fd' task =>
          obtain rfl : fd' = fd := Option.some.inj hop
          cases hfree : r.insert fd' task with
          | mk answer after =>
              cases answer with
              | entered g => simp [step, hfree, find?_insert hfree, hne]
              | refused | panicked =>
                  simp only [step, insert] at hfree ⊢
                  grind
      | remove | removeGeneration | activate | dispatch | clear => cases hinsert

/-! ## What becomes of an entry -/

/-- What an operation may make of an entry. -/
inductive Passage (op : Operation τ) (fd : Fd) : Option (Entry τ) → Option (Entry τ) → Prop
  /-- What has ended never stands again. -/
  | ended : Passage op fd none none
  | stays (e : Entry τ) : Passage op fd (some e) (some e)
  | activated (e : Entry τ) (named : op = .activate fd e.generation) :
      Passage op fd (some e) (some { e with state := .active })
  | attempted (e : Entry τ) (answer : τ → Verdict × τ)
      (named : op = .dispatch fd e.generation answer) (active : e.state = .active)
      (keeps : (answer e.task).1 ≠ .retire) :
      Passage op fd (some e) (some { e with task := (answer e.task).2 })
  | retired (e : Entry τ) (answer : τ → Verdict × τ)
      (named : op = .dispatch fd e.generation answer) (active : e.state = .active)
      (retires : (answer e.task).1 = .retire) : Passage op fd (some e) none
  | removed (e : Entry τ) (named : op = .remove fd) : Passage op fd (some e) none
  | dropped (e : Entry τ) (named : op = .removeGeneration fd e.generation) :
      Passage op fd (some e) none
  | cleared (e : Entry τ) (named : op = .clear) : Passage op fd (some e) none

/-- **One operation on one entry** is one of the ways of a `Passage`. -/
theorem passage_settle (op : Operation τ) (fd : Fd) (entry : Option (Entry τ)) :
    Passage op fd entry (entry.bind fun e => op.settle fd e) := by
  cases entry with
  | none => exact .ended
  | some e =>
      rw [Option.bind_some]
      cases op with
      | insert => exact .stays e
      | clear => exact .cleared e rfl
      | remove fd' =>
          by_cases hfd : fd' = fd
          · simpa [Operation.settle, hfd] using Passage.removed e (congrArg _ hfd)
          · simpa [Operation.settle, hfd] using Passage.stays e
      | removeGeneration fd' g =>
          by_cases hnamed : fd' = fd ∧ g = e.generation
          · obtain ⟨rfl, rfl⟩ := hnamed
            simpa [Operation.settle] using Passage.dropped e rfl
          · simpa only [Operation.settle, if_neg hnamed] using Passage.stays e
      | activate fd' g =>
          by_cases hnamed : fd' = fd ∧ g = e.generation
          · obtain ⟨rfl, rfl⟩ := hnamed
            simpa [Operation.settle] using Passage.activated e rfl
          · simpa only [Operation.settle, if_neg hnamed] using Passage.stays e
      | dispatch fd' g answer =>
          by_cases hnamed : fd' = fd ∧ g = e.generation ∧ e.state = .active
          · obtain ⟨rfl, rfl, hactive⟩ := hnamed
            by_cases hretire : (answer e.task).1 = .retire
            · simpa [Operation.settle, hactive, hretire] using
                Passage.retired e answer rfl hactive hretire
            · simpa [Operation.settle, hactive, hretire] using
                Passage.attempted e answer rfl hactive hretire
          · simpa only [Operation.settle, if_neg hnamed] using Passage.stays e

end Registry

end ReceiveReactor
