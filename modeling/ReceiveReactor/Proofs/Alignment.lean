import ReceiveReactor.Proofs.Record
import ReceiveReactor.Registry

/-!
# One descriptor in two views

What the registry has under a descriptor, what the readiness set has, and what
the pipe still holds for it **fit together** in few ways.  An entry is known by
its state and generation, a slot by its generation.

* `Ahead` — the commands that may be queued for an unwatched descriptor;
* `Aligned` — how entry, slot and queued commands fit together;
* `Aligned.register`, `Aligned.deregister` — users keep them aligned;
* `Aligned.of_register`, `Aligned.of_deregister`, `Aligned.of_slot` — and so
  does the reactor thread, by what the first command or a slot tells it.
-/

namespace ReceiveReactor

/-- What may be queued for a descriptor that is not watched: commands of earlier
registrations, the end of each right behind its beginning, and last the command
of the entry if there is one, which is **pending** then. -/
inductive Ahead (fd : Fd) (entry : Option (RegistrationState × UInt64)) :
    List ControlRecord → Prop where
  | gone (hentry : entry = none) : Ahead fd entry []
  | pending (g : UInt64) (hentry : entry = some (.pending, g)) : Ahead fd entry [.register fd g]
  | stale (g : UInt64) (hentry : ∀ state, entry ≠ some (state, g)) {queue : List ControlRecord}
      (hrest : Ahead fd entry queue) : Ahead fd entry (.register fd g :: .deregister fd g :: queue)

/-- How an entry, a slot and the queued commands of a descriptor fit together. -/
inductive Aligned (fd : Fd) (entry : Option (RegistrationState × UInt64)) (slot : Option UInt64) :
    List ControlRecord → Prop where
  /-- The entry is watched and nothing is queued. -/
  | active (g : UInt64) (hentry : entry = some (.active, g)) (hslot : slot = some g) :
      Aligned fd entry slot []
  | unwatched (hslot : slot = none) {queue : List ControlRecord} (hahead : Ahead fd entry queue) :
      Aligned fd entry slot queue
  /-- An earlier registration is over and its end is queued first.  It may still
  be watched. -/
  | leaving (g : UInt64) (hslot : slot = none ∨ slot = some g)
      (hentry : ∀ state, entry ≠ some (state, g)) {queue : List ControlRecord}
      (hahead : Ahead fd entry queue) : Aligned fd entry slot (.deregister fd g :: queue)

variable {fd : Fd} {g : UInt64} {state : RegistrationState} {slot : Option UInt64}
  {entry : Option (RegistrationState × UInt64)} {queue : List ControlRecord}

/-! ## Users -/

/-- A **fresh** registration goes behind everything that is queued. -/
theorem Ahead.register (h : Ahead fd none queue)
    (hfresh : ∀ r ∈ queue, r.generation? ≠ some g) :
    Ahead fd (some (.pending, g)) (queue ++ [.register fd g]) := by
  induction h with
  | gone hentry => exact .pending g rfl
  | pending g' hentry => cases hentry
  | stale g' hentry hrest ih =>
      refine .stale g' ?_ (ih fun r hr => hfresh r (by simp [hr]))
      rintro state' heq
      obtain rfl : g = g' := congrArg Prod.snd (Option.some.inj heq)
      exact hfresh (.register fd g) (by simp) rfl

/-- The end of a registration goes behind everything that is queued. -/
theorem Ahead.deregister (h : Ahead fd (some (state, g)) queue) :
    Ahead fd none (queue ++ [.deregister fd g]) := by
  induction h with
  | gone hentry => cases hentry
  | pending g' hentry =>
      obtain rfl : g = g' := congrArg Prod.snd (Option.some.inj hentry)
      exact .stale g (by simp) (.gone rfl)
  | stale g' hentry hrest ih => exact .stale g' (by simp) ih

/-- **Registering** keeps a descriptor aligned. -/
theorem Aligned.register (h : Aligned fd none slot queue)
    (hfresh : ∀ r ∈ queue, r.generation? ≠ some g) :
    Aligned fd (some (.pending, g)) slot (queue ++ [.register fd g]) := by
  cases h with
  | active g' hentry hslot => cases hentry
  | unwatched hslot hahead => exact .unwatched hslot (hahead.register hfresh)
  | leaving g' hslot hentry hahead =>
      refine .leaving g' hslot ?_ (hahead.register fun r hr => hfresh r (by simp [hr]))
      rintro state' heq
      obtain rfl : g = g' := congrArg Prod.snd (Option.some.inj heq)
      exact hfresh (.deregister fd g) (by simp) rfl

/-- **Deregistering** keeps a descriptor aligned. -/
theorem Aligned.deregister (h : Aligned fd (some (state, g)) slot queue) :
    Aligned fd none slot (queue ++ [.deregister fd g]) := by
  cases h with
  | active g' hentry hslot =>
      obtain rfl : g = g' := congrArg Prod.snd (Option.some.inj hentry)
      exact .leaving g (Or.inr hslot) (by simp) (.gone rfl)
  | unwatched hslot hahead => exact .unwatched hslot hahead.deregister
  | leaving g' hslot hentry hahead =>
      exact .leaving g' hslot (by simp) hahead.deregister

/-! ## The reactor thread -/

/-- A **register** command that comes first belongs to the pending entry and is
the last one, or it is stale. -/
theorem Aligned.of_register (h : Aligned fd entry slot (.register fd g :: queue)) :
    (entry = some (.pending, g) ∧ slot = none ∧ queue = []) ∨
      (∀ state, entry ≠ some (state, g)) ∧ Aligned fd entry slot queue := by
  cases h with
  | unwatched hslot hahead =>
      cases hahead with
      | pending _ hentry => exact Or.inl ⟨hentry, hslot, rfl⟩
      | stale _ hentry hrest => exact Or.inr ⟨hentry, .leaving g (Or.inl hslot) hentry hrest⟩

/-- A **deregister** command that comes first is that of a registration which is
over, and the slot is that registration's if there is one. -/
theorem Aligned.of_deregister (h : Aligned fd entry slot (.deregister fd g :: queue)) :
    (slot = none ∨ slot = some g) ∧ (∀ state, entry ≠ some (state, g)) ∧
      Aligned fd entry none queue := by
  cases h with
  | unwatched hslot hahead => cases hahead
  | leaving _ hslot hentry hahead => exact ⟨hslot, hentry, .unwatched rfl hahead⟩

/-- A **slot** belongs to the active entry, or to a registration which is over
and whose end is queued. -/
theorem Aligned.of_slot (h : Aligned fd entry (some g) queue) :
    (entry = some (.active, g) ∧ queue = []) ∨
      (∀ state, entry ≠ some (state, g)) ∧ .deregister fd g ∈ queue ∧
        Aligned fd entry none queue := by
  cases h with
  | active g' hentry hslot =>
      obtain rfl : g = g' := Option.some.inj hslot
      exact Or.inl ⟨hentry, rfl⟩
  | unwatched hslot hahead => cases hslot
  | leaving g' hslot hentry hahead =>
      obtain rfl : g = g' := Option.some.inj (hslot.resolve_left fun h => nomatch h)
      exact Or.inr ⟨hentry, by simp, .leaving g (Or.inl rfl) hentry hahead⟩

/-- An **active** entry has its slot and nothing queued. -/
theorem Aligned.of_active (h : Aligned fd (some (.active, g)) slot queue) :
    slot = some g ∧ queue = [] := by
  have hahead {q : List ControlRecord} : ¬ Ahead fd (some (.active, g)) q := by
    intro h
    induction h with
    | gone hentry => cases hentry
    | pending _ hentry => cases hentry
    | stale _ _ _ ih => exact ih
  cases h with
  | active g' hentry hslot =>
      obtain rfl : g = g' := congrArg Prod.snd (Option.some.inj hentry)
      exact ⟨hslot, rfl⟩
  | unwatched hslot hq => exact absurd hq hahead
  | leaving _ _ _ hq => exact absurd hq hahead

/-! ## What is queued -/

/-- The command of a **pending** entry is queued, once. -/
theorem Aligned.count_register (h : Aligned fd (some (.pending, g)) slot queue) :
    queue.count (.register fd g) = 1 := by
  have hahead {q : List ControlRecord} (h : Ahead fd (some (.pending, g)) q) :
      q.count (.register fd g) = 1 := by
    induction h with
    | gone hentry => cases hentry
    | pending g' hentry =>
        obtain rfl : g = g' := congrArg Prod.snd (Option.some.inj hentry)
        simp
    | stale g' hentry hrest ih =>
        have hne : g' ≠ g := fun heq => hentry .pending (heq ▸ rfl)
        simpa [List.count_cons, hne] using ih
  cases h with
  | active g' hentry hslot => cases hentry
  | unwatched hslot hq => exact hahead hq
  | leaving g' hslot hentry hq => simpa [List.count_cons] using hahead hq

/-- Each queued **register** command is that of the pending entry or has its end
behind it. -/
theorem Aligned.register_split (h : Aligned fd entry slot queue) {front back : List ControlRecord}
    (hsplit : queue = front ++ .register fd g :: back) :
    entry = some (.pending, g) ∨ .deregister fd g ∈ back := by
  have hahead {q : List ControlRecord} (h : Ahead fd entry q) {front : List ControlRecord}
      (hq : q = front ++ .register fd g :: back) :
      entry = some (.pending, g) ∨ .deregister fd g ∈ back := by
    induction h generalizing front with
    | gone hentry => simp at hq
    | pending g' hentry =>
        cases front with
        | nil =>
            obtain rfl : g' = g := by simpa using (List.cons.inj hq).1
            exact Or.inl hentry
        | cons r front => simp at hq
    | stale g' hentry hrest ih =>
        match front with
        | [] =>
            obtain ⟨hfirst, rfl⟩ := List.cons.inj hq
            obtain rfl : g' = g := by simpa using hfirst
            exact Or.inr (by simp)
        | [r] => simp at hq
        | r :: r' :: front => exact ih (by simpa using (List.cons.inj (List.cons.inj hq).2).2)
  cases h with
  | active g' hentry hslot => simp at hsplit
  | unwatched hslot hq => exact hahead hq hsplit
  | leaving g' hslot hentry hq =>
      cases front with
      | nil => simp at hsplit
      | cons r front => exact hahead hq (List.cons.inj hsplit).2

/-- Without a queued command, the entry is active and watched, or there is
neither entry nor slot. -/
theorem Aligned.of_nil (h : Aligned fd entry slot []) :
    (∃ g, entry = some (.active, g) ∧ slot = some g) ∨ entry = none ∧ slot = none := by
  cases h with
  | active g hentry hslot => exact Or.inl ⟨g, hentry, hslot⟩
  | unwatched hslot hahead =>
      cases hahead with
      | gone hentry => exact Or.inr ⟨hentry, hslot⟩

end ReceiveReactor
