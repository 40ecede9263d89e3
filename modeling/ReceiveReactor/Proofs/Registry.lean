import ReceiveReactor.Proofs.System

/-!
# Changes of the registry through its view

What each operation leaves under each descriptor, and what a visit of the
reactor thread does to the two views of membership.

* `Registry.standing?` — an entry without its task;
* `Registry.find?_withdrawn` — a rolled back insertion leaves **every entry as
  it was**;
* `Registry.withdrawn_eq`, `Registry.entered_perm`, `Registry.erase_perm` — the
  same of the entries themselves;
* `Registry.Change` — the changes that a step can make, and what **none of them**
  does;
* `Membership.visit_closed`, `Membership.visit_idle`, `Membership.visit_active`
  — the three kinds of visit;
* `Membership.apply_register`, `Membership.apply_stale` — the two kinds of
  register record.
-/

namespace ReceiveReactor

namespace Registry

variable {τ : Type}

/-- The state and the generation of a descriptor's registration. -/
def standing? (r : Registry τ) (fd : Fd) : Option (RegistrationState × UInt64) :=
  (r.find? fd).map fun e => (e.state, e.generation)

/-- A descriptor stands somewhere just if there is an entry that says so. -/
theorem standing?_eq_some_iff {r : Registry τ} {fd : Fd} {st : RegistrationState} {g : UInt64} :
    r.standing? fd = some (st, g) ↔
      ∃ e, r.find? fd = some e ∧ e.state = st ∧ e.generation = g := by
  simp [standing?, Option.map_eq_some_iff]

/-- It stands nowhere just if it has no entry. -/
theorem standing?_eq_none_iff {r : Registry τ} {fd : Fd} :
    r.standing? fd = none ↔ r.find? fd = none := by
  simp [standing?]

/-- The registry after an insertion. -/
def entered (r : Registry τ) (fd : Fd) (task : τ) : Registry τ := (r.insert fd task).2

/-- The registry after an insertion that was rolled back. -/
def withdrawn (r : Registry τ) (fd : Fd) (task : τ) : Registry τ := (r.entered fd task).erase fd

/-- An insertion needs a free descriptor and a generation that is left. -/
def Accepts (r : Registry τ) (fd : Fd) : Prop :=
  r.find? fd = none ∧ r.latest ≠ lastGeneration

/-- A descriptor that can be entered is entered under the next generation. -/
theorem insert_of_accepts {r : Registry τ} {fd : Fd} (h : r.Accepts fd) (task : τ) :
    r.insert fd task = (.entered (r.latest + 1), r.entered fd task) := by
  have hfree : r.contains fd = false := by simp [contains, h.1]
  simp [entered, insert, hfree, h.2]

/-- A registration takes the next generation. -/
theorem latest_entered {r : Registry τ} {fd : Fd} (h : r.Accepts fd) (task : τ) :
    (r.entered fd task).latest = r.latest + 1 := by
  have hfree : r.contains fd = false := by simp [contains, h.1]
  simp [entered, insert, hfree, h.2]

/-- **The new entry** is pending, under the new generation; all others are as they were. -/
theorem find?_entered {r : Registry τ} {fd : Fd} (h : r.Accepts fd) (task : τ) (other : Fd) :
    (r.entered fd task).find? other =
      if other = fd then some { task, state := .pending, generation := r.latest + 1 }
      else r.find? other :=
  find?_insert (insert_of_accepts h task) other

/-- **Rolling back** an insertion leaves every entry as it was. -/
theorem find?_withdrawn {r : Registry τ} {fd : Fd} (h : r.Accepts fd) (task : τ)
    (other : Fd) : (r.withdrawn fd task).find? other = r.find? other := by
  rw [withdrawn, find?_erase, find?_entered h]
  by_cases ho : other = fd
  · simp [ho, h.1]
  · simp [ho]

/-- A registration that was taken back has used its generation up. -/
theorem latest_withdrawn {r : Registry τ} {fd : Fd} (h : r.Accepts fd) (task : τ) :
    (r.withdrawn fd task).latest = r.latest + 1 :=
  latest_entered h task

/-- **The next generation is a fresh one.** -/
theorem Accepts.latest_lt {r : Registry τ} {fd : Fd} (h : r.Accepts fd) :
    r.latest < r.latest + 1 := by
  have hne : r.latest.toNat ≠ 2 ^ 64 - 1 := by
    intro heq
    exact h.2 (UInt64.toNat_inj.mp heq)
  have hlt := r.latest.toNat_lt
  rw [UInt64.lt_iff_toNat_lt, UInt64.toNat_add]
  have hone : (1 : UInt64).toNat = 1 := rfl
  omega

/-- The entry of a generation is the descriptor's entry, if it has that
generation. -/
theorem findGeneration?_eq_some_iff {r : Registry τ} {fd : Fd} {g : UInt64} {e : Entry τ} :
    r.findGeneration? fd g = some e ↔ r.find? fd = some e ∧ e.generation = g := by
  simp [findGeneration?, Option.filter_eq_some_iff]

/-- No entry is found under a generation that is not its own. -/
theorem findGeneration?_eq_none_iff {r : Registry τ} {fd : Fd} {g : UInt64} :
    r.findGeneration? fd g = none ↔ ∀ e, r.find? fd = some e → e.generation ≠ g := by
  simp [findGeneration?, Option.filter_eq_none_iff]

/-- Removing a generation takes out that registration and nothing else. -/
theorem find?_removeGeneration (r : Registry τ) (fd : Fd) (g : UInt64) (other : Fd) :
    (r.removeGeneration fd g).2.find? other =
      if other = fd ∧ (r.findGeneration? fd g).isSome then none else r.find? other := by
  unfold removeGeneration
  cases h : r.findGeneration? fd g with
  | none => simp
  | some e => simp [find?_erase]

/-- Removing an entry makes no generation free. -/
@[simp] theorem latest_removeGeneration (r : Registry τ) (fd : Fd) (g : UInt64) :
    (r.removeGeneration fd g).2.latest = r.latest := by
  unfold removeGeneration
  split <;> rfl

/-- A generation is found under a descriptor exactly if it stands there. -/
theorem findGeneration?_eq_none_iff_standing {r : Registry τ} {fd : Fd} {g : UInt64} :
    r.findGeneration? fd g = none ↔ ∀ st, r.standing? fd ≠ some (st, g) := by
  rw [findGeneration?_eq_none_iff]
  constructor
  · intro h st hst
    obtain ⟨e, he, -, hg⟩ := standing?_eq_some_iff.mp hst
    exact h e he hg
  · intro h e he hg
    exact h e.state (standing?_eq_some_iff.mpr ⟨e, he, rfl, hg⟩)

/-! ## Standings after a change -/

/-- After a registration its descriptor is pending and the others stand where they stood. -/
theorem standing?_entered {r : Registry τ} {fd : Fd} (h : r.Accepts fd) (task : τ) (other : Fd) :
    (r.entered fd task).standing? other =
      if other = fd then some (.pending, r.latest + 1) else r.standing? other := by
  simp only [standing?, find?_entered h]
  split <;> rfl

/-- A registration that was taken back leaves every descriptor where it stood. -/
theorem standing?_withdrawn {r : Registry τ} {fd : Fd} (h : r.Accepts fd) (task : τ)
    (other : Fd) : (r.withdrawn fd task).standing? other = r.standing? other := by
  simp only [standing?, find?_withdrawn h]

/-- After its entry is erased a descriptor stands nowhere. -/
theorem standing?_erase (r : Registry τ) (fd other : Fd) :
    (r.erase fd).standing? other = if other = fd then none else r.standing? other := by
  simp only [standing?, find?_erase]
  split <;> rfl

/-- A task may change without its registration changing. -/
theorem standing?_update_task (r : Registry τ) (fd : Fd) (task : τ) (other : Fd) :
    (r.update fd fun e => { e with task }).standing? other = r.standing? other := by
  simp only [standing?, find?_update]
  split
  · rw [Option.map_map]
    rfl
  · rfl

/-- Activating moves no generation: what was there is active, and what was not is not. -/
theorem standing?_update_active (r : Registry τ) (fd other : Fd) :
    (r.update fd fun e => { e with state := .active }).standing? other =
      if other = fd then (r.standing? other).map fun p => (.active, p.2)
      else r.standing? other := by
  simp only [standing?, find?_update]
  split
  · rw [Option.map_map, Option.map_map]
    rfl
  · rfl

/-- **A removal hits its own generation or nothing.**. -/
theorem standing?_removeGeneration (r : Registry τ) (fd : Fd) (g : UInt64) (other : Fd) :
    (r.removeGeneration fd g).2.standing? other =
      if other = fd ∧ (r.findGeneration? fd g).isSome then none else r.standing? other := by
  simp only [standing?, find?_removeGeneration]
  split <;> rfl

/-- Whether a descriptor can be attempted hangs on its entry alone. -/
theorem attemptable?_congr {r r' : Registry τ} {fd : Fd} (h : r'.find? fd = r.find? fd)
    (g : UInt64) : r'.attemptable? fd g = r.attemptable? fd g := by
  rw [attemptable?, findGeneration?, h]
  rfl

/-- The task that may be attempted is that of an active entry of that
generation. -/
theorem attemptable?_eq_some_iff {r : Registry τ} {fd : Fd} {g : UInt64} {task : τ} :
    r.attemptable? fd g = some task ↔
      ∃ e, r.find? fd = some e ∧ e.generation = g ∧ e.state = .active ∧ e.task = task := by
  unfold attemptable?
  constructor
  · intro h
    obtain ⟨e, he, htask⟩ := Option.bind_eq_some_iff.mp h
    split at htask
    · next hactive =>
        obtain ⟨hfind, hg⟩ := findGeneration?_eq_some_iff.mp he
        exact ⟨e, hfind, hg, hactive, Option.some.inj htask⟩
    · cases htask
  · rintro ⟨e, hfind, hg, hactive, rfl⟩
    rw [findGeneration?_eq_some_iff.mpr ⟨hfind, hg⟩]
    simp [hactive]

/-! ## Dispatch -/

section

variable {m : Type → Type} [Monad m] (attempt : Fd → τ → m (Verdict × τ))
variable {r : Registry τ} {fd : Fd} {g : UInt64}

/-- Without a task that may be attempted **nothing runs**. -/
theorem dispatch_idle (h : r.attemptable? fd g = none) :
    r.dispatch attempt fd g = pure (none, r) := by
  unfold dispatch
  split
  · rfl
  · next e he =>
      have hnot : e.state ≠ .active := by
        intro hactive
        simp [attemptable?, he, hactive] at h
      rw [if_neg hnot]

/-- A task that may be attempted is attempted **once**. -/
theorem dispatch_active {before : τ} (h : r.attemptable? fd g = some before) :
    r.dispatch attempt fd g =
      (do
        let (verdict, task) ← attempt fd before
        match verdict with
        | .retire => pure (some .retire, r.erase fd)
        | verdict => pure (some verdict, r.update fd fun e => { e with task })) := by
  obtain ⟨e, hfind, hg, hactive, rfl⟩ := attemptable?_eq_some_iff.mp h
  have he : r.findGeneration? fd g = some e := findGeneration?_eq_some_iff.mpr ⟨hfind, hg⟩
  rw [dispatch, he]
  exact if_pos hactive

end

/-! ## The entries -/

/-- No descriptor has two entries. -/
def Distinct (r : Registry τ) : Prop := (r.entries.map (·.1)).Nodup

instance (r : Registry τ) : Decidable r.Distinct :=
  inferInstanceAs (Decidable (r.entries.map (·.1)).Nodup)

/-- Placing an entry puts it somewhere among the others. -/
theorem place_perm (fd : Fd) (e : Entry τ) (es : List (Fd × Entry τ)) :
    (place fd e es).Perm ((fd, e) :: es) := by
  induction es with
  | nil => exact List.Perm.refl _
  | cons p es ih =>
      unfold place
      split
      · exact List.Perm.refl _
      · exact (ih.cons p).trans (List.Perm.swap _ _ _)

/-- A descriptor that is not found is in no entry. -/
theorem not_mem_of_find?_eq_none {r : Registry τ} {fd : Fd} (h : r.find? fd = none) :
    ∀ p ∈ r.entries, p.1 ≠ fd := by
  intro p hp heq
  have hfree := List.lookup_eq_none_iff.mp h p hp
  simp [heq] at hfree

/-- A registration places its entry and leaves the others in their order. -/
theorem entries_entered {r : Registry τ} {fd : Fd} (h : r.Accepts fd) (task : τ) :
    (r.entered fd task).entries =
      place fd { task, state := .pending, generation := r.latest + 1 } r.entries := by
  have hfree : r.contains fd = false := by simp [contains, h.1]
  simp [entered, insert, hfree, h.2]

/-- Taking out what was put at its place leaves the rest as it was. -/
private theorem filter_place {fd : Fd} {es : List (Fd × Entry τ)} (h : ∀ p ∈ es, p.1 ≠ fd)
    (e : Entry τ) : (place fd e es).filter (fun p => p.1 != fd) = es := by
  induction es with
  | nil => simp [place]
  | cons p es ih =>
      obtain ⟨hp, hrest⟩ := List.forall_mem_cons.mp h
      unfold place
      split
      · have hkept : es.filter (fun p => p.1 != fd) = es :=
          List.filter_eq_self.mpr fun q hq => by simpa using hrest q hq
        simp [hp, hkept]
      · simp [hp, ih hrest]

/-- **Rolling back** an insertion leaves nothing but the generation used up. -/
theorem withdrawn_eq {r : Registry τ} {fd : Fd} (h : r.Accepts fd) (task : τ) :
    r.withdrawn fd task = { r with latest := r.latest + 1 } := by
  have hentries := filter_place (not_mem_of_find?_eq_none h.1)
    { task, state := .pending, generation := r.latest + 1 }
  rw [← entries_entered h task] at hentries
  have hlatest := latest_withdrawn h task
  unfold withdrawn erase at hlatest ⊢
  rw [hentries, hlatest]

/-- A task that is rolled back is the one that was entered. -/
theorem remove_entered {r : Registry τ} {fd : Fd} (h : r.Accepts fd) (task : τ) :
    ((r.entered fd task).remove fd).1.map (·.task) = some task := by
  simp [remove, find?_entered h]

/-- **An insertion adds one entry.** -/
theorem entered_perm {r : Registry τ} {fd : Fd} (h : r.Accepts fd) (task : τ) :
    (r.entered fd task).entries.Perm
      ((fd, { task, state := .pending, generation := r.latest + 1 }) :: r.entries) := by
  rw [entries_entered h]
  exact place_perm _ _ _

/-- **A removal takes one entry out.** -/
theorem erase_perm {r : Registry τ} (hr : r.Distinct) {fd : Fd} {e : Entry τ}
    (h : r.find? fd = some e) : r.entries.Perm ((fd, e) :: (r.erase fd).entries) := by
  obtain ⟨es, latest⟩ := r
  simp only [Distinct, find?, erase] at hr h ⊢
  induction es with
  | nil => cases h
  | cons p es ih =>
      obtain ⟨other, f⟩ := p
      obtain ⟨hother, hes⟩ := List.nodup_cons.mp hr
      by_cases hfd : fd = other
      · subst hfd
        obtain rfl : f = e := by simpa using h
        have hrest : es.filter (fun p => p.1 != fd) = es := by
          refine List.filter_eq_self.mpr fun q hq => ?_
          have hne : q.1 ≠ fd := fun heq => hother (List.mem_map.mpr ⟨q, hq, heq⟩)
          simpa using hne
        simp [hrest]
      · have hlookup : es.lookup fd = some e := by
          simpa [List.lookup_cons, beq_eq_false_iff_ne.mpr hfd] using h
        have hkept : ((other, f) :: es).filter (fun p => p.1 != fd) =
            (other, f) :: es.filter (fun p => p.1 != fd) :=
          List.filter_cons_of_pos (by simpa using Ne.symm hfd)
        rw [hkept]
        exact ((ih hes hlookup).cons _).trans (List.Perm.swap _ _ _)

/-- A registration that is accepted keeps descriptors distinct. -/
theorem Distinct.entered {r : Registry τ} (hr : r.Distinct) {fd : Fd} (h : r.Accepts fd)
    (task : τ) : (r.entered fd task).Distinct := by
  refine ((entered_perm h task).map _).nodup_iff.mpr (List.nodup_cons.mpr ⟨fun hmem => ?_, hr⟩)
  obtain ⟨p, hp, heq⟩ := List.mem_map.mp hmem
  exact not_mem_of_find?_eq_none h.1 p hp heq

/-- So does erasing an entry. -/
theorem Distinct.erase {r : Registry τ} (hr : r.Distinct) (fd : Fd) : (r.erase fd).Distinct :=
  hr.sublist (List.Sublist.map _ List.filter_sublist)

/-- So does removing one by its generation. -/
theorem Distinct.removeGeneration {r : Registry τ} (hr : r.Distinct) (fd : Fd) (g : UInt64) :
    (r.removeGeneration fd g).2.Distinct := by
  unfold Registry.removeGeneration
  split
  · exact hr.erase fd
  · exact hr

/-- So does changing one. -/
theorem Distinct.update {r : Registry τ} (hr : r.Distinct) (fd : Fd) (f : Entry τ → Entry τ) :
    (r.update fd f).Distinct := by
  simpa [Distinct, Registry.update, Function.comp_def] using hr

/-! ## Changes at large -/

/-- What a step of a reactor can do to its registry.  Only a reactor that is `running` gives
out generations. -/
inductive Change (running : Prop) (r : Registry τ) : Registry τ → Prop where
  | stays : Change running r r
  | withdraws {fd : Fd} (task : τ) (hrun : running) (haccepts : r.Accepts fd) :
      Change running r (r.withdrawn fd task)
  | enters {fd : Fd} (task : τ) (hrun : running) (haccepts : r.Accepts fd) :
      Change running r (r.entered fd task)
  | erases (fd : Fd) : Change running r (r.erase fd)
  | clears : Change running r r.clear
  | retasks (fd : Fd) (task : τ) : Change running r (r.update fd fun e => { e with task })
  | activates (fd : Fd) : Change running r (r.update fd fun e => { e with state := .active })

section

variable {running : Prop} {r r' : Registry τ}

/-- Removing by generation is one of the changes, or none. -/
theorem change_removeGeneration (fd : Fd) (g : UInt64) :
    Change running r (r.removeGeneration fd g).2 := by
  unfold removeGeneration
  split
  · exact .erases fd
  · exact .stays

/-- Generations are never taken back. -/
theorem Change.latest_le (h : Change running r r') : r.latest ≤ r'.latest := by
  cases h with
  | withdraws task hrun haccepts =>
      rw [latest_withdrawn haccepts]
      exact UInt64.le_of_lt haccepts.latest_lt
  | enters task hrun haccepts =>
      rw [latest_entered haccepts]
      exact UInt64.le_of_lt haccepts.latest_lt
  | _ => exact UInt64.le_refl _

/-- A generation that stands afterwards stood before or is **the latest**. -/
theorem Change.standing (h : Change running r r') {fd : Fd} {st : RegistrationState} {g : UInt64}
    (ht : r'.standing? fd = some (st, g)) :
    (∃ st', r.standing? fd = some (st', g)) ∨ (g = r'.latest ∧ running) := by
  cases h with
  | stays => exact Or.inl ⟨st, ht⟩
  | withdraws task hrun haccepts =>
      rw [standing?_withdrawn haccepts] at ht
      exact Or.inl ⟨st, ht⟩
  | enters task hrun haccepts =>
      rw [standing?_entered haccepts] at ht
      split at ht
      · refine Or.inr ⟨?_, hrun⟩
        rw [latest_entered haccepts]
        exact (congrArg Prod.snd (Option.some.inj ht)).symm
      · exact Or.inl ⟨st, ht⟩
  | erases fd' =>
      rw [standing?_erase] at ht
      split at ht
      · cases ht
      · exact Or.inl ⟨st, ht⟩
  | clears => cases ht
  | retasks fd' task =>
      rw [standing?_update_task] at ht
      exact Or.inl ⟨st, ht⟩
  | activates fd' =>
      left
      rw [standing?_update_active] at ht
      split at ht
      · obtain ⟨⟨st', g'⟩, hold, heq⟩ := Option.map_eq_some_iff.mp ht
        obtain ⟨-, rfl⟩ := Prod.mk.inj heq
        exact ⟨st', hold⟩
      · exact ⟨st, ht⟩

/-- **Every change keeps descriptors distinct.**. -/
theorem Change.distinct (h : Change running r r') (hr : r.Distinct) : r'.Distinct := by
  cases h with
  | stays => exact hr
  | withdraws task hrun haccepts => exact (hr.entered haccepts task).erase _
  | enters task hrun haccepts => exact hr.entered haccepts task
  | erases fd => exact hr.erase fd
  | clears => exact List.nodup_nil
  | retasks fd task => exact hr.update fd _
  | activates fd => exact hr.update fd _

end

end Registry

namespace Membership

variable {τ : Type}

/-- What an attempt leaves of the two views. -/
def afterAttempt (s : Membership τ) (fd : Fd) (task : τ) : Verdict → Bool × Membership τ
  | .keep => (true, { s with registry := s.registry.update fd fun e => { e with task } })
  | .retire => (true, ⟨s.registry.erase fd, (s.live.remove fd).2⟩)
  | .panic => (false, { s with registry := s.registry.update fd fun e => { e with task } })

/-- The thread goes on unless the attempt panicked. -/
theorem fst_afterAttempt (s : Membership τ) (fd : Fd) (task : τ) {verdict : Verdict}
    (h : verdict ≠ .panic) : (s.afterAttempt fd task verdict).1 = true := by
  cases verdict with
  | keep | retire => rfl
  | panic => exact absurd rfl h

/-- An attempt leaves the entries of other descriptors alone. -/
theorem find?_afterAttempt (s : Membership τ) (fd : Fd) (task : τ) (verdict : Verdict) {other : Fd}
    (h : other ≠ fd) :
    (s.afterAttempt fd task verdict).2.registry.find? other = s.registry.find? other := by
  cases verdict with
  | keep | panic => simp [afterAttempt, Registry.find?_update, h]
  | retire => simp [afterAttempt, Registry.find?_erase, h]

/-- So does what follows on an attempt, whatever the verdict. -/
theorem distinct_afterAttempt {s : Membership τ} (hs : s.registry.Distinct) (fd : Fd) (task : τ)
    (verdict : Verdict) : (s.afterAttempt fd task verdict).2.registry.Distinct := by
  cases verdict with
  | keep | panic => exact hs.update fd _
  | retire => exact hs.erase fd

section

variable {m : Type → Type} [Monad m] [LawfulMonad m] (attempt : Fd → τ → m (Verdict × τ))
variable {s : Membership τ} {fd : Fd} {g : UInt64}

omit [LawfulMonad m] in
/-- A closed descriptor leaves the set, and the registry if it is registered in
that generation. -/
theorem visit_closed : s.visit attempt (.closed fd g) =
    pure (true, ⟨(s.registry.removeGeneration fd g).2, (s.live.remove fd).2⟩) := rfl

/-- A report without a task that may be attempted changes nothing. -/
theorem visit_idle (h : s.registry.attemptable? fd g = none) :
    s.visit attempt (.readable fd g) = pure (true, s) := by
  simp only [visit, Registry.dispatch_idle attempt h, pure_bind]

/-- A task that may be attempted is attempted once, and its verdict is
followed. -/
theorem visit_active {before : τ} (h : s.registry.attemptable? fd g = some before) :
    s.visit attempt (.readable fd g) =
      (do
        let (verdict, task) ← attempt fd before
        pure (s.afterAttempt fd task verdict)) := by
  simp only [visit, Registry.dispatch_active attempt h, bind_assoc]
  refine bind_congr fun answer => ?_
  obtain ⟨verdict, task⟩ := answer
  cases verdict <;> simp only [pure_bind, afterAttempt]

end

/-- A register record turns the entry that it belongs to active and watches its
descriptor. -/
theorem apply_register {s : Membership τ} {fd : Fd} {g : UInt64} {e : Entry τ}
    (h : s.registry.findGeneration? fd g = some e) :
    s.apply (.register fd g) =
      (.waits, ⟨s.registry.update fd fun e => { e with state := .active }, s.live.insert fd g⟩) := by
  simp [apply, Registry.activate, h]

/-- A **stale** register record changes nothing. -/
theorem apply_stale {s : Membership τ} {fd : Fd} {g : UInt64}
    (h : s.registry.findGeneration? fd g = none) :
    s.apply (.register fd g) = (.waits, s) := by
  simp [apply, Registry.activate, h]

/-- What a record leaves of the two views. -/
theorem apply_cases (s : Membership τ) (r : ControlRecord) :
    (s.apply r).2 = s ∨
      (∃ fd g e, r = .register fd g ∧ s.registry.findGeneration? fd g = some e ∧
        (s.apply r).2 =
          ⟨s.registry.update fd fun e => { e with state := .active }, s.live.insert fd g⟩) ∨
      ∃ fd g, r = .deregister fd g ∧ (s.apply r).2 = ⟨s.registry, (s.live.remove fd).2⟩ := by
  cases r with
  | exit => exact Or.inl rfl
  | register fd g =>
      cases h : s.registry.findGeneration? fd g with
      | none => exact Or.inl (by rw [apply_stale h])
      | some e => exact Or.inr (Or.inl ⟨fd, g, e, rfl, h, by rw [apply_register h]⟩)
  | deregister fd g => exact Or.inr (Or.inr ⟨fd, g, rfl, rfl⟩)

/-- To the registry, an attempt is a change of one entry. -/
theorem change_afterAttempt {running : Prop} (s : Membership τ) (fd : Fd) (task : τ)
    (verdict : Verdict) :
    Registry.Change running s.registry (s.afterAttempt fd task verdict).2.registry := by
  cases verdict with
  | keep | panic => exact .retasks fd task
  | retire => exact .erases fd

/-- And so is a record, unless it leaves all entries alone. -/
theorem change_apply {running : Prop} (s : Membership τ) (r : ControlRecord) :
    Registry.Change running s.registry (s.apply r).2.registry := by
  rcases s.apply_cases r with hsame | ⟨fd, g, e, -, -, hupdate⟩ | ⟨fd, g, -, hremove⟩
  · rw [hsame]
    exact .stays
  · rw [hupdate]
    exact .activates fd
  · rw [hremove]
    exact .stays

/-- Only the exit record ends the loop. -/
theorem ending_apply (s : Membership τ) (r : ControlRecord) :
    (s.apply r).1 = if r = .exit then .exits else .waits := by
  cases r with
  | exit => rfl
  | register fd g =>
      cases h : s.registry.findGeneration? fd g with
      | none => rw [apply_stale h]; rfl
      | some e => rw [apply_register h]; rfl
  | deregister fd g => rfl

end Membership

end ReceiveReactor
