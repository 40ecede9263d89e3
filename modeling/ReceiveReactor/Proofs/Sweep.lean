import Mathlib.Data.List.TakeWhile
import ReceiveReactor.Proofs.Readiness
import ReceiveReactor.Proofs.Registry

/-!
# A pass is a sweep

A pass changes both views of membership while it walks over the reports.  It comes
to the same as a **sweep**: first attempt every due task, in slot order, and then
filter slots and entries by the answers.  Nothing is skipped, repeated or taken
for another registration, although removals move slots.

* `Membership.due`, `attemptAll` — the tasks of a sweep, and their answers;
* `Membership.lost`, `Membership.after` — what the answers leave of the two views;
* `Membership.filters_closed`, `Membership.filters_idle`, `Membership.filters_attempted` — one
  visit, and `Membership.filters` — all of a pass, by induction on the reports;
* `Membership.pass_eq_sweep` — a whole pass;
* `Membership.swept_after` — what a sweep leaves, slot by slot and entry by entry.
-/

namespace ReceiveReactor

/-- A task that is to be attempted, and the slot that it is attempted for: a
descriptor with a generation. -/
structure Due (τ : Type) where
  slot : Fd × UInt64
  task : τ
deriving DecidableEq, Repr

/-- What the attempt for a slot answered, and the task that it left. -/
structure Answer (τ : Type) where
  slot : Fd × UInt64
  verdict : Verdict
  task : τ
deriving DecidableEq, Repr

section

variable {τ β : Type} {m : Type → Type} [Monad m]

/-- Attempts due tasks in order, each once, until one panics. -/
def attemptAll (attempt : Fd → τ → m (Verdict × τ)) : List (Due τ) → m (List (Answer τ))
  | [] => pure []
  | d :: rest => do
    let (verdict, task) ← attempt d.slot.1 d.task
    if verdict = .panic then pure [⟨d.slot, verdict, task⟩]
    else
      let answers ← attemptAll attempt rest
      pure (⟨d.slot, verdict, task⟩ :: answers)

/-- The answers are those of the first due tasks, or of all, in their order. -/
def AnswersTo (due : List (Due τ)) (answers : List (Answer τ)) : Prop :=
  answers.map (·.slot) <+: due.map (·.slot)

instance (due : List (Due τ)) (answers : List (Answer τ)) : Decidable (AnswersTo due answers) :=
  inferInstanceAs (Decidable (answers.map (·.slot) <+: due.map (·.slot)))

/-- What goes on with the answers need only be right for answers to the due tasks. -/
theorem attemptAll_bind_congr [LawfulMonad m] (attempt : Fd → τ → m (Verdict × τ))
    {due : List (Due τ)} {f g : List (Answer τ) → m β}
    (h : ∀ answers, AnswersTo due answers → f answers = g answers) :
    attemptAll attempt due >>= f = attemptAll attempt due >>= g := by
  -- The monad may be any: it has no set of possible results to reason about, only binds.
  induction due generalizing f g with
  | nil =>
      simp only [attemptAll, pure_bind]
      exact h [] List.prefix_rfl
  | cons d due ih =>
      simp only [attemptAll, bind_assoc]
      refine bind_congr fun answer => ?_
      obtain ⟨verdict, task⟩ := answer
      by_cases hpanic : verdict = .panic
      · simp only [hpanic, if_true, pure_bind]
        exact h _ (List.cons_prefix_cons.mpr ⟨rfl, List.nil_prefix⟩)
      · simp only [hpanic, if_false, bind_assoc, pure_bind]
        exact ih fun answers hanswers => h _ (List.cons_prefix_cons.mpr ⟨rfl, hanswers⟩)

end

/-! ## What the answers say about a slot -/

variable {τ : Type}

/-- The answer for a slot. -/
def answerFor? (answers : List (Answer τ)) (slot : Fd × UInt64) : Option (Answer τ) :=
  answers.find? fun a => a.slot == slot

/-- The verdict on a slot, if its task was attempted. -/
def verdictFor? (answers : List (Answer τ)) (slot : Fd × UInt64) : Option Verdict :=
  (answerFor? answers slot).map (·.verdict)

/-- The task of a slot afterwards: the one that its attempt left, or the one before. -/
def taskFor (answers : List (Answer τ)) (slot : Fd × UInt64) (before : τ) : τ :=
  ((answerFor? answers slot).map (·.task)).getD before

/-- Without answers there is none for any slot. -/
@[simp] theorem answerFor?_nil (slot : Fd × UInt64) :
    answerFor? ([] : List (Answer τ)) slot = none := rfl

/-- The first answer for a slot is the one that counts. -/
theorem answerFor?_cons (a : Answer τ) (answers : List (Answer τ)) (slot : Fd × UInt64) :
    answerFor? (a :: answers) slot = if a.slot = slot then some a else answerFor? answers slot := by
  unfold answerFor?
  by_cases h : a.slot = slot
  · rw [List.find?_cons_of_pos (by simpa using h), if_pos h]
  · rw [List.find?_cons_of_neg (by simpa using h), if_neg h]

/-- An answer is the one for its slot. -/
theorem answerFor?_of_mem {answers : List (Answer τ)} (hnodup : (answers.map (·.slot)).Nodup)
    {a : Answer τ} (ha : a ∈ answers) : answerFor? answers a.slot = some a := by
  cases hfind : answerFor? answers a.slot with
  | none => simpa using List.find?_eq_none.mp hfind a ha
  | some b =>
      have hslot : b.slot = a.slot := by simpa using List.find?_some hfind
      have hb := List.mem_of_find?_eq_some hfind
      rw [List.inj_on_of_nodup_map hnodup hb ha hslot]

/-- A verdict on a slot is that of its answer. -/
theorem verdictFor?_eq_some_iff {answers : List (Answer τ)}
    (hnodup : (answers.map (·.slot)).Nodup) {slot : Fd × UInt64} {verdict : Verdict} :
    verdictFor? answers slot = some verdict ↔
      ∃ a ∈ answers, a.verdict = verdict ∧ a.slot = slot := by
  constructor
  · intro h
    obtain ⟨a, ha, rfl⟩ := Option.map_eq_some_iff.mp h
    exact ⟨a, List.mem_of_find?_eq_some ha, rfl, by simpa using List.find?_some ha⟩
  · rintro ⟨a, ha, rfl, rfl⟩
    rw [verdictFor?, answerFor?_of_mem hnodup ha]
    rfl

namespace Readiness

/-- The slot that a report is about. -/
def slot (r : Readiness) : Fd × UInt64 := (r.fd, r.generation)

/-- The task that a report makes due. -/
def due? (registry : Registry τ) : Readiness → Option (Due τ)
  | readable fd g => (registry.attemptable? fd g).map fun task => ⟨(fd, g), task⟩
  | closed _ _ => none

/-- What a report makes due is in the slot of the report. -/
theorem slot_of_due? {registry : Registry τ} {r : Readiness} {d : Due τ}
    (h : r.due? registry = some d) : d.slot = r.slot := by
  cases r with
  | readable fd g =>
      obtain ⟨task, -, rfl⟩ := Option.map_eq_some_iff.mp h
      rfl
  | closed fd g => cases h

/-- Whether a reported slot is lost: it is closed, or its task retires. -/
def isLost (answers : List (Answer τ)) : Readiness → Bool
  | readable fd g => verdictFor? answers (fd, g) = some .retire
  | closed _ _ => true

/-- Whether the pass unwinds at a report. -/
def unwinds (answers : List (Answer τ)) : Readiness → Bool
  | readable fd g => verdictFor? answers (fd, g) = some .panic
  | closed _ _ => false

end Readiness

/-- Answers to what some reports made due are answers for their slots. -/
theorem AnswersTo.answerFor?_eq_none {registry : Registry τ} {reports : List Readiness}
    {answers : List (Answer τ)} (h : AnswersTo (reports.filterMap (·.due? registry)) answers)
    {slot : Fd × UInt64} (hslot : ∀ r ∈ reports, r.slot ≠ slot) :
    answerFor? answers slot = none := by
  refine List.find?_eq_none.mpr fun a ha heq => ?_
  obtain ⟨d, hd, hsame⟩ := List.mem_map.mp (h.subset (List.mem_map.mpr ⟨a, ha, rfl⟩))
  obtain ⟨r, hr, hdue⟩ := List.mem_filterMap.mp hd
  refine hslot r hr ?_
  calc r.slot = d.slot := (Readiness.slot_of_due? hdue).symm
    _ = a.slot := hsame
    _ = slot := by simpa using heq

/-- The slots that are lost among some reports.  A panic leaves the reports behind it
out. -/
def lostAmong (reports : List Readiness) (answers : List (Answer τ)) : List (Fd × UInt64) :=
  ((reports.takeWhile fun r => !r.unwinds answers).filter (·.isLost answers)).map (·.slot)

/-- What is lost up to a report that unwinds is lost, and nothing behind it. -/
theorem lostAmong_cons (r : Readiness) (rest : List Readiness) (answers : List (Answer τ)) :
    lostAmong (r :: rest) answers =
      if r.unwinds answers then []
      else if r.isLost answers then r.slot :: lostAmong rest answers
      else lostAmong rest answers := by
  unfold lostAmong
  by_cases hunwinds : r.unwinds answers = true
  · simp [hunwinds]
  · by_cases hlost : r.isLost answers = true <;> simp [hunwinds, hlost]

/-- Only what was reported is lost. -/
theorem lostAmong_subset (reports : List Readiness) (answers : List (Answer τ)) :
    lostAmong reports answers ⊆ reports.map (·.slot) := by
  refine List.map_subset _ fun r hr => ?_
  exact (List.takeWhile_sublist _).subset (List.mem_filter.mp hr).1

/-- **What was found closed is lost**, whatever the tasks answer. -/
theorem lostAmong_closed (fd : Fd) (g : UInt64) (rest : List Readiness)
    (answers : List (Answer τ)) :
    lostAmong (.closed fd g :: rest) answers = (fd, g) :: lostAmong rest answers :=
  lostAmong_cons _ _ _

/-- What is lost hangs on the answers for the reported slots alone. -/
theorem lostAmong_congr {reports : List Readiness} {answers answers' : List (Answer τ)}
    (h : ∀ r ∈ reports, answerFor? answers r.slot = answerFor? answers' r.slot) :
    lostAmong reports answers = lostAmong reports answers' := by
  induction reports with
  | nil => rfl
  | cons r rest ih =>
      have hfate : r.isLost answers = r.isLost answers' ∧
          r.unwinds answers = r.unwinds answers' := by
        have hanswer := h r List.mem_cons_self
        cases r with
        | closed fd g => exact ⟨rfl, rfl⟩
        | readable fd g =>
            have hverdict : verdictFor? answers (fd, g) = verdictFor? answers' (fd, g) :=
              congrArg (Option.map _) hanswer
            simp [Readiness.isLost, Readiness.unwinds, hverdict]
      rw [lostAmong_cons, lostAmong_cons, hfate.1, hfate.2,
        ih fun r' hr' => h r' (List.mem_cons_of_mem _ hr')]

/-- What the answer for the first report adds, if the reports are about distinct
slots. -/
theorem lostAmong_answered {fd : Fd} {g : UInt64} {rest : List Readiness}
    (hrest : ∀ r ∈ rest, r.slot ≠ (fd, g)) (verdict : Verdict) (left : τ)
    (answers : List (Answer τ)) :
    lostAmong (.readable fd g :: rest) (⟨(fd, g), verdict, left⟩ :: answers) =
      match verdict with
      | .keep => lostAmong rest answers
      | .retire => (fd, g) :: lostAmong rest answers
      | .panic => [] := by
  have hbehind : lostAmong rest (⟨(fd, g), verdict, left⟩ :: answers) = lostAmong rest answers :=
    lostAmong_congr fun r hr => by rw [answerFor?_cons, if_neg (hrest r hr).symm]
  rw [lostAmong_cons, hbehind]
  cases verdict <;>
    simp [Readiness.unwinds, Readiness.isLost, verdictFor?, answerFor?_cons, Readiness.slot,
      Readiness.fd, Readiness.generation]

/-! ## The two views without what is lost -/

/-- The registry without the entries of lost slots, with the tasks that the attempts
left. -/
def Registry.without (r : Registry τ) (lost : List (Fd × UInt64)) (answers : List (Answer τ)) :
    Registry τ :=
  { r with
    entries := (r.entries.filter fun p => (p.1, p.2.generation) ∉ lost).map fun p =>
      (p.1, { p.2 with task := taskFor answers (p.1, p.2.generation) p.2.task }) }

/-- The readiness set without lost slots, taken out one after the other. -/
def ReadinessSet.without (s : ReadinessSet) (lost : List (Fd × UInt64)) : ReadinessSet :=
  lost.foldl (fun s slot => (s.remove slot.1).2) s

namespace Registry

/-- Without a loss and without an answer the registry is as it was. -/
@[simp] theorem without_nil (r : Registry τ) : r.without [] [] = r := by
  simp [without, taskFor]

/-- In a registry of distinct descriptors an entry is found under its descriptor. -/
theorem find?_of_mem {r : Registry τ} (hr : r.Distinct) {p : Fd × Entry τ}
    (hp : p ∈ r.entries) : r.find? p.1 = some p.2 := by
  cases hfind : r.find? p.1 with
  | none => exact absurd rfl (not_mem_of_find?_eq_none hfind p hp)
  | some e =>
      have hmem : (p.1, e) ∈ r.entries := (erase_perm hr hfind).mem_iff.mpr List.mem_cons_self
      have hsame : (p.1, e) = p := List.inj_on_of_nodup_map hr hmem hp rfl
      rw [← hsame]

/-- A descriptor with an entry of a generation has no entry of another one. -/
theorem generation_of_mem {r : Registry τ} (hr : r.Distinct) {fd : Fd} {g : UInt64} {e : Entry τ}
    (he : r.findGeneration? fd g = some e) {p : Fd × Entry τ} (hp : p ∈ r.entries)
    (hfd : p.1 = fd) : p.2.generation = g := by
  obtain ⟨hfind, hg⟩ := findGeneration?_eq_some_iff.mp he
  rw [← hfd, find?_of_mem hr hp] at hfind
  rw [Option.some.inj hfind, hg]

/-- Taking out an entry and then sweeping is sweeping with one slot more. -/
theorem without_erase {r : Registry τ} (hr : r.Distinct) {fd : Fd} {g : UInt64} {e : Entry τ}
    (he : r.findGeneration? fd g = some e) (lost : List (Fd × UInt64))
    {answers answers' : List (Answer τ)}
    (hanswers : ∀ slot, slot ≠ (fd, g) → answerFor? answers slot = answerFor? answers' slot) :
    (r.erase fd).without lost answers = r.without ((fd, g) :: lost) answers' := by
  have hkept : ((r.erase fd).entries.filter fun p => (p.1, p.2.generation) ∉ lost) =
      r.entries.filter fun p => (p.1, p.2.generation) ∉ (fd, g) :: lost := by
    rw [erase, List.filter_filter]
    refine List.filter_congr fun p hp => ?_
    by_cases hfd : p.1 = fd
    · simp [hfd, generation_of_mem hr he hp hfd]
    · simp [hfd]
  unfold without
  rw [hkept]
  congr 1
  refine List.map_congr_left fun p hp => ?_
  have hne : (p.1, p.2.generation) ≠ (fd, g) := by
    intro heq
    rw [List.mem_filter, heq] at hp
    simp at hp
  rw [taskFor, taskFor, hanswers _ hne]

/-- Likewise for an entry that is taken out only in that generation. -/
theorem without_removeGeneration {r : Registry τ} (hr : r.Distinct) (fd : Fd) (g : UInt64)
    (lost : List (Fd × UInt64)) (answers : List (Answer τ)) :
    (r.removeGeneration fd g).2.without lost answers = r.without ((fd, g) :: lost) answers := by
  unfold removeGeneration
  cases he : r.findGeneration? fd g with
  | some e => exact without_erase hr he lost fun _ _ => rfl
  | none =>
      have hkept : (r.entries.filter fun p => (p.1, p.2.generation) ∉ lost) =
          r.entries.filter fun p => (p.1, p.2.generation) ∉ (fd, g) :: lost := by
        refine List.filter_congr fun p hp => ?_
        have hne : (p.1, p.2.generation) ≠ (fd, g) := by
          intro heq
          obtain ⟨hfd, hg⟩ := Prod.mk.inj heq
          exact findGeneration?_eq_none_iff.mp he p.2 (hfd ▸ find?_of_mem hr hp) hg
        simp only [List.mem_cons, hne, false_or]
      unfold without
      rw [hkept]

/-- Changing a task and then sweeping is sweeping with one answer more. -/
theorem without_update {r : Registry τ} (hr : r.Distinct) {fd : Fd} {g : UInt64} {e : Entry τ}
    (he : r.findGeneration? fd g = some e) (lost : List (Fd × UInt64)) (verdict : Verdict)
    (task : τ) {answers : List (Answer τ)} (hfirst : answerFor? answers (fd, g) = none) :
    (r.update fd fun e => { e with task }).without lost answers =
      r.without lost (⟨(fd, g), verdict, task⟩ :: answers) := by
  unfold without update
  congr 1
  rw [List.filter_map, List.map_map]
  have hkept : (r.entries.filter ((fun p => decide ((p.1, p.2.generation) ∉ lost)) ∘
      fun p => (p.1, if p.1 = fd then { p.2 with task } else p.2))) =
      r.entries.filter fun p => (p.1, p.2.generation) ∉ lost := by
    refine List.filter_congr fun p hp => ?_
    by_cases hfd : p.1 = fd <;> simp [hfd]
  rw [hkept]
  refine List.map_congr_left fun p hp => ?_
  by_cases hfd : p.1 = fd
  · have hg := generation_of_mem hr he (List.mem_filter.mp hp).1 hfd
    simp [hfd, hg, taskFor, answerFor?_cons, hfirst]
  · have hne : (fd, g) ≠ (p.1, p.2.generation) := fun heq => hfd (Prod.mk.inj heq).1.symm
    simp [hfd, taskFor, answerFor?_cons, hne]

end Registry

namespace ReadinessSet

/-- A loss is never that of the control channel. -/
theorem control_without (s : ReadinessSet) (lost : List (Fd × UInt64)) :
    (s.without lost).control = s.control := by
  unfold without
  induction lost generalizing s with
  | nil => rfl
  | cons slot lost ih => exact (ih _).trans (s.control_remove slot.1)

/-- Nor does it change what was found on it. -/
theorem controlResult_without (s : ReadinessSet) (lost : List (Fd × UInt64)) :
    (s.without lost).controlResult = s.controlResult := by
  unfold without
  induction lost generalizing s with
  | nil => rfl
  | cons slot lost ih => exact (ih _).trans (s.controlResult_remove slot.1)

/-- **Some removals**, up to the order of slots. -/
theorem watched_without_perm {s : ReadinessSet} (h : s.Distinct) (lost : List (Fd × UInt64)) :
    (s.without lost).watched.Perm (s.watched.filter fun w => w.fd ∉ lost.map (·.1)) := by
  induction lost generalizing s with
  | nil => simp [without]
  | cons slot lost ih =>
      -- The removal has moved the last slot, so this is the filter only up to order.
      refine (ih (h.remove slot.1)).trans ?_
      have hremoved := (watched_remove_perm h slot.1).filter fun w => w.fd ∉ lost.map (·.1)
      refine hremoved.trans (List.Perm.of_eq ?_)
      rw [others, List.filter_filter, List.map_cons]
      refine List.filter_congr fun w _ => ?_
      by_cases hfd : w.fd = slot.1
      · simp [hfd]
      · simp only [List.mem_cons, hfd, false_or, bne, beq_eq_false_iff_ne.mpr hfd, Bool.not_false,
          Bool.and_true]

/-- Slots that the set has are lost by their descriptors. -/
theorem filter_lost {s : ReadinessSet} (h : s.Distinct) {lost : List (Fd × UInt64)}
    (hlost : lost ⊆ s.pairs) :
    (s.watched.filter fun w => w.fd ∉ lost.map (·.1)) =
      s.watched.filter fun w => (w.fd, w.generation) ∉ lost := by
  refine List.filter_congr fun w hw => ?_
  have hiff : w.fd ∈ lost.map (·.1) ↔ (w.fd, w.generation) ∈ lost := by
    constructor
    · intro hmem
      obtain ⟨⟨fd, g⟩, hslot, rfl⟩ := List.mem_map.mp hmem
      obtain ⟨v, hv, hpair⟩ := List.mem_map.mp (hlost hslot)
      obtain ⟨hfd, rfl⟩ := Prod.mk.inj hpair
      rw [← List.inj_on_of_nodup_map h hv hw hfd]
      exact hfd ▸ hslot
    · exact fun hmem => List.mem_map.mpr ⟨_, hmem, rfl⟩
  simp only [hiff]

end ReadinessSet

namespace Membership

/-- The tasks of the slots that are readable and open and whose entry is active, with the
generation of the slot, in slot order. -/
def due (s : Membership τ) : List (Due τ) :=
  s.live.watched.filterMap fun w =>
    if w.result.meets .readable && !w.result.meets .invalid then
      (s.registry.attemptable? w.fd w.generation).map fun task => ⟨(w.fd, w.generation), task⟩
    else none

/-- The slots that a sweep takes away. -/
def lost (s : Membership τ) (answers : List (Answer τ)) : List (Fd × UInt64) :=
  lostAmong s.live.ready answers

/-- The two views without some slots, with the tasks that the attempts left. -/
def without (s : Membership τ) (lost : List (Fd × UInt64)) (answers : List (Answer τ)) :
    Membership τ :=
  ⟨s.registry.without lost answers, s.live.without lost⟩

/-- The two views after the answers of a sweep. -/
def after (s : Membership τ) (answers : List (Answer τ)) : Membership τ :=
  s.without (s.lost answers) answers

/-- The reports make those tasks due. -/
theorem due_eq (s : Membership τ) : s.due = s.live.ready.filterMap (·.due? s.registry) := by
  rw [due, ReadinessSet.ready, List.filterMap_filterMap]
  refine List.filterMap_congr fun w _ => ?_
  unfold Watch.readiness?
  cases w.result.meets .invalid <;> cases w.result.meets .readable <;> rfl

section

variable {m : Type → Type} [Monad m]

/-- **A sweep**: all due attempts, then the filter, and last one record of the control
channel if the wait found it readable.  A panic ends it before that. -/
def sweep (attempt : Fd → τ → m (Verdict × τ)) (perform : {α : Type} → Program α → m α)
    (receiver : ControlReceiver) (s : Membership τ) : m (PassEnd × Membership τ) := do
  let answers ← attemptAll attempt s.due
  if answers.any fun a => a.verdict = .panic then pure (.unwinds, s.after answers)
  else if s.live.controlReady then
    match ← perform receiver.receive with
    | .ok record => pure ((s.after answers).apply record)
    | .error _ => pure (.waits, s.after answers)
  else pure (.waits, s.after answers)

end

/-- The reports about other descriptors than the one that changes make due what they made
due before. -/
theorem due?_congr {r r' : Registry τ} {reports : List Readiness}
    (h : ∀ report ∈ reports, r'.find? report.fd = r.find? report.fd) :
    reports.filterMap (·.due? r') = reports.filterMap (·.due? r) := by
  refine List.filterMap_congr fun report hreport => ?_
  cases report with
  | readable fd g =>
      have hsame : r'.find? fd = r.find? fd := h _ hreport
      simp only [Readiness.due?, Registry.attemptable?_congr hsame]
  | closed fd g => rfl

section

variable {s : Membership τ} {fd : Fd} {g : UInt64} {before : τ} {rest : List Readiness}

/-- **A closed slot and the rest of the filter** are the filter by one report more. -/
theorem without_closed (hs : s.registry.Distinct) (rest : List Readiness)
    (answers : List (Answer τ)) :
    without ⟨(s.registry.removeGeneration fd g).2, (s.live.remove fd).2⟩
        (lostAmong rest answers) answers =
      s.without (lostAmong (.closed fd g :: rest) answers) answers := by
  simp only [without, lostAmong_closed, Registry.without_removeGeneration hs]
  rfl

/-- **One attempt and the rest of the filter** are the filter by one answer more. -/
theorem without_attempted (hs : s.registry.Distinct)
    (hbefore : s.registry.attemptable? fd g = some before) (hrest : ∀ r ∈ rest, r.slot ≠ (fd, g))
    {verdict : Verdict} (hverdict : verdict ≠ .panic) (left : τ) {answers : List (Answer τ)}
    (hfirst : answerFor? answers (fd, g) = none) :
    (s.afterAttempt fd left verdict).2.without (lostAmong rest answers) answers =
      s.without (lostAmong (.readable fd g :: rest) (⟨(fd, g), verdict, left⟩ :: answers))
        (⟨(fd, g), verdict, left⟩ :: answers) := by
  obtain ⟨e, hfind, hg, -, -⟩ := Registry.attemptable?_eq_some_iff.mp hbefore
  have he := Registry.findGeneration?_eq_some_iff.mpr ⟨hfind, hg⟩
  rw [lostAmong_answered hrest]
  cases verdict with
  | keep => simp only [without, afterAttempt, Registry.without_update hs he _ .keep left hfirst]
  | retire =>
      have hbehind : ∀ slot, slot ≠ (fd, g) → answerFor? answers slot =
          answerFor? (⟨(fd, g), .retire, left⟩ :: answers) slot :=
        fun slot hslot => by rw [answerFor?_cons, if_neg (Ne.symm hslot)]
      simp only [without, afterAttempt, Registry.without_erase hs he _ hbehind]
      rfl
  | panic => exact absurd rfl hverdict

/-- A panic leaves everything as it is, but for the task. -/
theorem without_panicked (hs : s.registry.Distinct)
    (hbefore : s.registry.attemptable? fd g = some before) (hrest : ∀ r ∈ rest, r.slot ≠ (fd, g))
    (left : τ) :
    (s.afterAttempt fd left .panic).2 =
      s.without (lostAmong (.readable fd g :: rest) [⟨(fd, g), .panic, left⟩])
        [⟨(fd, g), .panic, left⟩] := by
  obtain ⟨e, hfind, hg, -, -⟩ := Registry.attemptable?_eq_some_iff.mp hbefore
  have he := Registry.findGeneration?_eq_some_iff.mpr ⟨hfind, hg⟩
  have hupdate := Registry.without_update hs he [] .panic left (answerFor?_nil (fd, g))
  rw [Registry.without_nil] at hupdate
  rw [lostAmong_answered hrest]
  simp only [without, afterAttempt, ← hupdate]
  rfl

/-- A report that makes nothing due takes nothing from the filter. -/
theorem lostAmong_idle {answers : List (Answer τ)} (hnone : answerFor? answers (fd, g) = none) :
    lostAmong (.readable fd g :: rest) answers = lostAmong rest answers := by
  rw [lostAmong_cons]
  simp [Readiness.unwinds, Readiness.isLost, verdictFor?, hnone]

end

section

variable {m : Type → Type} [Monad m] [LawfulMonad m] (attempt : Fd → τ → m (Verdict × τ))

/-- Visiting some reports is attempting what they make due, and then a filter. -/
def Filters (reports : List Readiness) (s : Membership τ) : Prop :=
  s.visitAll attempt reports = do
    let answers ← attemptAll attempt (reports.filterMap (·.due? s.registry))
    pure (!answers.any fun a => a.verdict = .panic, s.without (lostAmong reports answers) answers)

section

variable {s : Membership τ} {fd : Fd} {g : UInt64} {rest : List Readiness}

/-! One visit leaves the reports behind it as they were: what it changes is under its own
descriptor, which none of them names. -/

/-- A report of a closed descriptor drops it first. -/
theorem filters_closed (hs : s.registry.Distinct) (hrest : ∀ r ∈ rest, r.fd ≠ fd)
    (hlater : ∀ s : Membership τ, s.registry.Distinct → Filters attempt rest s) :
    Filters attempt (.closed fd g :: rest) s := by
  have hdue : rest.filterMap (·.due? (s.registry.removeGeneration fd g).2) =
      rest.filterMap (·.due? s.registry) :=
    due?_congr fun r hr => by simp [Registry.find?_removeGeneration, hrest r hr]
  rw [Filters, visitAll, visit_closed, pure_bind]
  simp only [if_true]
  rw [hlater _ (hs.removeGeneration fd g), hdue]
  simp only [without_closed hs]
  rfl

/-- A report under which nothing may be attempted changes nothing. -/
theorem filters_idle (hs : s.registry.Distinct) (hrest : ∀ r ∈ rest, r.fd ≠ fd)
    (hidle : s.registry.attemptable? fd g = none)
    (hlater : ∀ s : Membership τ, s.registry.Distinct → Filters attempt rest s) :
    Filters attempt (.readable fd g :: rest) s := by
  have hslots : ∀ r ∈ rest, r.slot ≠ (fd, g) := fun r hr heq => hrest r hr (Prod.mk.inj heq).1
  have hnone : (Readiness.readable fd g).due? s.registry = none := by
    simp [Readiness.due?, hidle]
  rw [Filters, visitAll, visit_idle attempt hidle, pure_bind, List.filterMap_cons_none hnone]
  simp only [if_true]
  rw [hlater s hs]
  refine attemptAll_bind_congr attempt fun answers hanswers => ?_
  rw [lostAmong_idle (hanswers.answerFor?_eq_none hslots)]

/-- A report of a readable descriptor attempts, and keeps, drops or unwinds by the verdict. -/
theorem filters_attempted (hs : s.registry.Distinct) (hrest : ∀ r ∈ rest, r.fd ≠ fd) {task : τ}
    (htask : s.registry.attemptable? fd g = some task)
    (hlater : ∀ s : Membership τ, s.registry.Distinct → Filters attempt rest s) :
    Filters attempt (.readable fd g :: rest) s := by
  have hslots : ∀ r ∈ rest, r.slot ≠ (fd, g) := fun r hr heq => hrest r hr (Prod.mk.inj heq).1
  have hfirst : (Readiness.readable fd g).due? s.registry = some ⟨(fd, g), task⟩ := by
    simp [Readiness.due?, htask]
  rw [Filters, visitAll, visit_active attempt htask, List.filterMap_cons_some hfirst, attemptAll]
  simp only [bind_assoc]
  refine bind_congr fun answer => ?_
  obtain ⟨verdict, left⟩ := answer
  by_cases hpanic : verdict = .panic
  · subst hpanic
    simp only [if_true, pure_bind, without_panicked hs htask hslots left]
    rfl
  · have hdue : rest.filterMap (·.due? (s.afterAttempt fd left verdict).2.registry) =
        rest.filterMap (·.due? s.registry) :=
      due?_congr fun r hr => s.find?_afterAttempt fd left verdict (hrest r hr)
    simp only [pure_bind, s.fst_afterAttempt fd left hpanic, hpanic, if_true, if_false, bind_assoc]
    rw [hlater _ (distinct_afterAttempt hs fd left verdict), hdue]
    refine attemptAll_bind_congr attempt fun answers hanswers => ?_
    rw [without_attempted hs htask hslots hpanic left (hanswers.answerFor?_eq_none hslots)]
    simp [hpanic]

end

/-- **All visits of a pass** are attempts and then a filter. -/
theorem filters {reports : List Readiness} (hnodup : (reports.map (·.fd)).Nodup)
    (s : Membership τ) (hs : s.registry.Distinct) : Filters attempt reports s := by
  induction reports generalizing s with
  | nil => simp [Filters, visitAll, attemptAll, lostAmong, without, ReadinessSet.without]
  | cons report rest ih =>
      obtain ⟨hreport, hlater⟩ := List.nodup_cons.mp hnodup
      have hrest : ∀ r ∈ rest, r.fd ≠ report.fd :=
        fun r hr heq => hreport (List.mem_map.mpr ⟨r, hr, heq⟩)
      cases report with
      | closed fd g => exact filters_closed attempt hs hrest (ih hlater)
      | readable fd g =>
          cases htask : s.registry.attemptable? fd g with
          | none => exact filters_idle attempt hs hrest htask (ih hlater)
          | some task => exact filters_attempted attempt hs hrest htask (ih hlater)

/-- **A pass is a sweep.** -/
theorem pass_eq_sweep (perform : {α : Type} → Program α → m α) (receiver : ControlReceiver)
    {s : Membership τ} (hlive : s.live.Distinct) (hregistry : s.registry.Distinct) :
    s.pass attempt perform receiver = s.sweep attempt perform receiver := by
  have hcontrol (answers : List (Answer τ)) :
      (s.after answers).live.controlReady = s.live.controlReady := by
    simp only [ReadinessSet.controlReady, after, without, ReadinessSet.controlResult_without]
  have hvisits : Filters attempt s.live.ready s :=
    filters attempt (ReadinessSet.nodup_ready hlive) s hregistry
  rw [pass, resume, hvisits, ← due_eq, sweep]
  simp only [bind_assoc, pure_bind]
  refine bind_congr fun answers => ?_
  change (if !(answers.any fun a => a.verdict = .panic) then
    (s.after answers).control perform receiver else pure (.unwinds, s.after answers)) = _
  cases answers.any fun a => a.verdict = .panic with
  | true => rfl
  | false => simp only [control, hcontrol]; rfl

end

/-! ## What a sweep leaves -/

/-- The two views after a sweep, slot by slot and entry by entry. -/
structure Swept (s : Membership τ) (answers : List (Answer τ)) (t : Membership τ) : Prop where
  /-- **Slots**: those that are not lost are there as they were, up to their order. -/
  watched : t.live.watched.Perm
    (s.live.watched.filter fun w => (w.fd, w.generation) ∉ s.lost answers)
  control : t.live.control = s.live.control
  controlResult : t.live.controlResult = s.live.controlResult
  /-- **Entries**: those of slots that are not lost are there as they were, but for the
  tasks that were attempted. -/
  entries : t.registry.entries =
    (s.registry.entries.filter fun p => (p.1, p.2.generation) ∉ s.lost answers).map fun p =>
      (p.1, { p.2 with task := taskFor answers (p.1, p.2.generation) p.2.task })
  latest : t.registry.latest = s.registry.latest
  /-- **Lost** are the slots that are closed and those whose task retired. -/
  lost : (∀ a ∈ answers, a.verdict ≠ .panic) → ∀ slot, slot ∈ s.lost answers ↔
    (∃ w ∈ s.live.watched, w.result.meets .invalid ∧ (w.fd, w.generation) = slot) ∨
      ∃ a ∈ answers, a.verdict = .retire ∧ a.slot = slot

/-- A slot is reported closed exactly if it was found not to be open. -/
theorem closed_mem_ready {s : ReadinessSet} {fd : Fd} {g : UInt64} :
    .closed fd g ∈ s.ready ↔
      ∃ w ∈ s.watched, w.result.meets .invalid ∧ (w.fd, w.generation) = (fd, g) := by
  have hreport (w : Watch) : w.readiness? = some (.closed fd g) ↔
      w.result.meets .invalid ∧ (w.fd, w.generation) = (fd, g) := by
    unfold Watch.readiness?
    cases w.result.meets .invalid <;> cases w.result.meets .readable <;> simp
  simp only [ReadinessSet.ready, List.mem_filterMap, hreport]

/-- What is reported is watched. -/
theorem slot_mem_pairs {s : ReadinessSet} {r : Readiness} (h : s.Distinct) (hr : r ∈ s.ready) :
    r.slot ∈ s.pairs :=
  (ReadinessSet.mem_pairs_iff h).mpr (ReadinessSet.generation?_of_mem_ready h hr)

/-- A due task is that of a slot that was reported readable. -/
theorem readable_of_due? {registry : Registry τ} {r : Readiness} {d : Due τ}
    (h : r.due? registry = some d) : r = .readable d.slot.1 d.slot.2 := by
  cases r with
  | readable fd g =>
      rw [Readiness.slot_of_due? h]
      rfl
  | closed fd g => cases h

/-- **No slot is due twice.** -/
theorem nodup_due {s : Membership τ} (h : s.live.Distinct) : (s.due.map (·.slot)).Nodup := by
  rw [due_eq, List.map_filterMap]
  refine List.Nodup.filterMap ?_ (List.Nodup.of_map _ (ReadinessSet.nodup_ready h))
  -- Both reports are of the readable kind, and so the slot determines them.
  intro r r' slot hr hr'
  obtain ⟨d, hd, rfl⟩ := Option.map_eq_some_iff.mp hr
  obtain ⟨d', hd', hsame⟩ := Option.map_eq_some_iff.mp hr'
  rw [readable_of_due? hd, readable_of_due? hd', hsame]

/-- **What is lost**, when no task panicked. -/
theorem mem_lost_iff {s : Membership τ} (h : s.live.Distinct) {answers : List (Answer τ)}
    (hanswers : AnswersTo s.due answers) (hcalm : ∀ a ∈ answers, a.verdict ≠ .panic)
    (slot : Fd × UInt64) :
    slot ∈ s.lost answers ↔
      (∃ w ∈ s.live.watched, w.result.meets .invalid ∧ (w.fd, w.generation) = slot) ∨
        ∃ a ∈ answers, a.verdict = .retire ∧ a.slot = slot := by
  have hnodup : (answers.map (·.slot)).Nodup := (nodup_due h).sublist hanswers.sublist
  have hreached : (s.live.ready.takeWhile fun r => !r.unwinds answers) = s.live.ready := by
    refine List.takeWhile_eq_self_iff.mpr fun r _ => ?_
    cases r with
    | closed fd g => rfl
    | readable fd g =>
        have hnot : verdictFor? answers (fd, g) ≠ some .panic := by
          intro hpanic
          obtain ⟨a, ha, hv, -⟩ := (verdictFor?_eq_some_iff hnodup).mp hpanic
          exact hcalm a ha hv
        simp [Readiness.unwinds, hnot]
  rw [lost, lostAmong, hreached]
  constructor
  · intro hmem
    obtain ⟨r, hr, rfl⟩ := List.mem_map.mp hmem
    obtain ⟨hready, hlost⟩ := List.mem_filter.mp hr
    cases r with
    | closed fd g => exact Or.inl (closed_mem_ready.mp hready)
    | readable fd g =>
        exact Or.inr ((verdictFor?_eq_some_iff hnodup).mp (of_decide_eq_true hlost))
  · rintro (⟨w, hw, hinvalid, rfl⟩ | ⟨a, ha, hretire, rfl⟩)
    · have hready := closed_mem_ready.mpr ⟨w, hw, hinvalid, rfl⟩
      exact List.mem_map.mpr ⟨_, List.mem_filter.mpr ⟨hready, rfl⟩, rfl⟩
    · obtain ⟨d, hd, hsame⟩ :=
        List.mem_map.mp (hanswers.subset (List.mem_map.mpr ⟨a, ha, rfl⟩))
      rw [due_eq] at hd
      obtain ⟨r, hready, hdue⟩ := List.mem_filterMap.mp hd
      obtain rfl := readable_of_due? hdue
      refine List.mem_map.mpr ⟨_, List.mem_filter.mpr ⟨hready, ?_⟩, hsame⟩
      exact decide_eq_true
        ((verdictFor?_eq_some_iff hnodup).mpr ⟨a, ha, hretire, hsame.symm⟩)

/-- **A sweep takes away what it should and nothing else.** -/
theorem swept_after {s : Membership τ} (h : s.live.Distinct) {answers : List (Answer τ)}
    (hanswers : AnswersTo s.due answers) : Swept s answers (s.after answers) where
  watched := by
    have hlost : s.lost answers ⊆ s.live.pairs := by
      intro slot hslot
      obtain ⟨r, hr, rfl⟩ := List.mem_map.mp (lostAmong_subset _ _ hslot)
      exact slot_mem_pairs h hr
    rw [← ReadinessSet.filter_lost h hlost]
    exact ReadinessSet.watched_without_perm h _
  control := s.live.control_without _
  controlResult := s.live.controlResult_without _
  entries := rfl
  latest := rfl
  lost := fun hcalm slot => mem_lost_iff h hanswers hcalm slot

end Membership

end ReceiveReactor
