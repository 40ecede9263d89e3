import ReceiveReactor.Proofs.Change
import ReceiveReactor.Proofs.LocalPipe

/-!
# The lifetime of a registration

A descriptor number can be closed, opened again and registered again at any
moment, also between a wait that reports it and the pass that follows the report
up.  The history of a run tells registrations apart by their generation.

* `System.Event.Ends`, `System.StandsSince` — a registration that has begun and
  not ended, with its task as attempts left it;
* `System.Chronicle`, `System.Effect.chronicle` — every entry stands in the
  history, kept by every step;
* `System.exists_own_step` — an event of a run is shown by one of its steps, and
  what it says is so;
* `System.action_of_event`, `System.not_answered` — which action shows a registration or
  an answer;
* `System.generations_unique` — a generation is given out **once**;
* `System.attempts_in_lifetime` — a task is attempted only within the lifetime of
  its registration.
-/

namespace ReceiveReactor

namespace System

/-- What ends a registration. -/
def Event.Ends {τ : Type} (fd : Fd) (generation : UInt64) : Event τ → Prop
  | .deregistered fd' generation' | .dropped fd' generation' =>
    fd' = fd ∧ generation' = generation
  | .answered fd' generation' verdict _ =>
    fd' = fd ∧ generation' = generation ∧ verdict = .retire
  | .cleared => True
  | _ => False

variable {σ τ ω : Type}

/-- The task of a registration as an event leaves it. -/
def leftBy (fd : Fd) (generation : UInt64) (task : τ) : Event τ → τ
  | .answered fd' generation' _ left =>
    if fd' = fd ∧ generation' = generation then left else task
  | _ => task

/-- The task of a registration as some events leave it. -/
def taskAfter (fd : Fd) (generation : UInt64) (task : τ) (events : List (Event τ)) : τ :=
  events.foldl (leftBy fd generation) task

theorem taskAfter_append (fd : Fd) (g : UInt64) (task : τ) (events more : List (Event τ)) :
    taskAfter fd g task (events ++ more) = taskAfter fd g (taskAfter fd g task events) more :=
  List.foldl_append

/-- Without an answer, a task is left as it was. -/
theorem taskAfter_of_quiet (fd : Fd) (g : UInt64) (task : τ) {events : List (Event τ)}
    (h : ∀ fd' g' verdict task', .answered fd' g' verdict task' ∉ events) :
    taskAfter fd g task events = task := by
  induction events with
  | nil => rfl
  | cons ev events ih =>
      have hev : leftBy fd g task ev = task := by
        cases ev with
        | answered fd' g' verdict task' => exact absurd List.mem_cons_self (h fd' g' verdict task')
        | _ => rfl
      rw [taskAfter, List.foldl_cons, hev]
      exact ih fun fd' g' verdict task' hmem => h fd' g' verdict task' (List.mem_cons_of_mem ev hmem)

/-- Some events in which a registration has begun, with those since then: none of
them ends it, and its task is left as given. -/
def StandsSince (fd : Fd) (generation : UInt64) (task : τ) (events since : List (Event τ)) :
    Prop :=
  ∃ before first, events = before ++ .registered fd generation first :: since ∧
    (∀ ev ∈ since, ¬ ev.Ends fd generation) ∧ taskAfter fd generation first since = task

/-- The entry of a descriptor stands in the history, and an active one was
applied. -/
def Chronicle (fd : Fd) (events : List (Event τ)) (s : System σ τ) : Prop :=
  ∀ e, s.reactor.registry.find? fd = some e →
    ∃ since, StandsSince fd e.generation e.task events since ∧
      (e.state = .active → .applied (.register fd e.generation) ∈ since)

variable {K : ControlPipe σ ω} {s t : System σ τ} {events : List (Event τ)}

/-! ## One step -/

/-- Nothing that a stop does touches an entry. -/
private theorem Tells.spares {progress : Progress} (h : Tells K s progress events t) (fd : Fd)
    (g : UInt64) (task : τ) :
    (∀ ev ∈ events, ¬ ev.Ends fd g) ∧ taskAfter fd g task events = task := by
  cases h <;> simp [Event.Ends, taskAfter, leftBy]

/-- A step carries an entry over: it was there with the same generation, no event
ends it, its task is as the events leave it, and it became active only by its own
record. -/
def CarriesOver (s : System σ τ) (events : List (Event τ)) (fd : Fd) (e : Entry τ) : Prop :=
  ∃ e₀, s.reactor.registry.find? fd = some e₀ ∧ e₀.generation = e.generation ∧
    (∀ ev ∈ events, ¬ ev.Ends fd e.generation) ∧
    taskAfter fd e.generation e₀.task events = e.task ∧
    (e.state = .active → e₀.state = .active ∨ .applied (.register fd e.generation) ∈ events)

/-- An entry that was there as it is, and that no event is about, is carried
over. -/
private theorem carriesOver_of_spared {fd : Fd} {e : Entry τ}
    (hfind : s.reactor.registry.find? fd = some e)
    (hspared : (∀ ev ∈ events, ¬ ev.Ends fd e.generation) ∧
      taskAfter fd e.generation e.task events = e.task) : s.CarriesOver events fd e :=
  ⟨e, hfind, rfl, hspared.1, hspared.2, Or.inl⟩

/-- **A record carries every entry over**, whoever wrote it. -/
theorem carriesOver_of_apply {r : ControlRecord} {fd : Fd} {e : Entry τ}
    (ht : (s.membership.apply r).2.registry.find? fd = some e) :
    s.CarriesOver [.applied r] fd e := by
  have hspared (e : Entry τ) : (∀ ev ∈ [Event.applied (τ := τ) r],
      ¬ ev.Ends fd e.generation) ∧ taskAfter fd e.generation e.task [.applied r] = e.task := by
    simp [Event.Ends, taskAfter, leftBy]
  rcases Membership.apply_cases s.membership r with happly |
    ⟨fd', g, e', rfl, hfound, happly⟩ | ⟨fd', g, -, happly⟩
  · rw [happly] at ht
    exact carriesOver_of_spared ht (hspared e)
  · rw [happly] at ht
    obtain ⟨hfind, hg⟩ := Registry.findGeneration?_eq_some_iff.mp hfound
    by_cases hfd : fd = fd'
    · subst hfd
      rw [Registry.find?_update, if_pos rfl, hfind] at ht
      obtain rfl := Option.some.inj ht
      obtain ⟨hends, htask⟩ := hspared e'
      exact ⟨e', hfind, rfl, hends, htask, fun _ => Or.inr (by simp [hg])⟩
    · rw [Registry.find?_update, if_neg hfd] at ht
      exact carriesOver_of_spared ht (hspared e)
  · rw [happly] at ht
    exact carriesOver_of_spared ht (hspared e)

/-- **A closed descriptor** carries over what is left. -/
theorem carriesOver_of_drop {fd' : Fd} {g : UInt64} {fd : Fd} {e : Entry τ}
    (ht : (s.reactor.registry.removeGeneration fd' g).2.find? fd = some e) :
    s.CarriesOver
      ((s.reactor.registry.findGeneration? fd' g).toList.map fun _ => .dropped fd' g) fd e := by
  rw [Registry.find?_removeGeneration] at ht
  split at ht
  · cases ht
  · next hnot =>
      refine carriesOver_of_spared ht ⟨?_, ?_⟩
      · intro ev hev hends
        obtain ⟨e', he', rfl⟩ := List.mem_map.mp hev
        have hfound : (s.reactor.registry.findGeneration? fd' g).isSome := by
          rw [Option.mem_toList.mp he']
          rfl
        exact hnot ⟨hends.1.symm, hfound⟩
      · cases s.reactor.registry.findGeneration? fd' g <;> rfl

/-- **An answer** carries over what it does not retire, its own entry with the task that it
leaves. -/
theorem carriesOver_of_answer {fd' : Fd} {g : UInt64} {before task : τ} {verdict : Verdict}
    (hbefore : s.reactor.registry.attemptable? fd' g = some before) {fd : Fd} {e : Entry τ}
    (ht : (s.membership.afterAttempt fd' task verdict).2.registry.find? fd = some e) :
    s.CarriesOver [.answered fd' g verdict task] fd e := by
  obtain ⟨e', hfind, hg, -, -⟩ := Registry.attemptable?_eq_some_iff.mp hbefore
  by_cases hfd : fd = fd'
  · subst hfd
    by_cases hretire : verdict = .retire
    · simp only [hretire, Membership.afterAttempt, Registry.find?_erase, if_true] at ht
      cases ht
    · have hupdate : (s.reactor.registry.update fd fun e => { e with task }).find? fd =
          some e := by
        cases verdict <;> first | exact ht | exact absurd rfl hretire
      rw [Registry.find?_update, if_pos rfl, hfind] at hupdate
      obtain rfl := Option.some.inj hupdate
      exact ⟨e', hfind, rfl, by simp [Event.Ends, hretire], by simp [taskAfter, leftBy, hg],
        Or.inl⟩
  · rw [Membership.find?_afterAttempt _ _ _ _ hfd] at ht
    exact carriesOver_of_spared ht (by simp [Event.Ends, taskAfter, leftBy, Ne.symm hfd])

/-- **Where an entry comes from.**  After a step it is a new one or carried
over. -/
theorem Effect.entry_cases (h : Effect K s events t) {fd : Fd} {e : Entry τ}
    (ht : t.reactor.registry.find? fd = some e) :
    (e.state = .pending ∧ events = [.registered fd e.generation e.task]) ∨
      s.CarriesOver events fd e := by
  cases h with
  | rollsBack fd' task event host hfree hrun haccepts hevent =>
      right
      simp only [withRegistry, Registry.find?_withdrawn haccepts] at ht
      refine carriesOver_of_spared ht ?_
      rcases hevent with rfl | ⟨errno, rfl⟩ <;> simp [Event.Ends, taskAfter, leftBy]
  | keeps fd' event host hevent =>
      right
      refine carriesOver_of_spared ht ?_
      rcases hevent with rfl | ⟨errno, rfl⟩ <;> simp [Event.Ends, taskAfter, leftBy]
  | registers fd' task host hfree hrun haccepts =>
      simp only [withRegistry, Registry.find?_entered haccepts] at ht
      by_cases hfd : fd = fd'
      · left
        rw [if_pos hfd] at ht
        obtain rfl := Option.some.inj ht
        rw [hfd]
        exact ⟨rfl, rfl⟩
      · right
        rw [if_neg hfd] at ht
        exact carriesOver_of_spared ht (by simp [Event.Ends, taskAfter, leftBy])
  | deregisters fd' e' host hfree hrun hfind =>
      right
      simp only [withRegistry, Registry.find?_erase] at ht
      split at ht
      · cases ht
      · next hfd =>
          exact carriesOver_of_spared ht
            (by simp [Event.Ends, taskAfter, leftBy, Ne.symm hfd])
  | stopTells i progress events t hstop htells =>
      exact Or.inr (carriesOver_of_spared (htells.frame.1 ▸ ht) (htells.spares fd _ _))
  | callbackTells fd' g rest progress events t hstage htells =>
      right
      obtain ⟨hends, htask⟩ := htells.spares fd e.generation e.task
      refine carriesOver_of_spared (htells.frame.1 ▸ ht) ?_
      split
      · exact ⟨hends, htask⟩
      · refine ⟨?_, by simpa [taskAfter, leftBy] using htask⟩
        simpa [or_imp, forall_and, Event.Ends] using hends
  | stopClears i => cases ht
  | drops fd' g rest hstage => exact Or.inr (carriesOver_of_drop ht)
  | answers fd' g rest before task verdict hstage hbefore =>
      exact Or.inr (carriesOver_of_answer hbefore ht)
  | receives r host hstage => exact Or.inr (carriesOver_of_apply ht)
  | _ => exact Or.inr (carriesOver_of_spared ht (by simp [Event.Ends, taskAfter, leftBy]))

/-- The chronicle goes on where every entry is new or carried over. -/
theorem Chronicle.append {fd : Fd} {before : List (Event τ)} (hs : Chronicle fd before s)
    (h : ∀ e, t.reactor.registry.find? fd = some e →
      (e.state = .pending ∧ events = [.registered fd e.generation e.task]) ∨
        s.CarriesOver events fd e) : Chronicle fd (before ++ events) t := by
  intro e ht
  rcases h e ht with ⟨hpending, rfl⟩ | ⟨e₀, hfind, hg, hends, htask, hactive⟩
  · refine ⟨[], ⟨before, e.task, rfl, by simp, rfl⟩, ?_⟩
    rw [hpending]
    exact fun h => nomatch h
  · obtain ⟨since, ⟨front, first, rfl, hstands, htask₀⟩, happlied⟩ := hs e₀ hfind
    rw [hg] at hstands htask₀ happlied
    refine ⟨since ++ events, ⟨front, first, by simp [hg], ?_, ?_⟩, ?_⟩
    · intro ev hev
      exact (List.mem_append.mp hev).elim (hstands ev) (hends ev)
    · rw [taskAfter_append, htask₀]
      exact htask
    · intro hstate
      rcases hactive hstate with hbefore | hnow
      · exact List.mem_append_left _ (happlied hbefore)
      · exact List.mem_append_right _ hnow

/-- The chronicle goes on with every step. -/
theorem Effect.chronicle {fd : Fd} {before : List (Event τ)} (hs : Chronicle fd before s)
    (h : Effect K s events t) : Chronicle fd (before ++ events) t :=
  hs.append fun _ ht => h.entry_cases ht

/-! ## Whole runs -/

/-- A descriptor that has no entry has nothing to tell. -/
theorem chronicle_of_free {fd : Fd} (h : s.reactor.registry.find? fd = none) :
    Chronicle fd [] s := by
  intro e he
  rw [h] at he
  cases he

/-- **The chronicle of a run.** -/
theorem chronicle_runFrom (hs : s.Coherent K) {fd : Fd} {before : List (Event τ)}
    (h : Chronicle fd before s) (as : List (Action τ ω)) :
    Chronicle fd (before ++ (s.runFrom K as).1) (s.runFrom K as).2 := by
  induction as generalizing s before with
  | nil => simpa using h
  | cons a as ih =>
      have heffect := step_effect hs a
      rw [runFrom_cons, ← List.append_assoc]
      exact ih (heffect.coherent hs) (heffect.chronicle h)

/-- **Every event is shown by a step.** -/
theorem exists_step_of_event {as : List (Action τ ω)} {before after : List (Event τ)}
    {ev : Event τ} (h : (s.runFrom K as).1 = before ++ ev :: after) :
    ∃ front a back earlier later, as = front ++ a :: back ∧
      before = (s.runFrom K front).1 ++ earlier ∧
      ((s.runFrom K front).2.step K a).1 = earlier ++ ev :: later ∧
      after = later ++ (((s.runFrom K front).2.step K a).2.runFrom K back).1 := by
  induction as generalizing s before with
  | nil => simp at h
  | cons a as ih =>
      rw [runFrom_cons] at h
      rcases List.append_eq_append_iff.mp h with ⟨mid, rfl, hrest⟩ | ⟨mid, hstep, hrest⟩
      · obtain ⟨front, a', back, earlier, later, rfl, rfl, hstep, hafter⟩ := ih hrest
        exact ⟨a :: front, a', back, earlier, later, rfl, by
          rw [runFrom_cons, List.append_assoc], hstep, hafter⟩
      · cases mid with
        | nil =>
            have hnil : ((s.step K a).2.runFrom K as).1 = [] ++ ev :: after := hrest.symm
            obtain ⟨front, a', back, earlier, later, rfl, hbefore, hstep', hafter⟩ := ih hnil
            refine ⟨a :: front, a', back, earlier, later, rfl, ?_, hstep', hafter⟩
            rw [runFrom_cons, List.append_assoc, ← hbefore, hstep]
            simp
        | cons ev' later =>
            obtain ⟨rfl, hafter⟩ := List.cons.inj hrest
            exact ⟨[], a, as, before, later, rfl, rfl, hstep, hafter⟩

theorem tell_shows {ev : Event τ} (h : ev ∈ (s.tell K).2.1) : ev = .exitWritten := by
  simp only [tell] at h
  split at h
  · cases h
  · exact List.mem_singleton.mp h

/-- A call of stop shows what it writes, and that it drops the registrations. -/
theorem advanceStop_shows {i : Nat} {stage : StopStage} {ev : Event τ}
    (h : ev ∈ (s.advanceStop K i stage).1) : ev = .exitWritten ∨ ev = .cleared := by
  cases stage with
  | telling => exact Or.inl (tell_shows h)
  | joining =>
      simp only [advanceStop] at h
      split at h <;> cases h
  | clearing =>
      simp only [advanceStop] at h
      split at h
      · cases h
      · exact Or.inr (List.mem_singleton.mp h)
  | taking | closing | returned => cases h

/-- A report that the thread comes to shows that a task is called or dropped. -/
theorem visit_shows {reports : List Readiness} {ev : Event τ} (h : ev ∈ (s.visit reports).1) :
    (∃ fd g task, ev = .attempted fd g task) ∨ ∃ fd g, ev = .dropped fd g := by
  match reports with
  | [] => cases h
  | .readable fd g :: rest =>
      cases htask : s.reactor.registry.attemptable? fd g with
      | none => simp [visit, htask] at h
      | some task => exact Or.inl ⟨fd, g, task, by simpa [visit, htask] using h⟩
  | .closed fd g :: rest =>
      obtain ⟨e, -, rfl⟩ := List.mem_map.mp h
      exact Or.inr ⟨fd, g, rfl⟩

/-- Only a registration shows that one was made, and only an answer shows one. -/
theorem action_of_event {a : Action τ ω} {ev : Event τ} (h : ev ∈ (s.step K a).1) :
    (∀ fd g task, ev = .registered fd g task → a = .register fd task) ∧
    ∀ fd g verdict task, ev = .answered fd g verdict task → a = .answer verdict task := by
  cases a with
  | outside o => cases h
  | callStop => cases h
  | wait => simp only [step] at h; split at h <;> cases h
  | lock => simp only [step] at h; split at h <;> cases h
  | callbackStop => simp only [step] at h; split at h <;> cases h
  | leave => simp only [step] at h; split at h <;> cases h
  | register fd task =>
      simp only [step] at h
      split at h
      · cases h
      · simp only [register] at h
        obtain rfl := List.mem_singleton.mp h
        split <;> simp +contextual
  | deregister fd =>
      simp only [step] at h
      split at h
      · cases h
      · simp only [deregister] at h
        obtain rfl := List.mem_singleton.mp h
        split <;> simp
  | advanceStop i =>
      simp only [step] at h
      split at h
      · rcases advanceStop_shows h with rfl | rfl <;> simp
      · cases h
  | visit =>
      simp only [step] at h
      split at h
      · rcases visit_shows h with ⟨fd, g, task, rfl⟩ | ⟨fd, g, rfl⟩ <;> simp
      · cases h
  | callbackTell =>
      simp only [step] at h
      split at h
      · split at h
        · obtain rfl := tell_shows h
          simp
        · rcases List.mem_append.mp h with htold | hreturned
          · obtain rfl := tell_shows htold
            simp
          · obtain rfl := List.mem_singleton.mp hreturned
            simp
      · cases h
  | answer verdict task =>
      simp only [step] at h
      split at h
      · obtain rfl := List.mem_singleton.mp h
        simp +contextual
      · cases h
  | control =>
      simp only [step] at h
      split at h
      · obtain ⟨r, -, rfl⟩ := List.mem_map.mp h
        simp
      · cases h

/-- Steps of any other kind show no answer. -/
theorem not_answered {a : Action τ ω} (hother : ∀ verdict task, a ≠ .answer verdict task) (fd : Fd)
    (g : UInt64) (verdict : Verdict) (task : τ) : .answered fd g verdict task ∉ (s.step K a).1 :=
  fun h => hother verdict task ((action_of_event h).2 fd g verdict task rfl)

/-- What an event says about the states around it. -/
def Event.Says (s t : System σ τ) : Event τ → Prop
  | .attempted fd generation task =>
    s.reactor.registry.attemptable? fd generation = some task
  | .deregistered fd generation =>
    (∃ e, s.reactor.registry.find? fd = some e ∧ e.generation = generation) ∧
      t.reactor.registry.find? fd = none
  | .registerFails fd cause =>
    cause = .alreadyRegistered fd → ∃ e, s.reactor.registry.find? fd = some e
  | _ => True

/-- Telling shows nothing but the record. -/
theorem Tells.shows {progress : Progress} (h : Tells K s progress events t)
    {ev : Event τ} (hmem : ev ∈ events) : ev = .exitWritten := by
  cases h with
  | written => exact List.mem_singleton.mp hmem
  | _ => exact absurd hmem List.not_mem_nil

/-- And from a callback also the return. -/
theorem Tells.shows_returned {progress : Progress} (h : Tells K s progress events t)
    {ev : Event τ} (hmem : ev ∈ if progress = .retry then events else events ++ [.callbackStopped]) :
    ev = .exitWritten ∨ ev = .callbackStopped := by
  split at hmem
  · exact Or.inl (h.shows hmem)
  · exact (List.mem_append.mp hmem).imp h.shows List.mem_singleton.mp

/-- What a step shows is so. -/
theorem Effect.says (h : Effect K s events t) {ev : Event τ} (hmem : ev ∈ events) :
    ev.Says s t := by
  cases h with
  | attempts fd g rest task hstage htask =>
      obtain rfl := List.mem_singleton.mp hmem
      exact htask
  | deregisters fd e host hfree hrun hfind =>
      obtain rfl := List.mem_singleton.mp hmem
      refine ⟨⟨e, hfind, rfl⟩, ?_⟩
      simp only [withRegistry, Registry.find?_erase, if_true]
  | refusesRegister fd cause hcause =>
      obtain rfl := List.mem_singleton.mp hmem
      intro hmade
      rcases hcause with ⟨rfl, -⟩ | ⟨-, hfind⟩
      · cases hmade
      · exact Option.ne_none_iff_exists'.mp hfind
  | rollsBack fd task event host hfree hrun haccepts hevent =>
      obtain rfl := List.mem_singleton.mp hmem
      rcases hevent with rfl | ⟨errno, rfl⟩
      · exact trivial
      · exact fun hmade => by cases hmade
  | keeps fd event host hevent =>
      obtain rfl := List.mem_singleton.mp hmem
      rcases hevent with rfl | ⟨errno, rfl⟩ <;> exact trivial
  | drops fd g rest hstage =>
      obtain ⟨e, -, rfl⟩ := List.mem_map.mp hmem
      exact trivial
  | stopTells i progress events t hstop htells =>
      rcases htells.shows hmem with rfl
      exact trivial
  | callbackTells fd g rest progress events t hstage htells =>
      rcases htells.shows_returned hmem with rfl | rfl <;> exact trivial
  | _ =>
      first
        | exact absurd hmem List.not_mem_nil
        | (obtain rfl := List.mem_singleton.mp hmem; exact trivial)

/-- A task is attempted for the report that the thread has come to. -/
theorem Effect.of_attempted (h : Effect K s events t) {fd : Fd} {g : UInt64} {task : τ}
    (hmem : .attempted fd g task ∈ events) :
    ∃ rest, s.stage = .visits (.readable fd g :: rest) ∧
      s.reactor.registry.attemptable? fd g = some task := by
  have htask := h.says hmem
  cases h with
  | attempts fd' g' rest task' hstage =>
      cases List.mem_singleton.mp hmem
      exact ⟨rest, hstage, htask⟩
  | rollsBack fd' task' event host hfree hrun haccepts hevent =>
      rcases hevent with rfl | ⟨errno, rfl⟩ <;> simp at hmem
  | keeps fd' event host hevent =>
      rcases hevent with rfl | ⟨errno, rfl⟩ <;> simp at hmem
  | drops fd' g' rest hstage =>
      obtain ⟨e, -, heq⟩ := List.mem_map.mp hmem
      cases heq
  | stopTells i progress events t hstop htells => cases htells.shows hmem
  | callbackTells fd' g' rest progress events t hstage htells =>
      rcases htells.shows_returned hmem with heq | heq <;> cases heq
  | _ => simp at hmem

/-- A step shows **one event**, unless it tells the reactor to exit. -/
theorem Effect.shows_one (h : Effect K s events t) {ev : Event τ} (hmem : ev ∈ events) :
    events = [ev] ∨ ev = .exitWritten ∨ ev = .callbackStopped := by
  cases h with
  | stopTells i progress events t hstop htells => exact Or.inr (Or.inl (htells.shows hmem))
  | callbackTells fd g rest progress events t hstage htells =>
      exact Or.inr (htells.shows_returned hmem)
  | drops fd g rest hstage =>
      left
      cases hfound : s.reactor.registry.findGeneration? fd g with
      | none => simp [hfound] at hmem
      | some e => simpa [hfound, eq_comm] using hmem
  | _ =>
      first
        | exact absurd hmem List.not_mem_nil
        | exact Or.inl (by rw [List.mem_singleton.mp hmem])

/-! ## Generations -/

/-- The generations that some events give out. -/
def generationsOf (events : List (Event τ)) : List UInt64 :=
  events.filterMap fun
    | .registered _ generation _ => some generation
    | _ => none

/-- A step gives out one generation at most, and that is **a new one**. -/
theorem Effect.generations_cases (h : Effect K s events t) :
    generationsOf events = [] ∨
      ∃ g, generationsOf events = [g] ∧ s.reactor.registry.latest < g ∧
        g = t.reactor.registry.latest := by
  cases h with
  | registers fd task host hfree hrun haccepts =>
      right
      refine ⟨_, rfl, haccepts.latest_lt, ?_⟩
      exact (Registry.latest_entered haccepts task).symm
  | rollsBack fd task event host hfree hrun haccepts hevent =>
      rcases hevent with rfl | ⟨errno, rfl⟩ <;> exact Or.inl rfl
  | keeps fd event host hevent =>
      rcases hevent with rfl | ⟨errno, rfl⟩ <;> exact Or.inl rfl
  | stopTells i progress events t hstop htells => cases htells <;> exact Or.inl rfl
  | callbackTells fd g rest progress events t hstage htells =>
      cases htells <;> exact Or.inl rfl
  | drops fd g rest hstage =>
      left
      cases s.reactor.registry.findGeneration? fd g <;> rfl
  | _ => exact Or.inl rfl

/-- The generations that a run gives out grow, and the latest is the last. -/
theorem pairwise_generations (hs : s.Coherent K) {before : List (Event τ)}
    (hbefore : (generationsOf before).Pairwise (· < ·))
    (hle : ∀ g ∈ generationsOf before, g ≤ s.reactor.registry.latest)
    (as : List (Action τ ω)) :
    (generationsOf (before ++ (s.runFrom K as).1)).Pairwise (· < ·) := by
  induction as generalizing s before with
  | nil => simpa using hbefore
  | cons a as ih =>
      have heffect := step_effect hs a
      have happend : generationsOf (before ++ (s.step K a).1) =
          generationsOf before ++ generationsOf (s.step K a).1 := List.filterMap_append
      rw [runFrom_cons, ← List.append_assoc]
      rcases heffect.generations_cases with hnone | ⟨g, hone, hlt, hlatest⟩
      · rw [hnone, List.append_nil] at happend
        refine ih (heffect.coherent hs) (happend ▸ hbefore) ?_
        rw [happend]
        exact fun g hg => UInt64.le_trans (hle g hg) heffect.latest_le
      · rw [hone] at happend
        refine ih (heffect.coherent hs) ?_ ?_
        · rw [happend, List.pairwise_append]
          refine ⟨hbefore, List.pairwise_singleton _ _, fun g' hg' x hx => ?_⟩
          obtain rfl := List.mem_singleton.mp hx
          exact UInt64.lt_of_le_of_lt (hle g' hg') hlt
        · rw [happend]
          intro g' hg'
          rcases List.mem_append.mp hg' with hold | hnew
          · exact UInt64.le_trans (hle g' hold) heffect.latest_le
          · obtain rfl := List.mem_singleton.mp hnew
            exact UInt64.le_of_eq hlatest

/-- **A generation is given out once** in a run. -/
theorem generations_unique {as : List (Action τ ω)} {before after : List (Event τ)} {fd : Fd}
    {g : UInt64} {task : τ}
    (h : (run K as).1 = before ++ .registered fd g task :: after) (fd' : Fd) (task' : τ) :
    .registered fd' g task' ∉ before ∧ .registered fd' g task' ∉ after := by
  have hpairwise : (generationsOf ([] ++ ((start K).runFrom K as).1)).Pairwise (· < ·) :=
    pairwise_generations (coherent_start K) List.Pairwise.nil (by simp [generationsOf]) as
  rw [List.nil_append, show ((start K).runFrom K as).1 = _ from h] at hpairwise
  have hsplit : generationsOf (before ++ .registered fd g task :: after) =
      generationsOf before ++ g :: generationsOf after := by
    simp [generationsOf]
  have hmem {events : List (Event τ)} (hev : .registered fd' g task' ∈ events) :
      g ∈ generationsOf events := List.mem_filterMap.mpr ⟨_, hev, rfl⟩
  rw [hsplit, List.pairwise_append] at hpairwise
  obtain ⟨-, hafter, hbefore⟩ := hpairwise
  refine ⟨fun hev => ?_, fun hev => ?_⟩
  · exact UInt64.lt_irrefl g (hbefore g (hmem hev) g List.mem_cons_self)
  · exact UInt64.lt_irrefl g ((List.pairwise_cons.mp hafter).1 g (hmem hev))

/-! ## Attempts -/

/-- **A step of its own.**  An event that is not about telling is all that its step
shows, and it is so. -/
theorem exists_own_step (hs : s.Coherent K) {as : List (Action τ ω)}
    {before after : List (Event τ)} {ev : Event τ} (hown : ev ≠ .exitWritten ∧ ev ≠ .callbackStopped)
    (h : (s.runFrom K as).1 = before ++ ev :: after) :
    ∃ front a back, as = front ++ a :: back ∧ before = (s.runFrom K front).1 ∧
      after = (((s.runFrom K front).2.step K a).2.runFrom K back).1 ∧
      ev.Says (s.runFrom K front).2 ((s.runFrom K front).2.step K a).2 := by
  obtain ⟨front, a, back, earlier, later, rfl, rfl, hstep, rfl⟩ := exists_step_of_event h
  have heffect := step_effect (hs.runFrom front) a
  have hmem : ev ∈ ((s.runFrom K front).2.step K a).1 := by
    rw [hstep]
    simp
  have halone : ((s.runFrom K front).2.step K a).1 = [ev] :=
    (heffect.shows_one hmem).resolve_right (not_or.mpr hown)
  have hlength := congrArg List.length (hstep.symm.trans halone)
  simp only [List.length_append, List.length_cons, List.length_nil] at hlength
  obtain rfl : earlier = [] := List.length_eq_zero_iff.mp (by omega)
  obtain rfl : later = [] := List.length_eq_zero_iff.mp (by omega)
  exact ⟨front, a, back, rfl, List.append_nil _, rfl, heffect.says hmem⟩

/-- A run that goes on from a state without an entry attempts only tasks of
registrations that it has begun, applied and not ended. -/
theorem attempt_stands (hs : s.Coherent K) {fd : Fd} (hfree : s.reactor.registry.find? fd = none)
    {as : List (Action τ ω)} {before after : List (Event τ)} {g : UInt64} {task : τ}
    (h : (s.runFrom K as).1 = before ++ .attempted fd g task :: after) :
    ∃ since, StandsSince fd g task before since ∧ .applied (.register fd g) ∈ since := by
  obtain ⟨front, a, back, rfl, rfl, -, htask⟩ := exists_own_step hs (by simp) h
  obtain ⟨e, hfind, rfl, hactive, rfl⟩ := Registry.attemptable?_eq_some_iff.mp htask
  obtain ⟨since, hstands, happlied⟩ := chronicle_runFrom hs (chronicle_of_free hfree) front e hfind
  exact ⟨since, hstands, happlied hactive⟩

/-- And it refuses a registration as made already only while one of its own
stands. -/
theorem refusal_stands (hs : s.Coherent K) {fd : Fd} (hfree : s.reactor.registry.find? fd = none)
    {as : List (Action τ ω)} {before after : List (Event τ)}
    (h : (s.runFrom K as).1 = before ++ .registerFails fd (.alreadyRegistered fd) :: after) :
    ∃ g task since, StandsSince fd g task before since := by
  obtain ⟨front, a, back, rfl, rfl, -, hmade⟩ := exists_own_step hs (by simp) h
  obtain ⟨e, hfind⟩ := hmade rfl
  obtain ⟨since, hstands, -⟩ := chronicle_runFrom hs (chronicle_of_free hfree) front e hfind
  exact ⟨e.generation, e.task, since, hstands⟩

/-- A deregistration leaves a state without an entry, from which the run goes on,
and the registration that it ends was begun before. -/
private theorem of_deregistered {as : List (Action τ ω)} {before after : List (Event τ)} {fd : Fd}
    {g : UInt64} (h : (run K as).1 = before ++ .deregistered fd g :: after) :
    (∃ (u : System σ τ) (bs : List (Action τ ω)), u.Coherent K ∧
      u.reactor.registry.find? fd = none ∧ after = (u.runFrom K bs).1) ∧
    ∃ task, .registered fd g task ∈ before := by
  have hstart := coherent_start (τ := τ) K
  obtain ⟨front, a, back, rfl, rfl, rfl, ⟨e, hfind, rfl⟩, hfree⟩ :=
    exists_own_step hstart (by simp) h
  refine ⟨⟨_, back, (step_effect (hstart.runFrom front) a).coherent (hstart.runFrom front),
    hfree, rfl⟩, ?_⟩
  obtain ⟨since, ⟨began, first, hbefore, -⟩, -⟩ :=
    chronicle_runFrom hstart (chronicle_of_free rfl) front e hfind
  rw [List.nil_append] at hbefore
  exact ⟨first, by rw [hbefore]; simp⟩

/-- **Attempts lie within the lifetime of their registration**, in every run.

Each task that is attempted is the task, as earlier attempts left it, of a
registration whose record was applied and which has not ended, and no other
registration of the run has its generation.  After a deregistration, everything
about the descriptor is of registrations made since: its task is never attempted
again, others only when they stand, and a registration is refused as made already
only because of one of them. -/
theorem attempts_in_lifetime (K : ControlPipe σ ω) (as : List (Action τ ω)) :
    (∀ before fd g task after, (run K as).1 = before ++ .attempted fd g task :: after →
      ∃ since, StandsSince fd g task before since ∧ .applied (.register fd g) ∈ since) ∧
    (∀ before fd g task after, (run K as).1 = before ++ .registered fd g task :: after →
      ∀ fd' task', .registered fd' g task' ∉ before ∧ .registered fd' g task' ∉ after) ∧
    ∀ before fd g after, (run K as).1 = before ++ .deregistered fd g :: after →
      (∀ task, .attempted fd g task ∉ after) ∧
      (∀ mid g' task rest, after = mid ++ .attempted fd g' task :: rest →
        ∃ since, StandsSince fd g' task mid since ∧ .applied (.register fd g') ∈ since) ∧
      ∀ mid rest, after = mid ++ .registerFails fd (.alreadyRegistered fd) :: rest →
        ∃ g' task since, StandsSince fd g' task mid since := by
  have hstart := coherent_start (τ := τ) K
  refine ⟨fun before fd g task after h => attempt_stands hstart rfl h,
    fun before fd g task after h fd' task' => generations_unique h fd' task', ?_⟩
  intro before fd g after h
  obtain ⟨⟨u, bs, hu, hfree, rfl⟩, first, hfirst⟩ := of_deregistered h
  refine ⟨fun task hmem => ?_, fun mid g' task rest hmid => attempt_stands hu hfree hmid,
    fun mid rest hmid => refusal_stands hu hfree hmid⟩
  -- An attempt would need the generation to have been given out again.
  obtain ⟨mid, rest, hmid⟩ := List.append_of_mem hmem
  obtain ⟨since, ⟨began, again, rfl, -⟩, -⟩ := attempt_stands hu hfree hmid
  have hrun : (run K as).1 = (before ++ .deregistered fd g :: began) ++
      .registered fd g again :: (since ++ .attempted fd g task :: rest) := by
    rw [h, hmid]
    simp
  exact (generations_unique hrun fd first).1 (List.mem_append_left _ hfirst)

/-- What the pass after a reused descriptor visits, and the passes behind it
until the new task is called. -/
def afterReuse : List (Action Nat (List Events)) :=
  [.lock, .visit, .control, .outside [], .wait, .lock, .control, .wait, .lock, .control,
    .outside [.input], .wait, .lock, .visit]

/-- The old task is not attempted by the pass that follows its report up, and the
new one only after its own record. -/
theorem attempts_in_lifetime_reuse :
    (run (localPipe 65536) (reuse ++ afterReuse)).1 =
      [.registered 5 1 7, .applied (.register 5 1), .deregistered 5 1, .registered 5 2 9,
        .applied (.deregister 5 1), .applied (.register 5 2), .attempted 5 2 9] ∧
    (∃ since, StandsSince 5 2 9
        [.registered 5 1 7, .applied (.register 5 1), .deregistered 5 1, .registered 5 2 9,
          .applied (.deregister 5 1), .applied (.register 5 2)] since ∧
      .applied (.register 5 2) ∈ since) ∧
    ∀ task : Nat, Event.attempted 5 1 task ∉
      [.registered 5 2 9, .applied (.deregister 5 1), .applied (.register 5 2),
        .attempted 5 2 9] := by
  have hrun : (run (localPipe 65536) (reuse ++ afterReuse)).1 =
      [.registered 5 1 7, .applied (.register 5 1), .deregistered 5 1, .registered 5 2 9,
        .applied (.deregister 5 1), .applied (.register 5 2), .attempted 5 2 9] := rfl
  obtain ⟨hstands, -, hover⟩ := attempts_in_lifetime (localPipe 65536) (reuse ++ afterReuse)
  exact ⟨hrun, hstands _ 5 2 9 [] hrun,
    (hover [.registered 5 1 7, .applied (.register 5 1)] 5 1 _ hrun).1⟩

end System

end ReceiveReactor
