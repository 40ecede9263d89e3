import ReceiveReactor.Proofs.Effect

/-!
# What every step changes

Consequences of `System.Effect` that need no invariant: which way generations,
the exit flag and the stage of the thread go, and what enters and leaves the
pipe.

* `Effect.change` — what becomes of **the registry**;
* `Effect.latest_le`, `Effect.standing` — generations only grow;
* `Effect.slot_cases` — where a slot of the readiness set comes from;
* `Effect.sent_cases`, `Effect.received_cases` — **one record at most** enters or
  leaves the pipe;
* `Effect.stage_cases`, `Effect.ended` — how the thread comes to its end;
* `Effect.stop_cases` — how calls of stop go on.
-/

namespace ReceiveReactor

/-- A record leaves each descriptor at most one slot. -/
theorem Membership.distinct_apply {τ : Type} {s : Membership τ} (hs : s.live.Distinct)
    (r : ControlRecord) : (s.apply r).2.live.Distinct := by
  rcases s.apply_cases r with hsame | ⟨fd, g, e, -, -, hupdate⟩ | ⟨fd, g, -, hremove⟩
  · rw [hsame]
    exact hs
  · rw [hupdate]
    exact hs.insert fd g
  · rw [hremove]
    exact hs.remove fd

/-- A record watches a descriptor only for **an entry that is there**, with its
generation. -/
theorem Membership.slot_of_apply {τ : Type} {s : Membership τ} (hs : s.live.Distinct)
    {r : ControlRecord} {fd : Fd} {g : UInt64}
    (h : (s.apply r).2.live.generation? fd = some g) :
    s.live.generation? fd = some g ∨
      r = .register fd g ∧ ∃ e, s.registry.find? fd = some e ∧ e.generation = g := by
  rcases s.apply_cases r with hsame | ⟨fd', g', e, rfl, hfound, happly⟩ | ⟨fd', g', -, happly⟩
  · rw [hsame] at h
    exact Or.inl h
  · rw [happly, ReadinessSet.generation?_insert hs] at h
    split at h
    · next hfd =>
        obtain rfl := Option.some.inj h
        subst hfd
        exact Or.inr ⟨rfl, e, Registry.findGeneration?_eq_some_iff.mp hfound⟩
    · exact Or.inl h
  · rw [happly, ReadinessSet.generation?_remove hs] at h
    split at h
    · cases h
    · exact Or.inl h

namespace System

variable {σ τ ω : Type} {K : ControlPipe σ ω} {s t : System σ τ} {events : List (Event τ)}

/-- A reactor that may still be told to exit has its sending end and was not
told. -/
theorem running_facts {x : ControlSender} (h : s.reactor.runningSender? = some x) :
    s.reactor.exitSent = false ∧ s.reactor.sender = some x := by
  unfold Reactor.runningSender? at h
  split at h
  · cases h
  · next hnot => exact ⟨by simpa using hnot, h⟩

/-! ## The registry -/

/-- Telling changes neither view of membership and no call of stop. -/
theorem Tells.frame {progress : Progress} (h : Tells K s progress events t) :
    t.reactor.registry = s.reactor.registry ∧ t.live = s.live ∧ t.stops = s.stops := by
  cases h <;> exact ⟨rfl, rfl, rfl⟩

/-- **What a step does to the registry.** -/
theorem Effect.change (h : Effect K s events t) :
    Registry.Change (s.reactor.runningSender? = some K.sender)
      s.reactor.registry t.reactor.registry := by
  cases h with
  | rollsBack fd task event host hfree hrun haccepts => exact .withdraws task hrun haccepts
  | registers fd task host hfree hrun haccepts => exact .enters task hrun haccepts
  | deregisters fd => exact .erases fd
  | stopTells i progress events t hstop htells =>
      show Registry.Change _ _ t.reactor.registry
      rw [htells.frame.1]
      exact .stays
  | callbackTells fd g rest progress events t hstage htells =>
      show Registry.Change _ _ t.reactor.registry
      rw [htells.frame.1]
      exact .stays
  | stopClears i => exact .clears
  | drops fd g rest hstage => exact Registry.change_removeGeneration fd g
  | answers fd g rest before task verdict => exact s.membership.change_afterAttempt fd task verdict
  | receives r host => exact s.membership.change_apply r
  | _ => exact .stays

theorem Effect.latest_le (h : Effect K s events t) :
    s.reactor.registry.latest ≤ t.reactor.registry.latest := h.change.latest_le

/-- A generation that stands after a step stood before it or was **just given
out**. -/
theorem Effect.standing (h : Effect K s events t) {fd : Fd} {st : RegistrationState} {g : UInt64}
    (ht : t.reactor.registry.standing? fd = some (st, g)) :
    (∃ st', s.reactor.registry.standing? fd = some (st', g)) ∨
      (g = t.reactor.registry.latest ∧ s.reactor.runningSender? = some K.sender) :=
  h.change.standing ht

/-- No step gives a descriptor two entries. -/
theorem Effect.distinct (h : Effect K s events t) (hs : s.reactor.registry.Distinct) :
    t.reactor.registry.Distinct := h.change.distinct hs

/-! ## Slots -/

/-- **Where a slot comes from.**  After a step it was there before, or the thread has
just applied the record of an entry that is there. -/
theorem Effect.slot_cases (hs : s.live.Distinct) (h : Effect K s events t) {fd : Fd} {g : UInt64}
    (ht : t.live.generation? fd = some g) :
    s.live.generation? fd = some g ∨
      events = [.applied (.register fd g)] ∧
        ∃ e, s.reactor.registry.find? fd = some e ∧ e.generation = g := by
  have hremoved {other : Fd} (hslot : (s.live.remove other).2.generation? fd = some g) :
      s.live.generation? fd = some g := by
    rw [ReadinessSet.generation?_remove hs] at hslot
    split at hslot
    · cases hslot
    · exact hslot
  cases h with
  | stopTells i progress events t hstop htells =>
      obtain ⟨-, hlive, -⟩ := htells.frame
      exact Or.inl (hlive ▸ ht)
  | callbackTells fd' g' rest progress events t hstage htells =>
      obtain ⟨-, hlive, -⟩ := htells.frame
      exact Or.inl (hlive ▸ ht)
  | waits host live stage hstage hwakes hpairs =>
      left
      rw [ReadinessSet.generation?_eq_lookup, ← hpairs, ← ReadinessSet.generation?_eq_lookup]
      exact ht
  | drops fd' g' rest hstage => exact Or.inl (hremoved ht)
  | answers fd' g' rest before task verdict =>
      cases verdict with
      | retire => exact Or.inl (hremoved ht)
      | keep | panic => exact Or.inl ht
  | receives r host =>
      rcases Membership.slot_of_apply (s := s.membership) hs ht with hslot | ⟨rfl, hentry⟩
      · exact Or.inl hslot
      · exact Or.inr ⟨rfl, hentry⟩
  | _ => exact Or.inl ht

/-! ## Records -/

/-- Telling sends nothing but the exit record. -/
theorem Tells.sent_eq {progress : Progress} (h : Tells K s progress events t) :
    ∀ r ∈ sent events, r = .exit := by
  cases h <;> simp [sent]

/-- A generation that is sent stands under a descriptor or was **just given
out**. -/
theorem Effect.sent_generation (h : Effect K s events t) {r : ControlRecord} {g : UInt64}
    (hr : r ∈ sent events) (hg : r.generation? = some g) :
    (∃ fd st, s.reactor.registry.standing? fd = some (st, g)) ∨
      g = t.reactor.registry.latest := by
  cases h with
  | rollsBack fd task event host hfree hrun haccepts hevent =>
      rcases hevent with rfl | ⟨errno, rfl⟩ <;> simp [sent] at hr
  | keeps fd event host hevent =>
      rcases hevent with rfl | ⟨errno, rfl⟩ <;> simp [sent] at hr
  | registers fd task host hfree hrun haccepts =>
      right
      obtain rfl : r = .register fd (s.reactor.registry.latest + 1) := by simpa [sent] using hr
      show g = (s.reactor.registry.entered fd task).latest
      rw [Registry.latest_entered haccepts]
      exact (Option.some.inj hg).symm
  | deregisters fd e host hfree hrun hfind =>
      left
      obtain rfl : r = .deregister fd e.generation := by simpa [sent] using hr
      exact ⟨fd, e.state, Registry.standing?_eq_some_iff.mpr ⟨e, hfind, rfl, Option.some.inj hg⟩⟩
  | stopTells i progress events t hstop htells =>
      rw [htells.sent_eq r hr] at hg
      cases hg
  | callbackTells fd g rest progress events t hstage htells =>
      rw [sent_returned] at hr
      rw [htells.sent_eq r hr] at hg
      cases hg
  | drops fd g rest hstage =>
      cases hfind : s.reactor.registry.findGeneration? fd g <;> simp [hfind, sent] at hr
  | _ => simp [sent] at hr

theorem Effect.exitSent_mono (h : Effect K s events t) (hs : s.reactor.exitSent = true) :
    t.reactor.exitSent = true := by
  cases h with
  | stopTells i progress events t hstop htells => cases htells <;> first | exact hs | rfl
  | callbackTells fd g rest progress events t hstage htells =>
      cases htells <;> first | exact hs | rfl
  | _ => exact hs

/-- Telling sends the exit record at most, and then the reactor counts as told. -/
theorem Tells.sent_cases {progress : Progress} (h : Tells K s progress events t) :
    sent events = [] ∨
      sent events = [.exit] ∧ s.reactor.exitSent = false ∧ t.reactor.exitSent = true := by
  cases h with
  | written host hrun hcontents => exact Or.inr ⟨rfl, (running_facts hrun).1, rfl⟩
  | already => exact Or.inl rfl
  | failed host hrun hcontents => exact Or.inl rfl
  | full host hrun hcontents => exact Or.inl rfl

/-- A step sends **one record at most**, and only for a reactor that was not told
to exit. -/
theorem Effect.sent_cases (h : Effect K s events t) :
    sent events = [] ∨
      ∃ r, sent events = [r] ∧ s.reactor.exitSent = false ∧
        (r = .exit → t.reactor.exitSent = true) := by
  cases h with
  | rollsBack fd task event host hfree hrun haccepts hevent =>
      rcases hevent with rfl | ⟨errno, rfl⟩ <;> exact Or.inl rfl
  | keeps fd event host hevent =>
      rcases hevent with rfl | ⟨errno, rfl⟩ <;> exact Or.inl rfl
  | registers fd task host hfree hrun =>
      exact Or.inr ⟨_, rfl, (running_facts hrun).1, by simp⟩
  | deregisters fd e host hfree hrun =>
      exact Or.inr ⟨_, rfl, (running_facts hrun).1, by simp⟩
  | stopTells i progress events t hstop htells =>
      rcases htells.sent_cases with hnone | ⟨hexit, hnot, htold⟩
      · exact Or.inl hnone
      · exact Or.inr ⟨.exit, hexit, hnot, fun _ => htold⟩
  | callbackTells fd g rest progress events t hstage htells =>
      rw [sent_returned]
      rcases htells.sent_cases with hnone | ⟨hexit, hnot, htold⟩
      · exact Or.inl hnone
      · exact Or.inr ⟨.exit, hexit, hnot, fun _ => htold⟩
  | drops fd g rest hstage =>
      left
      cases s.reactor.registry.findGeneration? fd g <;> rfl
  | _ => exact Or.inl rfl

/-- A step receives **one record at most**, at the end of a pass. -/
theorem Effect.received_cases (h : Effect K s events t) :
    received events = [] ∨
      ∃ r, received events = [r] ∧ sent events = [] ∧ s.stage = .visits [] ∧
        t.stage = if r = .exit then .leaves false else .waits := by
  cases h with
  | rollsBack fd task event host hfree hrun haccepts hevent =>
      rcases hevent with rfl | ⟨errno, rfl⟩ <;> exact Or.inl rfl
  | keeps fd event host hevent =>
      rcases hevent with rfl | ⟨errno, rfl⟩ <;> exact Or.inl rfl
  | stopTells i progress events t hstop htells => exact Or.inl htells.contents.1
  | callbackTells fd g rest progress events t hstage htells =>
      rw [received_returned]
      exact Or.inl htells.contents.1
  | drops fd g rest hstage =>
      left
      cases s.reactor.registry.findGeneration? fd g <;> rfl
  | receives r host hstage => exact Or.inr ⟨r, rfl, rfl, hstage, rfl⟩
  | _ => exact Or.inl rfl

/-! ## The reactor thread and calls of stop -/

/-- How the stage of the reactor thread goes on. -/
theorem Effect.stage_cases (h : Effect K s events t) :
    t.stage = s.stage ∨ (s.stage.isRunning = true ∧ t.stage.isRunning = true) ∨
      (s.stage.isRunning = true ∧ t.stage = .leaves true) ∨
      (received events = [.exit] ∧ t.stage = .leaves false) ∨
      ∃ panicked, s.stage = .leaves panicked ∧ t.stage = .ended panicked := by
  cases h with
  | stopTells i progress events t hstop htells => exact Or.inl htells.stage
  | callbackTells fd g rest progress events t hstage htells =>
      exact Or.inr (Or.inl ⟨by rw [hstage]; rfl, rfl⟩)
  | waits host live stage hstage hwakes =>
      right
      left
      rw [hstage]
      rcases hwakes with rfl | rfl <;> exact ⟨rfl, rfl⟩
  | locks hstage => exact Or.inr (Or.inl ⟨by rw [hstage]; rfl, rfl⟩)
  | attempts fd g rest task hstage => exact Or.inr (Or.inl ⟨by rw [hstage]; rfl, rfl⟩)
  | passes fd g rest hstage => exact Or.inr (Or.inl ⟨by rw [hstage]; rfl, rfl⟩)
  | drops fd g rest hstage => exact Or.inr (Or.inl ⟨by rw [hstage]; rfl, rfl⟩)
  | callbackStops fd g rest stopping hstage => exact Or.inr (Or.inl ⟨by rw [hstage]; rfl, rfl⟩)
  | answers fd g rest before task verdict hstage =>
      have hrunning : s.stage.isRunning = true := by rw [hstage]; rfl
      cases verdict with
      | panic => exact Or.inr (Or.inr (Or.inl ⟨hrunning, rfl⟩))
      | keep | retire => exact Or.inr (Or.inl ⟨hrunning, rfl⟩)
  | receives r host hstage =>
      by_cases hexit : r = .exit
      · exact Or.inr (Or.inr (Or.inr (Or.inl ⟨by rw [hexit]; rfl, if_pos hexit⟩)))
      · refine Or.inr (Or.inl ⟨by rw [hstage]; rfl, ?_⟩)
        simp only [if_neg hexit]
        rfl
  | receivesNothing host hstage => exact Or.inr (Or.inl ⟨by rw [hstage]; rfl, rfl⟩)
  | leaves panicked host hstage => exact Or.inr (Or.inr (Or.inr (Or.inr ⟨panicked, hstage, rfl⟩)))
  | _ => exact Or.inl rfl

/-- A thread that has **ended** stays so. -/
theorem Effect.ended (h : Effect K s events t) (hs : s.stage.isEnded = true) :
    t.stage = s.stage := by
  have hover : s.stage.isRunning = false := by
    cases hstage : s.stage <;> simp [hstage, Stage.isEnded, Stage.isRunning] at hs ⊢
  rcases h.stage_cases with hsame | ⟨hrunning, -⟩ | ⟨hrunning, -⟩ | ⟨hexit, -⟩ |
    ⟨panicked, hleaves, -⟩
  · exact hsame
  · simp [hover] at hrunning
  · simp [hover] at hrunning
  · rcases h.received_cases with hnone | ⟨r, -, -, hstage, -⟩
    · simp [hexit] at hnone
    · simp [hstage, Stage.isRunning] at hover
  · simp [hleaves, Stage.isEnded] at hs

/-- A thread that is out of its loop receives nothing. -/
theorem Effect.received_of_over (h : Effect K s events t) (hs : s.stage.isRunning = false) :
    received events = [] := by
  rcases h.received_cases with hnone | ⟨r, -, -, hstage, -⟩
  · exact hnone
  · simp [hstage, Stage.isRunning] at hs

/-- A call of stop closes the channel only when the thread has ended, and drops
the registrations only when the channel is closed. -/
theorem Effect.stop_cases (h : Effect K s events t) {stage : StopStage} (hmem : stage ∈ t.stops) :
    stage ∈ s.stops ∨ (stage = .closing ∧ s.stage.isEnded = true) ∨
      (stage = .clearing ∧ .closing ∈ s.stops ∧ t.reactor.sender = none) ∨
      (stage ≠ .closing ∧ stage ≠ .clearing) := by
  have hset {stops : List StopStage} {i : Nat} {x : StopStage} (hx : stage ∈ stops.set i x) :
      stage ∈ stops ∨ stage = x := List.mem_or_eq_of_mem_set hx
  cases h with
  | beginsStop =>
      rcases List.mem_append.mp hmem with hold | hnew
      · exact Or.inl hold
      · obtain rfl := List.mem_singleton.mp hnew
        exact Or.inr (Or.inr (Or.inr (by simp)))
  | stopTells i progress events t hstop htells =>
      have hstops : t.stops = s.stops := by cases htells <;> rfl
      rcases hset hmem with hold | rfl
      · exact Or.inl (hstops ▸ hold)
      · refine Or.inr (Or.inr (Or.inr ?_))
        split <;> simp
  | callbackTells fd g rest progress events t hstage htells =>
      have hstops : t.stops = s.stops := by cases htells <;> rfl
      exact Or.inl (hstops ▸ hmem)
  | stopTakes i hstop =>
      rcases hset hmem with hold | rfl
      · exact Or.inl hold
      · refine Or.inr (Or.inr (Or.inr ?_))
        split <;> simp
  | stopJoins i hstop hended =>
      rcases hset hmem with hold | rfl
      · exact Or.inl hold
      · exact Or.inr (Or.inl ⟨rfl, hended⟩)
  | stopCloses i host hstop hcontents =>
      rcases hset hmem with hold | rfl
      · exact Or.inl hold
      · exact Or.inr (Or.inr (Or.inl ⟨rfl, List.mem_of_getElem? hstop, rfl⟩))
  | stopClears i hstop hfree =>
      rcases hset hmem with hold | rfl
      · exact Or.inl hold
      · exact Or.inr (Or.inr (Or.inr (by simp)))
  | _ => exact Or.inl hmem

end System

end ReceiveReactor
