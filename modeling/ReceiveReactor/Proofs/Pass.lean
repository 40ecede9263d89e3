import Mathlib.Data.List.Induction
import ReceiveReactor.Proofs.Invariant

/-!
# One pass of the reactor thread

A wait that wakes the thread leaves some reports.  The thread follows them up
under the registry lock, which it may get later: between the wait and the lock,
users register and deregister.

* `Stage.ahead` — the reports that a pass has still to come to;
* `System.LastPass`, `System.exists_lastPass` — a run that stands in a pass, **cut
  at the wait and at the lock**;
* `System.Effect.pass` — what one step of a pass leaves of a report ahead;
* `System.LastPass.attempted` — a descriptor that was reported readable and can be
  attempted at the lock **is attempted** by the end of the pass;
* `System.turns`, `System.Effect.turns_sublist` — every descriptor has **one turn** in
  a wake;
* `System.running?`, `System.Effect.running?` — the task that is running, until its
  answer.
-/

namespace ReceiveReactor

/-- The reports that the thread has still to come to.  The one whose task is
running is not among them. -/
def Stage.ahead : Stage → List Readiness
  | visits rest => rest
  | calls _ _ rest _ => rest
  | _ => []

namespace System

variable {σ τ ω : Type} {K : ControlPipe σ ω} {s t : System σ τ} {events : List (Event τ)}

/-! ## Where a pass comes from -/

/-- A thread that is about to wait or has woken moves on only by its own step. -/
theorem eq_wait_or_lock {a : Action τ ω} (hs : s.stage = .waits ∨ s.stage = .woken)
    (hmoved : (s.step K a).2.stage ≠ s.stage) :
    s.stage = .waits ∧ a = .wait ∨ s.stage = .woken ∧ a = .lock := by
  have hunlocked : s.stage.isLocked = false := by
    rcases hs with hs | hs <;> rw [hs] <;> rfl
  cases a with
  | wait =>
      rcases hs with hs | hs
      · exact Or.inl ⟨hs, rfl⟩
      · exact absurd (by simp [step, hs]) hmoved
  | lock =>
      rcases hs with hs | hs
      · exact absurd (by simp [step, hs]) hmoved
      · exact Or.inr ⟨hs, rfl⟩
  | outside o => exact absurd rfl hmoved
  | callStop => exact absurd rfl hmoved
  | register fd task => exact absurd (by simp only [step, hunlocked]; rfl) hmoved
  | deregister fd => exact absurd (by simp only [step, hunlocked]; rfl) hmoved
  | advanceStop i => exact absurd (s.step_advanceStop_frame K i).1 hmoved
  | visit | callbackStop | callbackTell | answer | control | leave =>
      rcases hs with hs | hs <;> exact absurd (by simp [step, hs]) hmoved

/-- A woken thread was woken before, with the same set, or has just waited. -/
theorem Effect.woken (h : Effect K s events t) (ht : t.stage = .woken) :
    s.stage = .woken ∧ t.live = s.live ∨ s.stage = .waits := by
  cases h with
  | waits host live stage hstage => exact Or.inr hstage
  | stopTells i progress events t hstop htells =>
      exact Or.inl ⟨htells.stage ▸ ht, htells.frame.2.1⟩
  | callbackTells fd g rest progress events t hstage htells => cases ht
  | answers fd g rest before task verdict => cases verdict <;> cases ht
  | receives r host =>
      simp only at ht
      split at ht <;> cases ht
  | locks | attempts | passes | drops | callbackStops | receivesNothing | leaves => cases ht
  | _ => exact Or.inl ⟨ht, rfl⟩

/-- A thread in a pass was in it before, or has just taken the lock. -/
theorem Effect.locked (h : Effect K s events t) (ht : t.stage.isLocked = true) :
    s.stage.isLocked = true ∨ s.stage = .woken := by
  cases h with
  | waits host live stage hstage hwakes => rcases hwakes with rfl | rfl <;> cases ht
  | locks hstage => exact Or.inr hstage
  | stopTells i progress events t hstop htells => exact Or.inl (htells.stage ▸ ht)
  | callbackTells fd g rest progress events t hstage htells => exact Or.inl (by rw [hstage]; rfl)
  | attempts fd g rest task hstage => exact Or.inl (by rw [hstage]; rfl)
  | passes fd g rest hstage => exact Or.inl (by rw [hstage]; rfl)
  | drops fd g rest hstage => exact Or.inl (by rw [hstage]; rfl)
  | callbackStops fd g rest stopping hstage => exact Or.inl (by rw [hstage]; rfl)
  | answers fd g rest before task verdict hstage => exact Or.inl (by rw [hstage]; rfl)
  | receives r host hstage => exact Or.inl (by rw [hstage]; rfl)
  | receivesNothing host hstage => cases ht
  | leaves panicked host hstage => cases ht
  | _ => exact Or.inl ht

/-- A run that stands in a pass, cut at the wait that woke the thread and at the
lock: no later wait of the run has returned. -/
structure LastPass (K : ControlPipe σ ω) (as : List (Action τ ω)) where
  early : List (Action τ ω)
  between : List (Action τ ω)
  visits : List (Action τ ω)
  split : as = early ++ .wait :: (between ++ .lock :: visits)
  waiting : (run K early).2.stage = .waits
  woken : ∀ bs, bs <+: between → (run K (early ++ .wait :: bs)).2.stage = .woken
  locked : ∀ bs, bs <+: visits →
    (run K (early ++ .wait :: (between ++ .lock :: bs))).2.stage.isLocked = true

namespace LastPass

variable {as : List (Action τ ω)}

/-- The state in which the wait has returned. -/
def polled (p : LastPass K as) : System σ τ := (run K (p.early ++ [.wait])).2

/-- The state in which the thread has taken the lock. -/
def taken (p : LastPass K as) : System σ τ :=
  (run K (p.early ++ .wait :: (p.between ++ [.lock]))).2

end LastPass

/-- One more action of a run. -/
theorem run_concat (as : List (Action τ ω)) (a : Action τ ω) :
    run K (as ++ [a]) =
      ((run K as).1 ++ ((run K as).2.step K a).1, ((run K as).2.step K a).2) := by
  rw [run, runFrom_append]
  simp [run, runFrom]

/-- A run that stands between a wait and its lock, cut at the wait. -/
private theorem exists_wait {as : List (Action τ ω)} (h : (run K as).2.stage = .woken) :
    ∃ early between, as = early ++ .wait :: between ∧ (run K early).2.stage = .waits ∧
      ∀ bs, bs <+: between → (run K (early ++ .wait :: bs)).2.stage = .woken := by
  induction as using List.reverseRecOn with
  | nil => cases h
  | append_singleton as a ih =>
      have hstage := h
      rw [run_concat] at hstage
      have hcoherent : (run K as).2.Coherent K := Reachable.coherent ⟨as, rfl⟩
      rcases (step_effect hcoherent a).woken hstage with ⟨hwoken, -⟩ | hwaits
      · obtain ⟨early, between, rfl, hearly, hthrough⟩ := ih hwoken
        refine ⟨early, between ++ [a], by simp, hearly, fun bs hbs => ?_⟩
        rcases List.prefix_concat_iff.mp hbs with rfl | hbs
        · rw [List.append_assoc, List.cons_append] at h
          exact h
        · exact hthrough bs hbs
      · have hmoved : ((run K as).2.step K a).2.stage ≠ (run K as).2.stage := by
          rw [hstage, hwaits]
          exact fun heq => nomatch heq
        rcases eq_wait_or_lock (Or.inl hwaits) hmoved with ⟨-, rfl⟩ | ⟨hwoken, -⟩
        · refine ⟨as, [], rfl, hwaits, fun bs hbs => ?_⟩
          rw [List.prefix_nil.mp hbs]
          exact h
        · rw [hwaits] at hwoken
          cases hwoken

/-- **Every pass has its wait and its lock.** -/
theorem exists_lastPass {as : List (Action τ ω)} (h : (run K as).2.stage.isLocked = true) :
    Nonempty (LastPass K as) := by
  induction as using List.reverseRecOn with
  | nil => cases h
  | append_singleton as a ih =>
      have hlocked := h
      rw [run_concat] at hlocked
      have hcoherent : (run K as).2.Coherent K := Reachable.coherent ⟨as, rfl⟩
      rcases (step_effect hcoherent a).locked hlocked with hbefore | hwoken
      · obtain ⟨p⟩ := ih hbefore
        refine ⟨⟨p.early, p.between, p.visits ++ [a], ?_, p.waiting, p.woken, fun bs hbs => ?_⟩⟩
        · conv_lhs => rw [p.split]
          simp
        · rcases List.prefix_concat_iff.mp hbs with rfl | hbs
          · have hall : as ++ [a] =
                p.early ++ .wait :: (p.between ++ .lock :: (p.visits ++ [a])) := by
              conv_lhs => rw [p.split]
              simp
            rw [← hall]
            exact h
          · exact p.locked bs hbs
      · have hmoved : ((run K as).2.step K a).2.stage ≠ (run K as).2.stage := by
          intro heq
          rw [heq, hwoken] at hlocked
          cases hlocked
        rcases eq_wait_or_lock (Or.inr hwoken) hmoved with ⟨hwaits, -⟩ | ⟨-, rfl⟩
        · rw [hwoken] at hwaits
          cases hwaits
        · obtain ⟨early, between, rfl, hearly, hthrough⟩ := exists_wait hwoken
          refine ⟨⟨early, between, [], by simp, hearly, hthrough, fun bs hbs => ?_⟩⟩
          rw [List.prefix_nil.mp hbs]
          rw [List.append_assoc, List.cons_append] at h
          exact h

/-! ## What a pass comes to -/

/-- **One step of a pass.**  A descriptor that is still ahead and can be attempted
is attempted now, or is still ahead and can be attempted. -/
theorem Effect.pass (hs : s.Reports) (h : Effect K s events t)
    (hlocked : t.stage.isLocked = true) {fd : Fd} {g : UInt64} {task : τ}
    (hahead : .readable fd g ∈ s.stage.ahead)
    (htask : s.reactor.registry.attemptable? fd g = some task) :
    .attempted fd g task ∈ events ∨
      .readable fd g ∈ t.stage.ahead ∧ t.reactor.registry.attemptable? fd g = some task := by
  have hunlocked (hfree : s.stage.isLocked = false) : False := by
    cases hstage : s.stage <;> simp [hstage, Stage.isLocked, Stage.ahead] at hfree hahead
  have honce := hs.once
  cases h with
  | rollsBack fd' task' event host hfree => exact (hunlocked hfree).elim
  | registers fd' task' host hfree => exact (hunlocked hfree).elim
  | deregisters fd' e host hfree => exact (hunlocked hfree).elim
  | stopClears i hstop hfree => exact (hunlocked hfree).elim
  | waits host live stage hstage => exact (hunlocked (by rw [hstage]; rfl)).elim
  | locks hstage => exact (hunlocked (by rw [hstage]; rfl)).elim
  | leaves panicked host hstage => exact (hunlocked (by rw [hstage]; rfl)).elim
  | stopTells i progress events t hstop htells =>
      right
      obtain ⟨hregistry, -, -⟩ := htells.frame
      refine ⟨?_, by rw [← htask, ← hregistry]; rfl⟩
      rw [← htells.stage] at hahead
      exact hahead
  | callbackTells fd' g' rest progress events t hstage htells =>
      right
      rw [hstage] at hahead
      exact ⟨hahead, by rw [← htask, ← htells.frame.1]⟩
  | callbackStops fd' g' rest stopping hstage =>
      rw [hstage] at hahead
      exact Or.inr ⟨hahead, htask⟩
  | attempts fd' g' rest task' hstage htask' =>
      rw [hstage] at hahead
      rcases List.mem_cons.mp hahead with heq | hrest
      · obtain ⟨rfl, rfl⟩ := Readiness.readable.inj heq
        rw [htask] at htask'
        obtain rfl := Option.some.inj htask'
        exact Or.inl (List.mem_singleton_self _)
      · exact Or.inr ⟨hrest, htask⟩
  | passes fd' g' rest hstage hidle =>
      rw [hstage] at hahead
      rcases List.mem_cons.mp hahead with heq | hrest
      · obtain ⟨rfl, rfl⟩ := Readiness.readable.inj heq
        rw [htask] at hidle
        cases hidle
      · exact Or.inr ⟨hrest, htask⟩
  | drops fd' g' rest hstage =>
      rw [hstage] at hahead honce
      have hrest : .readable fd g ∈ rest := (List.mem_cons.mp hahead).resolve_left (by simp)
      have hne : fd ≠ fd' := by
        rintro rfl
        exact (List.nodup_cons.mp honce).1 (List.mem_map.mpr ⟨_, hrest, rfl⟩)
      refine Or.inr ⟨hrest, (Registry.attemptable?_congr ?_ g).trans htask⟩
      simp [setMembership, Registry.find?_removeGeneration, hne]
  | answers fd' g' rest before task' verdict hstage =>
      rw [hstage] at hahead honce
      have hne : fd ≠ fd' := by
        rintro rfl
        exact (List.nodup_cons.mp honce).1 (List.mem_map.mpr ⟨_, hahead, rfl⟩)
      have hentry := s.membership.find?_afterAttempt fd' task' verdict hne
      refine Or.inr ⟨?_, (Registry.attemptable?_congr hentry g).trans htask⟩
      cases verdict with
      | panic => cases hlocked
      | keep | retire => exact hahead
  | receives r host hstage =>
      rw [hstage] at hahead
      cases hahead
  | receivesNothing host hstage =>
      rw [hstage] at hahead
      cases hahead
  | _ => exact Or.inr ⟨hahead, htask⟩

/-- **Some steps of a pass.** -/
theorem attempted_or_ahead (hs : s.Invariant K) {as : List (Action τ ω)}
    (hlocked : ∀ bs, bs <+: as → (s.runFrom K bs).2.stage.isLocked = true) {fd : Fd} {g : UInt64}
    {task : τ} (hahead : .readable fd g ∈ s.stage.ahead)
    (htask : s.reactor.registry.attemptable? fd g = some task) :
    .attempted fd g task ∈ (s.runFrom K as).1 ∨
      .readable fd g ∈ (s.runFrom K as).2.stage.ahead ∧
        (s.runFrom K as).2.reactor.registry.attemptable? fd g = some task := by
  induction as generalizing s with
  | nil => exact Or.inr ⟨hahead, htask⟩
  | cons a as ih =>
      have heffect := step_effect hs.coherent a
      have hnext : (s.step K a).2.stage.isLocked = true :=
        hlocked [a] (List.prefix_append [a] as)
      rw [runFrom_cons]
      rcases heffect.pass hs.reports hnext hahead htask with hnow | ⟨hahead', htask'⟩
      · exact Or.inl (List.mem_append_left _ hnow)
      · refine (ih (heffect.invariant hs) (fun bs hbs => ?_) hahead' htask').imp ?_ id
        · exact hlocked (a :: bs) (List.cons_prefix_cons.mpr ⟨rfl, hbs⟩)
        · exact List.mem_append_right _

namespace LastPass

variable {as : List (Action τ ω)}

/-- What others do until the thread has the lock leaves the set of reports. -/
private theorem live_between (p : LastPass K as) {bs : List (Action τ ω)} (hbs : bs <+: p.between) :
    (run K (p.early ++ .wait :: bs)).2.live = p.polled.live := by
  induction bs using List.reverseRecOn with
  | nil => rfl
  | append_singleton bs a ih =>
      have hwoken := p.woken _ hbs
      have hbefore := p.woken bs ((List.prefix_append bs [a]).trans hbs)
      rw [← List.cons_append, ← List.append_assoc, run_concat] at hwoken ⊢
      have hcoherent : (run K (p.early ++ .wait :: bs)).2.Coherent K := Reachable.coherent ⟨_, rfl⟩
      rcases (step_effect hcoherent a).woken hwoken with ⟨-, hlive⟩ | hwaits
      · exact hlive.trans (ih ((List.prefix_append bs [a]).trans hbs))
      · rw [hbefore] at hwaits
        cases hwaits

/-- The pass starts with what the wait reported. -/
theorem ahead_taken (p : LastPass K as) : p.taken.stage.ahead = p.polled.live.ready := by
  have hwoken := p.woken p.between List.prefix_rfl
  rw [taken, ← List.cons_append, ← List.append_assoc, run_concat, ← p.live_between List.prefix_rfl]
  simp [step, hwoken, Stage.ahead]

/-- The last pass is what its reports make of the state in which it was taken. -/
theorem run_eq (p : LastPass K as) : (run K as).2 = (p.taken.runFrom K p.visits).2 := by
  have hsplit : as = (p.early ++ .wait :: (p.between ++ [.lock])) ++ p.visits := by
    conv_lhs => rw [p.split]
    simp
  conv_lhs => rw [hsplit]
  rw [run, runFrom_append]
  rfl

/-- **A pass leaves out nothing that it can attempt.**  Of what the wait reported
readable, the descriptors that can be attempted when the thread takes the lock have
been attempted when no report is ahead any more. -/
theorem attempted (p : LastPass K as) (hover : (run K as).2.stage = .visits []) {fd : Fd}
    {g : UInt64} {task : τ} (hready : .readable fd g ∈ p.polled.live.ready)
    (htask : p.taken.reactor.registry.attemptable? fd g = some task) :
    .attempted fd g task ∈ (p.taken.runFrom K p.visits).1 := by
  have hinv : p.taken.Invariant K := Reachable.holds ⟨_, rfl⟩
  have hlocked : ∀ bs, bs <+: p.visits → (p.taken.runFrom K bs).2.stage.isLocked = true := by
    intro bs hbs
    have hstage := p.locked bs hbs
    have hsplit : p.early ++ .wait :: (p.between ++ .lock :: bs) =
        (p.early ++ .wait :: (p.between ++ [.lock])) ++ bs := by
      simp
    rw [hsplit, run, runFrom_append] at hstage
    exact hstage
  rw [← p.ahead_taken] at hready
  refine (attempted_or_ahead hinv hlocked hready htask).resolve_right fun hahead => ?_
  rw [← p.run_eq, hover] at hahead
  cases hahead.1

end LastPass

/-! ## Whose turn it is -/

/-- The descriptors of a wake that have their turn now or are still to have it. -/
def turns (s : System σ τ) : List Fd :=
  match s.stage with
  | .woken => s.live.ready.map (·.fd)
  | stage => stage.reports.map (·.fd)

/-- **Every descriptor has one turn** in a wake. -/
theorem Reports.nodup_turns (hs : s.Reports) : s.turns.Nodup := by
  unfold turns
  split
  · exact ReadinessSet.nodup_ready hs.distinct
  · exact hs.once

/-- Between two waits no turn comes back. -/
theorem Effect.turns_sublist (h : Effect K s events t) (hwait : s.stage = .waits → t.stage = .waits) :
    t.turns.Sublist s.turns := by
  cases h with
  | waits host live stage hstage =>
      obtain rfl : stage = .waits := hwait hstage
      exact List.nil_sublist _
  | locks hstage => simp [turns, hstage, Stage.reports]
  | attempts fd g rest task hstage => simp [turns, hstage, Stage.reports, Readiness.fd]
  | passes fd g rest hstage => simp [turns, hstage, Stage.reports]
  | drops fd g rest hstage => simp [turns, hstage, Stage.reports]
  | callbackStops fd g rest stopping hstage => simp [turns, hstage, Stage.reports]
  | callbackTells fd g rest progress events t hstage => simp [turns, hstage, Stage.reports]
  | answers fd g rest before task verdict hstage =>
      cases verdict <;> simp [turns, hstage, Stage.reports]
  | receives r host hstage =>
      by_cases hexit : r = .exit <;> simp [turns, hstage, hexit, Stage.reports]
  | receivesNothing host hstage => simp [turns, Stage.reports]
  | leaves panicked host hstage => simp [turns, Stage.reports]
  | stopTells i progress events t hstop htells =>
      have hsame : t.turns = s.turns := by
        rw [turns, htells.stage, htells.frame.2.1]
        rfl
      exact hsame ▸ List.Sublist.refl _
  | _ => exact List.Sublist.refl _

/-! ## The running task -/

/-- The registration whose task is running, with the task. -/
def running? (s : System σ τ) : Option (Fd × UInt64 × τ) :=
  match s.stage with
  | .calls fd generation _ _ =>
    (s.reactor.registry.attemptable? fd generation).map (fd, generation, ·)
  | _ => none

/-- A task is running just if its callback is, and it may be attempted. -/
theorem running?_eq_some_iff {fd : Fd} {g : UInt64} {task : τ} :
    s.running? = some (fd, g, task) ↔
      (∃ rest stopping, s.stage = .calls fd g rest stopping) ∧
        s.reactor.registry.attemptable? fd g = some task := by
  unfold running?
  split
  · next fd' g' rest stopping hstage =>
      constructor
      · intro h
        obtain ⟨task', htask, heq⟩ := Option.map_eq_some_iff.mp h
        cases heq
        exact ⟨⟨rest, stopping, hstage⟩, htask⟩
      · rintro ⟨⟨rest', stopping', heq⟩, htask⟩
        rw [hstage] at heq
        cases heq
        rw [htask]
        rfl
  · next hnot =>
      refine ⟨fun h => (nomatch h), ?_⟩
      rintro ⟨⟨rest, stopping, hstage⟩, -⟩
      exact absurd hstage (hnot fd g rest stopping)

/-- What an answer does. -/
theorem step_answer {fd : Fd} {g : UInt64} {rest : List Readiness} {before : τ}
    (hstage : s.stage = .calls fd g rest false)
    (hbefore : s.reactor.registry.attemptable? fd g = some before) (verdict : Verdict) (task : τ) :
    s.step K (.answer verdict task) = ([.answered fd g verdict task],
      { s.setMembership (s.membership.afterAttempt fd task verdict).2 with
        stage := if verdict = .panic then .leaves true else .visits rest }) := by
  have hvisit : s.membership.visit (m := Id) (fun _ _ => (verdict, task)) (.readable fd g) =
      s.membership.afterAttempt fd task verdict := Membership.visit_active _ hbefore
  simp only [step, hstage, followUp, hvisit]
  cases verdict <;> rfl

/-- With its answer the turn of a task is over. -/
theorem turns_answer {fd : Fd} {g : UInt64} {rest : List Readiness} {before : τ}
    (hstage : s.stage = .calls fd g rest false)
    (hbefore : s.reactor.registry.attemptable? fd g = some before) (verdict : Verdict) (task : τ) :
    (s.step K (.answer verdict task)).2.turns.Sublist (rest.map (·.fd)) := by
  rw [step_answer hstage hbefore, turns]
  cases verdict with
  | keep | retire => exact List.Sublist.refl _
  | panic => exact List.nil_sublist _

/-- The running task has its turn. -/
theorem turns_of_running {fd : Fd} {g : UInt64} {task : τ} (h : s.running? = some (fd, g, task)) :
    ∃ later, s.turns = fd :: later := by
  obtain ⟨⟨rest, stopping, hstage⟩, -⟩ := running?_eq_some_iff.mp h
  exact ⟨rest.map (·.fd), by simp [turns, hstage, Stage.reports, Readiness.fd]⟩

/-- A running task runs on until its answer. -/
theorem Effect.running? (h : Effect K s events t) {r : Fd × UInt64 × τ}
    (hs : s.running? = some r) (hquiet : ∀ fd g verdict task, .answered fd g verdict task ∉ events) :
    t.running? = some r := by
  obtain ⟨fd, g, task⟩ := r
  obtain ⟨⟨rest, stopping, hstage⟩, htask⟩ := running?_eq_some_iff.mp hs
  have hlocked : ¬ s.stage.isLocked = false := by
    rw [hstage]
    exact Bool.noConfusion
  have hkept {stopping' : Bool} (hstage' : t.stage = .calls fd g rest stopping')
      (hregistry : t.reactor.registry = s.reactor.registry) :
      t.running? = some (fd, g, task) :=
    running?_eq_some_iff.mpr ⟨⟨rest, stopping', hstage'⟩, hregistry ▸ htask⟩
  cases h with
  | rollsBack _ _ _ _ hfree => exact absurd hfree hlocked
  | registers _ _ _ hfree => exact absurd hfree hlocked
  | deregisters _ _ _ hfree => exact absurd hfree hlocked
  | stopClears _ _ hfree => exact absurd hfree hlocked
  | stopTells i progress events t hstop htells =>
      exact hkept (htells.stage.trans hstage) htells.frame.1
  | callbackStops fd' g' rest' stopping' hstage' =>
      rw [hstage] at hstage'
      cases hstage'
      exact hkept rfl rfl
  | callbackTells fd' g' rest' progress events t hstage' htells =>
      rw [hstage] at hstage'
      cases hstage'
      exact hkept rfl htells.frame.1
  | answers fd' g' rest' before task' verdict =>
      exact absurd (List.mem_singleton_self _) (hquiet fd' g' verdict task')
  | waits host live stage hstage' => rw [hstage] at hstage'; cases hstage'
  | locks hstage' => rw [hstage] at hstage'; cases hstage'
  | attempts fd' g' rest' task' hstage' => rw [hstage] at hstage'; cases hstage'
  | passes fd' g' rest' hstage' => rw [hstage] at hstage'; cases hstage'
  | drops fd' g' rest' hstage' => rw [hstage] at hstage'; cases hstage'
  | receives r host hstage' => rw [hstage] at hstage'; cases hstage'
  | receivesNothing host hstage' => rw [hstage] at hstage'; cases hstage'
  | leaves panicked host hstage' => rw [hstage] at hstage'; cases hstage'
  | _ => exact hkept hstage rfl

end System

end ReceiveReactor
