import ReceiveReactor.Proofs.History
import ReceiveReactor.Proofs.Pass

/-!
# After a registration

What is left of a registration when it has ended, and of a descriptor that has
neither entry nor slot.

* `System.IsOver`, `System.Effect.isOver` — a generation that stands under a
  descriptor no more **never does so again**;
* `System.Effect.isOver_of_ends` — what ends a registration, and what that leaves;
* `System.IsGone`, `System.Effect.isGone` — a descriptor without entry and slot stays
  so until it is registered;
* `System.isGone_of_retired` — an answer that retires a descriptor takes **both** out;
* `System.not_registered_of_locked` — during a pass nothing is registered.
-/

namespace ReceiveReactor

namespace System

variable {σ τ ω : Type} {K : ControlPipe σ ω} {s t : System σ τ} {events : List (Event τ)}
variable {fd : Fd} {g : UInt64}

/-! ## The registration -/

/-- A generation was given out, and the descriptor's entry is not of it. -/
structure IsOver (s : System σ τ) (fd : Fd) (generation : UInt64) : Prop where
  given : generation ≤ s.reactor.registry.latest
  ne : ∀ e, s.reactor.registry.find? fd = some e → e.generation ≠ generation

/-- **What ends a registration leaves nothing of it.** -/
theorem Effect.isOver_of_ends (h : Effect K s events t) {ev : Event τ} (hmem : ev ∈ events)
    (hends : ev.Ends fd g) (hgiven : g ≤ s.reactor.registry.latest) : t.IsOver fd g := by
  refine ⟨UInt64.le_trans hgiven h.latest_le, ?_⟩
  rintro e hfind rfl
  rcases h.entry_cases hfind with ⟨-, hregistered⟩ | ⟨e₀, -, -, hspared, -⟩
  · rw [hregistered] at hmem
    obtain rfl := List.mem_singleton.mp hmem
    exact hends
  · exact hspared ev hmem hends

/-- **What is over stays over**, since every new generation is a later one. -/
theorem Effect.isOver (h : Effect K s events t) (hs : s.IsOver fd g) : t.IsOver fd g := by
  refine ⟨UInt64.le_trans hs.given h.latest_le, ?_⟩
  rintro e hfind rfl
  rcases h.entry_cases hfind with ⟨-, hregistered⟩ | ⟨e₀, hfind₀, hsame, -⟩
  · rcases h.generations_cases with hnone | ⟨g', hone, hlater, -⟩
    · rw [hregistered] at hnone
      cases hnone
    · rw [hregistered] at hone
      obtain rfl : e.generation = g' := (List.cons.inj hone).1
      exact UInt64.lt_irrefl _ (UInt64.lt_of_le_of_lt hs.given hlater)
  · exact hs.ne e₀ hfind₀ hsame

/-- Nothing that is over can be attempted. -/
theorem IsOver.attemptable? (hs : s.IsOver fd g) :
    s.reactor.registry.attemptable? fd g = none := by
  rw [Option.eq_none_iff_forall_ne_some]
  intro task htask
  obtain ⟨e, hfind, hg, -, -⟩ := Registry.attemptable?_eq_some_iff.mp htask
  exact hs.ne e hfind hg

/-- A generation that stands under a descriptor was given out. -/
theorem Fresh.le_latest (hs : s.Fresh K) {e : Entry τ}
    (hfind : s.reactor.registry.find? fd = some e) :
    e.generation ≤ s.reactor.registry.latest :=
  hs.entered fd e.state _ (Registry.standing?_eq_some_iff.mpr ⟨e, hfind, rfl, rfl⟩)

/-! ## The descriptor -/

/-- A descriptor is neither registered nor watched. -/
structure IsGone (s : System σ τ) (fd : Fd) : Prop where
  entry : s.reactor.registry.find? fd = none
  slot : s.live.generation? fd = none

/-- **Only a registration brings a descriptor back.** -/
theorem Effect.isGone (h : Effect K s events t) (hdistinct : s.live.Distinct) (hs : s.IsGone fd)
    (hnot : ∀ g task, .registered fd g task ∉ events) : t.IsGone fd := by
  refine ⟨?_, ?_⟩
  · rw [Option.eq_none_iff_forall_ne_some]
    intro e hfind
    rcases h.entry_cases hfind with ⟨-, hregistered⟩ | ⟨e₀, hfind₀, -⟩
    · exact hnot e.generation e.task (hregistered ▸ List.mem_singleton_self _)
    · rw [hs.entry] at hfind₀
      cases hfind₀
  · rw [Option.eq_none_iff_forall_ne_some]
    intro g hslot
    rcases h.slot_cases hdistinct hslot with hbefore | ⟨-, e, hfind, -⟩
    · rw [hs.slot] at hbefore
      cases hbefore
    · rw [hs.entry] at hfind
      cases hfind

/-- An answer is that of the running callback. -/
theorem stage_of_answered {a : Action τ ω} {verdict : Verdict} {task : τ}
    (hmem : .answered fd g verdict task ∈ (s.step K a).1) :
    ∃ rest, s.stage = .calls fd g rest false ∧ a = .answer verdict task := by
  obtain rfl := (action_of_event hmem).2 fd g verdict task rfl
  simp only [step] at hmem
  split at hmem
  · next fd' g' rest hstage =>
      obtain ⟨rfl, rfl, -⟩ := Event.answered.inj (List.mem_singleton.mp hmem)
      exact ⟨rest, hstage, rfl⟩
  · cases hmem

/-- **A descriptor that retires** leaves registry and readiness set at once. -/
theorem isGone_of_retired (hs : s.Invariant K) {a : Action τ ω} {task : τ}
    (hmem : .answered fd g .retire task ∈ (s.step K a).1) : (s.step K a).2.IsGone fd := by
  obtain ⟨rest, hstage, rfl⟩ := stage_of_answered hmem
  obtain ⟨before, hbefore⟩ :=
    Option.ne_none_iff_exists'.mp (hs.coherent.called fd g rest false hstage)
  rw [step_answer hstage hbefore]
  refine ⟨(Registry.find?_erase _ fd fd).trans (if_pos rfl), ?_⟩
  exact (ReadinessSet.generation?_remove hs.reports.distinct fd fd).trans (if_pos rfl)

/-- And its registration is over. -/
theorem isOver_of_retired (hs : s.Invariant K) {a : Action τ ω} {task : τ}
    (hmem : .answered fd g .retire task ∈ (s.step K a).1) : (s.step K a).2.IsOver fd g := by
  obtain ⟨rest, hstage, rfl⟩ := stage_of_answered hmem
  obtain ⟨before, hbefore⟩ :=
    Option.ne_none_iff_exists'.mp (hs.coherent.called fd g rest false hstage)
  obtain ⟨e, hfind, rfl, -, -⟩ := Registry.attemptable?_eq_some_iff.mp hbefore
  exact (step_effect hs.coherent _).isOver_of_ends hmem ⟨rfl, rfl, rfl⟩ (hs.fresh.le_latest hfind)

/-- While the thread holds the registry lock, **nothing is registered**. -/
theorem not_registered_of_locked (h : s.stage.isLocked = true) (a : Action τ ω) (task : τ) :
    .registered fd g task ∉ (s.step K a).1 := by
  intro hmem
  obtain rfl := (action_of_event hmem).1 fd g task rfl
  simp only [step, h, if_true] at hmem
  cases hmem

end System

end ReceiveReactor
