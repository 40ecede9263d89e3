import ReceiveReactor.Proofs.Invariant
import ReceiveReactor.Proofs.LocalPipe

/-!
# The two views of membership agree

Registry and readiness set change under different threads, and only the records
in the pipe join them.  In every reachable state the queued records account for
**every difference** between the two.

* `System.Agreement`, `Reachable.agreement` — slots and active entries belong
  together while the thread runs;
* `System.Accounting`, `Reachable.accounting` — no registration is lost or
  applied twice.
-/

namespace ReceiveReactor

namespace System

variable {σ τ ω : Type}

/-- How slots, entries and queued records belong together. -/
structure Agreement (K : ControlPipe σ ω) (s : System σ τ) : Prop where
  /-- An active entry has exactly one slot, and its generation is the entry's. -/
  active_watched : ∀ fd e, s.reactor.registry.find? fd = some e → e.state = .active →
    (s.live.watched.filter fun w => w.fd = fd).map (·.generation) = [e.generation]
  /-- A slot is that of an active entry, or its end is queued. -/
  watched_owned : ∀ w ∈ s.live.watched,
    (∃ e, s.reactor.registry.find? w.fd = some e ∧ e.state = .active ∧
      e.generation = w.generation) ∨
    .deregister w.fd w.generation ∈ s.queue K
  /-- With an empty pipe both views are the same, and every entry is active. -/
  same_when_empty : s.queue K = [] →
    (∀ fd g, (fd, g) ∈ s.live.pairs ↔ s.reactor.registry.generation? fd = some g) ∧
      ∀ fd e, s.reactor.registry.find? fd = some e → e.state = .active
  /-- A deregister record that is applied takes out no slot but that of its own
  registration, which is over. -/
  deregister_own : ∀ (a : Action τ ω) fd g, .applied (.deregister fd g) ∈ (s.step K a).1 →
    (∀ w ∈ s.live.watched, w.fd = fd → w.generation = g) ∧
      ∀ e, s.reactor.registry.find? fd = some e → e.generation ≠ g

/-- Which register records are queued. -/
structure Accounting (K : ControlPipe σ ω) (s : System σ τ) : Prop where
  /-- The record of a pending entry is queued, once. -/
  pending_queued : ∀ fd e, s.reactor.registry.find? fd = some e → e.state = .pending →
    (s.queue K).count (.register fd e.generation) = 1
  /-- That of an active entry is not. -/
  active_applied : ∀ fd e, s.reactor.registry.find? fd = some e → e.state = .active →
    .register fd e.generation ∉ s.queue K
  /-- Every queued register record is that of a pending entry, or its end is
  queued behind it.  Once a panic has taken the thread out and a stop has closed
  the channel too, nobody can read what is left in the pipe. -/
  queued_owned : (s.stage.isPanicked = true → s.reactor.sender ≠ none) →
    ∀ fd g front back, s.queue K = front ++ .register fd g :: back →
      (∃ e, s.reactor.registry.find? fd = some e ∧ e.state = .pending ∧ e.generation = g) ∨
        .deregister fd g ∈ back
  /-- When as many records have been read as are queued now, and none was sent
  meanwhile, every entry is active. -/
  active_when_read : ∀ as : List (Action τ ω), sent (s.runFrom K as).1 = [] →
    (received (s.runFrom K as).1).length = (s.queue K).length →
    ∀ fd e, (s.runFrom K as).2.reactor.registry.find? fd = some e → e.state = .active

section

variable {K : ControlPipe σ ω} {s : System σ τ}

/-- While the thread runs nothing has been dropped. -/
theorem Invariant.alignedAt (h : s.Invariant K) (hrun : s.stage.isRunning = true) (fd : Fd) :
    s.AlignedAt K fd := by
  rcases h.aligned with hcleared | haligned
  · have hended := hcleared.ended
    cases hstage : s.stage <;> simp [hstage, Stage.isRunning, Stage.isEnded] at hrun hended
  · exact haligned fd

/-- An entry is that of an aligned descriptor: what is cleared has no entries. -/
private theorem Invariant.aligned_of_find? (h : s.Invariant K) {fd : Fd} {e : Entry τ}
    (hfind : s.reactor.registry.find? fd = some e) :
    Aligned fd (some (e.state, e.generation)) (s.live.generation? fd) (s.queueOf K fd) := by
  rcases h.aligned with hcleared | haligned
  · rw [hcleared.empty fd] at hfind
    cases hfind
  · have hfd := haligned fd
    rwa [AlignedAt, Registry.standing?_eq_some_iff.mpr ⟨e, hfind, rfl, rfl⟩] at hfd

/-- With an empty pipe, every entry is active. -/
theorem Invariant.active_of_empty (h : s.Invariant K) (hempty : s.queue K = []) {fd : Fd}
    {e : Entry τ} (hfind : s.reactor.registry.find? fd = some e) : e.state = .active := by
  have hfd := h.aligned_of_find? hfind
  rw [System.queueOf, hempty] at hfd
  rcases hfd.of_nil with ⟨g, hentry, -⟩ | ⟨hentry, -⟩
  · exact congrArg Prod.fst (Option.some.inj hentry)
  · cases hentry

/-- What is queued of a descriptor is queued. -/
theorem mem_queue_of_mem_queueOf {fd : Fd} {r : ControlRecord} (h : r ∈ s.queueOf K fd) :
    r ∈ s.queue K :=
  List.mem_of_mem_filter h

/-- A record that a step applies was queued first. -/
theorem queue_of_applied (h : s.Coherent K) {a : Action τ ω} {r : ControlRecord}
    (hr : .applied r ∈ (s.step K a).1) :
    s.queue K = r :: (s.step K a).2.queue K := by
  have heffect := step_effect h a
  have hmem : r ∈ received (s.step K a).1 := List.mem_filterMap.mpr ⟨_, hr, rfl⟩
  rcases heffect.received_cases with hnone | ⟨r', hreceived, hsent, -, -⟩
  · rw [hnone] at hmem
    cases hmem
  · rw [hreceived] at hmem
    obtain rfl := List.mem_singleton.mp hmem
    simpa [hreceived, hsent] using (heffect.queue h).2

/-- **The two views agree** in every reachable state in which the reactor thread
runs. -/
theorem Reachable.agreement (h : s.Reachable K) (hrun : s.stage.isRunning = true) :
    s.Agreement K := by
  have hinv := h.holds
  have haligned := hinv.alignedAt hrun
  have hlive := hinv.reports.distinct
  constructor
  case active_watched =>
    intro fd e hfind hactive
    have hfd := hinv.aligned_of_find? hfind
    rw [hactive] at hfd
    exact ReadinessSet.filter_watched hlive hfd.of_active.1
  case watched_owned =>
    intro w hw
    have hslot := (ReadinessSet.generation?_eq_some_iff hlive).mpr ⟨w, hw, rfl, rfl⟩
    have hfd := haligned w.fd
    rw [AlignedAt, hslot] at hfd
    rcases hfd.of_slot with ⟨hactive, -⟩ | ⟨-, hqueued, -⟩
    · left
      obtain ⟨e, hfind, hstate, hg⟩ := Registry.standing?_eq_some_iff.mp hactive
      exact ⟨e, hfind, hstate, hg⟩
    · exact Or.inr (mem_queue_of_mem_queueOf hqueued)
  case same_when_empty =>
    intro hempty
    have hnil (fd : Fd) : Aligned fd (s.reactor.registry.standing? fd)
        (s.live.generation? fd) [] := by
      have hfd := haligned fd
      rwa [AlignedAt, System.queueOf, hempty] at hfd
    have hgeneration (fd : Fd) : s.reactor.registry.generation? fd =
        (s.reactor.registry.standing? fd).map (·.2) := by
      simp [Registry.generation?, Registry.standing?, Function.comp_def]
    refine ⟨fun fd g => ?_, fun fd e hfind => hinv.active_of_empty hempty hfind⟩
    rw [ReadinessSet.mem_pairs_iff hlive, hgeneration]
    rcases (hnil fd).of_nil with ⟨g', hentry, hslot⟩ | ⟨hentry, hslot⟩
    · rw [hentry, hslot]
      rfl
    · rw [hentry, hslot]
      rfl
  case deregister_own =>
    intro a fd g happlied
    have hqueue := queue_of_applied hinv.coherent happlied
    have hfd := haligned fd
    have hfirst : s.queueOf K fd = .deregister fd g :: recordsOf fd ((s.step K a).2.queue K) := by
      rw [System.queueOf, hqueue]
      simp [recordsOf, ControlRecord.fd?]
    rw [AlignedAt, hfirst] at hfd
    obtain ⟨hslot, hentry, -⟩ := hfd.of_deregister
    refine ⟨fun w hw hwfd => ?_, fun e hfind hg => ?_⟩
    · have hwatched := (ReadinessSet.generation?_eq_some_iff hlive).mpr ⟨w, hw, hwfd, rfl⟩
      rcases hslot with hnone | hsome
      · rw [hnone] at hwatched
        cases hwatched
      · rw [hsome] at hwatched
        exact (Option.some.inj hwatched).symm
    · exact hentry e.state (Registry.standing?_eq_some_iff.mpr ⟨e, hfind, rfl, hg⟩)

/-- While the slot of the old registration is still there and the new one is
pending, both views agree as they should. -/
theorem agreement_reuse : (run (localPipe 65536) reuse).2.stage.isRunning = true ∧
    (run (localPipe 65536) reuse).2.Agreement (localPipe 65536) := by
  have hrun : (run (localPipe 65536) reuse).2.stage.isRunning = true := by decide
  exact ⟨hrun, Reachable.agreement ⟨reuse, rfl⟩ hrun⟩

/-- **No registration is lost or applied twice**, in any reachable state. -/
theorem Reachable.accounting (h : s.Reachable K) : s.Accounting K := by
  have hinv := h.holds
  constructor
  case pending_queued =>
    intro fd e hfind hpending
    have hfd := hinv.aligned_of_find? hfind
    rw [hpending] at hfd
    rw [← hfd.count_register, System.queueOf, recordsOf, List.count_filter]
    simp [ControlRecord.fd?]
  case active_applied =>
    intro fd e hfind hactive hmem
    have hfd := hinv.aligned_of_find? hfind
    rw [hactive] at hfd
    have hqueued : .register fd e.generation ∈ s.queueOf K fd :=
      List.mem_filter.mpr ⟨hmem, by simp [ControlRecord.fd?]⟩
    rw [hfd.of_active.2] at hqueued
    cases hqueued
  case queued_owned =>
    intro hpipe fd g front back hsplit
    rcases hinv.aligned with hcleared | haligned
    · -- Nothing is left in the pipe of a thread that came to its end by itself.
      exfalso
      have hover : s.stage.isRunning = false := by
        have hended := hcleared.ended
        cases hstage : s.stage <;> simp [hstage, Stage.isRunning, Stage.isEnded] at hended ⊢
      have hcalm : s.stage.isPanicked = false := by
        by_contra hpanic
        exact hpipe (by simpa using hpanic) hcleared.closed
      rw [(hinv.drained hover hcalm).2] at hsplit
      simp at hsplit
    · have hqueue : s.queueOf K fd =
          recordsOf fd front ++ .register fd g :: recordsOf fd back := by
        rw [System.queueOf, hsplit]
        simp [recordsOf, ControlRecord.fd?]
      rcases (haligned fd).register_split hqueue with hpending | hbehind
      · left
        obtain ⟨e, hfind, hstate, hg⟩ := Registry.standing?_eq_some_iff.mp hpending
        exact ⟨e, hfind, hstate, hg⟩
      · exact Or.inr (List.mem_of_mem_filter hbehind)
  case active_when_read =>
    intro as hsent hread fd e hfind
    have haccount := queue_runFrom hinv.coherent as
    rw [hsent, List.append_nil] at haccount
    have hempty : (s.runFrom K as).2.queue K = [] := by
      have hlength := congrArg List.length haccount
      rw [List.length_append] at hlength
      exact List.length_eq_zero_iff.mp (by omega)
    exact (h.runFrom as).holds.active_of_empty hempty hfind

theorem accounting_reuse : (run (localPipe 65536) reuse).2.Accounting (localPipe 65536) :=
  Reachable.accounting ⟨reuse, rfl⟩

end

end System

end ReceiveReactor
