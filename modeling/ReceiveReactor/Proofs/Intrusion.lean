import ReceiveReactor.Proofs.Channel
import ReceiveReactor.Proofs.History
import ReceiveReactor.Proofs.Invariant

/-!
# A reactor whose control pipe others write into

Bytes that the reactor did not write come apart as any records, or as none.  What a
record can do is bounded by the registry, which it does not change: it turns an entry
active that it names, it moves slots, and it ends the thread.  So tasks are attempted for
registrations that stand, **whoever wrote into the pipe**.

* `System.OnlyReads`, `System.control_onlyReads` — what the end of a pass can do;
* `System.live_control_step` — the first slot stays the control channel's;
* `Intrusion.step`, `Intrusion.runFrom` — steps of a system, and intrusions between them;
* `Intrusion.Guarded`, `Intrusion.guarded_runFrom`, `Intrusion.chronicle_runFrom` — what
  holds between any two of them;
* `Intrusion.harmless` — **no content of the pipe** makes a task run that is not
  registered, in every run.
-/

namespace ReceiveReactor

/-! ## The first slot -/

namespace ReadinessSet

/-- A wait leaves the control channel in slot 0. -/
theorem control_wait {σ : Type} (s : ReadinessSet) (k : Kernel σ) (h : σ) :
    (s.wait.run k h).1.2.control = s.control := by
  simp only [wait, Program.run_bind]
  split <;> rfl

end ReadinessSet

/-- A record leaves the first slot alone, also one about its descriptor. -/
theorem Membership.control_apply {τ : Type} (s : Membership τ) (r : ControlRecord) :
    (s.apply r).2.live.control = s.live.control := by
  rcases s.apply_cases r with hsame | ⟨fd, g, e, -, -, hupdate⟩ | ⟨fd, g, -, hremove⟩
  · rw [hsame]
  · rw [hupdate]
    exact s.live.control_insert fd g
  · rw [hremove]
    exact s.live.control_remove fd

namespace System

variable {σ τ ω φ : Type} {K : ControlPipe σ ω} {s t : System σ τ} {events : List (Event τ)}

/-- Nor does following a report up move it. -/
theorem live_control_followUp (s : System σ τ) (attempt : Fd → τ → Id (Verdict × τ))
    (r : Readiness) (rest : List Readiness) :
    (s.followUp attempt r rest).live.control = s.live.control := by
  unfold followUp
  cases r with
  | closed fd g => exact s.live.control_remove fd
  | readable fd g =>
      cases htask : s.reactor.registry.attemptable? fd g with
      | none =>
          have hvisit : s.membership.visit attempt (.readable fd g) = (true, s.membership) :=
            Membership.visit_idle _ htask
          rw [hvisit]
          rfl
      | some before =>
          have hvisit : s.membership.visit attempt (.readable fd g) =
              s.membership.afterAttempt fd (attempt fd before).2 (attempt fd before).1 :=
            Membership.visit_active _ htask
          rw [hvisit]
          cases (attempt fd before).1 with
          | retire => exact s.live.control_remove fd
          | keep | panic => rfl

/-- **The first slot stays the control channel's.** -/
theorem live_control_step (K : ControlPipe σ ω) (s : System σ τ) (a : Action τ ω) :
    (s.step K a).2.live.control = s.live.control := by
  cases a with
  | outside o => rfl
  | register fd task => simp only [step]; split <;> rfl
  | deregister fd => simp only [step]; split <;> rfl
  | callStop => rfl
  | advanceStop i => rw [(s.step_advanceStop_frame K i).2]
  | wait =>
      simp only [step]
      split
      · exact s.live.control_wait K.kernel s.host
      · rfl
  | lock => simp only [step]; split <;> rfl
  | visit =>
      simp only [step]
      split
      · next rest hstage =>
          cases rest with
          | nil => rfl
          | cons report rest =>
              cases report with
              | readable fd g =>
                  simp only [visit]
                  split
                  · rfl
                  · exact s.live_control_followUp _ _ _
              | closed fd g => exact s.live_control_followUp _ _ _
      · rfl
  | callbackStop => simp only [step]; split <;> rfl
  | callbackTell =>
      simp only [step]
      split
      · split <;> rfl
      · rfl
  | answer verdict task =>
      simp only [step]
      split
      · exact s.live_control_followUp _ _ _
      · rfl
  | control =>
      simp only [step]
      split
      · rcases s.control_cases K with ⟨r, host, -, hcontrol⟩ | ⟨cause, host, -, hcontrol⟩ | hcontrol
        · rw [hcontrol]
          exact s.membership.control_apply r
        · rw [hcontrol]
        · rw [hcontrol]
      · rfl
  | leave => simp only [step]; split <;> rfl

/-! ## The end of a pass -/

/-- What reading and applying a record can do, whoever wrote it. -/
structure OnlyReads (s t : System σ τ) (events : List (Event τ)) : Prop where
  /-- Nothing is shown but the record: **no task runs**. -/
  quiet : events = [] ∨ ∃ r, events = [.applied r]
  /-- **No entry comes, goes or is replaced**; one becomes active by a record with its
  descriptor and its generation. -/
  entries : ∀ fd, t.reactor.registry.find? fd = s.reactor.registry.find? fd ∨
    ∃ e, s.reactor.registry.find? fd = some e ∧
      events = [.applied (.register fd e.generation)] ∧
      t.reactor.registry.find? fd = some { e with state := .active }
  /-- A slot goes, or it becomes that of **an entry that is there**. -/
  slots : ∀ fd, t.live.generation? fd = s.live.generation? fd ∨
    (∃ g, events = [.applied (.deregister fd g)] ∧ t.live.generation? fd = none) ∨
    ∃ e, s.reactor.registry.find? fd = some e ∧
      events = [.applied (.register fd e.generation)] ∧
      t.live.generation? fd = some e.generation
  /-- The thread waits again or, told so, leaves. -/
  stage : t.stage = s.stage ∨ t.stage = .waits ∨
    events = [.applied .exit] ∧ t.stage = .leaves false
  /-- Nothing else of the reactor is touched. -/
  rest : t.stops = s.stops ∧
    t.reactor.registry.latest = s.reactor.registry.latest ∧
    t.reactor = { s.reactor with registry := t.reactor.registry }

/-- Nothing is read, or a record that is **about nothing that is there**. -/
private theorem onlyReads_of_membership (hquiet : events = [] ∨ ∃ r, events = [.applied r])
    (hregistry : t.reactor.registry = s.reactor.registry) (hlive : t.live = s.live)
    (hstage : t.stage = s.stage ∨ t.stage = .waits ∨
      events = [.applied .exit] ∧ t.stage = .leaves false)
    (hstops : t.stops = s.stops)
    (hreactor : t.reactor = { s.reactor with registry := t.reactor.registry }) :
    OnlyReads s t events where
  quiet := hquiet
  entries := fun fd => Or.inl (by rw [hregistry])
  slots := fun fd => Or.inl (by rw [hlive])
  stage := hstage
  rest := ⟨hstops, by rw [hregistry], hreactor⟩

/-- **The end of a pass only reads**, whatever the pipe holds. -/
theorem control_onlyReads (K : ControlPipe σ ω) (hs : s.live.Distinct) :
    OnlyReads s (s.step K .control).2 (s.step K .control).1 := by
  simp only [step]
  split
  · rcases s.control_cases K with ⟨r, host, -, hcontrol⟩ | ⟨cause, host, -, hcontrol⟩ | hcontrol
    · rw [hcontrol]
      have hstage : (if r = .exit then Stage.leaves false else .waits) = s.stage ∨
          (if r = .exit then Stage.leaves false else .waits) = .waits ∨
          [Event.applied (τ := τ) r] = [.applied .exit] ∧
            (if r = .exit then Stage.leaves false else .waits) = .leaves false := by
        by_cases hexit : r = .exit
        · exact Or.inr (Or.inr ⟨by rw [hexit], if_pos hexit⟩)
        · exact Or.inr (Or.inl (if_neg hexit))
      rcases s.membership.apply_cases r with happly | ⟨fd, g, e, rfl, hfound, happly⟩ |
        ⟨fd, g, rfl, happly⟩
      · rw [happly]
        exact onlyReads_of_membership (Or.inr ⟨r, rfl⟩) rfl rfl hstage rfl rfl
      · rw [happly]
        obtain ⟨hfind, rfl⟩ := Registry.findGeneration?_eq_some_iff.mp hfound
        refine ⟨Or.inr ⟨_, rfl⟩, fun other => ?_, fun other => ?_, hstage, rfl, rfl, rfl⟩
        · by_cases hother : other = fd
          · subst hother
            refine Or.inr ⟨e, hfind, rfl, ?_⟩
            exact (Registry.find?_update _ _ _ _).trans (by rw [if_pos rfl, hfind]; rfl)
          · exact Or.inl ((Registry.find?_update _ _ _ _).trans (if_neg hother))
        · by_cases hother : other = fd
          · subst hother
            refine Or.inr (Or.inr ⟨e, hfind, rfl, ?_⟩)
            exact (ReadinessSet.generation?_insert hs _ _ _).trans (if_pos rfl)
          · exact Or.inl ((ReadinessSet.generation?_insert hs _ _ _).trans (if_neg hother))
      · rw [happly]
        refine ⟨Or.inr ⟨_, rfl⟩, fun other => Or.inl rfl, fun other => ?_, hstage, rfl, rfl, rfl⟩
        by_cases hother : other = fd
        · subst hother
          refine Or.inr (Or.inl ⟨g, rfl, ?_⟩)
          exact (ReadinessSet.generation?_remove hs _ _).trans (if_pos rfl)
        · exact Or.inl ((ReadinessSet.generation?_remove hs _ _).trans (if_neg hother))
    · rw [hcontrol]
      exact onlyReads_of_membership (Or.inl rfl) rfl rfl (Or.inr (Or.inl rfl)) rfl rfl
    · rw [hcontrol]
      exact onlyReads_of_membership (Or.inl rfl) rfl rfl (Or.inr (Or.inl rfl)) rfl rfl
  · exact onlyReads_of_membership (Or.inl rfl) rfl rfl (Or.inl rfl) rfl rfl

namespace Intrusion

/-- What can happen next to a system with an intruder. -/
inductive Action (τ ω φ : Type) where
  | act (a : System.Action τ ω)
  | intrude (f : φ)

variable {σ τ ω φ : Type} {K : ControlPipe σ ω} {I : Intruder K φ} {s : System σ τ}

/-- One action, with what it shows. -/
def step (I : Intruder K φ) (s : System σ τ) :
    Action τ ω φ → List (Event τ) × System σ τ
  | .act a => s.step K a
  | .intrude f => ([], { s with host := I.act f s.host })

/-- Some actions one after the other, with all that they show. -/
def runFrom (I : Intruder K φ) (s : System σ τ) :
    List (Action τ ω φ) → List (Event τ) × System σ τ
  | [] => ([], s)
  | a :: as =>
    ((step I s a).1 ++ (runFrom I (step I s a).2 as).1, (runFrom I (step I s a).2 as).2)

/-- A run is its first step and what follows from there. -/
theorem runFrom_cons (I : Intruder K φ) (s : System σ τ) (a : Action τ ω φ)
    (as : List (Action τ ω φ)) :
    runFrom I s (a :: as) =
      ((step I s a).1 ++ (runFrom I (step I s a).2 as).1, (runFrom I (step I s a).2 as).2) := rfl

/-! ## What holds between any two steps -/

/-- What holds between any two steps, **whatever the pipe holds**. -/
structure Guarded (K : ControlPipe σ ω) (s : System σ τ) : Prop where
  steady : s.Steady K
  reports : s.Reports
  control : s.live.control = K.receiver.fd

/-- A reactor that has just started is guarded. -/
theorem guarded_start (K : ControlPipe σ ω) : Guarded K (.start K : System σ τ) where
  steady := (coherent_start K).steady
  reports := (invariant_start K).reports
  control := rfl

/-- **The end of a pass** keeps it. -/
private theorem guarded_control (hs : Guarded K s) : Guarded K (s.step K .control).2 := by
  have hcontrol := (live_control_step K s .control).trans hs.control
  obtain ⟨hdistinct, honce, hslots⟩ := hs.reports
  by_cases hstage : s.stage = .visits []
  · have hstep : s.step K .control = s.control K := by simp only [System.step, if_pos hstage]
    rw [hstep] at hcontrol ⊢
    rcases s.control_cases K with ⟨r, host, -, heq⟩ | ⟨cause, host, -, heq⟩ | heq
    · rw [heq] at hcontrol ⊢
      have hnone : (if r = .exit then Stage.leaves false else .waits).reports = [] := by
        split <;> rfl
      refine ⟨⟨hs.steady.sender, ?_⟩, ⟨?_, ?_, ?_⟩, hcontrol⟩
      · intro fd g rest stopping hcalls
        exfalso
        revert hcalls
        simp only
        split <;> (intro h; cases h)
      · exact Membership.distinct_apply (s := s.membership) hdistinct r
      · simp only [hnone]
        exact List.nodup_nil
      · simp [hnone]
    · rw [heq] at hcontrol ⊢
      refine ⟨⟨hs.steady.sender, ?_⟩, ⟨hdistinct, List.nodup_nil, by simp [Stage.reports]⟩, hcontrol⟩
      intro fd g rest stopping hcalls
      cases hcalls
    · rw [heq] at hcontrol ⊢
      refine ⟨⟨hs.steady.sender, ?_⟩, ⟨hdistinct, List.nodup_nil, by simp [Stage.reports]⟩, hcontrol⟩
      intro fd g rest stopping hcalls
      cases hcalls
  · have hstep : s.step K .control = ([], s) := by simp only [System.step, if_neg hstage]
    rw [hstep]
    exact hs

/-- **Every step keeps it**, also one of the intruder. -/
theorem guarded_step (hs : Guarded K s) (a : Action τ ω φ) : Guarded K (step I s a).2 := by
  cases a with
  | intrude f =>
      exact ⟨⟨hs.steady.sender, hs.steady.called⟩,
        ⟨hs.reports.distinct, hs.reports.once, hs.reports.slots⟩, hs.control⟩
  | act a =>
      by_cases ha : a = .control
      · subst ha
        exact guarded_control hs
      · have heffect := hs.steady.step_effect ha
        exact ⟨heffect.steady hs.steady, heffect.reports hs.reports,
          (live_control_step K s a).trans hs.control⟩

/-- **It stays guarded through every run**, whatever is written into its pipe. -/
theorem guarded_runFrom (hs : Guarded K s) (as : List (Action τ ω φ)) :
    Guarded K (runFrom I s as).2 := by
  induction as generalizing s with
  | nil => exact hs
  | cons a as ih => exact ih (guarded_step hs a)

/-- **Where an entry comes from**: it was registered now, or it is carried over. -/
theorem entry_cases (hs : Guarded K s) {a : Action τ ω φ} {fd : Fd} {e : Entry τ}
    (ht : (step I s a).2.reactor.registry.find? fd = some e) :
    (e.state = .pending ∧ (step I s a).1 = [.registered fd e.generation e.task]) ∨
      s.CarriesOver (step I s a).1 fd e := by
  have hkept {events : List (Event τ)} (hfind : s.reactor.registry.find? fd = some e)
      (hnone : events = []) : s.CarriesOver events fd e := by
    subst hnone
    exact ⟨e, hfind, rfl, fun _ h => (nomatch h), rfl, Or.inl⟩
  cases a with
  | intrude f => exact Or.inr (hkept ht rfl)
  | act a =>
      by_cases ha : a = .control
      · subst ha
        right
        simp only [step, System.step] at ht ⊢
        split at ht
        · next hstage =>
            rw [if_pos hstage]
            rcases s.control_cases K with ⟨r, host, -, heq⟩ | ⟨cause, host, -, heq⟩ | heq
            · rw [heq] at ht ⊢
              exact carriesOver_of_apply ht
            · rw [heq] at ht ⊢
              exact hkept ht rfl
            · rw [heq] at ht ⊢
              exact hkept ht rfl
        · next hstage =>
            rw [if_neg hstage]
            exact hkept ht rfl
      · exact (hs.steady.step_effect ha).entry_cases ht

/-- **The chronicle of a run**: every entry was registered, and nothing has ended it since. -/
theorem chronicle_runFrom (hs : Guarded K s) {fd : Fd} {before : List (Event τ)}
    (h : Chronicle fd before s) (as : List (Action τ ω φ)) :
    Chronicle fd (before ++ (runFrom I s as).1) (runFrom I s as).2 := by
  induction as generalizing s before with
  | nil => simpa [runFrom] using h
  | cons a as ih =>
      rw [runFrom_cons, ← List.append_assoc]
      exact ih (guarded_step hs a) (h.append fun _ ht => entry_cases hs ht)

/-- A task is attempted for an active entry that has the generation of its slot. -/
theorem of_attempted (hs : Guarded K s) {a : System.Action τ ω} {fd : Fd} {g : UInt64} {task : τ}
    (hmem : .attempted fd g task ∈ (s.step K a).1) :
    s.reactor.registry.find? fd = some ⟨task, .active, g⟩ ∧ s.live.generation? fd = some g := by
  have ha : a ≠ .control := by
    rintro rfl
    rcases (control_onlyReads K hs.reports.distinct).quiet with hnone | ⟨r, hone⟩
    · rw [hnone] at hmem
      cases hmem
    · rw [hone] at hmem
      simp at hmem
  obtain ⟨rest, hstage, htask⟩ := (hs.steady.step_effect ha).of_attempted hmem
  obtain ⟨⟨before, state, g'⟩, hfind, rfl, rfl, rfl⟩ := Registry.attemptable?_eq_some_iff.mp htask
  refine ⟨hfind, hs.reports.slots (.readable fd _) ?_⟩
  rw [hstage]
  exact List.mem_cons_self

/-- Where a slot comes from. -/
theorem slot_cases (hs : Guarded K s) {a : System.Action τ ω} {fd : Fd} {g : UInt64}
    (ht : (s.step K a).2.live.generation? fd = some g) :
    s.live.generation? fd = some g ∨
      (s.step K a).1 = [.applied (.register fd g)] ∧
        ∃ e, s.reactor.registry.find? fd = some e ∧ e.generation = g := by
  by_cases ha : a = .control
  · subst ha
    rcases (control_onlyReads K hs.reports.distinct).slots fd with
      hsame | ⟨g', -, hnone⟩ | ⟨e, hfind, hevents, hslot⟩
    · exact Or.inl (hsame ▸ ht)
    · rw [hnone] at ht
      cases ht
    · rw [hslot] at ht
      obtain rfl := Option.some.inj ht
      exact Or.inr ⟨hevents, e, hfind, rfl⟩
  · exact (hs.steady.step_effect ha).slot_cases hs.reports.distinct ht

/-! ## Every run -/

/-- What a run comes to, whatever an intruder writes into the control pipe in its course. -/
structure Harmless (I : Intruder K φ) (as : List (Action τ ω φ)) : Prop where
  /-- **Reading and applying** what is in the pipe adds, removes and replaces no entry and
  runs no task. -/
  reads : ∀ before after s, as = before ++ .act .control :: after →
    (runFrom I (.start K) before).2 = s →
    OnlyReads s (s.step K .control).2 (s.step K .control).1
  /-- **A slot comes only for an entry that is there**, by whatever step. -/
  slots : ∀ before a after s, as = before ++ .act a :: after →
    (runFrom I (.start K) before).2 = s → ∀ fd g,
      (s.step K a).2.live.generation? fd = some g →
      s.live.generation? fd = some g ∨
        (s.step K a).1 = [.applied (.register fd g)] ∧
          ∃ e, s.reactor.registry.find? fd = some e ∧ e.generation = g
  /-- **The first slot** of every wait is the control channel's. -/
  control : ∀ s, (runFrom I (.start K) as).2 = s →
    ∃ result rest, s.live.slots = ⟨K.receiver.fd, .input, result⟩ :: rest
  /-- **An attempted task** is that of a registration that is in the registry, active, with
  the generation of its slot, and that was begun and has not ended. -/
  attempts : ∀ before a after s, as = before ++ .act a :: after →
    (runFrom I (.start K) before).2 = s → ∀ fd g task,
      .attempted fd g task ∈ (s.step K a).1 →
      s.reactor.registry.find? fd = some ⟨task, .active, g⟩ ∧ s.live.generation? fd = some g ∧
        ∃ since, StandsSince fd g task (runFrom I (.start K) before).1 since

/-- **No content of the control pipe makes a dead task run.** -/
theorem harmless (I : Intruder K φ) (as : List (Action τ ω φ)) : Harmless I as := by
  have hguarded (before : List (Action τ ω φ)) : Guarded K (runFrom I (.start K) before).2 :=
    guarded_runFrom (guarded_start K) before
  refine ⟨?_, ?_, ?_, ?_⟩
  · rintro before after s rfl rfl
    exact control_onlyReads K (hguarded before).reports.distinct
  · rintro before a after s rfl rfl fd g ht
    exact slot_cases (hguarded before) ht
  · rintro s rfl
    exact ⟨_, _, by rw [ReadinessSet.slots, (hguarded as).control]⟩
  · rintro before a after s rfl rfl fd g task hmem
    obtain ⟨hfind, hslot⟩ := of_attempted (hguarded before) hmem
    obtain ⟨since, hstands, -⟩ :=
      chronicle_runFrom (guarded_start K) (chronicle_of_free rfl) before _ hfind
    exact ⟨hfind, hslot, since, hstands⟩

/-- A registration has ended and another stands.  Behind their records there are forged ones:
for the first, for the second with the generation of the first, for the control channel, and
half of one.  All are read, and then both descriptors are found readable. -/
def forged : List (Action Nat (List Events) Bytes) :=
  let reading : List (Action Nat (List Events) Bytes) := [.act .wait, .act .lock, .act .control]
  [.act (.register 5 7), .act (.deregister 5), .act (.register 6 9),
    .intrude (ControlRecord.register 5 1).encode, .intrude (ControlRecord.register 6 1).encode,
    .intrude (ControlRecord.register PipeHost.readEnd 2).encode,
    .intrude ((ControlRecord.register 5 1).encode.take 8)] ++
  reading ++ reading ++ reading ++ reading ++ reading ++ reading ++ reading ++
  [.act (.outside [.input, .input]), .act .wait, .act .lock, .act .visit]

/-- Forged records activate and tag again what is registered, and one for the control
channel itself; only a registration that stands is attempted. -/
theorem harmless_forged :
    Harmless (Channel.localIntruder 65536) forged ∧
      (runFrom (Channel.localIntruder 65536) (.start (localPipe 65536)) forged).1 =
        [.registered 5 1 7, .deregistered 5 1, .registered 6 2 9, .applied (.register 5 1),
          .applied (.deregister 5 1), .applied (.register 6 2), .applied (.register 5 1),
          .applied (.register 6 1), .applied (.register PipeHost.readEnd 2),
          .attempted 6 2 9] :=
  ⟨harmless (Channel.localIntruder 65536) forged, rfl⟩

end Intrusion

end System

end ReceiveReactor
