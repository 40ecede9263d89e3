import ReceiveReactor.Proofs.Alignment
import ReceiveReactor.Proofs.Change

/-!
# The invariant of a reactor among its users

Whatever the order of steps, registry, readiness set and pipe fit together under
every descriptor until a stop has dropped everything.

* `System.AlignedAt` — one descriptor in the two views and in the pipe;
* `System.IsCleared` — what a stop leaves;
* `System.Invariant` — the invariant;
* `System.Effect.invariant`, `System.Reachable.holds` — every step keeps it, so
  that it **holds of every reachable state**.
-/

namespace ReceiveReactor

/-- The reports that the reactor thread has still to follow up, with the one that
it is at. -/
def Stage.reports : Stage → List Readiness
  | .visits rest => rest
  | .calls fd generation rest _ => .readable fd generation :: rest
  | _ => []

namespace System

variable {σ τ ω : Type}

/-- The records of one descriptor among some. -/
def recordsOf (fd : Fd) (rs : List ControlRecord) : List ControlRecord :=
  rs.filter fun r => r.fd? = some fd

/-- The queued records of one descriptor. -/
def queueOf (K : ControlPipe σ ω) (s : System σ τ) (fd : Fd) : List ControlRecord :=
  recordsOf fd (s.queue K)

/-- Entry, slot and queued records of a descriptor fit together. -/
def AlignedAt (K : ControlPipe σ ω) (s : System σ τ) (fd : Fd) : Prop :=
  Aligned fd (s.reactor.registry.standing? fd) (s.live.generation? fd) (s.queueOf K fd)

/-- A stop has dropped everything. -/
structure IsCleared (s : System σ τ) : Prop where
  empty : ∀ fd, s.reactor.registry.find? fd = none
  closed : s.reactor.sender = none
  ended : s.stage.isEnded = true

/-- Every generation in the pipe or in the registry was given out. -/
structure Fresh (K : ControlPipe σ ω) (s : System σ τ) : Prop where
  queued : ∀ r ∈ s.queue K, ∀ g, r.generation? = some g → g ≤ s.reactor.registry.latest
  entered : ∀ fd st g, s.reactor.registry.standing? fd = some (st, g) →
    g ≤ s.reactor.registry.latest

/-- The exit record is queued last, and only of a reactor that was told to
exit. -/
def ExitsLast (K : ControlPipe σ ω) (s : System σ τ) : Prop :=
  ∃ front : List ControlRecord, .exit ∉ front ∧
    (s.queue K = front ∨ s.reactor.exitSent = true ∧ s.queue K = front ++ [.exit])

/-- The reports to be followed up are those of slots, one for each descriptor. -/
structure Reports (s : System σ τ) : Prop where
  distinct : s.live.Distinct
  once : (s.stage.reports.map (·.fd)).Nodup
  slots : ∀ r ∈ s.stage.reports, s.live.generation? r.fd = some r.generation

/-- Where calls of stop may stand. -/
def StopsBehind (s : System σ τ) : Prop :=
  ∀ stage ∈ s.stops,
    (stage = .closing → s.stage.isEnded = true) ∧
      (stage = .clearing → s.stage.isEnded = true ∧ s.reactor.sender = none)

/-- A thread that was told to exit has read all that was sent. -/
def Drained (K : ControlPipe σ ω) (s : System σ τ) : Prop :=
  s.stage.isRunning = false → s.stage.isPanicked = false →
    s.reactor.exitSent = true ∧ s.queue K = []

/-- **What holds between any two steps.** -/
structure Invariant (K : ControlPipe σ ω) (s : System σ τ) : Prop where
  coherent : s.Coherent K
  fresh : s.Fresh K
  exits : s.ExitsLast K
  reports : s.Reports
  stops : s.StopsBehind
  drained : s.Drained K
  aligned : s.IsCleared ∨ ∀ fd, s.AlignedAt K fd

section

variable {K : ControlPipe σ ω} {s t : System σ τ} {events : List (Event τ)}

/-! ## Generations -/

/-- What is sent was just given out or is that of an entry. -/
theorem Effect.fresh (hs : s.Coherent K) (hfresh : s.Fresh K) (h : Effect K s events t) :
    t.Fresh K := by
  have hle := h.latest_le
  refine ⟨?_, ?_⟩
  · intro r hr g hg
    have hqueue := (h.queue hs).2
    have hmem : r ∈ s.queue K ∨ r ∈ sent events := by
      rw [← List.mem_append, hqueue]
      exact List.mem_append_right _ hr
    rcases hmem with hold | hnew
    · exact UInt64.le_trans (hfresh.queued r hold g hg) hle
    · rcases h.sent_generation hnew hg with ⟨fd, st, hstands⟩ | rfl
      · exact UInt64.le_trans (hfresh.entered fd st g hstands) hle
      · exact UInt64.le_refl _
  · intro fd st g ht
    rcases h.standing ht with ⟨st', hold⟩ | ⟨rfl, -⟩
    · exact UInt64.le_trans (hfresh.entered fd st' g hold) hle
    · exact UInt64.le_refl _

/-! ## Telling the reactor to exit -/

/-- **Nothing follows the exit record.** -/
theorem Effect.exits (hs : s.Coherent K) (hexits : s.ExitsLast K) (h : Effect K s events t) :
    t.ExitsLast K := by
  obtain ⟨front, hfront, hqueue⟩ := hexits
  have haccount := (h.queue hs).2
  rcases h.received_cases with hreceived | ⟨r, hreceived, hsent, -, -⟩
  · rw [hreceived, List.nil_append] at haccount
    rcases h.sent_cases with hsent | ⟨r, hsent, hnot, htold⟩
    · rw [hsent, List.append_nil] at haccount
      rw [ExitsLast, ← haccount]
      exact ⟨front, hfront, hqueue.imp id fun h' => ⟨h.exitSent_mono h'.1, h'.2⟩⟩
    · have hall : s.queue K = front := hqueue.resolve_right fun h' => by simp [hnot] at h'
      rw [ExitsLast, ← haccount, hall, hsent]
      by_cases hr : r = .exit
      · exact ⟨front, hfront, Or.inr ⟨htold hr, by rw [hr]⟩⟩
      · exact ⟨front ++ [r], by simp [hfront, Ne.symm hr], Or.inl rfl⟩
  · rw [hreceived, hsent, List.append_nil, List.singleton_append] at haccount
    rw [haccount] at hqueue
    cases front with
    | nil =>
        refine ⟨[], hfront, Or.inl ?_⟩
        rcases hqueue with hnil | ⟨-, hlast⟩
        · cases hnil
        · exact (List.cons.inj hlast).2
    | cons first front =>
        refine ⟨front, fun hmem => hfront (List.mem_cons_of_mem _ hmem), ?_⟩
        rcases hqueue with hall | ⟨htold, hlast⟩
        · exact Or.inl (List.cons.inj hall).2
        · exact Or.inr ⟨h.exitSent_mono htold, (List.cons.inj hlast).2⟩

/-! ## The end of the thread -/

/-- A thread that leaves its loop by the exit record leaves nothing unread, and nothing
comes after. -/
theorem Effect.drained (hs : s.Coherent K) (hexits : s.ExitsLast K) (hdrained : s.Drained K)
    (h : Effect K s events t) : t.Drained K := by
  intro hover hcalm
  have haccount := (h.queue hs).2
  have hkept : s.stage.isRunning = false → s.stage.isPanicked = false →
      t.reactor.exitSent = true ∧ t.queue K = [] := by
    intro hover' hcalm'
    obtain ⟨htold, hempty⟩ := hdrained hover' hcalm'
    have hsent : sent events = [] := by
      rcases h.sent_cases with hnone | ⟨r, -, hnot, -⟩
      · exact hnone
      · simp [htold] at hnot
    rw [h.received_of_over hover', hsent, hempty] at haccount
    exact ⟨h.exitSent_mono htold, haccount.symm⟩
  rcases h.stage_cases with hsame | ⟨-, hrunning⟩ | ⟨-, hleaves⟩ | ⟨hexit, -⟩ |
    ⟨panicked, hleaves, hended⟩
  · rw [hsame] at hover hcalm
    exact hkept hover hcalm
  · simp [hover] at hrunning
  · simp [hleaves, Stage.isPanicked] at hcalm
  · -- The exit record was the last one, so that nothing is left behind it.
    have hsent : sent events = [] := by
      rcases h.received_cases with hnone | ⟨r, -, hsent, -⟩
      · simp [hexit] at hnone
      · exact hsent
    rw [hexit, hsent, List.append_nil, List.singleton_append] at haccount
    obtain ⟨front, hfront, hqueue⟩ := hexits
    rw [haccount] at hqueue
    rcases hqueue with hall | ⟨htold, hlast⟩
    · exact absurd (hall ▸ List.mem_cons_self) hfront
    · refine ⟨h.exitSent_mono htold, ?_⟩
      cases front with
      | nil => exact (List.cons.inj hlast).2
      | cons first front =>
          exact absurd ((List.cons.inj hlast).1 ▸ List.mem_cons_self) hfront
  · rw [hended] at hcalm
    exact hkept (by rw [hleaves]; rfl) (by rw [hleaves]; exact hcalm)

/-! ## Calls of stop -/

/-- No call of stop closes or clears before the thread has ended. -/
theorem Effect.stopsBehind (hstops : s.StopsBehind) (h : Effect K s events t) :
    t.StopsBehind := by
  intro stage hmem
  rcases h.stop_cases hmem with hold | ⟨rfl, hended⟩ | ⟨rfl, hclosing, hsender⟩ | ⟨hne, hne'⟩
  · obtain ⟨hclosing, hclearing⟩ := hstops stage hold
    refine ⟨fun heq => ?_, fun heq => ?_⟩
    · rw [h.ended (hclosing heq)]
      exact hclosing heq
    · obtain ⟨hended, hnone⟩ := hclearing heq
      have hclosed : t.reactor.sender = none := by
        rcases h.sender with hsame | hnone'
        · rw [hsame, hnone]
        · exact hnone'
      rw [h.ended hended]
      exact ⟨hended, hclosed⟩
  · refine ⟨fun _ => ?_, by simp⟩
    rw [h.ended hended]
    exact hended
  · have hended := (hstops .closing hclosing).1 rfl
    refine ⟨by simp, fun _ => ⟨?_, hsender⟩⟩
    rw [h.ended hended]
    exact hended
  · exact ⟨fun heq => absurd heq hne, fun heq => absurd heq hne'⟩

/-- What is **cleared** stays so. -/
theorem Effect.cleared (hcleared : s.IsCleared) (h : Effect K s events t) : t.IsCleared := by
  have hstage := h.ended hcleared.ended
  refine ⟨?_, ?_, by rw [hstage]; exact hcleared.ended⟩
  · intro fd
    rw [← Registry.standing?_eq_none_iff]
    cases hstands : t.reactor.registry.standing? fd with
    | none => rfl
    | some p =>
        exfalso
        rcases h.standing hstands with ⟨st, hold⟩ | ⟨-, hrun⟩
        · rw [Registry.standing?_eq_none_iff.mpr (hcleared.empty fd)] at hold
          cases hold
        · have hopen := (running_facts hrun).2
          rw [hcleared.closed] at hopen
          cases hopen
  · rcases h.sender with hsame | hnone
    · rw [hsame, hcleared.closed]
    · exact hnone

/-! ## Reports -/

/-- A slot of another descriptor stays when one is removed. -/
private theorem generation?_remove_of_ne {live : ReadinessSet} (h : live.Distinct) {fd other : Fd}
    (hne : other ≠ fd) : (live.remove fd).2.generation? other = live.generation? other := by
  rw [ReadinessSet.generation?_remove h, if_neg hne]

/-- The reports behind the first are about other descriptors. -/
private theorem reports_tail {live : ReadinessSet} {fd : Fd} {first : Readiness}
    {rest : List Readiness} (hlive : live.Distinct) (hfirst : first.fd = fd)
    (hnodup : ((first :: rest).map (·.fd)).Nodup)
    (hslots : ∀ r ∈ first :: rest, live.generation? r.fd = some r.generation) :
    (rest.map (·.fd)).Nodup ∧
      (∀ r ∈ rest, live.generation? r.fd = some r.generation) ∧
      ∀ r ∈ rest, (live.remove fd).2.generation? r.fd = some r.generation := by
  obtain ⟨hnot, hrest⟩ := List.nodup_cons.mp hnodup
  refine ⟨hrest, fun r hr => hslots r (List.mem_cons_of_mem _ hr), ?_⟩
  intro r hr
  have hne : r.fd ≠ fd := by
    intro heq
    exact hnot (List.mem_map.mpr ⟨r, hr, heq.trans hfirst.symm⟩)
  rw [generation?_remove_of_ne hlive hne]
  exact hslots r (List.mem_cons_of_mem _ hr)

/-- Reports that stay, with the set, stay those of slots. -/
private theorem Reports.of_same (hs : s.Reports) (hlive : t.live = s.live)
    (hreports : t.stage.reports = s.stage.reports) : t.Reports where
  distinct := hlive ▸ hs.distinct
  once := hreports ▸ hs.once
  slots := by
    rw [hlive, hreports]
    exact hs.slots

/-- Where nothing is to be followed up, the slots are all that counts. -/
private theorem Reports.of_none (hlive : t.live.Distinct) (hnone : t.stage.reports = []) :
    t.Reports := by
  refine ⟨hlive, ?_, ?_⟩ <;> simp [hnone]

/-- Every effect leaves reports of slots only, one for each descriptor. -/
theorem Effect.reports (hs : s.Reports) (h : Effect K s events t) : t.Reports := by
  have hdistinct := hs.distinct
  cases h with
  | stopTells i progress events t hstop htells =>
      exact hs.of_same htells.frame.2.1 (congrArg Stage.reports htells.stage)
  | callbackTells fd g rest progress events t hstage htells =>
      exact hs.of_same htells.frame.2.1 (by rw [hstage]; rfl)
  | waits host live stage hstage hwakes hpairs =>
      have hlive : live.Distinct := by
        rw [ReadinessSet.distinct_iff_pairs, hpairs, ← ReadinessSet.distinct_iff_pairs]
        exact hdistinct
      rcases hwakes with rfl | rfl <;> exact .of_none hlive rfl
  | locks hstage =>
      exact ⟨hdistinct, ReadinessSet.nodup_ready hdistinct,
        fun r hr => ReadinessSet.generation?_of_mem_ready hdistinct hr⟩
  | attempts fd g rest task hstage => exact hs.of_same rfl (by rw [hstage]; rfl)
  | passes fd g rest hstage =>
      have honce := hs.once
      have hslots := hs.slots
      rw [hstage] at honce hslots
      obtain ⟨honce', hslots', -⟩ := reports_tail hdistinct rfl honce hslots
      exact ⟨hdistinct, honce', hslots'⟩
  | drops fd g rest hstage =>
      have honce := hs.once
      have hslots := hs.slots
      rw [hstage] at honce hslots
      obtain ⟨honce', -, hslots'⟩ := reports_tail hdistinct rfl honce hslots
      exact ⟨hdistinct.remove fd, honce', hslots'⟩
  | callbackStops fd g rest stopping hstage => exact hs.of_same rfl (by rw [hstage]; rfl)
  | answers fd g rest before task verdict hstage =>
      have honce := hs.once
      have hslots := hs.slots
      rw [hstage] at honce hslots
      obtain ⟨honce', hkept, hremoved⟩ := reports_tail hdistinct rfl honce hslots
      cases verdict with
      | keep => exact ⟨hdistinct, honce', hkept⟩
      | retire => exact ⟨hdistinct.remove fd, honce', hremoved⟩
      | panic => exact .of_none hdistinct rfl
  | receives r host hstage =>
      refine .of_none (Membership.distinct_apply (s := s.membership) hdistinct r) ?_
      simp only
      split <;> rfl
  | receivesNothing host hstage => exact .of_none hdistinct rfl
  | leaves panicked host hstage => exact .of_none hdistinct rfl
  | _ => exact hs.of_same rfl rfl

/-! ## Alignment -/

/-- The queue of one descriptor goes on like the whole queue. -/
theorem Effect.queueOf (hs : s.Coherent K) (h : Effect K s events t) (fd : Fd) :
    s.queueOf K fd ++ recordsOf fd (sent events) =
      recordsOf fd (received events) ++ t.queueOf K fd := by
  have hqueue := congrArg (recordsOf fd) (h.queue hs).2
  simpa only [System.queueOf, recordsOf, List.filter_append] using hqueue

/-- The exit record is that of no descriptor. -/
private theorem recordsOf_exit {rs : List ControlRecord} (h : ∀ r ∈ rs, r = .exit) (fd : Fd) :
    recordsOf fd rs = [] := by
  refine List.filter_eq_nil_iff.mpr fun r hr => ?_
  rw [h r hr]
  simp [ControlRecord.fd?]

/-- Where nothing is received, and sent the exit record at most, **no descriptor's queue
changes**. -/
theorem Effect.queueOf_eq (hs : s.Coherent K) (h : Effect K s events t)
    (hreceived : received events = []) (hsent : ∀ r ∈ sent events, r = .exit) (fd : Fd) :
    t.queueOf K fd = s.queueOf K fd := by
  have hqueue := h.queueOf hs fd
  rw [hreceived, recordsOf_exit hsent, List.append_nil] at hqueue
  exact hqueue.symm

/-- What changes nothing of a descriptor keeps it aligned. -/
theorem AlignedAt.of_eq {fd : Fd} (h : s.AlignedAt K fd)
    (hstanding : t.reactor.registry.standing? fd = s.reactor.registry.standing? fd)
    (hlive : t.live.generation? fd = s.live.generation? fd)
    (hqueue : t.queueOf K fd = s.queueOf K fd) : t.AlignedAt K fd := by
  rw [AlignedAt, hstanding, hlive, hqueue]
  exact h

/-- **A registration** keeps every descriptor aligned. -/
private theorem aligned_register (hs : s.Invariant K) (haligned : ∀ fd, s.AlignedAt K fd)
    {fd : Fd} {task : τ} {host : σ} (haccepts : s.reactor.registry.Accepts fd)
    (hqueue : ∀ other, (s.withRegistry host (s.reactor.registry.entered fd task)).queueOf K other =
      s.queueOf K other ++
        recordsOf other [.register fd (s.reactor.registry.latest + 1)]) (other : Fd) :
    (s.withRegistry host (s.reactor.registry.entered fd task)).AlignedAt K other := by
  by_cases hfd : other = fd
  · subst hfd
    have hnone := Registry.standing?_eq_none_iff.mpr haccepts.1
    have hbefore := haligned other
    rw [AlignedAt, hnone] at hbefore
    have hafter := hbefore.register (g := s.reactor.registry.latest + 1) (by
      intro r hr heq
      have hle := hs.fresh.queued r (List.mem_of_mem_filter hr) _ heq
      exact UInt64.lt_irrefl _ (UInt64.lt_of_le_of_lt hle haccepts.latest_lt))
    rw [AlignedAt, hqueue]
    simpa [withRegistry, Registry.standing?_entered haccepts, recordsOf, ControlRecord.fd?]
      using hafter
  · refine (haligned other).of_eq ?_ rfl ?_
    · simp only [withRegistry, Registry.standing?_entered haccepts, if_neg hfd]
    · rw [hqueue]
      simp [recordsOf, ControlRecord.fd?, Ne.symm hfd]

/-- **A deregistration** keeps every descriptor aligned. -/
private theorem aligned_deregister (haligned : ∀ fd, s.AlignedAt K fd) {fd : Fd} {e : Entry τ}
    {host : σ} (hfind : s.reactor.registry.find? fd = some e)
    (hqueue : ∀ other, (s.withRegistry host (s.reactor.registry.erase fd)).queueOf K other =
      s.queueOf K other ++ recordsOf other [.deregister fd e.generation]) (other : Fd) :
    (s.withRegistry host (s.reactor.registry.erase fd)).AlignedAt K other := by
  by_cases hfd : other = fd
  · subst hfd
    have hstands := Registry.standing?_eq_some_iff.mpr ⟨e, hfind, rfl, rfl⟩
    have hbefore := haligned other
    rw [AlignedAt, hstands] at hbefore
    rw [AlignedAt, hqueue]
    simpa [withRegistry, Registry.standing?_erase, recordsOf, ControlRecord.fd?]
      using hbefore.deregister
  · refine (haligned other).of_eq ?_ rfl ?_
    · simp only [withRegistry, Registry.standing?_erase, if_neg hfd]
    · rw [hqueue]
      simp [recordsOf, ControlRecord.fd?, Ne.symm hfd]

/-- **Following a report up** keeps every descriptor aligned: a slot that is taken
out was that of the entry taken out with it, or of none. -/
private theorem aligned_leave (haligned : ∀ fd, s.AlignedAt K fd) (hlive : s.live.Distinct)
    {fd : Fd} {g : UInt64} (hslot : s.live.generation? fd = some g) {registry : Registry τ}
    {stage : Stage}
    (hstanding : ∀ other, registry.standing? other =
      if other = fd ∧ (s.reactor.registry.findGeneration? fd g).isSome then none
      else s.reactor.registry.standing? other) (other : Fd) :
    ({ s.setMembership ⟨registry, (s.live.remove fd).2⟩ with stage } : System σ τ).AlignedAt K
      other := by
  by_cases hfd : other = fd
  · subst hfd
    have hbefore := haligned other
    rw [AlignedAt, hslot] at hbefore
    show Aligned other (registry.standing? other) ((s.live.remove other).2.generation? other)
      (s.queueOf K other)
    rw [hstanding, ReadinessSet.generation?_remove hlive, if_pos rfl]
    rcases hbefore.of_slot with ⟨hactive, hqueue⟩ | ⟨hnot, -, hafter⟩
    · have hfound : (s.reactor.registry.findGeneration? other g).isSome := by
        rw [Option.isSome_iff_ne_none]
        intro hnone
        exact Registry.findGeneration?_eq_none_iff_standing.mp hnone .active hactive
      rw [if_pos ⟨rfl, hfound⟩, hqueue]
      exact .unwatched rfl (.gone rfl)
    · have hnone := Registry.findGeneration?_eq_none_iff_standing.mpr hnot
      rw [if_neg (by simp [hnone])]
      exact hafter
  · refine (haligned other).of_eq ?_ ?_ rfl
    · show registry.standing? other = _
      rw [hstanding, if_neg (fun h => hfd h.1)]
    · show (s.live.remove fd).2.generation? other = _
      exact generation?_remove_of_ne hlive hfd

/-- **Applying a record** that is queued first keeps a descriptor aligned. -/
private theorem aligned_apply {m : Membership τ} (hlive : m.live.Distinct) {fd : Fd}
    {rest : List ControlRecord} (r : ControlRecord)
    (h : Aligned fd (m.registry.standing? fd) (m.live.generation? fd) (recordsOf fd [r] ++ rest)) :
    Aligned fd ((m.apply r).2.registry.standing? fd) ((m.apply r).2.live.generation? fd) rest := by
  cases r with
  | exit => exact h
  | register fd' g =>
      by_cases hfd : fd' = fd
      · subst hfd
        rcases Aligned.of_register (by simpa [recordsOf, ControlRecord.fd?] using h) with
          ⟨hpending, -, rfl⟩ | ⟨hnot, hafter⟩
        · obtain ⟨e, hfind, -, hg⟩ := Registry.standing?_eq_some_iff.mp hpending
          have hfound := Registry.findGeneration?_eq_some_iff.mpr ⟨hfind, hg⟩
          rw [Membership.apply_register hfound]
          refine .active g ?_ ?_
          · rw [Registry.standing?_update_active, if_pos rfl, hpending]
            rfl
          · rw [ReadinessSet.generation?_insert hlive, if_pos rfl]
        · rw [Membership.apply_stale (Registry.findGeneration?_eq_none_iff_standing.mpr hnot)]
          exact hafter
      · have hrest : Aligned fd (m.registry.standing? fd) (m.live.generation? fd) rest := by
          simpa [recordsOf, ControlRecord.fd?, hfd] using h
        cases hfound : m.registry.findGeneration? fd' g with
        | none =>
            rw [Membership.apply_stale hfound]
            exact hrest
        | some e =>
            rw [Membership.apply_register hfound]
            simpa [Registry.standing?_update_active, ReadinessSet.generation?_insert hlive,
              Ne.symm hfd] using hrest
  | deregister fd' g =>
      show Aligned fd (m.registry.standing? fd) ((m.live.remove fd').2.generation? fd) rest
      by_cases hfd : fd' = fd
      · subst hfd
        rw [ReadinessSet.generation?_remove hlive, if_pos rfl]
        exact (Aligned.of_deregister (by simpa [recordsOf, ControlRecord.fd?] using h)).2.2
      · rw [generation?_remove_of_ne hlive (Ne.symm hfd)]
        simpa [recordsOf, ControlRecord.fd?, hfd] using h

/-- **Every effect keeps every descriptor aligned**, until a stop drops
everything. -/
theorem Effect.aligned (hs : s.Invariant K) (haligned : ∀ fd, s.AlignedAt K fd)
    (h : Effect K s events t) : t.IsCleared ∨ ∀ fd, t.AlignedAt K fd := by
  have hqueue := h.queueOf hs.coherent
  have hquiet := h.queueOf_eq hs.coherent
  obtain ⟨hdistinct, -, hslots⟩ := hs.reports
  cases h with
  | rollsBack fd task event host hfree hrun haccepts hevent =>
      right
      intro other
      refine (haligned other).of_eq (Registry.standing?_withdrawn haccepts task other) rfl
        (hquiet ?_ ?_ other)
      all_goals rcases hevent with rfl | ⟨errno, rfl⟩ <;> simp [sent, received]
  | keeps fd event host hevent =>
      right
      intro other
      refine (haligned other).of_eq rfl rfl (hquiet ?_ ?_ other)
      all_goals rcases hevent with rfl | ⟨errno, rfl⟩ <;> simp [sent, received]
  | registers fd task host hfree hrun haccepts =>
      exact Or.inr (aligned_register hs haligned haccepts fun other => (hqueue other).symm)
  | deregisters fd e host hfree hrun hfind =>
      exact Or.inr (aligned_deregister haligned hfind fun other => (hqueue other).symm)
  | stopTells i progress events t hstop htells =>
      right
      intro other
      obtain ⟨hregistry, hlive, -⟩ := htells.frame
      exact (haligned other).of_eq (by rw [← hregistry]; rfl) (by rw [← hlive]; rfl)
        (hquiet htells.contents.1 htells.sent_eq other)
  | callbackTells fd g rest progress events t hstage htells =>
      right
      intro other
      obtain ⟨hregistry, hlive, -⟩ := htells.frame
      rw [sent_returned, received_returned] at hquiet
      exact (haligned other).of_eq (by rw [← hregistry]) (by rw [← hlive])
        (hquiet htells.contents.1 htells.sent_eq other)
  | stopClears i hstop hfree =>
      obtain ⟨hended, hclosed⟩ := (hs.stops _ (List.mem_of_getElem? hstop)).2 rfl
      exact Or.inl ⟨fun _ => rfl, hclosed, hended⟩
  | waits host live stage hstage hwakes hpairs =>
      right
      intro other
      refine (haligned other).of_eq rfl ?_ (hquiet rfl (by simp [sent]) other)
      show live.generation? other = s.live.generation? other
      rw [ReadinessSet.generation?_eq_lookup, ReadinessSet.generation?_eq_lookup, hpairs]
  | drops fd g rest hstage =>
      right
      have hslot : s.live.generation? fd = some g :=
        hslots (.closed fd g) (by rw [hstage]; exact List.mem_cons_self)
      exact aligned_leave haligned hdistinct hslot
        (Registry.standing?_removeGeneration s.reactor.registry fd g)
  | answers fd g rest before task verdict hstage hbefore =>
      right
      obtain ⟨e, hfind, hg, -, -⟩ := Registry.attemptable?_eq_some_iff.mp hbefore
      cases verdict with
      | retire =>
          have hslot : s.live.generation? fd = some g :=
            hslots (.readable fd g) (by rw [hstage]; exact List.mem_cons_self)
          have hfound := Registry.findGeneration?_eq_some_iff.mpr ⟨hfind, hg⟩
          refine aligned_leave haligned hdistinct hslot fun other => ?_
          rw [hfound]
          simp [membership, Registry.standing?_erase]
      | keep | panic =>
          intro other
          refine (haligned other).of_eq ?_ rfl rfl
          exact Registry.standing?_update_task s.reactor.registry fd task other
  | receives r host hstage =>
      right
      intro other
      have hfirst := haligned other
      rw [AlignedAt, show s.queueOf K other = recordsOf other [r] ++ _ by
        simpa [sent, received, recordsOf] using hqueue other] at hfirst
      exact aligned_apply (m := s.membership) hdistinct r hfirst
  | _ =>
      right
      intro other
      exact (haligned other).of_eq rfl rfl (hquiet rfl (by simp [sent]) other)

/-! ## The invariant -/

/-- **The invariant is kept** by every effect. -/
theorem Effect.invariant (hs : s.Invariant K) (h : Effect K s events t) : t.Invariant K where
  coherent := h.coherent hs.coherent
  fresh := h.fresh hs.coherent hs.fresh
  exits := h.exits hs.coherent hs.exits
  reports := h.reports hs.reports
  stops := h.stopsBehind hs.stops
  drained := h.drained hs.coherent hs.exits hs.drained
  aligned := by
    rcases hs.aligned with hcleared | haligned
    · exact Or.inl (h.cleared hcleared)
    · exact h.aligned hs haligned

end

theorem queue_start (K : ControlPipe σ ω) : (start K : System σ τ).queue K = [] := by
  show ControlRecord.ofStream (K.contents K.initial) = []
  rw [K.contents_initial]
  rfl

theorem invariant_start (K : ControlPipe σ ω) : (start K : System σ τ).Invariant K where
  coherent := coherent_start K
  fresh := ⟨by simp [queue_start], fun _ _ _ h => nomatch h⟩
  exits := ⟨[], List.not_mem_nil, Or.inl (queue_start K)⟩
  reports := ⟨ReadinessSet.distinct_ofControl _, List.nodup_nil, fun _ h => nomatch h⟩
  stops := fun _ h => nomatch h
  drained := fun h => nomatch h
  aligned := by
    right
    intro fd
    rw [AlignedAt, System.queueOf, queue_start]
    exact .unwatched rfl (.gone rfl)

/-- **Every reachable state satisfies the invariant.** -/
theorem Reachable.holds {K : ControlPipe σ ω} {s : System σ τ} (h : s.Reachable K) :
    s.Invariant K :=
  h.invariant (invariant_start K) fun _ a hs => (step_effect hs.coherent a).invariant hs

end System

end ReceiveReactor
