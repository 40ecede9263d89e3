import ReceiveReactor.Proofs.Agreement
import ReceiveReactor.Proofs.Intrusion

/-!
# Records of an earlier registration

A record carries the generation of its registration, so that one of an earlier registration
can be told from one of the registration that stands under the descriptor now.  A register
record is told so, and dropped.  A deregister record is not: it unwatches its descriptor
**whatever the generation**, and the registration that stands there is heard no more.

* `ControlRecord.Stale`, `Membership.Spares` — such a record, and what it should leave;
* `Membership.Watchful`, `System.Reachable.watchful` — every active entry is watched, and so
  it is in every state that a reactor comes to by itself;
* `Membership.stale_ignored_iff` — **exactly when** a stale record leaves the registration as
  it is;
* `System.Intrusion.unheard_runFrom`, `System.Intrusion.unheard_after_deregister` — a
  registration that lost its slot is not attempted **until its own record comes again**;
* `System.late_deregister_unwatches` — a record of a registration that is over, and a task
  that is not attempted for it.
-/

namespace ReceiveReactor

variable {τ : Type}

/-- A record is about a descriptor, in another generation than that of its entry. -/
def ControlRecord.Stale (r : ControlRecord) (fd : Fd) (e : Entry τ) : Prop :=
  r.fd? = some fd ∧ r.generation? ≠ some e.generation

instance (r : ControlRecord) (fd : Fd) (e : Entry τ) : Decidable (r.Stale fd e) :=
  inferInstanceAs (Decidable (_ ∧ _))

/-- A stale record is of one of two kinds. -/
theorem ControlRecord.Stale.cases {r : ControlRecord} {fd : Fd} {e : Entry τ}
    (h : r.Stale fd e) :
    ∃ g, g ≠ e.generation ∧ (r = .register fd g ∨ r = .deregister fd g) := by
  obtain ⟨hfd, hg⟩ := h
  cases r with
  | exit => cases hfd
  | register other g =>
      obtain rfl := Option.some.inj hfd
      exact ⟨g, fun heq => hg (congrArg some heq), Or.inl rfl⟩
  | deregister other g =>
      obtain rfl := Option.some.inj hfd
      exact ⟨g, fun heq => hg (congrArg some heq), Or.inr rfl⟩

namespace Membership

/-- The two views as a pass finds them: no descriptor has two slots, and every active entry
is **watched in its generation**. -/
structure Watchful (s : Membership τ) : Prop where
  distinct : s.live.Distinct
  watched : ∀ fd e, s.registry.find? fd = some e → e.state = .active →
    s.live.generation? fd = some e.generation

/-- A registration is left as it is: its entry keeps task, state and generation, and it is
watched in its generation if it was. -/
structure Spares (s t : Membership τ) (fd : Fd) (e : Entry τ) : Prop where
  entry : t.registry.find? fd = some e
  slot : s.live.generation? fd = some e.generation → t.live.generation? fd = some e.generation

variable {s : Membership τ} {fd : Fd} {e : Entry τ} {r : ControlRecord} {g : UInt64}

theorem Spares.refl (hfind : s.registry.find? fd = some e) : s.Spares s fd e := ⟨hfind, id⟩

/-- A stale register record changes **nothing at all**. -/
theorem apply_register_of_ne (hfind : s.registry.find? fd = some e) (hg : g ≠ e.generation) :
    s.apply (.register fd g) = (.waits, s) := by
  refine apply_stale (Registry.findGeneration?_eq_none_iff.mpr fun f hf heq => hg ?_)
  obtain rfl := Option.some.inj (hfind.symm.trans hf)
  exact heq.symm

/-- A deregister record spares the registration of its descriptor exactly if this **was not
watched** before. -/
theorem spares_deregister_iff (hdistinct : s.live.Distinct)
    (hfind : s.registry.find? fd = some e) :
    s.Spares (s.apply (.deregister fd g)).2 fd e ↔
      s.live.generation? fd ≠ some e.generation := by
  have hnone : (s.apply (.deregister fd g)).2.live.generation? fd = none :=
    (ReadinessSet.generation?_remove hdistinct fd fd).trans (if_pos rfl)
  constructor
  · intro hspares hslot
    rw [hspares.slot hslot] at hnone
    cases hnone
  · exact fun hslot => ⟨hfind, fun hwatched => absurd hwatched hslot⟩

/-- What applying a stale record comes to. -/
structure AppliesStale (s : Membership τ) (fd : Fd) (e : Entry τ) (r : ControlRecord) :
    Prop where
  /-- The thread waits again. -/
  waits : (s.apply r).1 = .waits
  /-- **No entry is touched**, of whatever descriptor. -/
  registry : (s.apply r).2.registry = s.registry
  /-- Nor is the slot of any other descriptor. -/
  others : ∀ other, other ≠ fd →
    (s.apply r).2.live.generation? other = s.live.generation? other
  /-- A register record is dropped. -/
  register : (∃ g, r = .register fd g) → (s.apply r).2 = s
  /-- A deregister record **takes the slot**, whatever generation it has. -/
  deregister : (∃ g, r = .deregister fd g) → (s.apply r).2.live.generation? fd = none
  /-- So the registration is left as it is exactly if the record is a register record or
  there was no slot to take. -/
  spares_iff : s.Spares (s.apply r).2 fd e ↔
    (∃ g, r = .register fd g) ∨ s.live.generation? fd ≠ some e.generation
  /-- An active one has a slot, and so **every stale deregister record harms it**. -/
  active : e.state = .active → (s.Spares (s.apply r).2 fd e ↔ ∃ g, r = .register fd g)

/-- **A stale register record is ignored, and a stale deregister record is not.** -/
theorem stale_ignored_iff (hs : s.Watchful) (hfind : s.registry.find? fd = some e)
    (hr : r.Stale fd e) : s.AppliesStale fd e r := by
  obtain ⟨g, hg, rfl | rfl⟩ := hr.cases
  · have happly := apply_register_of_ne hfind hg
    have hspares : s.Spares (s.apply (.register fd g)).2 fd e := by
      rw [happly]
      exact Spares.refl hfind
    exact
      { waits := congrArg Prod.fst happly
        registry := by rw [happly]
        others := fun other _ => by rw [happly]
        register := fun _ => by rw [happly]
        deregister := fun ⟨_, hother⟩ => by cases hother
        spares_iff := iff_of_true hspares (Or.inl ⟨g, rfl⟩)
        active := fun _ => iff_of_true hspares ⟨g, rfl⟩ }
  · have hnot : ¬ ∃ g', ControlRecord.deregister fd g = .register fd g' := nofun
    have hspares := spares_deregister_iff (g := g) hs.distinct hfind
    exact
      { waits := rfl
        registry := rfl
        others := fun other hother =>
          (ReadinessSet.generation?_remove hs.distinct fd other).trans (if_neg hother)
        register := fun h => absurd h hnot
        deregister := fun _ =>
          (ReadinessSet.generation?_remove hs.distinct fd fd).trans (if_pos rfl)
        spares_iff := by rw [hspares, or_iff_right hnot]
        active := fun hactive =>
          iff_of_false (fun h => hspares.mp h (hs.watched fd e hfind hactive)) hnot }

end Membership

/-! ## In a run -/

namespace System

variable {σ ω φ : Type} {K : ControlPipe σ ω} {s : System σ τ}

/-- **Every active entry is watched** in every state that a reactor comes to by itself. -/
theorem Reachable.watchful (h : s.Reachable K) (hrun : s.stage.isRunning = true) :
    s.membership.Watchful where
  distinct := h.holds.reports.distinct
  watched := by
    intro fd e hfind hactive
    have hfd := h.holds.alignedAt hrun fd
    have hstands : s.reactor.registry.standing? fd = some (.active, e.generation) :=
      Registry.standing?_eq_some_iff.mpr ⟨e, hfind, hactive, rfl⟩
    rw [AlignedAt, hstands] at hfd
    exact hfd.of_active.1

end System

namespace System.Intrusion

variable {σ ω φ : Type} {K : ControlPipe σ ω} {I : Intruder K φ} {s : System σ τ}
variable {fd : Fd} {g : UInt64}

/-- **Who is not watched is not heard.**  Without a slot in its generation a registration is
not attempted, whatever else happens, until its own register record is applied. -/
theorem unheard_runFrom (hs : Guarded K s) (hslot : s.live.generation? fd ≠ some g)
    {as : List (Action τ ω φ)} (hnone : .applied (.register fd g) ∉ (runFrom I s as).1) :
    (runFrom I s as).2.live.generation? fd ≠ some g ∧
      ∀ task, .attempted fd g task ∉ (runFrom I s as).1 := by
  induction as generalizing s with
  | nil => exact ⟨hslot, fun _ => List.not_mem_nil⟩
  | cons a as ih =>
      rw [runFrom_cons] at hnone ⊢
      obtain ⟨hnow, hlater⟩ := not_or.mp (mt List.mem_append.mpr hnone)
      have hfirst : (step I s a).2.live.generation? fd ≠ some g ∧
          ∀ task, .attempted fd g task ∉ (step I s a).1 := by
        cases a with
        | intrude f => exact ⟨hslot, fun _ => List.not_mem_nil⟩
        | act a =>
            refine ⟨fun hnext => ?_, fun task hmem => hslot (of_attempted hs hmem).2⟩
            rcases slot_cases hs hnext with hbefore | ⟨hevents, -⟩
            · exact hslot hbefore
            · exact hnow (hevents ▸ List.mem_singleton_self _)
      obtain ⟨hlast, hquiet⟩ := ih (guarded_step hs a) hfirst.1 hlater
      refine ⟨hlast, fun task hmem => ?_⟩
      exact (List.mem_append.mp hmem).elim (hfirst.2 task) (hquiet task)

/-- What a deregister record of whatever generation leaves of the registration that stands
under its descriptor: the entry is as it was, and its task **is not attempted again** before
its own register record comes. -/
theorem unheard_after_deregister (hs : Guarded K s) {e : Entry τ}
    (hfind : s.reactor.registry.find? fd = some e)
    (happlied : .applied (.deregister fd g) ∈ (s.step K .control).1) :
    (s.step K .control).2.reactor.registry.find? fd = some e ∧
      ∀ as : List (Action τ ω φ),
        .applied (.register fd e.generation) ∉ (runFrom I (s.step K .control).2 as).1 →
        ∀ task, .attempted fd e.generation task ∉ (runFrom I (s.step K .control).2 as).1 := by
  have hafter : (s.step K .control).2.reactor.registry = s.reactor.registry ∧
      (s.step K .control).2.live = (s.live.remove fd).2 := by
    simp only [System.step] at happlied ⊢
    split at happlied
    · next hstage =>
        rw [if_pos hstage]
        rcases s.control_cases K with ⟨r, host, -, heq⟩ | ⟨cause, host, -, heq⟩ | heq
        · rw [heq] at happlied ⊢
          obtain rfl := Event.applied.inj (List.mem_singleton.mp happlied)
          exact ⟨rfl, rfl⟩
        · rw [heq] at happlied
          cases happlied
        · rw [heq] at happlied
          cases happlied
    · cases happlied
  refine ⟨by rw [hafter.1]; exact hfind, fun as hnone => ?_⟩
  have hslot : (s.step K .control).2.live.generation? fd ≠ some e.generation := by
    rw [hafter.2, ReadinessSet.generation?_remove hs.reports.distinct, if_pos rfl]
    exact (Option.some_ne_none _).symm
  have hguarded : Guarded K (s.step K .control).2 := guarded_step (I := I) hs (.act .control)
  exact (unheard_runFrom hguarded hslot hnone).2

end System.Intrusion

/-! ## A registration that is renewed -/

namespace System

/-- A descriptor is registered, deregistered and registered again, and the three records are
read. -/
def renewed : List (Action Nat (List Events)) :=
  let reading : List (Action Nat (List Events)) := [.wait, .lock, .control]
  [.register 5 7, .deregister 5, .register 5 9] ++ reading ++ reading ++ reading

/-- The reactor that this comes to. -/
def renewedSystem : System PipeHost Nat := (run (localPipe 65536) renewed).2

theorem watchful_renewedSystem : renewedSystem.membership.Watchful :=
  Reachable.watchful ⟨renewed, rfl⟩ (by decide)

/-- The register record of the first registration, should it come once more, is ignored. -/
theorem stale_ignored_iff_renewed :
    renewedSystem.membership.Watchful ∧
      renewedSystem.membership.registry.find? 5 = some ⟨9, .active, 2⟩ ∧
      (ControlRecord.register 5 1).Stale 5 (⟨9, .active, 2⟩ : Entry Nat) ∧
      renewedSystem.membership.AppliesStale 5 ⟨9, .active, 2⟩ (.register 5 1) := by
  have hfind : renewedSystem.membership.registry.find? 5 = some ⟨9, .active, 2⟩ := by decide
  have hstale : (ControlRecord.register 5 1).Stale 5 (⟨9, .active, 2⟩ : Entry Nat) := by decide
  exact ⟨watchful_renewedSystem, hfind, hstale,
    Membership.stale_ignored_iff watchful_renewedSystem hfind hstale⟩

/-- The descriptor is found readable, and its task is due. -/
def arrival : List (Intrusion.Action Nat (List Events) Bytes) :=
  [.act (.outside [.input]), .act .wait, .act .lock, .act .visit]

/-- **Its deregister record unwatches the second registration**, which is active before and
after.  When data arrives its task is attempted without the record, and not with it. -/
theorem late_deregister_unwatches :
    renewedSystem.membership.Watchful ∧
      renewedSystem.membership.registry.find? 5 = some ⟨9, .active, 2⟩ ∧
      (ControlRecord.deregister 5 1).Stale 5 (⟨9, .active, 2⟩ : Entry Nat) ∧
      ¬ renewedSystem.membership.Spares (renewedSystem.membership.apply (.deregister 5 1)).2 5
        ⟨9, .active, 2⟩ ∧
      (Intrusion.runFrom (Channel.localIntruder 65536) renewedSystem arrival).1 =
        [.attempted 5 2 9] ∧
      (Intrusion.runFrom (Channel.localIntruder 65536) renewedSystem
          ([.intrude (ControlRecord.deregister 5 1).encode, .act .wait, .act .lock,
            .act .control] ++ arrival)).1 = [.applied (.deregister 5 1)] := by
  have hslot : renewedSystem.membership.live.generation? 5 = some 2 := by decide
  have hnone : (renewedSystem.membership.apply (.deregister 5 1)).2.live.generation? 5 = none := by
    decide
  refine ⟨watchful_renewedSystem, by decide, by decide, fun hspares => ?_, rfl, rfl⟩
  exact Option.some_ne_none _ ((hspares.slot hslot).symm.trans hnone)

end System

end ReceiveReactor
