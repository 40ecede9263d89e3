import ReceiveReactor.Proofs.Effect

/-!
# A wake is a run

The reactor thread is a loop over `Membership.wake`.  Between the steps of a
system it may be interrupted by stops; when it is not, its steps come to what the
loop does.

* `System.visitAll_runs` — all visits of a pass, by induction on the reports;
* `System.wake_runs` — a whole wake.
-/

namespace ReceiveReactor

/-- Where a wake leaves the thread. -/
def Stage.after : PassEnd → Stage
  | .waits => .waits
  | .exits => .leaves false
  | .unwinds => .leaves true

namespace System

variable {σ τ ω : Type} {K : ControlPipe σ ω}

/-- What a task does to the host, the outside could do as well. -/
def StaysOutside (K : ControlPipe σ ω) (attempt : Fd → τ → StateM σ (Verdict × τ)) : Prop :=
  ∀ fd task h, ∃ o, (attempt fd task h).2 = K.outside o h

/-- A system after a computation on the two views of membership and the host. -/
def leave (s : System σ τ) (m : Membership τ) (host : σ) (stage : Stage) : System σ τ :=
  { s.setMembership m with host, stage }

variable {attempt : Fd → τ → StateM σ (Verdict × τ)}

/-- What follows on a visit goes on with the reports behind it, or leaves the loop. -/
theorem followUp_of_visit {s : System σ τ} {answer : Fd → τ → Id (Verdict × τ)} {r : Readiness}
    {goesOn : Bool} {m : Membership τ} (h : s.membership.visit answer r = (goesOn, m))
    (rest : List Readiness) :
    s.followUp answer r rest =
      s.leave m s.host (if goesOn then .visits rest else .leaves true) := by
  unfold followUp
  rw [h]
  rfl

/-- One visit is one to three steps. -/
theorem visit_runs (hattempt : StaysOutside K attempt) {s : System σ τ} {r : Readiness}
    {rest : List Readiness} (hstage : s.stage = .visits (r :: rest)) {goesOn : Bool}
    {m : Membership τ} {host : σ}
    (hvisit : s.membership.visit attempt r s.host = ((goesOn, m), host)) :
    ∃ as : List (Action τ ω), (s.runFrom K as).2 =
      s.leave m host (if goesOn then .visits rest else .leaves true) := by
  cases r with
  | closed fd g =>
      rw [Membership.visit_closed] at hvisit
      cases hvisit
      refine ⟨[.visit], ?_⟩
      simp only [runFrom, step, hstage]
      rfl
  | readable fd g =>
      cases htask : s.reactor.registry.attemptable? fd g with
      | none =>
          rw [Membership.visit_idle attempt htask] at hvisit
          cases hvisit
          refine ⟨[.visit], ?_⟩
          simp only [runFrom, step, hstage, visit, htask, followUp]
          rw [Membership.visit_idle _ htask]
          rfl
      | some task =>
          rw [Membership.visit_active attempt htask] at hvisit
          obtain ⟨o, ho⟩ := hattempt fd task s.host
          cases hanswer : attempt fd task s.host with
          | mk answer h =>
              obtain ⟨verdict, left⟩ := answer
              have hafter : (s.membership.afterAttempt fd left verdict, h) =
                  ((goesOn, m), host) := by
                rw [← hvisit]
                simp only [bind, StateT.bind, hanswer]
                rfl
              rw [hanswer] at ho
              obtain ⟨hmembership, rfl⟩ := Prod.mk.inj hafter
              have hstep : s.membership.visit (m := Id) (fun _ _ => (verdict, left))
                  (.readable fd g) = (goesOn, m) :=
                (Membership.visit_active _ htask).trans hmembership
              refine ⟨[.visit, .outside o, .answer verdict left], ?_⟩
              simp only [runFrom, step, hstage, visit, htask]
              rw [← ho]
              exact followUp_of_visit (s := { s with host := h, stage := .calls fd g rest false })
                hstep rest

/-- **All visits of a pass** are some steps. -/
theorem visitAll_runs (hattempt : StaysOutside K attempt) {rest : List Readiness}
    {s : System σ τ} (hstage : s.stage = .visits rest) {goesOn : Bool} {m : Membership τ}
    {host : σ} (hvisits : s.membership.visitAll attempt rest s.host = ((goesOn, m), host)) :
    ∃ as : List (Action τ ω), (s.runFrom K as).2 =
      s.leave m host (if goesOn then .visits [] else .leaves true) := by
  induction rest generalizing s with
  | nil =>
      cases hvisits
      refine ⟨[], ?_⟩
      rw [if_pos rfl, ← hstage]
      rfl
  | cons r rest ih =>
      cases hvisit : s.membership.visit attempt r s.host with
      | mk first h =>
          obtain ⟨more, m'⟩ := first
          obtain ⟨as, has⟩ := visit_runs hattempt hstage hvisit
          simp only [Membership.visitAll, bind, StateT.bind, hvisit] at hvisits
          cases more with
          | false =>
              cases hvisits
              exact ⟨as, has⟩
          | true =>
              obtain ⟨bs, hbs⟩ := ih (s := s.leave m' h (.visits rest)) rfl hvisits
              refine ⟨as ++ bs, ?_⟩
              rw [runFrom_append, has]
              exact hbs

/-- The end of a pass is one step. -/
theorem control_step {s : System σ τ} (hstage : s.stage = .visits []) {ending : PassEnd}
    {m : Membership τ} {host : σ}
    (hcontrol : Membership.control (perform K) K.receiver s.membership s.host =
      ((ending, m), host)) :
    (s.step K .control).2 = s.leave m host (.after ending) := by
  -- No record makes the end of a pass panic.
  have hnever : ending ≠ .unwinds := by
    rintro rfl
    by_cases hready : s.live.controlReady = true
    · cases hreceive : K.receiver.receive.run K.kernel s.host with
      | mk received h =>
          rw [(control_of_ready hready hreceive).1] at hcontrol
          cases received with
          | ok r =>
              have hending := Membership.ending_apply s.membership r
              have happly : s.membership.apply r = (.unwinds, m) := (Prod.mk.inj hcontrol).1
              rw [happly] at hending
              split at hending <;> cases hending
          | error cause => cases hcontrol
    · rw [(control_of_unready hready).1] at hcontrol
      cases hcontrol
  simp only [step, hstage, if_true, control, hcontrol]
  cases ending with
  | waits => rfl
  | exits => rfl
  | unwinds => exact absurd rfl hnever

/-- What is left of a pass is a run. -/
theorem resume_runs (hattempt : StaysOutside K attempt) {s : System σ τ}
    {rest : List Readiness} (hstage : s.stage = .visits rest) {ending : PassEnd}
    {m : Membership τ} {host : σ}
    (hresume : s.membership.resume attempt (perform K) K.receiver rest s.host =
      ((ending, m), host)) :
    ∃ as : List (Action τ ω), (s.runFrom K as).2 = s.leave m host (.after ending) := by
  cases hvisits : s.membership.visitAll attempt rest s.host with
  | mk visited h =>
      obtain ⟨goesOn, m'⟩ := visited
      obtain ⟨as, has⟩ := visitAll_runs hattempt hstage hvisits
      simp only [Membership.resume, bind, StateT.bind, hvisits] at hresume
      cases goesOn with
      | false =>
          cases hresume
          exact ⟨as, has⟩
      | true =>
          have hlast := control_step (s := s.leave m' h (.visits [])) rfl hresume
          refine ⟨as ++ [.control], ?_⟩
          rw [runFrom_append, has]
          exact hlast

/-- **A wake of the program is a run.**  A thread that waits, and whose wake is not
interrupted, comes to where the program's own loop leaves it. -/
theorem wake_runs (hattempt : StaysOutside K attempt) {s : System σ τ}
    (hstage : s.stage = .waits) {ending : PassEnd} {m : Membership τ} {host : σ}
    (hwake : s.membership.wake attempt (perform K) K.receiver s.host = ((ending, m), host)) :
    ∃ as : List (Action τ ω), (s.runFrom K as).2 = s.leave m host (.after ending) := by
  cases hwait : s.live.wait.run K.kernel s.host with
  | mk waited h =>
      obtain ⟨result, live⟩ := waited
      simp only [Membership.wake, bind, StateT.bind, perform, membership, hwait] at hwake
      cases result with
      | error errno =>
          cases hwake
          refine ⟨[.wait], ?_⟩
          simp only [runFrom, step, hstage, if_true, wait, hwait]
          rfl
      | ok count =>
          obtain ⟨as, has⟩ := resume_runs hattempt
            (s := s.leave ⟨s.reactor.registry, live⟩ h (.visits live.ready)) rfl hwake
          refine ⟨.wait :: .lock :: as, ?_⟩
          simp only [runFrom_cons, step, hstage, if_true, wait, hwait]
          exact has

/-- What holds in every reachable state holds wherever the program's loop comes. -/
theorem Reachable.wake (hattempt : StaysOutside K attempt) {s : System σ τ} (h : s.Reachable K)
    (hstage : s.stage = .waits) {ending : PassEnd} {m : Membership τ} {host : σ}
    (hwake : s.membership.wake attempt (perform K) K.receiver s.host = ((ending, m), host)) :
    (s.leave m host (.after ending)).Reachable K := by
  obtain ⟨as, has⟩ := wake_runs hattempt hstage hwake
  rw [← has]
  exact h.runFrom as

end System

end ReceiveReactor
