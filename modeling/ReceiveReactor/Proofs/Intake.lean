import ReceiveReactor.Proofs.Aftermath
import ReceiveReactor.Proofs.Attempt
import ReceiveReactor.Proofs.Footprint
import ReceiveReactor.Proofs.Wake

/-!
# A reactor whose tasks receive

A reactor with the pool from which its receive tasks draw their buffers.  Between
the call of a task and its answer stands one receive, run by the task's own program
against the kernel and the pool; what it delivers goes to the callback, which keeps
the buffer or drops it, now or later.  A receive is one step: what others do while it
runs, to the host or to the pool, they could as well do before it or after it.

* `Intake.step`, `Intake.runFrom` — the steps of the reactor, the receives of its tasks,
  and what others do with the pool;
* `Intake.Does`, `Intake.step_does` — what one step can do;
* `Intake.visit_runs` — **a visit of the program** is such steps;
* `Intake.Sound`, `Intake.Sound.runFrom` — what holds between any two steps;
* `Intake.Sound.datagram_stays` — a task on datagrams never ends its registration;
* `Intake.deliveries_le_one` — **one delivery at most** between two waits;
* `Intake.Does.port_cases` — what moves the data that wait on a descriptor;
* `Intake.silent_of_isOver`, `Intake.isGone_of_pass` — after a registration has ended.

Tasks of another pool and callbacks of any other kind are no receive tasks here:
they answer what they like, and what they do to the host is done by the outside.
-/

namespace ReceiveReactor

/-- A reactor and the pool of its receive tasks. -/
structure Intake (σ τ : Type) where
  system : System σ τ
  pool : BufferPool
  /-- What the running task has received, once it has. -/
  outcome : Option Attempt := none

namespace Intake

/-- What can happen next. -/
inductive Action (τ ω : Type) where
  | system (a : System.Action τ ω)
  /-- The receive of the running task. -/
  | receive
  /-- Somebody takes a buffer out of the pool. -/
  | take
  /-- Somebody drops a buffer of the pool, whatever was written into it. -/
  | giveBack (buffer : Buffer)

/-- What a step shows. -/
inductive Event (τ : Type) where
  | system (ev : System.Event τ)
  /-- The callback of a registration is called with what was received. -/
  | delivered (fd : Fd) (generation : UInt64) (delivery : Delivery)

variable {σ τ ω : Type}

/-- A reactor that has just been started, with a pool that has handed out nothing. -/
def start (K : ControlPipe σ ω) (capacity limit : Nat) : Intake σ τ :=
  { system := .start K, pool := .ofLimits capacity limit }

/-- Whether the running task can answer so.  A receive task answers after its receive,
with the verdict of that, unless its callback panics; and it stays what it is. -/
def mayAnswer (kindOf : τ → Option TaskKind) (s : Intake σ τ) (verdict : Verdict) (task : τ) :
    Bool :=
  match s.system.stage, s.system.running? with
  | .calls _ _ _ false, some (_, _, before) =>
    kindOf task = kindOf before &&
      match kindOf before, s.outcome with
      | none, _ => true
      | some _, none => false
      | some _, some o => verdict = o.verdict || o.delivery.isSome && verdict = .panic
  | _, _ => false

/-- The receive of a task on a descriptor. -/
def receive (K : ControlPipe σ ω) (s : Intake σ τ) (kind : TaskKind) (fd : Fd)
    (generation : UInt64) : List (Event τ) × Intake σ τ :=
  let ((attempt, pool), host) := (ReceiveTask.attempt kind fd s.pool).run K.kernel s.system.host
  (attempt.delivery.toList.map (.delivered fd generation),
    { system := { s.system with host }, pool, outcome := some attempt })

/-- A step of the reactor. -/
def stepSystem (K : ControlPipe σ ω) (s : Intake σ τ) (a : System.Action τ ω) :
    List (Event τ) × Intake σ τ :=
  let (events, system) := s.system.step K a
  (events.map .system, { s with system })

/-- One action, with what it shows. -/
def step (K : ControlPipe σ ω) (kindOf : τ → Option TaskKind) (s : Intake σ τ) :
    Action τ ω → List (Event τ) × Intake σ τ
  | .system (.answer verdict task) =>
    if s.mayAnswer kindOf verdict task then
      let (events, t) := s.stepSystem K (.answer verdict task)
      (events, { t with outcome := none })
    else ([], s)
  | .system a => s.stepSystem K a
  | .receive =>
    match s.system.running?, s.outcome with
    | some (fd, generation, task), none =>
      match kindOf task with
      | some kind => s.receive K kind fd generation
      | none => ([], s)
    | _, _ => ([], s)
  | .take => ([], { s with pool := s.pool.allocate.2 })
  | .giveBack buffer =>
    if buffer.capacity = s.pool.capacity ∧ 0 < s.pool.outstanding then
      ([], { s with pool := s.pool.release buffer })
    else ([], s)

/-- Some actions one after the other, with all that they show. -/
def runFrom (K : ControlPipe σ ω) (kindOf : τ → Option TaskKind) (s : Intake σ τ) :
    List (Action τ ω) → List (Event τ) × Intake σ τ
  | [] => ([], s)
  | a :: as =>
    let (events, t) := s.step K kindOf a
    let (more, u) := t.runFrom K kindOf as
    (events ++ more, u)

/-- A run is its first step and what follows from there. -/
theorem runFrom_cons (K : ControlPipe σ ω) (kindOf : τ → Option TaskKind) (s : Intake σ τ)
    (a : Action τ ω) (as : List (Action τ ω)) :
    s.runFrom K kindOf (a :: as) =
      ((s.step K kindOf a).1 ++ ((s.step K kindOf a).2.runFrom K kindOf as).1,
        ((s.step K kindOf a).2.runFrom K kindOf as).2) := rfl

/-- What was delivered from a descriptor. -/
def deliveries (fd : Fd) (events : List (Event τ)) : List Delivery :=
  events.filterMap fun
    | .delivered other _ delivery => if other = fd then some delivery else none
    | .system _ => none

/-- What some steps and then others deliver is both, in order. -/
@[simp] theorem deliveries_append (fd : Fd) (events more : List (Event τ)) :
    deliveries fd (events ++ more) = deliveries fd events ++ deliveries fd more :=
  List.filterMap_append

/-- The system alone delivers nothing. -/
@[simp] theorem deliveries_system (fd : Fd) (events : List (System.Event τ)) :
    deliveries fd (events.map .system) = [] := by
  simp [deliveries, List.filterMap_map]

section

variable {K : ControlPipe σ ω} {kindOf : τ → Option TaskKind} {s t : Intake σ τ}
variable {a : Action τ ω} {events : List (Event τ)}

/-! ## One step -/

/-- What a step can do. -/
inductive Does (K : ControlPipe σ ω) (kindOf : τ → Option TaskKind) (s : Intake σ τ) :
    Action τ ω → List (Event τ) → Intake σ τ → Prop where
  | nothing (a : Action τ ω) (hinside : ∀ o, a ≠ .system (.outside o)) : Does K kindOf s a [] s
  | system (a : System.Action τ ω) (hother : ∀ verdict task, a ≠ .answer verdict task) :
      Does K kindOf s (.system a) ((s.system.step K a).1.map .system)
        { s with system := (s.system.step K a).2 }
  | answers (verdict : Verdict) (task : τ) (hmay : s.mayAnswer kindOf verdict task = true) :
      Does K kindOf s (.system (.answer verdict task))
        ((s.system.step K (.answer verdict task)).1.map .system)
        { s with system := (s.system.step K (.answer verdict task)).2, outcome := none }
  | receives (fd : Fd) (g : UInt64) (task : τ) (kind : TaskKind)
      (hrunning : s.system.running? = some (fd, g, task)) (hfirst : s.outcome = none)
      (hkind : kindOf task = some kind) :
      Does K kindOf s .receive (s.receive K kind fd g).1 (s.receive K kind fd g).2
  | takes : Does K kindOf s .take [] { s with pool := s.pool.allocate.2 }
  | givesBack (buffer : Buffer) (hcapacity : buffer.capacity = s.pool.capacity)
      (hout : 0 < s.pool.outstanding) :
      Does K kindOf s (.giveBack buffer) [] { s with pool := s.pool.release buffer }

/-- **Every step is one of these.**. -/
theorem step_does (s : Intake σ τ) (a : Action τ ω) :
    Does K kindOf s a (s.step K kindOf a).1 (s.step K kindOf a).2 := by
  cases a with
  | system a =>
      cases a with
      | answer verdict task =>
          simp only [step]
          split
          · next hmay => exact .answers verdict task hmay
          · exact .nothing _ fun _ h => nomatch h
      | _ => exact .system _ fun _ _ h => nomatch h
  | receive =>
      simp only [step]
      split
      · next fd g task hrunning hfirst =>
          cases hkind : kindOf task with
          | none => exact .nothing _ fun _ h => nomatch h
          | some kind => exact .receives fd g task kind hrunning hfirst hkind
      · exact .nothing _ fun _ h => nomatch h
  | take => exact .takes
  | giveBack buffer =>
      simp only [step]
      split
      · next hmay => exact .givesBack buffer hmay.1 hmay.2
      · exact .nothing _ fun _ h => nomatch h

/-- What an answer needs. -/
theorem of_mayAnswer {verdict : Verdict} {task : τ}
    (h : s.mayAnswer kindOf verdict task = true) :
    ∃ fd g rest before, s.system.stage = .calls fd g rest false ∧
      s.system.running? = some (fd, g, before) ∧ kindOf task = kindOf before ∧
      ∀ kind, kindOf before = some kind → ∃ o, s.outcome = some o ∧
        (verdict = o.verdict ∨ o.delivery.isSome = true ∧ verdict = .panic) := by
  unfold mayAnswer at h
  split at h
  · next fd g rest fd' g' before hstage hrunning =>
      obtain ⟨⟨rest', stopping, hsame⟩, -⟩ := System.running?_eq_some_iff.mp hrunning
      rw [hstage] at hsame
      cases hsame
      obtain ⟨hkind, hverdict⟩ := Bool.and_eq_true_iff.mp h
      refine ⟨fd, g, rest, before, hstage, hrunning, of_decide_eq_true hkind, ?_⟩
      intro kind hbefore
      rw [hbefore] at hverdict
      cases houtcome : s.outcome with
      | none => simp [houtcome] at hverdict
      | some o =>
          refine ⟨o, rfl, ?_⟩
          simpa [houtcome] using hverdict
  · cases h

/-- A receive moves the host and nothing else of the reactor. -/
theorem receive_eq (K : ControlPipe σ ω) (s : Intake σ τ) (kind : TaskKind) (fd : Fd) (g : UInt64) :
    s.receive K kind fd g =
      (((ReceiveTask.attempt kind fd s.pool).run K.kernel s.system.host).1.1.delivery.toList.map
          (.delivered fd g),
        { system := { s.system with
            host := ((ReceiveTask.attempt kind fd s.pool).run K.kernel s.system.host).2 }
          pool := ((ReceiveTask.attempt kind fd s.pool).run K.kernel s.system.host).1.2
          outcome :=
            some ((ReceiveTask.attempt kind fd s.pool).run K.kernel s.system.host).1.1 }) := rfl

/-- A running receive task that has not received does so. -/
theorem step_receive {fd : Fd} {g : UInt64} {task : τ} {kind : TaskKind}
    (hrunning : s.system.running? = some (fd, g, task)) (hfirst : s.outcome = none)
    (hkind : kindOf task = some kind) :
    s.step K kindOf .receive = s.receive K kind fd g := by
  simp only [step, hrunning, hfirst, hkind]

/-- A receive task may answer with the verdict of its receive. -/
theorem mayAnswer_outcome {fd : Fd} {g : UInt64} {rest : List Readiness} {task : τ}
    {kind : TaskKind} {o : Attempt} (hstage : s.system.stage = .calls fd g rest false)
    (htask : s.system.reactor.registry.attemptable? fd g = some task)
    (hkind : kindOf task = some kind) (houtcome : s.outcome = some o) :
    s.mayAnswer kindOf o.verdict task = true := by
  have hrunning : s.system.running? = some (fd, g, task) :=
    System.running?_eq_some_iff.mpr ⟨⟨rest, false, hstage⟩, htask⟩
  simp [mayAnswer, hstage, hrunning, hkind, houtcome]

/-! ## The program's visit -/

/-- A receive task, as the program attempts it. -/
def attempt (K : ControlPipe σ ω) (kind : TaskKind) (fd : Fd) (task : τ) :
    StateM (BufferPool × σ) (Verdict × τ) := fun (pool, host) =>
  let ((attempt, pool), host) := (ReceiveTask.attempt kind fd pool).run K.kernel host
  ((attempt.verdict, task), (pool, host))

/-- **A visit of the program is a run**: the task is called, receives, and answers
with the verdict of its receive. -/
theorem visit_runs {fd : Fd} {g : UInt64} {rest : List Readiness} {task : τ} {kind : TaskKind}
    (hstage : s.system.stage = .visits (.readable fd g :: rest))
    (htask : s.system.reactor.registry.attemptable? fd g = some task)
    (hkind : kindOf task = some kind) (hfirst : s.outcome = none) {goesOn : Bool}
    {m : Membership τ} {pool : BufferPool} {host : σ}
    (hvisit : s.system.membership.visit (attempt K kind) (.readable fd g) (s.pool, s.system.host) =
      ((goesOn, m), (pool, host))) :
    ∃ verdict, (s.runFrom K kindOf
        [.system .visit, .receive, .system (.answer verdict task)]).2 =
      ⟨s.system.leave m host (if goesOn then .visits rest else .leaves true), pool, none⟩ := by
  cases hrun : (ReceiveTask.attempt kind fd s.pool).run K.kernel s.system.host with
  | mk answer h =>
      obtain ⟨o, q⟩ := answer
      have hafter : (s.system.membership.afterAttempt fd task o.verdict, (q, h)) =
          ((goesOn, m), (pool, host)) := by
        rw [← hvisit, Membership.visit_active _ htask]
        simp only [bind, StateT.bind, attempt, hrun]
        rfl
      obtain ⟨hmembership, hleft⟩ := Prod.mk.inj hafter
      obtain ⟨rfl, rfl⟩ := Prod.mk.inj hleft
      let called : System σ τ := { s.system with stage := .calls fd g rest false }
      let received : System σ τ := { called with host := h }
      have hcalled : (s.step K kindOf (.system .visit)).2 = { s with system := called } := by
        simp only [step, stepSystem, System.step, hstage, System.visit, htask]
        rfl
      have hrunning : called.running? = some (fd, g, task) :=
        System.running?_eq_some_iff.mpr ⟨⟨rest, false, rfl⟩, htask⟩
      have hreceived : (step K kindOf { s with system := called } .receive).2 =
          ⟨received, q, some o⟩ := by
        have hrun' : (ReceiveTask.attempt kind fd s.pool).run K.kernel called.host = ((o, q), h) :=
          hrun
        rw [step_receive (s := ⟨called, s.pool, s.outcome⟩) hrunning hfirst hkind, receive_eq, hrun']
      have hmay : mayAnswer kindOf ⟨received, q, some o⟩ o.verdict task = true :=
        mayAnswer_outcome rfl htask hkind rfl
      have hanswered : (received.step K (.answer o.verdict task)).2 =
          s.system.leave m h (if goesOn then .visits rest else .leaves true) := by
        have hsame : received.membership.afterAttempt fd task o.verdict = (goesOn, m) := hmembership
        rw [System.step_answer (s := received) rfl htask, hsame]
        cases hverdict : o.verdict <;> rw [hverdict] at hmembership <;> cases hmembership <;> rfl
      refine ⟨o.verdict, ?_⟩
      rw [runFrom_cons, hcalled, runFrom_cons, hreceived, runFrom_cons]
      simp only [runFrom, step, hmay, if_true, stepSystem, hanswered]

/-! ## What holds between any two steps -/

/-- What holds between any two steps of a run in which every registration is of a kind
that its descriptor allows. -/
structure Sound (K : ControlPipe σ ω) (kindOf : τ → Option TaskKind)
    (Allowed : Fd → Option TaskKind → Prop) (s : Intake σ τ) : Prop where
  system : s.system.Invariant K
  allowed : ∀ fd e, s.system.reactor.registry.find? fd = some e → Allowed fd (kindOf e.task)
  pool : s.pool.Uniform
  /-- What was received belongs to the running task, and a datagram ends no
  registration. -/
  outcome : ∀ o, s.outcome = some o → ∃ fd g task, s.system.running? = some (fd, g, task) ∧
    (kindOf task = some .datagram → o.verdict ≠ .retire)

/-- An action that registers only what is allowed. -/
def Action.Admits (kindOf : τ → Option TaskKind) (Allowed : Fd → Option TaskKind → Prop)
    (a : Action τ ω) : Prop :=
  ∀ fd task, a = .system (.register fd task) → Allowed fd (kindOf task)

variable {Allowed : Fd → Option TaskKind → Prop}

/-- The running task is that of an entry. -/
theorem Sound.running (hs : s.Sound K kindOf Allowed) {fd : Fd} {g : UInt64} {task : τ}
    (h : s.system.running? = some (fd, g, task)) : Allowed fd (kindOf task) := by
  obtain ⟨e, hfind, -, -, rfl⟩ :=
    Registry.attemptable?_eq_some_iff.mp (System.running?_eq_some_iff.mp h).2
  exact hs.allowed fd e hfind

/-- A step of the reactor that is no answer enters no kind but that of a
registration. -/
private theorem allowed_step (hs : s.Sound K kindOf Allowed) {a : System.Action τ ω}
    (hregister : ∀ fd task, a = .register fd task → Allowed fd (kindOf task))
    (hother : ∀ verdict task, a ≠ .answer verdict task) {fd : Fd} {e : Entry τ}
    (hfind : (s.system.step K a).2.reactor.registry.find? fd = some e) :
    Allowed fd (kindOf e.task) := by
  rcases (System.step_effect hs.system.coherent a).entry_cases hfind with
    ⟨-, hevents⟩ | ⟨e₀, hfind₀, -, -, htask, -⟩
  · have hmem : .registered fd e.generation e.task ∈ (s.system.step K a).1 := by
      rw [hevents]
      exact List.mem_singleton_self _
    exact hregister fd e.task ((System.action_of_event hmem).1 _ _ _ rfl)
  · rw [System.taskAfter_of_quiet] at htask
    · exact htask ▸ hs.allowed fd e₀ hfind₀
    · exact fun _ _ verdict task => System.not_answered hother _ _ verdict task

/-- Nor does an answer, since the task stays what it is. -/
private theorem allowed_answer (hs : s.Sound K kindOf Allowed) {verdict : Verdict} {task : τ}
    (hmay : s.mayAnswer kindOf verdict task = true) {fd : Fd} {e : Entry τ}
    (hfind : (s.system.step K (.answer verdict task)).2.reactor.registry.find? fd = some e) :
    Allowed fd (kindOf e.task) := by
  obtain ⟨fd', g', rest, before, hstage, hrunning, hkind, -⟩ := of_mayAnswer hmay
  have hevents : (s.system.step K (.answer verdict task)).1 = [.answered fd' g' verdict task] := by
    simp [System.step, hstage]
  rcases (System.step_effect hs.system.coherent (.answer verdict task)).entry_cases hfind with
    ⟨-, hregistered⟩ | ⟨e₀, hfind₀, -, -, htask, -⟩
  · rw [hevents] at hregistered
    cases hregistered
  · rw [hevents] at htask
    by_cases hown : fd' = fd ∧ g' = e.generation
    · have hleft : task = e.task := by simpa [System.taskAfter, System.leftBy, hown] using htask
      rw [← hleft, hkind, ← hown.1]
      exact hs.running hrunning
    · have hleft : e₀.task = e.task := by
        simpa [System.taskAfter, System.leftBy, hown] using htask
      exact hleft ▸ hs.allowed fd e₀ hfind₀

/-- **Soundness is kept** by every admitted step. -/
theorem Does.sound (hprivate : K.Private) (hforeign : ∀ kind, ¬ Allowed K.receiver.fd (some kind))
    (hs : s.Sound K kindOf Allowed) (ha : a.Admits kindOf Allowed)
    (h : Does K kindOf s a events t) : t.Sound K kindOf Allowed := by
  cases h with
  | nothing a => exact hs
  | system a hother =>
      have heffect := System.step_effect hs.system.coherent a
      refine ⟨heffect.invariant hs.system, fun fd e hfind => ?_, hs.pool, fun o ho => ?_⟩
      · exact allowed_step hs (fun fd task heq => ha fd task (by rw [heq])) hother hfind
      · obtain ⟨fd, g, task, hrunning, hverdict⟩ := hs.outcome o ho
        exact ⟨fd, g, task, heffect.running? hrunning (System.not_answered hother), hverdict⟩
  | answers verdict task hmay =>
      have heffect := System.step_effect hs.system.coherent (.answer verdict task)
      exact ⟨heffect.invariant hs.system, fun fd e hfind => allowed_answer hs hmay hfind, hs.pool,
        fun o ho => nomatch ho⟩
  | receives fd g task kind hrunning hfirst hkind =>
      have hne : fd ≠ K.receiver.fd := by
        rintro rfl
        exact hforeign kind (hkind ▸ hs.running hrunning)
      have hattempt := ReceiveTask.attempt_attempts K.kernel kind fd hs.pool s.system.host
      have hcontents := (ReceiveTask.only_attempt kind fd s.pool).run_eq
        (fun c h hc => hprivate fd c h hne hc) s.system.host
      have heffect : System.Effect K s.system [] _ := .elsewhere _ hcontents
      refine ⟨heffect.invariant hs.system, hs.allowed, (hattempt.uniform hs.pool).1, ?_⟩
      intro o ho
      obtain rfl := Option.some.inj ho
      refine ⟨fd, g, task, hrunning, fun hdatagram => ?_⟩
      obtain rfl : kind = .datagram := Option.some.inj (hkind.symm.trans hdatagram)
      exact hattempt.datagram_ne_retire
  | takes =>
      exact ⟨hs.system, hs.allowed, (BufferPool.uniform_allocate hs.pool).1, hs.outcome⟩
  | givesBack buffer hcapacity hout =>
      exact ⟨hs.system, hs.allowed, List.forall_mem_cons.mpr ⟨hcapacity, hs.pool⟩, hs.outcome⟩

/-- A pool keeps the size of its buffers. -/
theorem Does.capacity (hs : s.pool.Uniform) (h : Does K kindOf s a events t) :
    t.pool.capacity = s.pool.capacity := by
  cases h with
  | receives fd g task kind =>
      exact ((ReceiveTask.attempt_attempts K.kernel kind fd hs s.system.host).uniform hs).2
  | takes => exact (BufferPool.uniform_allocate hs).2
  | _ => rfl

/-- A reactor that has just been started is sound. -/
theorem sound_start (K : ControlPipe σ ω) (kindOf : τ → Option TaskKind)
    (Allowed : Fd → Option TaskKind → Prop) (capacity limit : Nat) :
    (start K capacity limit : Intake σ τ).Sound K kindOf Allowed where
  system := System.invariant_start K
  allowed := fun _ _ hfind => nomatch hfind
  pool := BufferPool.uniform_ofLimits capacity limit
  outcome := fun _ ho => nomatch ho

/-- **Soundness is kept** by every run of admitted actions. -/
theorem Sound.runFrom (hprivate : K.Private)
    (hforeign : ∀ kind, ¬ Allowed K.receiver.fd (some kind)) (hs : s.Sound K kindOf Allowed)
    {as : List (Action τ ω)} (has : ∀ a ∈ as, a.Admits kindOf Allowed) :
    (s.runFrom K kindOf as).2.Sound K kindOf Allowed := by
  induction as generalizing s with
  | nil => exact hs
  | cons a as ih =>
      obtain ⟨ha, has⟩ := List.forall_mem_cons.mp has
      exact ih ((s.step_does a).sound hprivate hforeign hs ha) has

/-- The buffers of a run are all of one size. -/
theorem Sound.capacity_runFrom (hprivate : K.Private)
    (hforeign : ∀ kind, ¬ Allowed K.receiver.fd (some kind)) (hs : s.Sound K kindOf Allowed)
    {as : List (Action τ ω)} (has : ∀ a ∈ as, a.Admits kindOf Allowed) :
    (s.runFrom K kindOf as).2.pool.capacity = s.pool.capacity := by
  induction as generalizing s with
  | nil => rfl
  | cons a as ih =>
      obtain ⟨ha, has⟩ := List.forall_mem_cons.mp has
      have hdoes : Does K kindOf s a _ _ := s.step_does a
      exact (ih (hdoes.sound hprivate hforeign hs ha) has).trans (hdoes.capacity hs.pool)

/-- **A datagram task stays.**  Whatever it answers, its registration is left active and
watched. -/
theorem Sound.datagram_stays (hs : s.Sound K kindOf Allowed) {fd : Fd} {g : UInt64} {task left : τ}
    {verdict : Verdict} (hrunning : s.system.running? = some (fd, g, task))
    (hkind : kindOf task = some .datagram) (hmay : s.mayAnswer kindOf verdict left = true) :
    verdict ≠ .retire ∧
      (s.step K kindOf (.system (.answer verdict left))).2.system.reactor.registry.find? fd =
        some ⟨left, .active, g⟩ ∧
      (s.step K kindOf (.system (.answer verdict left))).2.system.live.generation? fd = some g := by
  obtain ⟨fd', g', rest, task', hstage, hrunning', -, hverdict⟩ := of_mayAnswer hmay
  rw [hrunning] at hrunning'
  cases hrunning'
  have hkeeps : verdict ≠ .retire := by
    obtain ⟨o, houtcome, hanswers⟩ := hverdict _ hkind
    obtain ⟨fd', g', task', hrunning', hne⟩ := hs.outcome o houtcome
    rw [hrunning] at hrunning'
    cases hrunning'
    rcases hanswers with rfl | ⟨-, rfl⟩
    · exact hne hkind
    · exact Verdict.noConfusion
  obtain ⟨-, htask⟩ := System.running?_eq_some_iff.mp hrunning
  obtain ⟨e, hfind, rfl, hactive, -⟩ := Registry.attemptable?_eq_some_iff.mp htask
  have hupdated : (s.system.reactor.registry.update fd fun e => { e with task := left }).find? fd =
      some ⟨left, .active, e.generation⟩ := by
    rw [Registry.find?_update, if_pos rfl, hfind, ← hactive]
    rfl
  have hslot : s.system.live.generation? fd = some e.generation := by
    refine hs.system.reports.slots (.readable fd e.generation) ?_
    rw [hstage]
    exact List.mem_cons_self
  have hstep : (s.step K kindOf (.system (.answer verdict left))).2.system =
      (s.system.step K (.answer verdict left)).2 := by
    simp only [step, hmay, if_true, stepSystem]
  rw [hstep, System.step_answer hstage htask]
  cases verdict with
  | retire => exact absurd rfl hkeeps
  | keep | panic => exact ⟨hkeeps, hupdated, hslot⟩

/-! ## One delivery in a wake -/

/-- The descriptors from which events deliver. -/
def origins (events : List (Event τ)) : List Fd :=
  events.filterMap fun
    | .delivered fd _ _ => some fd
    | .system _ => none

/-- The origins of some events and of others are both, in order. -/
@[simp] theorem origins_append (events more : List (Event τ)) :
    origins (events ++ more) = origins events ++ origins more :=
  List.filterMap_append

/-- The system alone tells of no origin. -/
@[simp] theorem origins_system (events : List (System.Event τ)) :
    origins (events.map .system) = [] := by
  simp [origins, List.filterMap_map]

/-- The deliveries from a descriptor, counted. -/
theorem length_deliveries (fd : Fd) (events : List (Event τ)) :
    (deliveries fd events).length = (origins events).count fd := by
  induction events with
  | nil => rfl
  | cons ev events ih =>
      rw [← List.singleton_append, deliveries_append, origins_append, List.length_append,
        List.count_append, ih]
      congr 1
      cases ev with
      | system ev => rfl
      | delivered other g delivery =>
          by_cases hfd : other = fd <;> simp [deliveries, origins, hfd]

/-- The descriptors of a wake that may still deliver. -/
def turns (s : Intake σ τ) : List Fd :=
  if s.outcome.isSome then s.system.turns.tail else s.system.turns

/-- **A delivery takes a turn**, and between two waits no turn comes back. -/
theorem Does.turns_sublist (hs : s.Sound K kindOf Allowed) (h : Does K kindOf s a events t)
    (hawake : a = .system .wait → s.system.stage ≠ .waits) :
    (origins events ++ t.turns).Sublist s.turns := by
  cases h with
  | nothing a => exact List.Sublist.refl _
  | system a hother =>
      have heffect := System.step_effect hs.system.coherent a
      have hsub := heffect.turns_sublist fun hwaits => by
        by_contra hmoved
        rcases System.eq_wait_or_lock (Or.inl hwaits) (hwaits ▸ hmoved) with ⟨-, rfl⟩ | ⟨hwoken, -⟩
        · exact hawake rfl hwaits
        · rw [hwaits] at hwoken
          cases hwoken
      rw [origins_system, List.nil_append]
      cases houtcome : s.outcome with
      | none => simpa [turns, houtcome] using hsub
      | some o =>
          obtain ⟨fd, g, task, hrunning, -⟩ := hs.outcome o houtcome
          have hrunning' := heffect.running? hrunning (System.not_answered hother)
          obtain ⟨later, hlater⟩ := System.turns_of_running hrunning
          obtain ⟨later', hlater'⟩ := System.turns_of_running hrunning'
          rw [hlater, hlater'] at hsub
          simpa [turns, houtcome, hlater, hlater'] using hsub
  | answers verdict task hmay =>
      obtain ⟨fd, g, rest, before, hstage, hrunning, -, -⟩ := of_mayAnswer hmay
      obtain ⟨-, hbefore⟩ := System.running?_eq_some_iff.mp hrunning
      have hrest : (rest.map (·.fd)).Sublist s.turns := by
        unfold turns System.turns
        rw [hstage]
        split
        · exact List.Sublist.refl _
        · exact List.sublist_cons_self _ _
      rw [origins_system]
      exact (System.turns_answer hstage hbefore verdict task).trans hrest
  | receives fd g task kind hrunning hfirst hkind =>
      obtain ⟨later, hlater⟩ := System.turns_of_running hrunning
      have hbefore : s.turns = fd :: later := by
        rw [turns, hfirst]
        exact hlater
      have hafter : (s.receive K kind fd g).2.turns = later := congrArg List.tail hlater
      rw [hbefore, hafter, receive_eq]
      cases ((ReceiveTask.attempt kind fd s.pool).run K.kernel s.system.host).1.1.delivery with
      | none => exact List.sublist_cons_self _ _
      | some delivery => exact List.Sublist.refl _
  | takes => exact List.Sublist.refl _
  | givesBack buffer => exact List.Sublist.refl _

/-- The thread does not wait in the course of a run. -/
def Awake (K : ControlPipe σ ω) (kindOf : τ → Option TaskKind) (s : Intake σ τ)
    (as : List (Action τ ω)) : Prop :=
  ∀ front back, as = front ++ .system .wait :: back →
    (s.runFrom K kindOf front).2.system.stage ≠ .waits

/-- What is delivered while the thread does not wait takes turns of one wake. -/
theorem origins_sublist (hprivate : K.Private)
    (hforeign : ∀ kind, ¬ Allowed K.receiver.fd (some kind)) (hs : s.Sound K kindOf Allowed)
    {as : List (Action τ ω)} (has : ∀ a ∈ as, a.Admits kindOf Allowed)
    (hawake : s.Awake K kindOf as) :
    (origins (s.runFrom K kindOf as).1 ++ (s.runFrom K kindOf as).2.turns).Sublist s.turns := by
  induction as generalizing s with
  | nil => exact List.Sublist.refl _
  | cons a as ih =>
      obtain ⟨ha, has⟩ := List.forall_mem_cons.mp has
      have hdoes : Does K kindOf s a _ _ := s.step_does a
      have hnow := hdoes.turns_sublist hs fun heq => hawake [] as (by rw [heq]; rfl)
      have hlater := ih (hdoes.sound hprivate hforeign hs ha) has fun front back heq =>
        hawake (a :: front) back (by rw [heq]; rfl)
      rw [runFrom_cons, origins_append, List.append_assoc]
      exact (hlater.append_left _).trans hnow

/-- **A wake delivers at most once** from a descriptor. -/
theorem deliveries_le_one (hprivate : K.Private)
    (hforeign : ∀ kind, ¬ Allowed K.receiver.fd (some kind)) (hs : s.Sound K kindOf Allowed)
    {as : List (Action τ ω)} (has : ∀ a ∈ as, a.Admits kindOf Allowed)
    (hawake : s.Awake K kindOf as) (fd : Fd) :
    (deliveries fd (s.runFrom K kindOf as).1).length ≤ 1 := by
  have hsub := origins_sublist hprivate hforeign hs has hawake
  have hturns : s.turns.Nodup := by
    have hnodup := hs.system.reports.nodup_turns
    unfold turns
    split
    · exact hnodup.tail
    · exact hnodup
  rw [length_deliveries]
  exact List.nodup_iff_count_le_one.mp
    (hturns.sublist ((List.sublist_append_left _ _).trans hsub)) fd

/-! ## What waits on a descriptor -/

/-- **What moves the data that wait on a descriptor**: the outside, and a receive from
it.  Every other step leaves them alone and delivers none of them. -/
theorem Does.port_cases {γ : Type} {view : σ → γ} {fd : Fd}
    (hview : ∀ c h, c.spares K.sender fd = true → view (K.kernel.answer c h).2 = view h)
    (hsender : K.sender.fd ≠ fd) (hreceiver : K.receiver.fd ≠ fd) (hs : s.system.Coherent K)
    (h : Does K kindOf s a events t) :
    (∃ o, a = .system (.outside o) ∧ events = [] ∧
      t.system.host = K.outside o s.system.host) ∨
    (∃ g task kind, a = .receive ∧ s.system.running? = some (fd, g, task) ∧
      kindOf task = some kind ∧ events = (s.receive K kind fd g).1 ∧
      t = (s.receive K kind fd g).2) ∨
    (∀ o, a ≠ .system (.outside o)) ∧ deliveries fd events = [] ∧
      view t.system.host = view s.system.host := by
  have hspared {a : System.Action τ ω} (hinside : ∀ o, a ≠ .outside o) :
      view (s.system.step K a).2.host = view s.system.host :=
    System.step_spares hview hsender hreceiver hs hinside
  cases h with
  | nothing a hinside => exact Or.inr (Or.inr ⟨hinside, rfl, rfl⟩)
  | system a hother =>
      cases a with
      | outside o => exact Or.inl ⟨o, rfl, rfl, rfl⟩
      | _ =>
          refine Or.inr (Or.inr ⟨fun _ h => (nomatch h), deliveries_system fd _, ?_⟩)
          exact hspared fun _ h => nomatch h
  | answers verdict task hmay =>
      refine Or.inr (Or.inr ⟨fun _ h => (nomatch h), deliveries_system fd _, ?_⟩)
      exact hspared fun _ h => nomatch h
  | receives other g task kind hrunning hfirst hkind =>
      by_cases hother : other = fd
      · subst hother
        exact Or.inr (Or.inl ⟨g, task, kind, rfl, hrunning, hkind, rfl, rfl⟩)
      · refine Or.inr (Or.inr ⟨fun _ h => (nomatch h), ?_, ?_⟩)
        · rw [receive_eq]
          cases ((ReceiveTask.attempt kind other s.pool).run K.kernel
            s.system.host).1.1.delivery with
          | none => rfl
          | some delivery => simp [deliveries, hother]
        · exact (ReceiveTask.spares_attempt kind hother s.pool).run_eq hview s.system.host
  | takes => exact Or.inr (Or.inr ⟨fun _ h => (nomatch h), rfl, rfl⟩)
  | givesBack buffer => exact Or.inr (Or.inr ⟨fun _ h => (nomatch h), rfl, rfl⟩)

/-! ## After a registration -/

/-- A step is one of the reactor, or leaves everything of the reactor but its host. -/
theorem Does.system_cases (h : Does K kindOf s a events t) :
    (∃ a', a = .system a' ∧ events = (s.system.step K a').1.map .system ∧
      t.system = (s.system.step K a').2) ∨
    (∀ ev, .system ev ∉ events) ∧ t.system = { s.system with host := t.system.host } := by
  cases h with
  | system a hother => exact Or.inl ⟨a, rfl, rfl, rfl⟩
  | answers verdict task hmay => exact Or.inl ⟨_, rfl, rfl, rfl⟩
  | receives fd g task kind => exact Or.inr ⟨by simp [receive_eq], rfl⟩
  | nothing | takes | givesBack => exact Or.inr ⟨fun _ => List.not_mem_nil, rfl⟩

/-- What is delivered was received by the running task. -/
theorem Does.running_of_delivered (h : Does K kindOf s a events t) {fd : Fd} {g : UInt64}
    {delivery : Delivery} (hmem : .delivered fd g delivery ∈ events) :
    ∃ task, s.system.running? = some (fd, g, task) := by
  cases h with
  | receives other g' task kind hrunning =>
      rw [receive_eq] at hmem
      obtain ⟨d, -, heq⟩ := List.mem_map.mp hmem
      cases heq
      exact ⟨task, hrunning⟩
  | system | answers => simp at hmem
  | nothing | takes | givesBack => cases hmem

/-- What is over stays over. -/
theorem Does.isOver (hs : s.system.Coherent K) (h : Does K kindOf s a events t) {fd : Fd}
    {g : UInt64} (hover : s.system.IsOver fd g) : t.system.IsOver fd g := by
  rcases h.system_cases with ⟨a', -, -, hnext⟩ | ⟨-, hnext⟩
  · rw [hnext]
    exact (System.step_effect hs a').isOver hover
  · rw [hnext]
    exact ⟨hover.given, hover.ne⟩

/-- An answer that retires a descriptor ends its registration, and **neither entry nor
slot** is left. -/
theorem Does.of_retired (hs : s.system.Invariant K) (h : Does K kindOf s a events t) {fd : Fd}
    {g : UInt64} {left : τ} (hmem : .system (.answered fd g .retire left) ∈ events) :
    t.system.IsOver fd g ∧ t.system.IsGone fd := by
  rcases h.system_cases with ⟨a', -, rfl, hnext⟩ | ⟨hnone, -⟩
  · obtain ⟨ev, hev, heq⟩ := List.mem_map.mp hmem
    obtain rfl := Event.system.inj heq
    rw [hnext]
    exact ⟨System.isOver_of_retired hs hev, System.isGone_of_retired hs hev⟩
  · exact absurd hmem (hnone _)

/-- What is over stays over. -/
theorem isOver_runFrom (hprivate : K.Private)
    (hforeign : ∀ kind, ¬ Allowed K.receiver.fd (some kind)) (hs : s.Sound K kindOf Allowed)
    {as : List (Action τ ω)} (has : ∀ a ∈ as, a.Admits kindOf Allowed) {fd : Fd} {g : UInt64}
    (hover : s.system.IsOver fd g) : (s.runFrom K kindOf as).2.system.IsOver fd g := by
  induction as generalizing s with
  | nil => exact hover
  | cons a as ih =>
      obtain ⟨ha, has⟩ := List.forall_mem_cons.mp has
      have hdoes : Does K kindOf s a _ _ := s.step_does a
      exact ih (hdoes.sound hprivate hforeign hs ha) has (hdoes.isOver hs.system.coherent hover)

/-- A registration that answered so in the course of a run is over at its end. -/
theorem isOver_of_retired (hprivate : K.Private)
    (hforeign : ∀ kind, ¬ Allowed K.receiver.fd (some kind)) (hs : s.Sound K kindOf Allowed)
    {as : List (Action τ ω)} (has : ∀ a ∈ as, a.Admits kindOf Allowed) {fd : Fd} {g : UInt64}
    {left : τ} (hmem : .system (.answered fd g .retire left) ∈ (s.runFrom K kindOf as).1) :
    (s.runFrom K kindOf as).2.system.IsOver fd g := by
  induction as generalizing s with
  | nil => cases hmem
  | cons a as ih =>
      obtain ⟨ha, has⟩ := List.forall_mem_cons.mp has
      have hdoes : Does K kindOf s a _ _ := s.step_does a
      have hnext := hdoes.sound hprivate hforeign hs ha
      rw [runFrom_cons] at hmem
      rcases List.mem_append.mp hmem with hnow | hlater
      · exact isOver_runFrom hprivate hforeign hnext has (hdoes.of_retired hs.system hnow).1
      · exact ih hnext has hlater

/-- **A registration that is over delivers nothing** any more. -/
theorem silent_of_isOver (hprivate : K.Private)
    (hforeign : ∀ kind, ¬ Allowed K.receiver.fd (some kind)) (hs : s.Sound K kindOf Allowed)
    {as : List (Action τ ω)} (has : ∀ a ∈ as, a.Admits kindOf Allowed) {fd : Fd} {g : UInt64}
    (hover : s.system.IsOver fd g) (delivery : Delivery) :
    .delivered fd g delivery ∉ (s.runFrom K kindOf as).1 := by
  induction as generalizing s with
  | nil => exact List.not_mem_nil
  | cons a as ih =>
      obtain ⟨ha, has⟩ := List.forall_mem_cons.mp has
      have hdoes : Does K kindOf s a _ _ := s.step_does a
      rw [runFrom_cons]
      intro hmem
      rcases List.mem_append.mp hmem with hnow | hlater
      · obtain ⟨task, hrunning⟩ := hdoes.running_of_delivered hnow
        have htask := (System.running?_eq_some_iff.mp hrunning).2
        rw [hover.attemptable?] at htask
        cases htask
      · exact ih (hdoes.sound hprivate hforeign hs ha) has
          (hdoes.isOver hs.system.coherent hover) hlater

/-- **A descriptor that is gone stays so to the end of the pass**, and until the thread
lets the lock go. -/
theorem isGone_of_pass (hprivate : K.Private)
    (hforeign : ∀ kind, ¬ Allowed K.receiver.fd (some kind)) (hs : s.Sound K kindOf Allowed)
    {as : List (Action τ ω)} (has : ∀ a ∈ as, a.Admits kindOf Allowed)
    (hlocked : ∀ front a back, as = front ++ a :: back →
      (s.runFrom K kindOf front).2.system.stage.isLocked = true) {fd : Fd}
    (hgone : s.system.IsGone fd) : (s.runFrom K kindOf as).2.system.IsGone fd := by
  induction as generalizing s with
  | nil => exact hgone
  | cons a as ih =>
      obtain ⟨ha, has⟩ := List.forall_mem_cons.mp has
      have hdoes : Does K kindOf s a _ _ := s.step_does a
      have hnow : s.system.stage.isLocked = true := hlocked [] a as rfl
      have hstill : (s.step K kindOf a).2.system.IsGone fd := by
        rcases hdoes.system_cases with ⟨a', -, -, hnext⟩ | ⟨-, hnext⟩
        · rw [hnext]
          exact (System.step_effect hs.system.coherent a').isGone hs.system.reports.distinct hgone
            fun g task => System.not_registered_of_locked hnow a' task
        · rw [hnext]
          exact ⟨hgone.entry, hgone.slot⟩
      exact ih (hdoes.sound hprivate hforeign hs ha) has
        (fun front b back heq => hlocked (a :: front) b back (by rw [heq]; rfl)) hstill

end

end Intake

end ReceiveReactor
