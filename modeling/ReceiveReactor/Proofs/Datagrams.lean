import ReceiveReactor.Proofs.Intake
import ReceiveReactor.Proofs.LocalPort

/-!
# Datagrams through the reactor

Tasks on a descriptor with datagrams take one with each delivery, and nothing else
that the reactor does takes any.  So what the callback was given, with what waits, is
what came.

* `DatagramPort.Receives`, `DatagramPort.receive_receives` — the receive of a running
  task;
* `DatagramPort.Conserves`, `DatagramPort.conserves_runFrom` — the account of some steps;
* `DatagramPort.serves` — **nothing is lost, doubled or reordered**, in every run.
-/

namespace ReceiveReactor

open Transfer

namespace DatagramPort

variable {σ τ ω : Type} {K : ControlPipe σ ω} {fd : Fd}

/-! ## One receive -/

/-- What a receive of a datagram task can do, with buffers of some size. -/
inductive Receives (P : DatagramPort K fd) (size : Nat) (g : UInt64) (s : Intake σ τ) :
    List (Intake.Event τ) → Intake σ τ → Prop where
  /-- The pool is exhausted, and **no call is made**. -/
  | exhausted (hfull : s.pool.limit ≤ s.pool.outstanding) :
      Receives P size g s [] { s with outcome := some ⟨.keep, none⟩ }
  /-- No storage of this size can exist. -/
  | panics (t : Intake σ τ) (hlarge : BufferPool.maxStorage < size)
      (houtcome : t.outcome = some ⟨.panic, none⟩)
      (hqueued : P.queued t.system.host = P.queued s.system.host) : Receives P size g s [] t
  /-- The receive fails, whatever the reason. -/
  | fails (t : Intake σ τ) (errno : Errno)
      (hanswer : (K.kernel.answer (.recvfrom fd size truncateFlag) s.system.host).1 = .error errno)
      (houtcome : t.outcome = some ⟨.keep, none⟩)
      (hout : t.pool.outstanding = s.pool.outstanding)
      (hqueued : P.queued t.system.host = P.queued s.system.host) : Receives P size g s [] t
  /-- The oldest datagram goes to the callback, with one buffer. -/
  | delivers (t : Intake σ τ) (m : Message) (delivery : Delivery)
      (hmessage : delivery.message = m.cut size)
      (houtcome : t.outcome = some ⟨.keep, some delivery⟩)
      (hout : t.pool.outstanding = s.pool.outstanding + 1)
      (hqueued : P.queued s.system.host = m :: P.queued t.system.host) :
      Receives P size g s [.delivered fd g delivery] t

/-- **What a task's receive on the port does**, in one of the ways of `Receives`. -/
theorem receive_receives (P : DatagramPort K fd) (g : UInt64) {s : Intake σ τ}
    (hs : s.pool.Uniform) :
    P.Receives s.pool.capacity g s (s.receive K .datagram fd g).1
      (s.receive K .datagram fd g).2 := by
  have hattempt := ReceiveTask.attempt_attempts K.kernel .datagram fd hs s.system.host
  rw [Intake.receive_eq]
  generalize (ReceiveTask.attempt .datagram fd s.pool).run K.kernel s.system.host = answer
    at hattempt ⊢
  obtain ⟨⟨attempt, next⟩, host⟩ := answer
  cases hattempt with
  | exhausted hfull => exact .exhausted hfull
  | panics _ hlarge hnext => exact .panics _ hlarge rfl rfl
  | delivers b _ origin hroom hcapacity horigin hnext =>
      rcases P.receive_cases b s.system.host with
        ⟨m, origin', hqueued, horigin', hmessage⟩ | ⟨hnone, -, -⟩
      · rw [horigin] at horigin'
        obtain rfl := Option.some.inj horigin'
        rw [hcapacity] at hmessage
        refine .delivers _ m _ hmessage ?_ hnext.outstanding hqueued
        rw [ReceiveTask.datagram_keeps]
      · rw [horigin] at hnone
        cases hnone
  | returns b _ hroom hcapacity horigin hnext =>
      rcases P.receive_cases b s.system.host with
        ⟨m, origin, -, horigin', -⟩ | ⟨-, ⟨errno, hanswer⟩, hqueued⟩
      · rw [horigin] at horigin'
        cases horigin'
      · rw [hcapacity] at hanswer
        refine .fails _ errno hanswer ?_ hnext.outstanding hqueued
        rw [ReceiveTask.datagram_keeps]

/-! ## The account -/

/-- The account of a stretch: what waited, with what came, is what was taken with what
waits; and **what was taken was delivered**, each datagram once and in order. -/
def Conserves (P : DatagramPort K fd) (size : Nat) (s t : Intake σ τ) (came : List Message)
    (events : List (Intake.Event τ)) : Prop :=
  ∃ taken, P.queued s.system.host ++ came = taken ++ P.queued t.system.host ∧
    (Intake.deliveries fd events).map Delivery.message = taken.map (Message.cut size)

variable {P : DatagramPort K fd} {size : Nat} {g : UInt64} {s t u : Intake σ τ}
variable {came more : List Message} {events later : List (Intake.Event τ)}

/-- A stretch that takes and delivers nothing. -/
theorem Conserves.of_quiet
    (hqueued : P.queued t.system.host = P.queued s.system.host ++ came)
    (hquiet : Intake.deliveries fd events = []) : P.Conserves size s t came events :=
  ⟨[], by rw [hqueued]; rfl, by rw [hquiet]; rfl⟩

/-- **Accounts add up.** -/
theorem Conserves.trans (hst : P.Conserves size s t came events)
    (htu : P.Conserves size t u more later) :
    P.Conserves size s u (came ++ more) (events ++ later) := by
  obtain ⟨taken, hqueued, hdelivered⟩ := hst
  obtain ⟨taken', hqueued', hdelivered'⟩ := htu
  refine ⟨taken ++ taken', ?_, ?_⟩
  · rw [← List.append_assoc, hqueued, List.append_assoc, hqueued', List.append_assoc]
  · rw [Intake.deliveries_append, List.map_append, List.map_append, hdelivered, hdelivered']

/-- **A receive conserves messages**: what was queued is delivered or queued. -/
theorem Receives.conserves (h : P.Receives size g s events t) :
    P.Conserves size s t [] events := by
  cases h with
  | exhausted hfull => exact .of_quiet (List.append_nil _).symm rfl
  | panics _ hlarge houtcome hqueued => exact .of_quiet (hqueued.trans (List.append_nil _).symm) rfl
  | fails _ errno hanswer houtcome hout hqueued =>
      exact .of_quiet (hqueued.trans (List.append_nil _).symm) rfl
  | delivers _ m delivery hmessage houtcome hout hqueued =>
      refine ⟨[m], by rw [hqueued, List.append_nil]; rfl, ?_⟩
      simp [Intake.deliveries, hmessage]

/-- What an action brings. -/
def brought (P : DatagramPort K fd) (s : Intake σ τ) : Intake.Action τ ω → List Message
  | .system (.outside o) => P.arrives o s.system.host
  | _ => []

/-- What comes in the course of a run. -/
def arrivals (P : DatagramPort K fd) (kindOf : τ → Option TaskKind) (s : Intake σ τ) :
    List (Intake.Action τ ω) → List Message
  | [] => []
  | a :: as => P.brought s a ++ P.arrivals kindOf (s.step K kindOf a).2 as

/-- What may be registered: datagram tasks on the port, and no receive task on the
control channel. -/
def Allows (_ : DatagramPort K fd) (other : Fd) (kind? : Option TaskKind) : Prop :=
  (other = fd → kind? = some .datagram) ∧ (other = K.receiver.fd → kind? = none)

variable {kindOf : τ → Option TaskKind}

theorem not_allows_receiver (P : DatagramPort K fd) (kind : TaskKind) :
    ¬ P.Allows K.receiver.fd (some kind) :=
  fun h => nomatch h.2 rfl

/-- **The account of one step.** -/
theorem conserves_of_does (hs : s.Sound K kindOf P.Allows) {a : Intake.Action τ ω}
    (h : Intake.Does K kindOf s a events t) :
    P.Conserves s.pool.capacity s t (P.brought s a) events := by
  rcases h.port_cases P.queued_spared P.ne_sender P.ne_receiver hs.system.coherent with
    ⟨o, rfl, rfl, hhost⟩ | ⟨g, task, kind, rfl, hrunning, hkind, rfl, rfl⟩ |
    ⟨hinside, hquiet, hqueued⟩
  · refine .of_quiet ?_ rfl
    rw [hhost]
    exact P.queued_outside o s.system.host
  · obtain rfl : kind = .datagram :=
      Option.some.inj (hkind.symm.trans ((hs.running hrunning).1 rfl))
    exact (P.receive_receives g hs.pool).conserves
  · have hbrought : P.brought s a = [] := by
      unfold brought
      split
      · next o => exact absurd rfl (hinside o)
      · rfl
    rw [hbrought]
    exact .of_quiet (hqueued.trans (List.append_nil _).symm) hquiet

/-- **The account of a run.** -/
theorem conserves_runFrom (hprivate : K.Private) (hs : s.Sound K kindOf P.Allows)
    (hcapacity : s.pool.capacity = size) {as : List (Intake.Action τ ω)}
    (has : ∀ a ∈ as, a.Admits kindOf P.Allows) :
    P.Conserves size s (s.runFrom K kindOf as).2 (P.arrivals kindOf s as)
      (s.runFrom K kindOf as).1 := by
  induction as generalizing s with
  | nil => exact .of_quiet (List.append_nil _).symm rfl
  | cons a as ih =>
      obtain ⟨ha, has⟩ := List.forall_mem_cons.mp has
      have hdoes : Intake.Does K kindOf s a _ _ := s.step_does a
      have hnow := conserves_of_does hs hdoes
      rw [hcapacity] at hnow
      exact hnow.trans (ih (hdoes.sound hprivate P.not_allows_receiver hs ha)
        ((hdoes.capacity hs.pool).trans hcapacity) has)

/-! ## Every run -/

/-- What a run comes to, for a descriptor on which only datagram tasks are registered,
with buffers of some size. -/
structure Serves (P : DatagramPort K fd) (kindOf : τ → Option TaskKind) (size limit : Nat)
    (as : List (Intake.Action τ ω)) : Prop where
  /-- **Nothing is lost, doubled or reordered.**  What waited at the start, with what came
  since, is what was delivered, cut to the size of a buffer, with what waits. -/
  conserved : ∃ taken : List Message,
    P.queued K.initial ++ P.arrivals kindOf (Intake.start K size limit) as =
      taken ++ P.queued ((Intake.start K size limit).runFrom K kindOf as).2.system.host ∧
    (Intake.deliveries fd ((Intake.start K size limit).runFrom K kindOf as).1).map
      Delivery.message = taken.map (Message.cut size)
  /-- **One delivery in a wake**: since the thread last waited there was one at most. -/
  once : ∀ before wake s, as = before ++ wake →
    ((Intake.start K size limit).runFrom K kindOf before).2 = s → s.Awake K kindOf wake →
      (Intake.deliveries fd (s.runFrom K kindOf wake).1).length ≤ 1
  /-- If the task is running now and has not received, its receive delivers the oldest
  datagram or **consumes nothing**. -/
  receives : ∀ s, ((Intake.start K size limit).runFrom K kindOf as).2 = s →
    ∀ g task, s.system.running? = some (fd, g, task) → s.outcome = none →
      P.Receives size g s (s.step K kindOf .receive).1 (s.step K kindOf .receive).2
  /-- If the task is running now, **every answer keeps the registration**. -/
  keeps : ∀ s, ((Intake.start K size limit).runFrom K kindOf as).2 = s →
    ∀ g task verdict left, s.system.running? = some (fd, g, task) →
      s.mayAnswer kindOf verdict left = true →
      verdict ≠ .retire ∧
        (s.step K kindOf (.system (.answer verdict left))).2.system.reactor.registry.find? fd =
          some ⟨left, .active, g⟩ ∧
        (s.step K kindOf (.system (.answer verdict left))).2.system.live.generation? fd = some g

/-- **Datagrams are neither lost, nor doubled, nor reordered**, at any moment of any run:
whatever is registered elsewhere, whatever consumers keep or drop, and whatever fails. -/
theorem serves (hprivate : K.Private) (P : DatagramPort K fd) (kindOf : τ → Option TaskKind)
    (size limit : Nat) {as : List (Intake.Action τ ω)} (has : ∀ a ∈ as, a.Admits kindOf P.Allows) :
    P.Serves kindOf size limit as := by
  have hstart : (Intake.start K size limit : Intake σ τ).Sound K kindOf P.Allows :=
    Intake.sound_start K kindOf P.Allows size limit
  have hsound : ((Intake.start K size limit).runFrom K kindOf as).2.Sound K kindOf P.Allows :=
    hstart.runFrom hprivate P.not_allows_receiver has
  have hcapacity : ((Intake.start K size limit).runFrom K kindOf as).2.pool.capacity = size :=
    hstart.capacity_runFrom hprivate P.not_allows_receiver has
  have hkind {g : UInt64} {task : τ}
      (hrunning : ((Intake.start K size limit).runFrom K kindOf as).2.system.running? =
        some (fd, g, task)) : kindOf task = some .datagram :=
    (hsound.running hrunning).1 rfl
  refine ⟨conserves_runFrom hprivate hstart rfl has, ?_, ?_, ?_⟩
  · rintro before wake s rfl rfl hawake
    obtain ⟨hbefore, hwake⟩ := List.forall_mem_append.mp has
    exact Intake.deliveries_le_one hprivate P.not_allows_receiver
      (hstart.runFrom hprivate P.not_allows_receiver hbefore) hwake hawake fd
  · rintro s rfl g task hrunning hfirst
    have hreceives := P.receive_receives g hsound.pool
    rw [hcapacity] at hreceives
    rw [Intake.step_receive hrunning hfirst (hkind hrunning)]
    exact hreceives
  · rintro s rfl g task verdict left hrunning hmay
    exact hsound.datagram_stays hrunning (hkind hrunning) hmay

/-- Two datagrams and a pool of one buffer: the first is delivered and kept, the next
wake finds the pool exhausted, and once the buffer is dropped the second follows. -/
def twoDatagrams : List (Intake.Action Nat (List Events × List Message)) :=
  let long : Message := ⟨[1, 2, 3, 4, 5, 6], some (.v4 ⟨#v[127, 0, 0, 1], 9000⟩)⟩
  let wake : List (Intake.Action Nat (List Events × List Message)) :=
    [.system .wait, .system .lock, .system .visit, .receive, .system (.answer .keep 7),
      .system .control]
  [.system (.register 5 7), .system .wait, .system .lock, .system .control,
    .system (.outside ([.input], [long, ⟨[], none⟩]))] ++ wake ++ wake ++
    [.giveBack ⟨[0, 0, 0, 0], 0⟩] ++ wake

/-- Two datagrams are delivered in order, the first one cut to a buffer's size, the second
one empty. -/
theorem serves_twoDatagrams :
    (datagramPort 65536).Serves (fun _ => some .datagram) 4 1 twoDatagrams ∧
      (Intake.deliveries PortHost.port ((Intake.start (localPort 65536) 4 1).runFrom
          (localPort 65536) (fun _ => some .datagram) twoDatagrams).1).map Delivery.message =
        [⟨[1, 2, 3, 4], some (.v4 ⟨#v[127, 0, 0, 1], 9000⟩)⟩, ⟨[], none⟩] := by
  have hadmits : ∀ a ∈ twoDatagrams,
      a.Admits (fun _ => some .datagram) (datagramPort 65536).Allows := by
    rintro a ha fd task rfl
    obtain ⟨rfl, rfl⟩ : fd = 5 ∧ task = 7 := by simpa [twoDatagrams] using ha
    exact ⟨fun _ => rfl, fun h => absurd h (by decide)⟩
  exact ⟨serves (private_localPort 65536) (datagramPort 65536) _ 4 1 hadmits, by decide +kernel⟩

end DatagramPort

end ReceiveReactor
