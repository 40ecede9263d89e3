import ReceiveReactor.Proofs.Intake
import ReceiveReactor.Proofs.LocalStream

/-!
# Streams through the reactor

Tasks on a stream take the next bytes with each delivery, and nothing else that the
reactor does takes any.  So what the callback was given, with what is unread, is what was
written, wherever the buffers cut it.

* `StreamPort.Receives`, `StreamPort.receive_receives` — the receive of a running task;
* `StreamPort.Conserves`, `StreamPort.conserves_runFrom` — the account of some steps;
* `StreamPort.carries` — **no byte is lost, doubled or reordered**, in every run, and what
  is left of a stream that has ended.
-/

namespace ReceiveReactor

namespace StreamPort

variable {σ τ ω : Type} {K : ControlPipe σ ω} {fd : Fd}

/-! ## One receive -/

/-- What a receive of a stream task can do, with buffers of some size. -/
inductive Receives (P : StreamPort K fd) (size : Nat) (g : UInt64) (s : Intake σ τ) :
    List (Intake.Event τ) → Intake σ τ → Prop where
  /-- The pool is exhausted, and **no call is made**. -/
  | exhausted (hfull : s.pool.limit ≤ s.pool.outstanding) :
      Receives P size g s [] { s with outcome := some ⟨.keep, none⟩ }
  /-- No storage of this size can exist. -/
  | panics (t : Intake σ τ) (hlarge : BufferPool.maxStorage < size)
      (houtcome : t.outcome = some ⟨.panic, none⟩)
      (hunread : P.unread t.system.host = P.unread s.system.host) : Receives P size g s [] t
  /-- The read fails; what is transient keeps the registration. -/
  | fails (t : Intake σ τ) (errno : Errno)
      (hanswer : (K.kernel.answer (.read fd size) s.system.host).1 = .error errno)
      (houtcome : t.outcome = some ⟨.ofReadError errno, none⟩)
      (hout : t.pool.outstanding = s.pool.outstanding)
      (hunread : P.unread t.system.host = P.unread s.system.host) : Receives P size g s [] t
  /-- The stream has ended, and **nothing was left in it** that a buffer could hold. -/
  | ends (t : Intake σ τ) (hend : size = 0 ∨ P.unread s.system.host = [])
      (houtcome : t.outcome = some ⟨.retire, none⟩)
      (hout : t.pool.outstanding = s.pool.outstanding)
      (hunread : P.unread t.system.host = P.unread s.system.host) : Receives P size g s [] t
  /-- The next bytes go to the callback, in one buffer. -/
  | delivers (t : Intake σ τ) (delivery : Delivery) (hsome : delivery.buffer.filled ≠ [])
      (houtcome : t.outcome = some ⟨.keep, some delivery⟩)
      (hout : t.pool.outstanding = s.pool.outstanding + 1)
      (hunread : P.unread s.system.host = delivery.buffer.filled ++ P.unread t.system.host) :
      Receives P size g s [.delivered fd g delivery] t

/-- **What a task's receive on the stream does**, in one of the ways of `Receives`. -/
theorem receive_receives (P : StreamPort K fd) (g : UInt64) {s : Intake σ τ}
    (hs : s.pool.Uniform) :
    P.Receives s.pool.capacity g s (s.receive K .stream fd g).1 (s.receive K .stream fd g).2 := by
  have hattempt := ReceiveTask.attempt_attempts K.kernel .stream fd hs s.system.host
  rw [Intake.receive_eq]
  generalize (ReceiveTask.attempt .stream fd s.pool).run K.kernel s.system.host = answer
    at hattempt ⊢
  obtain ⟨⟨attempt, next⟩, host⟩ := answer
  cases hattempt with
  | exhausted hfull => exact .exhausted hfull
  | panics _ hlarge hnext => exact .panics _ hlarge rfl rfl
  | delivers b _ origin hroom hcapacity horigin hnext =>
      rcases P.receive_cases b s.system.host with
        ⟨origin', -, hverdict, hsome, hunread⟩ | ⟨hnone, -⟩ | ⟨errno, -, hnone, -⟩
      · refine .delivers _ _ hsome ?_ hnext.outstanding hunread
        rw [hverdict]
      all_goals
        rw [horigin] at hnone
        cases hnone
  | returns b _ hroom hcapacity horigin hnext =>
      rcases P.receive_cases b s.system.host with
        ⟨origin, horigin', -⟩ | ⟨-, hverdict, hend, hunread⟩ |
        ⟨errno, hanswer, -, hverdict, hunread⟩
      · rw [horigin] at horigin'
        cases horigin'
      · rw [hcapacity] at hend
        refine .ends _ hend ?_ hnext.outstanding hunread
        rw [hverdict]
      · rw [hcapacity] at hanswer
        refine .fails _ errno hanswer ?_ hnext.outstanding hunread
        rw [hverdict]

/-! ## The account -/

/-- The bytes that were delivered from a descriptor, one buffer after the other. -/
def received (fd : Fd) (events : List (Intake.Event τ)) : Bytes :=
  (Intake.deliveries fd events).flatMap (·.buffer.filled)

/-- The bytes received in some events and in others are both, in order. -/
theorem received_append (fd : Fd) (events more : List (Intake.Event τ)) :
    received fd (events ++ more) = received fd events ++ received fd more := by
  rw [received, Intake.deliveries_append, List.flatMap_append]
  rfl

/-- The account of a stretch: what was unread, with what was written, is what was delivered
with what is unread. -/
def Conserves (P : StreamPort K fd) (s t : Intake σ τ) (written : Bytes)
    (events : List (Intake.Event τ)) : Prop :=
  P.unread s.system.host ++ written = received fd events ++ P.unread t.system.host

/-- No buffer is delivered empty. -/
def Fills (fd : Fd) (events : List (Intake.Event τ)) : Prop :=
  ∀ delivery ∈ Intake.deliveries fd events, delivery.buffer.filled ≠ []

variable {P : StreamPort K fd} {size : Nat} {g : UInt64} {s t u : Intake σ τ}
variable {written more : Bytes} {events later : List (Intake.Event τ)}

/-- Deliveries that are filled in some events and in others are filled in both. -/
theorem Fills.append (hnow : Fills fd events) (hlater : Fills fd later) :
    Fills fd (events ++ later) := by
  rw [Fills, Intake.deliveries_append]
  exact List.forall_mem_append.mpr ⟨hnow, hlater⟩

/-- A stretch that delivers nothing, and takes nothing. -/
theorem of_quiet (hunread : P.unread t.system.host = P.unread s.system.host ++ written)
    (hquiet : Intake.deliveries fd events = []) :
    P.Conserves s t written events ∧ Fills fd events := by
  rw [Conserves, Fills, received, hquiet, hunread]
  exact ⟨rfl, fun _ h => nomatch h⟩

/-- **Accounts add up.** -/
theorem Conserves.trans (hst : P.Conserves s t written events)
    (htu : P.Conserves t u more later) : P.Conserves s u (written ++ more) (events ++ later) := by
  rw [Conserves] at hst htu ⊢
  rw [← List.append_assoc, hst, List.append_assoc, htu, received_append, List.append_assoc]

/-- **A receive conserves bytes**: what was unread is delivered or unread. -/
theorem Receives.conserves (h : P.Receives size g s events t) :
    P.Conserves s t [] events ∧ Fills fd events := by
  cases h with
  | exhausted hfull => exact of_quiet (List.append_nil _).symm rfl
  | panics _ hlarge houtcome hunread => exact of_quiet (hunread.trans (List.append_nil _).symm) rfl
  | fails _ errno hanswer houtcome hout hunread =>
      exact of_quiet (hunread.trans (List.append_nil _).symm) rfl
  | ends _ hend houtcome hout hunread =>
      exact of_quiet (hunread.trans (List.append_nil _).symm) rfl
  | delivers _ delivery hsome houtcome hout hunread =>
      have hone : Intake.deliveries fd [(.delivered fd g delivery : Intake.Event τ)] =
          [delivery] := by
        simp [Intake.deliveries]
      rw [Conserves, Fills, received, hone, hunread, List.append_nil]
      exact ⟨by simp, List.forall_mem_singleton.mpr hsome⟩

/-- What an action writes. -/
def brought (P : StreamPort K fd) (s : Intake σ τ) : Intake.Action τ ω → Bytes
  | .system (.outside o) => P.written o s.system.host
  | _ => []

/-- What is written in the course of a run. -/
def arrivals (P : StreamPort K fd) (kindOf : τ → Option TaskKind) (s : Intake σ τ) :
    List (Intake.Action τ ω) → Bytes
  | [] => []
  | a :: as => P.brought s a ++ P.arrivals kindOf (s.step K kindOf a).2 as

/-- What may be registered: stream tasks on the port, and no receive task on the control
channel. -/
def Allows (_ : StreamPort K fd) (other : Fd) (kind? : Option TaskKind) : Prop :=
  (other = fd → kind? = some .stream) ∧ (other = K.receiver.fd → kind? = none)

variable {kindOf : τ → Option TaskKind}

/-- No task reads the control channel. -/
theorem not_allows_receiver (P : StreamPort K fd) (kind : TaskKind) :
    ¬ P.Allows K.receiver.fd (some kind) :=
  fun h => nomatch h.2 rfl

/-- **The account of one step.** -/
theorem conserves_of_does (hs : s.Sound K kindOf P.Allows) {a : Intake.Action τ ω}
    (h : Intake.Does K kindOf s a events t) :
    P.Conserves s t (P.brought s a) events ∧ Fills fd events := by
  rcases h.port_cases P.unread_spared P.ne_sender P.ne_receiver hs.system.coherent with
    ⟨o, rfl, rfl, hhost⟩ | ⟨g, task, kind, rfl, hrunning, hkind, rfl, rfl⟩ |
    ⟨hinside, hquiet, hunread⟩
  · refine of_quiet ?_ rfl
    rw [hhost]
    exact P.unread_outside o s.system.host
  · obtain rfl : kind = .stream :=
      Option.some.inj (hkind.symm.trans ((hs.running hrunning).1 rfl))
    exact (P.receive_receives g hs.pool).conserves
  · have hbrought : P.brought s a = [] := by
      unfold brought
      split
      · next o => exact absurd rfl (hinside o)
      · rfl
    rw [hbrought]
    exact of_quiet (hunread.trans (List.append_nil _).symm) hquiet

/-- **The account of a run.** -/
theorem conserves_runFrom (hprivate : K.Private) (hs : s.Sound K kindOf P.Allows)
    {as : List (Intake.Action τ ω)} (has : ∀ a ∈ as, a.Admits kindOf P.Allows) :
    P.Conserves s (s.runFrom K kindOf as).2 (P.arrivals kindOf s as) (s.runFrom K kindOf as).1 ∧
      Fills fd (s.runFrom K kindOf as).1 := by
  induction as generalizing s with
  | nil => exact of_quiet (List.append_nil _).symm rfl
  | cons a as ih =>
      obtain ⟨ha, has⟩ := List.forall_mem_cons.mp has
      have hdoes : Intake.Does K kindOf s a _ _ := s.step_does a
      obtain ⟨hnow, hfills⟩ := conserves_of_does hs hdoes
      obtain ⟨hlater, hfills'⟩ := ih (hdoes.sound hprivate P.not_allows_receiver hs ha) has
      exact ⟨hnow.trans hlater, hfills.append hfills'⟩

/-- **The reactor closes no stream**: only the outside does. -/
theorem isOpen_of_does (P : StreamPort K fd) (hs : s.Sound K kindOf P.Allows)
    {a : Intake.Action τ ω} (hinside : ∀ o, a ≠ .system (.outside o))
    (h : Intake.Does K kindOf s a events t) :
    P.isOpen t.system.host = P.isOpen s.system.host := by
  have hspared : ∀ c h, c.spares K.sender fd = true →
      P.isOpen (K.kernel.answer c h).2 = P.isOpen h :=
    fun c h hc => P.isOpen_answer c h (Call.ne_close_of_spares hc)
  rcases h.port_cases hspared P.ne_sender P.ne_receiver hs.system.coherent with
    ⟨o, rfl, -⟩ | ⟨g, task, kind, rfl, -, -, -, rfl⟩ | ⟨-, -, hsame⟩
  · exact absurd rfl (hinside o)
  · exact (ReceiveTask.only_attempt kind fd s.pool).run_eq
      (fun c h hc => P.isOpen_answer c h (Call.ne_close_of_receivesFrom fd hc)) s.system.host
  · exact hsame

/-! ## Every run -/

/-- What a run comes to, for a descriptor on which only stream tasks are registered, with
buffers of some size. -/
structure Carries (P : StreamPort K fd) (kindOf : τ → Option TaskKind) (size limit : Nat)
    (as : List (Intake.Action τ ω)) : Prop where
  /-- **No byte is lost, doubled or reordered.**  What was unread at the start, with what was
  written since, is what was delivered with what is unread. -/
  conserved : P.unread K.initial ++ P.arrivals kindOf (Intake.start K size limit) as =
    received fd ((Intake.start K size limit).runFrom K kindOf as).1 ++
      P.unread ((Intake.start K size limit).runFrom K kindOf as).2.system.host
  /-- **No buffer is delivered empty.** -/
  fills : ∀ delivery ∈ Intake.deliveries fd ((Intake.start K size limit).runFrom K kindOf as).1,
    delivery.buffer.filled ≠ []
  /-- **One delivery in a wake**: since the thread last waited there was one at most. -/
  once : ∀ before wake s, as = before ++ wake →
    ((Intake.start K size limit).runFrom K kindOf before).2 = s → s.Awake K kindOf wake →
      (Intake.deliveries fd (s.runFrom K kindOf wake).1).length ≤ 1
  /-- If the task is running now and has not received, its receive delivers the next bytes
  or **consumes nothing**; and it asks to retire at the end of the stream and after errors
  that last. -/
  receives : ∀ s, ((Intake.start K size limit).runFrom K kindOf as).2 = s →
    ∀ g task, s.system.running? = some (fd, g, task) → s.outcome = none →
      P.Receives size g s (s.step K kindOf .receive).1 (s.step K kindOf .receive).2
  /-- **A registration that has retired delivers nothing more.** -/
  silent : ∀ before after s, as = before ++ after →
    ((Intake.start K size limit).runFrom K kindOf before).2 = s → ∀ g left,
      .system (.answered fd g .retire left) ∈
        ((Intake.start K size limit).runFrom K kindOf before).1 →
      ∀ delivery, .delivered fd g delivery ∉ (s.runFrom K kindOf after).1
  /-- **By the end of that pass the descriptor is gone** from registry and readiness set:
  at once, and for as long as each later step finds the pass going on. -/
  gone : ∀ before a pass s, as = before ++ a :: pass →
    ((Intake.start K size limit).runFrom K kindOf before).2 = s → ∀ g left,
      .system (.answered fd g .retire left) ∈ (s.step K kindOf a).1 →
      (∀ front b back, pass = front ++ b :: back →
        ((s.step K kindOf a).2.runFrom K kindOf front).2.system.stage.isLocked = true) →
      ((s.step K kindOf a).2.runFrom K kindOf pass).2.system.IsGone fd
  /-- **The descriptor stays open**, unless the outside closes it. -/
  staysOpen : ∀ before a after s, as = before ++ a :: after →
    ((Intake.start K size limit).runFrom K kindOf before).2 = s →
    (∀ o, a ≠ .system (.outside o)) →
      P.isOpen (s.step K kindOf a).2.system.host = P.isOpen s.system.host

/-- **Bytes are neither lost, nor doubled, nor reordered**, at any moment of any run:
whatever is registered elsewhere, whatever consumers keep or drop, and whatever fails. -/
theorem carries (hprivate : K.Private) (P : StreamPort K fd) (kindOf : τ → Option TaskKind)
    (size limit : Nat) {as : List (Intake.Action τ ω)} (has : ∀ a ∈ as, a.Admits kindOf P.Allows) :
    P.Carries kindOf size limit as := by
  have hstart : (Intake.start K size limit : Intake σ τ).Sound K kindOf P.Allows :=
    Intake.sound_start K kindOf P.Allows size limit
  have hsound {front : List (Intake.Action τ ω)} (hfront : ∀ a ∈ front, a.Admits kindOf P.Allows) :
      ((Intake.start K size limit).runFrom K kindOf front).2.Sound K kindOf P.Allows :=
    hstart.runFrom hprivate P.not_allows_receiver hfront
  obtain ⟨hconserved, hfills⟩ := conserves_runFrom hprivate hstart has
  refine ⟨hconserved, hfills, ?_, ?_, ?_, ?_, ?_⟩
  · rintro before wake s rfl rfl hawake
    obtain ⟨hbefore, hwake⟩ := List.forall_mem_append.mp has
    exact Intake.deliveries_le_one hprivate P.not_allows_receiver (hsound hbefore) hwake hawake fd
  · rintro s rfl g task hrunning hfirst
    have hreceives := P.receive_receives g (hsound has).pool
    rw [hstart.capacity_runFrom hprivate P.not_allows_receiver has] at hreceives
    rw [Intake.step_receive hrunning hfirst (((hsound has).running hrunning).1 rfl)]
    exact hreceives
  · rintro before after s rfl rfl g left hretired delivery
    obtain ⟨hbefore, hafter⟩ := List.forall_mem_append.mp has
    exact Intake.silent_of_isOver hprivate P.not_allows_receiver (hsound hbefore) hafter
      (Intake.isOver_of_retired hprivate P.not_allows_receiver hstart hbefore hretired) delivery
  · rintro before a pass s rfl rfl g left hretired hlocked
    obtain ⟨hbefore, hrest⟩ := List.forall_mem_append.mp has
    obtain ⟨ha, hpass⟩ := List.forall_mem_cons.mp hrest
    have hdoes : Intake.Does K kindOf ((Intake.start K size limit).runFrom K kindOf before).2 a
      _ _ := Intake.step_does _ a
    exact Intake.isGone_of_pass hprivate P.not_allows_receiver
      (hdoes.sound hprivate P.not_allows_receiver (hsound hbefore) ha) hpass hlocked
      (hdoes.of_retired (hsound hbefore).system hretired).2
  · rintro before a after s rfl rfl hinside
    obtain ⟨hbefore, -⟩ := List.forall_mem_append.mp has
    exact P.isOpen_of_does (hsound hbefore) hinside (Intake.step_does _ a)

/-- Buffers of four bytes, and a pool of one: six bytes are written and four delivered; the
next wake finds the pool exhausted.  Once the buffer is dropped, the rest follows with what
the far end wrote before it went away, and then the end. -/
def cutAndEnded : List (Intake.Action Nat StreamHost.Doing) :=
  let wake (verdict : Verdict) : List (Intake.Action Nat StreamHost.Doing) :=
    [.system .wait, .system .lock, .system .visit, .receive, .system (.answer verdict 7),
      .system .control]
  [.system (.register 5 7), .system .wait, .system .lock, .system .control,
    .system (.outside { found := [.input], bytes := [1, 2, 3, 4, 5, 6] })] ++
  wake .keep ++ wake .keep ++
  [.giveBack ⟨[0, 0, 0, 0], 0⟩,
    .system (.outside { found := [.union .input .hangup], bytes := [7], ends := true })] ++
  wake .keep ++ [.giveBack ⟨[0, 0, 0, 0], 0⟩] ++ wake .retire

/-- Seven bytes come in two deliveries, since a buffer holds four; then the far end goes,
and nothing watches the stream any more. -/
theorem carries_cutAndEnded :
    (streamPort 65536).Carries (fun _ => some .stream) 4 1 cutAndEnded ∧
      (Intake.deliveries StreamHost.port ((Intake.start (localStream 65536) 4 1).runFrom
          (localStream 65536) (fun _ => some .stream) cutAndEnded).1).map (·.buffer.filled) =
        [[1, 2, 3, 4], [5, 6, 7]] ∧
      ((Intake.start (localStream 65536) 4 1).runFrom (localStream 65536)
        (fun _ => some .stream) cutAndEnded).2.system.host.isOpen = true ∧
      ((Intake.start (localStream 65536) 4 1).runFrom (localStream 65536)
        (fun _ => some .stream) cutAndEnded).2.system.live.generation? StreamHost.port = none := by
  have hadmits : ∀ a ∈ cutAndEnded,
      a.Admits (fun _ => some .stream) (streamPort 65536).Allows := by
    rintro a ha fd task rfl
    obtain ⟨rfl, rfl⟩ : fd = 5 ∧ task = 7 := by simpa [cutAndEnded] using ha
    exact ⟨fun _ => rfl, fun h => absurd h (by decide)⟩
  exact ⟨carries (private_localStream 65536) (streamPort 65536) _ 4 1 hadmits,
    by decide +kernel, by decide +kernel, by decide +kernel⟩

end StreamPort

end ReceiveReactor
