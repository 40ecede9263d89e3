import ReceiveReactor.Proofs.Agreement
import ReceiveReactor.Proofs.LocalPipe

/-!
# A stop from inside a callback

A stop tells the reactor to exit, again and again while the channel is full.
Only the reactor thread makes room in the channel, and during a callback that is
the thread which waits for room.

* `ControlPipe.Full` — a record does not fit now;
* `ControlPipe.RoomByReading` — room comes from reading alone;
* `System.callback_stop_returns_iff` — such a stop returns **exactly if** the
  channel is not full or the reactor was told before;
* `System.callback_stop_spins` — a run that fills the channel between a wait and
  its pass.
-/

namespace ReceiveReactor

namespace ControlPipe

variable {σ ω : Type}

/-- The exit record does not fit into the pipe now. -/
def Full (K : ControlPipe σ ω) (h : σ) : Prop :=
  (K.kernel.answer (.write K.sender.fd ControlRecord.exit.encode) h).1 = .error Errno.wouldBlock

/-- A full pipe stays full while nobody reads it. -/
structure RoomByReading (K : ControlPipe σ ω) : Prop where
  outside : ∀ o h, K.Full h → K.Full (K.outside o h)
  write : ∀ h, K.Full h →
    K.Full (K.kernel.answer (.write K.sender.fd ControlRecord.exit.encode) h).2

/-- What becomes of an exit record that is sent: a full pipe refuses it and
nothing has moved, any other pipe does not call itself full. -/
theorem send_exit (K : ControlPipe σ ω) (h : σ) :
    (K.Full h → (K.sender.send .exit).run K.kernel h =
        (.error (ControlChannel.shortTransfer 0 Errno.wouldBlock),
          (K.kernel.answer (.write K.sender.fd ControlRecord.exit.encode) h).2) ∧
      K.contents (K.kernel.answer (.write K.sender.fd ControlRecord.exit.encode) h).2 =
        K.contents h) ∧
    (¬ K.Full h → ∀ cause, ((K.sender.send .exit).run K.kernel h).1 = .error cause →
      cause.isChannelFull = false) := by
  have hcases := K.write_cases .exit h
  unfold Full
  simp only [ControlSender.send, Program.run_bind]
  rw [Program.run_ask]
  generalize K.kernel.answer (.write K.sender.fd ControlRecord.exit.encode) h = answer
    at hcases ⊢
  obtain ⟨result, host⟩ := answer
  rcases hcases with ⟨rfl, -⟩ | ⟨errno, rfl, hcontents⟩
  · exact ⟨fun hfull => (by cases hfull), fun _ cause hcause => (by cases hcause)⟩
  · refine ⟨fun hfull => ?_, fun hroom cause hcause => ?_⟩
    · obtain rfl : errno = Errno.wouldBlock := Except.error.inj hfull
      exact ⟨rfl, hcontents⟩
    · obtain rfl : ControlChannel.shortTransfer 0 errno = cause := Except.error.inj hcause
      have hne : errno ≠ Errno.wouldBlock := fun heq => hroom (by rw [heq])
      simp [ControlChannel.shortTransfer, ReactorError.isChannelFull, hne]

end ControlPipe

/-- A local pipe is full exactly if both its ends are open and a record does not fit. -/
theorem full_localPipe_iff (capacity : Nat) (h : PipeHost) :
    (localPipe capacity).Full h ↔
      h.BothOpen ∧ capacity < h.bytes.length + ControlRecord.size := by
  show (h.write capacity ControlRecord.exit.encode).1 = .error Errno.wouldBlock ↔ _
  unfold PipeHost.write PipeHost.BothOpen
  rw [ControlRecord.length_encode]
  split_ifs with hwriter hreader hfits
  · simp [hwriter, Errno.badDescriptor, Errno.wouldBlock]
  · simp [hreader, Errno.brokenPipe, Errno.wouldBlock]
  · exact ⟨fun heq => (by cases heq), fun hlt => absurd hfits (by omega)⟩
  · exact ⟨fun _ => ⟨⟨by simpa using hreader, by simpa using hwriter⟩, by omega⟩, fun _ => rfl⟩

/-- A local pipe that is full stays so until it is read. -/
theorem roomByReading_localPipe (capacity : Nat) : (localPipe capacity).RoomByReading where
  outside := fun _ h hfull => (full_localPipe_iff capacity _).mpr
    ((full_localPipe_iff capacity h).mp hfull)
  write := by
    intro h hfull
    obtain ⟨hopen, hlt⟩ := (full_localPipe_iff capacity h).mp hfull
    show (localPipe capacity).Full (h.write capacity ControlRecord.exit.encode).2
    have hsame : (h.write capacity ControlRecord.exit.encode).2 = h := by
      rw [PipeHost.write_of_bothOpen hopen, ControlRecord.length_encode, if_neg (by omega)]
    rwa [hsame]

namespace System

variable {σ τ ω : Type} {K : ControlPipe σ ω} {s : System σ τ}

/-- Telling a reactor through a full channel comes to nothing. -/
theorem tell_of_full (hrun : s.reactor.runningSender? = some K.sender)
    (hfull : K.Full s.host) :
    s.tell K = (.retry, [],
      { s with host := (K.kernel.answer (.write K.sender.fd ControlRecord.exit.encode)
          s.host).2 }) := by
  obtain ⟨hsend, hcontents⟩ := (K.send_exit s.host).1 hfull
  have hchannel : (ControlChannel.shortTransfer 0 Errno.wouldBlock).isChannelFull = true := rfl
  simp only [tell, Reactor.tryExit, hrun, Program.run_bind, hsend, hchannel, if_true,
    Program.run_pure, hcontents]

/-- Telling comes to an end unless the channel is full. -/
theorem tell_ne_retry (hs : s.Coherent K)
    (h : s.reactor.runningSender? = none ∨ ¬ K.Full s.host) : (s.tell K).1 ≠ .retry := by
  unfold tell Reactor.tryExit
  cases hrun : s.reactor.runningSender? with
  | none => simp [Program.run_pure]
  | some x =>
      obtain rfl := hs.steady.runningSender? hrun
      have hroom : ¬ K.Full s.host := h.resolve_left (by simp [hrun])
      have hfinal := (K.send_exit s.host).2 hroom
      simp only [Program.run_bind]
      cases hsend : ((K.sender.send .exit).run K.kernel s.host).1 with
      | ok u => simp [Program.run_pure]
      | error cause => simp [hfinal cause hsend, Program.run_pure]

/-- A callback whose stop waits for room that nobody makes. -/
structure Spins (K : ControlPipe σ ω) (s : System σ τ) : Prop where
  invariant : s.Invariant K
  calls : ∃ fd g rest, s.stage = .calls fd g rest true
  running : s.reactor.runningSender? = some K.sender
  full : K.Full s.host

/-- **Nothing helps** a callback that waits for room. -/
theorem Spins.step (hroom : K.RoomByReading) (hs : s.Spins K) (a : Action τ ω) :
    (s.step K a).2.Spins K ∧ .callbackStopped ∉ (s.step K a).1 := by
  obtain ⟨hinv, ⟨fd, g, rest, hstage⟩, hrun, hfull⟩ := hs
  have hinv' := (step_effect hinv.coherent a).invariant hinv
  have htell := tell_of_full hrun hfull
  have hlocked : s.stage.isLocked = true := by rw [hstage]; rfl
  have hidle : s.Spins K ∧ .callbackStopped ∉ ([] : List (Event τ)) :=
    ⟨⟨hinv, ⟨fd, g, rest, hstage⟩, hrun, hfull⟩, List.not_mem_nil⟩
  cases a with
  | outside o =>
      exact ⟨⟨hinv', ⟨fd, g, rest, hstage⟩, hrun, hroom.outside o _ hfull⟩,
        List.not_mem_nil⟩
  | register fd' task => simpa [System.step, hlocked] using hidle
  | deregister fd' => simpa [System.step, hlocked] using hidle
  | callStop => exact ⟨⟨hinv', ⟨fd, g, rest, hstage⟩, hrun, hfull⟩, List.not_mem_nil⟩
  | advanceStop i =>
      cases hstop : s.stops[i]? with
      | none => simpa [System.step, hstop] using hidle
      | some stop =>
          simp only [System.step, hstop] at hinv' ⊢
          cases stop with
          | telling =>
              simp only [advanceStop, htell] at hinv' ⊢
              exact ⟨⟨hinv', ⟨fd, g, rest, hstage⟩, hrun, hroom.write _ hfull⟩,
                List.not_mem_nil⟩
          | taking => exact ⟨⟨hinv', ⟨fd, g, rest, hstage⟩, hrun, hfull⟩, List.not_mem_nil⟩
          | joining => simpa [advanceStop, hstage, Stage.isEnded] using hidle
          | closing =>
              -- The channel is closed only when the thread has ended.
              have hended := (hinv.stops _ (List.mem_of_getElem? hstop)).1 rfl
              rw [hstage] at hended
              cases hended
          | clearing => simpa [advanceStop, hlocked] using hidle
          | returned => exact hidle
  | wait => simpa [System.step, hstage] using hidle
  | lock => simpa [System.step, hstage] using hidle
  | visit => simpa [System.step, hstage] using hidle
  | callbackStop =>
      simp only [System.step, hstage] at hinv' ⊢
      exact ⟨⟨hinv', ⟨fd, g, rest, rfl⟩, hrun, hfull⟩, List.not_mem_nil⟩
  | callbackTell =>
      simp only [System.step, hstage, htell, if_true] at hinv' ⊢
      exact ⟨⟨hinv', ⟨fd, g, rest, rfl⟩, hrun, hroom.write _ hfull⟩, List.not_mem_nil⟩
  | answer verdict task => simpa [System.step, hstage] using hidle
  | control => simpa [System.step, hstage] using hidle
  | leave => simpa [System.step, hstage] using hidle

/-- A callback that waits for room waits for ever. -/
theorem Spins.runFrom (hroom : K.RoomByReading) (hs : s.Spins K) (as : List (Action τ ω)) :
    .callbackStopped ∉ (s.runFrom K as).1 := by
  induction as generalizing s with
  | nil => exact List.not_mem_nil
  | cons a as ih =>
      obtain ⟨hnext, hquiet⟩ := hs.step hroom a
      rw [runFrom_cons]
      exact fun hmem => (List.mem_append.mp hmem).elim hquiet (ih hnext)

/-- **When a stop from inside a callback returns.**  In every reachable state in
which a callback is in a call of stop, some further steps let this call return
exactly if the reactor was told to exit before or the channel is not full. -/
theorem callback_stop_returns_iff (hroom : K.RoomByReading) (h : s.Reachable K) {fd : Fd}
    {g : UInt64} {rest : List Readiness} (hstage : s.stage = .calls fd g rest true) :
    (∃ as : List (Action τ ω), .callbackStopped ∈ (s.runFrom K as).1) ↔
      s.reactor.runningSender? = none ∨ ¬ K.Full s.host := by
  have hinv := h.holds
  constructor
  · rintro ⟨as, hmem⟩
    by_contra hnot
    rw [not_or, not_not] at hnot
    obtain ⟨x, hx⟩ := Option.ne_none_iff_exists'.mp hnot.1
    obtain rfl := hinv.coherent.steady.runningSender? hx
    exact Spins.runFrom hroom ⟨hinv, ⟨fd, g, rest, hstage⟩, hx, hnot.2⟩ as hmem
  · intro hends
    have hdone := tell_ne_retry hinv.coherent hends
    refine ⟨[.callbackTell], ?_⟩
    simp [System.runFrom, System.step, hstage, hdone]

/-- A registration that is applied, and a wait that finds it readable. -/
def untilWoken : List (Action Nat (List Events)) :=
  [.register 5 0, .wait, .lock, .control, .outside [.input], .wait]

/-- On an empty pipe, a callback that calls stop gets away. -/
theorem callback_stop_returns_on_empty :
    ∃ as : List (Action Nat (List Events)), .callbackStopped ∈
      ((run (localPipe 65536) (untilWoken ++ [.lock, .visit, .callbackStop])).2.runFrom
        (localPipe 65536) as).1 := by
  generalize hrun : (run (localPipe 65536) (untilWoken ++ [.lock, .visit, .callbackStop])).2 = s
  have hstage : s.stage = .calls 5 1 [] true := by
    rw [← hrun]
    decide
  have hroom : ¬ (localPipe 65536).Full s.host := by
    rw [← hrun, full_localPipe_iff]
    decide
  exact (callback_stop_returns_iff (roomByReading_localPipe 65536) ⟨_, hrun⟩ hstage).mpr
    (Or.inr hroom)

/-! ## A run that fills the channel -/

/-- A reactor between a wait that found descriptor 5 readable and its pass, with
`n` registrations and their ends in its pipe. -/
structure Filled (capacity n : Nat) (s : System PipeHost Nat) : Prop where
  stage : s.stage = .woken
  bothOpen : s.host.BothOpen
  bytes : s.host.bytes.length = 2 * ControlRecord.size * n
  running : s.reactor.runningSender? = some (localPipe capacity).sender
  free : s.reactor.registry.find? 6 = none
  latest : s.reactor.registry.latest.toNat = n + 1
  task : s.reactor.registry.attemptable? 5 1 = some 0
  ready : s.live.ready = [.readable 5 1]

/-- Registering and deregistering another descriptor while there is room. -/
def fill (n : Nat) : List (Action Nat (List Events)) :=
  (List.replicate n [.register 6 0, .deregister 6]).flatten

/-- A registration and its end, while there is room, fill the pipe by two records more. -/
theorem Filled.next {capacity n : Nat} {s : System PipeHost Nat} (h : s.Filled capacity n)
    (hroom : 2 * ControlRecord.size * (n + 1) ≤ capacity) (hword : n + 2 < UInt64.size) :
    (s.runFrom (localPipe capacity) [.register 6 0, .deregister 6]).2.Filled capacity (n + 1) := by
  have haccepts : s.reactor.registry.Accepts 6 := by
    refine ⟨h.free, fun heq => ?_⟩
    have hlatest := h.latest
    rw [heq] at hlatest
    have hlast : Registry.lastGeneration.toNat = UInt64.size - 1 := rfl
    omega
  have hlocked : s.stage.isLocked = false := by
    rw [h.stage]
    rfl
  have hbytes := h.bytes
  have hfits : s.host.bytes.length + 2 * ControlRecord.size ≤ capacity := by
    rw [hbytes]
    exact hroom
  have hsame := Registry.find?_withdrawn haccepts 0
  rw [pair_localPipe hlocked h.running haccepts h.bothOpen hfits]
  refine ⟨h.stage, h.bothOpen, ?_, h.running, (hsame 6).trans h.free, ?_, ?_, h.ready⟩
  · simp only [withRegistry, List.length_append, ControlRecord.length_encode, hbytes]
    rw [Nat.mul_succ]
    omega
  · show (s.reactor.registry.withdrawn 6 0).latest.toNat = _
    have hlatest := h.latest
    rw [Registry.latest_withdrawn haccepts, UInt64.toNat_add, hlatest]
    have hone : (1 : UInt64).toNat = 1 := rfl
    have hsize : UInt64.size = 2 ^ 64 := rfl
    omega
  · show (s.reactor.registry.withdrawn 6 0).attemptable? 5 1 = _
    rw [← h.task]
    simp only [Registry.attemptable?, Registry.findGeneration?, hsame]

/-- While there is room, every pair fills the pipe by two records. -/
theorem Filled.runFrom_fill {capacity n m : Nat} {s : System PipeHost Nat}
    (h : s.Filled capacity m) (hroom : 2 * ControlRecord.size * (m + n) ≤ capacity)
    (hword : m + n + 1 < UInt64.size) :
    (s.runFrom (localPipe capacity) (fill n)).2.Filled capacity (m + n) := by
  induction n generalizing m s with
  | zero => exact h
  | succ n ih =>
      have hfill : fill (n + 1) = [.register 6 0, .deregister 6] ++ fill n := by
        simp [fill, List.replicate_succ]
      have hsum : m + (n + 1) = m + 1 + n := by omega
      have hle : 2 * ControlRecord.size * (m + 1) ≤ 2 * ControlRecord.size * (m + 1 + n) :=
        Nat.mul_le_mul_left _ (by omega)
      rw [hsum] at hroom ⊢
      rw [hfill, runFrom_append]
      exact ih (h.next (by omega) (by omega)) hroom (by omega)

/-- The pass calls the task, and its callback calls stop. -/
theorem Filled.stopping {capacity n : Nat} {s : System PipeHost Nat} (h : s.Filled capacity n) :
    (s.runFrom (localPipe capacity) [.lock, .visit, .callbackStop]).2 =
      { s with stage := .calls 5 1 [] true } := by
  simp [runFrom, step, visit, h.stage, h.ready, h.task]

theorem filled_untilWoken :
    (run (localPipe 65536) untilWoken).2.Filled 65536 0 where
  stage := by decide
  bothOpen := by decide
  bytes := by decide
  running := by decide
  free := by decide
  latest := by decide
  task := by decide
  ready := by decide

/-- **A stop that never returns.**  Between a wait and its pass, registrations
and deregistrations fill the pipe; then the pass calls a task, and its callback
calls stop.  Whatever happens next, that call does not return. -/
theorem callback_stop_spins :
    ∃ s : System PipeHost Nat, s.Reachable (localPipe 65536) ∧
      s.stage = .calls 5 1 [] true ∧
      ¬ ∃ as : List (Action Nat (List Events)),
        .callbackStopped ∈ (s.runFrom (localPipe 65536) as).1 := by
  obtain ⟨u, hu, hfilled⟩ : ∃ u : System PipeHost Nat, u.Reachable (localPipe 65536) ∧
      u.Filled 65536 (0 + 2048) :=
    ⟨_, Reachable.runFrom ⟨untilWoken, rfl⟩ (fill 2048),
      filled_untilWoken.runFrom_fill (by decide) (by decide)⟩
  have hreach := hu.runFrom [.lock, .visit, .callbackStop]
  rw [hfilled.stopping] at hreach
  refine ⟨_, hreach, rfl, fun ⟨as, hmem⟩ => ?_⟩
  refine Spins.runFrom (roomByReading_localPipe 65536)
    ⟨hreach.holds, ⟨5, 1, [], rfl⟩, hfilled.running, ?_⟩ as hmem
  refine (full_localPipe_iff 65536 _).mpr ⟨hfilled.bothOpen, ?_⟩
  show 65536 < u.host.bytes.length + ControlRecord.size
  rw [hfilled.bytes]
  decide

end System

end ReceiveReactor
