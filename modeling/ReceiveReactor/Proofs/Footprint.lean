import ReceiveReactor.Proofs.Effect
import ReceiveReactor.Task

/-!
# Which descriptors a program leaves alone

What waits on a descriptor goes away by a receive from it or by closing it, and more
comes by a send somewhere else.  The reactor makes calls for its own channel only,
and an attempt receives from its own descriptor alone.

* `Call.spares` — the calls that leave alone what waits on a descriptor;
* `Program.Only`, `Program.Only.run_eq` — what all calls of a program leave alone,
  **the program leaves alone**;
* `Program.Spares` — a program of such calls;
* `System.step_spares` — a step of a reactor that is nothing from outside is one.
-/

namespace ReceiveReactor

/-- Whether a call leaves alone what waits on a descriptor: a wait, a receive from
another descriptor, its closing, or a write into a channel.  Other sends may go
anywhere. -/
def Call.spares (channel : ControlSender) (fd : Fd) : Call → Bool
  | .poll .. => true
  | .recvfrom other .. | .recvmsg other .. | .read other _ | .close other => other ≠ fd
  | .write other _ => other = channel.fd
  | _ => false

/-- Whether a call receives from a descriptor. -/
def Call.receivesFrom (fd : Fd) : Call → Bool
  | .recvfrom other .. | .recvmsg other .. | .read other _ => other = fd
  | _ => false

/-- A receive leaves every other descriptor alone. -/
theorem Call.spares_of_receivesFrom {c : Call} {other fd : Fd} (channel : ControlSender)
    (h : other ≠ fd) (hc : c.receivesFrom other = true) : c.spares channel fd = true := by
  cases c <;> simp_all [receivesFrom, spares]

/-- A call that leaves a descriptor alone does not close it. -/
theorem Call.ne_close_of_spares {c : Call} {channel : ControlSender} {fd : Fd}
    (h : c.spares channel fd = true) : c ≠ .close fd := by
  rintro rfl
  simp [spares] at h

/-- Nor does a receive. -/
theorem Call.ne_close_of_receivesFrom {c : Call} {other : Fd} (fd : Fd)
    (h : c.receivesFrom other = true) : c ≠ .close fd := by
  rintro rfl
  cases h

/-- Nobody but the reactor uses its control channel: a receive from any other
descriptor leaves the pipe alone. -/
def ControlPipe.Private {σ ω : Type} (K : ControlPipe σ ω) : Prop :=
  ∀ fd c h, fd ≠ K.receiver.fd → Call.receivesFrom fd c = true →
    K.contents (K.kernel.answer c h).2 = K.contents h

namespace Program

variable {α β γ σ : Type} {A B : Call → Prop}

/-- Every call that a program can make is of a kind, whatever is answered. -/
def Only (A : Call → Prop) : Program α → Prop
  | done _ => True
  | call c next => A c ∧ ∀ r, Only A (next r)

/-- A program that is done makes no call. -/
theorem only_pure (a : α) : (pure a : Program α).Only A := trivial

/-- A single call is all that asking makes. -/
theorem only_ask {c : Call} (hc : A c) : (ask c).Only A := ⟨hc, fun _ => trivial⟩

/-- A sequence makes the calls of its parts. -/
theorem only_bind {p : Program α} {f : α → Program β} (hp : p.Only A) (hf : ∀ a, (f a).Only A) :
    (p >>= f).Only A := by
  induction p with
  | done a => exact hf a
  | call c next ih => exact ⟨hp.1, fun r => ih r (hp.2 r)⟩

/-- What holds of more calls still holds of all. -/
theorem Only.mono {p : Program α} (hp : p.Only A) (h : ∀ c, A c → B c) : p.Only B := by
  induction p with
  | done a => trivial
  | call c next ih => exact ⟨h c hp.1, fun r => ih r (hp.2 r)⟩

/-- **What holds of all calls of a program holds of each call of its runs.**. -/
theorem Only.of_mem_calls {p : Program α} (hp : p.Only A) {k : Kernel σ} {s : σ} {c : Call}
    (hc : c ∈ p.calls k s) : A c := by
  induction p generalizing s with
  | done a => cases hc
  | call c' next ih =>
      rcases List.mem_cons.mp hc with rfl | hrest
      · exact hp.1
      · exact ih _ (hp.2 _) hrest

/-- **What all calls leave alone, a run leaves alone.** -/
theorem Only.run_eq {p : Program α} (hp : p.Only A) {k : Kernel σ} {view : σ → γ}
    (hview : ∀ c s, A c → view (k.answer c s).2 = view s) (s : σ) :
    view (p.run k s).2 = view s := by
  induction p generalizing s with
  | done a => rfl
  | call c next ih => exact (ih _ (hp.2 _) _).trans (hview c s hp.1)

/-- A program that leaves alone what waits on a descriptor. -/
def Spares (channel : ControlSender) (fd : Fd) (p : Program α) : Prop :=
  p.Only fun c => c.spares channel fd = true

end Program

open Program

/-! ## The reactor's own programs -/

variable {channel : ControlSender} {fd : Fd}

/-- Sending writes into the channel and leaves descriptors alone. -/
theorem spares_send (channel : ControlSender) (r : ControlRecord) (fd : Fd) :
    (channel.send r).Spares channel fd := by
  refine only_bind (only_ask (decide_eq_true rfl)) fun result => ?_
  cases result with
  | error errno => exact only_pure _
  | ok count =>
      show Program.Only _ (if _ then _ else _)
      split <;> exact only_pure _

/-- Receiving reads the channel and nothing else. -/
theorem spares_receive {receiver : ControlReceiver} (h : receiver.fd ≠ fd) :
    receiver.receive.Spares channel fd := by
  refine only_bind (only_ask (decide_eq_true h)) fun result => ?_
  cases result with
  | error errno => exact only_pure _
  | ok received =>
      show Program.Only _ (if _ then _ else _)
      split <;> exact only_pure _

/-- Waiting takes nothing from anywhere. -/
theorem spares_wait (live : ReadinessSet) : live.wait.Spares channel fd := by
  refine only_bind (only_ask rfl) fun result => ?_
  cases result <;> exact only_pure _

namespace Reactor

variable {τ : Type} {r : Reactor τ}

/-- A stretch of a registration sends at most. -/
theorem spares_tryRegister (h : ∀ x, r.runningSender? = some x → x = channel) (other : Fd)
    (task : τ) (fd : Fd) : (r.tryRegister other task).Spares channel fd := by
  unfold tryRegister
  split
  · exact only_pure _
  · next x hx =>
      obtain rfl := h x hx
      split
      · exact only_pure _
      · exact only_pure _
      · refine only_bind (spares_send _ _ fd) fun result => ?_
        cases result <;> exact only_pure _

/-- So does one of a deregistration. -/
theorem spares_tryDeregister (h : ∀ x, r.runningSender? = some x → x = channel) (other fd : Fd) :
    (r.tryDeregister other).Spares channel fd := by
  unfold tryDeregister
  split
  · exact only_pure _
  · next x hx =>
      obtain rfl := h x hx
      split
      · exact only_pure _
      · refine only_bind (spares_send _ _ fd) fun result => ?_
        cases result <;> exact only_pure _

/-- So does one of a stop. -/
theorem spares_tryExit (h : ∀ x, r.runningSender? = some x → x = channel) (fd : Fd) :
    r.tryExit.Spares channel fd := by
  unfold tryExit
  split
  · exact only_pure _
  · next x hx =>
      obtain rfl := h x hx
      refine only_bind (spares_send _ _ fd) fun result => ?_
      cases result with
      | ok _ => exact only_pure _
      | error cause =>
          show Program.Only _ (if _ then _ else _)
          split <;> exact only_pure _

/-- Closing the channel closes its sender, which is none of the tasks' descriptors. -/
theorem spares_closeChannel (h : ∀ x, r.sender = some x → x.fd ≠ fd) :
    r.closeChannel.Spares channel fd := by
  unfold closeChannel
  cases hsender : r.sender with
  | none => exact only_pure _
  | some x => exact only_bind (only_ask (decide_eq_true (h x hsender))) fun _ => only_pure _

end Reactor

/-! ## Attempts -/

namespace ReceiveTask

/-- A task makes no calls but receives from **its own descriptor**. -/
theorem only_receive (kind : TaskKind) (fd : Fd) (buffer : Buffer) :
    (receive kind fd buffer).Only fun c => c.receivesFrom fd = true := by
  have hown : decide (fd = fd) = true := decide_eq_true rfl
  cases kind with
  | datagram =>
      refine only_bind (only_bind (only_ask hown) fun result => ?_) fun received => ?_
      · cases result <;> exact only_pure _
      · cases received <;> exact only_pure _
  | message =>
      refine only_bind (only_bind (only_ask hown) fun result => ?_) fun received => ?_
      · cases result <;> exact only_pure _
      · cases received with
        | error cause => exact only_pure _
        | ok m =>
            show Program.Only _ (if _ then _ else _)
            split <;> exact only_pure _
  | stream =>
      refine only_bind (only_bind (only_ask hown) fun result => ?_) fun received => ?_
      · cases result <;> exact only_pure _
      · cases received with
        | error cause => exact only_pure _
        | ok m =>
            show Program.Only _ (if _ then _ else _)
            split <;> exact only_pure _

/-- **An attempt makes receives on its own descriptor**, and no other call. -/
theorem only_attempt (kind : TaskKind) (fd : Fd) (pool : BufferPool) :
    (attempt kind fd pool).Only fun c => c.receivesFrom fd = true := by
  unfold attempt
  split
  · exact only_pure _
  · exact only_pure _
  · refine only_bind (only_receive kind fd _) fun outcome => ?_
    split <;> exact only_pure _

/-- So it takes nothing from any other. -/
theorem spares_attempt (kind : TaskKind) {other : Fd} (h : other ≠ fd) (pool : BufferPool) :
    (attempt kind other pool).Spares channel fd :=
  (only_attempt kind other pool).mono fun _ hc => Call.spares_of_receivesFrom channel h hc

end ReceiveTask

/-! ## Steps -/

namespace System

variable {σ τ ω γ : Type} {K : ControlPipe σ ω} {s : System σ τ} {view : σ → γ}

/-- A report that is followed up leaves the host alone. -/
theorem host_visit (reports : List Readiness) : (s.visit reports).2.host = s.host := by
  match reports with
  | [] => rfl
  | .readable fd g :: rest =>
      cases htask : s.reactor.registry.attemptable? fd g with
      | none =>
          simp only [visit, htask]
          rfl
      | some task => simp only [visit, htask]
  | .closed fd g :: rest => rfl

/-- **No step of a reactor touches** what waits on a descriptor that is none of its
channel's. -/
theorem step_spares
    (hview : ∀ c h, c.spares K.sender fd = true → view (K.kernel.answer c h).2 = view h)
    (hsender : K.sender.fd ≠ fd) (hreceiver : K.receiver.fd ≠ fd) (hs : s.Coherent K)
    {a : Action τ ω} (hinside : ∀ o, a ≠ .outside o) : view (s.step K a).2.host = view s.host := by
  have hchannel : ∀ x, s.reactor.runningSender? = some x → x = K.sender :=
    fun x hx => hs.steady.runningSender? hx
  have htell : view (s.tell K).2.2.host = view s.host :=
    (Reactor.spares_tryExit hchannel fd).run_eq hview s.host
  cases a with
  | outside o => exact absurd rfl (hinside o)
  | register other task =>
      simp only [step]
      split
      · rfl
      · exact (Reactor.spares_tryRegister hchannel other task fd).run_eq hview s.host
  | deregister other =>
      simp only [step]
      split
      · rfl
      · exact (Reactor.spares_tryDeregister hchannel other fd).run_eq hview s.host
  | callStop => rfl
  | advanceStop i =>
      cases hstop : s.stops[i]? with
      | none => simp [step, hstop]
      | some stop =>
          simp only [step, hstop]
          cases stop with
          | telling => exact htell
          | taking => rfl
          | joining => rw [advanceStop]; split <;> rfl
          | closing =>
              have hclose : s.reactor.closeChannel.Spares K.sender fd :=
                Reactor.spares_closeChannel fun x hx => (hs.sender x hx) ▸ hsender
              exact hclose.run_eq hview s.host
          | clearing => rw [advanceStop]; split <;> rfl
          | returned => rfl
  | wait =>
      simp only [step]
      split
      · exact (spares_wait s.live).run_eq hview s.host
      · rfl
  | lock => simp only [step]; split <;> rfl
  | visit =>
      simp only [step]
      split
      · rw [host_visit]
      · rfl
  | callbackStop => simp only [step]; split <;> rfl
  | callbackTell =>
      simp only [step]
      split
      · split <;> exact htell
      · rfl
  | answer verdict task => simp only [step]; split <;> rfl
  | control =>
      simp only [step]
      split
      · by_cases hready : s.live.controlReady = true
        · have hspared := (spares_receive hreceiver).run_eq hview s.host
          rcases hreceive : K.receiver.receive.run K.kernel s.host with ⟨received, host⟩
          rw [hreceive] at hspared
          simp only [control, (control_of_ready hready hreceive).1]
          exact hspared
        · simp only [control, (control_of_unready hready).1]
      · rfl
  | leave =>
      simp only [step]
      split
      · exact hview _ _ (decide_eq_true hreceiver)
      · rfl

end System

end ReceiveReactor
