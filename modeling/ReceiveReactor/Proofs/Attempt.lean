import ReceiveReactor.Task

/-!
# One attempt and its pool

An attempt takes a buffer out of the pool, receives once into it, and delivers it or
puts it back.

* `BufferPool.Uniform`, `BufferPool.Leads` — storage of one size, and how a pool
  goes on;
* `ReceiveTask.Attempts`, `ReceiveTask.attempt_attempts` — **the four ways** in which
  an attempt goes;
* `Buffer.filled_receive_setLen`, `ReceiveTask.capacity_receive`,
  `ReceiveTask.datagram_keeps` — what a receive stores and what it keeps.
-/

namespace ReceiveReactor

/-- A count that is not below zero is what the word says. -/
theorem wordOfCount_natCast {n : Nat} (h : n < UInt64.size) : wordOfCount (n : Int) = n := by
  rw [wordOfCount, Int.emod_eq_of_lt (Int.natCast_nonneg n) (Int.ofNat_lt.mpr h),
    Int.toNat_natCast]

namespace Buffer

/-- What is filled of a received buffer is what is reported, cut to the capacity. -/
theorem len_receive_setLen (b : Buffer) (data : Bytes) (n : Nat) :
    ((b.receive data).setLen n).len = min n b.capacity := by
  rw [setLen, capacity_receive]

/-- **What is filled is what was stored**, if that was as much as is reported. -/
theorem filled_receive_setLen {b : Buffer} {data : Bytes} {n : Nat}
    (h : min n b.capacity ≤ data.length) :
    ((b.receive data).setLen n).filled = data.take (min n b.capacity) := by
  have hroom : min n b.capacity ≤ b.storage.length := Nat.min_le_right _ _
  have hfront : min n b.capacity ≤ (data.take b.storage.length).length := by
    rw [List.length_take]
    exact Nat.le_min.mpr ⟨hroom, h⟩
  rw [filled, len_receive_setLen]
  show (data.take b.storage.length ++ b.storage.drop data.length).take (min n b.capacity) = _
  rw [List.take_append_of_le_length hfront, List.take_take, Nat.min_eq_left hroom]

/-- What was received into a buffer, filled as far, is what the buffer holds. -/
theorem filled_receive {b : Buffer} {data : Bytes} (h : data.length ≤ b.capacity) :
    ((b.receive data).setLen data.length).filled = data := by
  rw [filled_receive_setLen (Nat.min_le_left _ _), Nat.min_eq_left h, List.take_length]

end Buffer

namespace BufferPool

/-- Every storage that waits for reuse has the size of the pool's buffers. -/
def Uniform (p : BufferPool) : Prop := ∀ storage ∈ p.free, storage.length = p.capacity

/-- A pool goes on as one of the same kind with so many buffers out. -/
structure Leads (p q : BufferPool) (outstanding : Nat) : Prop where
  uniform : q.Uniform
  capacity : q.capacity = p.capacity
  limit : q.limit = p.limit
  outstanding : q.outstanding = outstanding

theorem uniform_ofLimits (capacity limit : Nat) : (ofLimits capacity limit).Uniform :=
  fun _ h => nomatch h

/-- What an allocation can come to. -/
inductive Allocates (p : BufferPool) : Allocation → BufferPool → Prop where
  | exhausted (hfull : p.limit ≤ p.outstanding) : Allocates p .exhausted p
  | granted (buffer : Buffer) (q : BufferPool) (hroom : p.outstanding < p.limit)
      (hcapacity : buffer.capacity = p.capacity) (hnext : p.Leads q (p.outstanding + 1)) :
      Allocates p (.granted buffer) q
  | panicked (q : BufferPool) (hlarge : maxStorage < p.capacity)
      (hnext : p.Leads q (p.outstanding + 1)) : Allocates p .panicked q

/-- **Every allocation** of a uniform pool is one of the ways of `Allocates`. -/
theorem allocate_allocates {p : BufferPool} (hp : p.Uniform) :
    Allocates p p.allocate.1 p.allocate.2 := by
  unfold allocate
  split
  · next hfull => exact .exhausted hfull
  · next hroom =>
      have hroom : p.outstanding < p.limit := Nat.not_le.mp hroom
      simp only
      split
      · next storage rest hfree =>
          have huniform : ∀ storage' ∈ storage :: rest, storage'.length = p.capacity := hfree ▸ hp
          obtain ⟨hstorage, hrest⟩ := List.forall_mem_cons.mp huniform
          exact .granted _ _ hroom hstorage ⟨hrest, rfl, rfl, rfl⟩
      · next hfree =>
          split
          · next hlarge => exact .panicked _ hlarge ⟨hp, rfl, rfl, rfl⟩
          · exact .granted _ _ hroom (Bytes.length_zeros _) ⟨hp, rfl, rfl, rfl⟩

/-- An allocation leaves a pool of the same kind. -/
theorem uniform_allocate {p : BufferPool} (hp : p.Uniform) :
    p.allocate.2.Uniform ∧ p.allocate.2.capacity = p.capacity := by
  have hcases := allocate_allocates hp
  generalize p.allocate = answer at hcases ⊢
  obtain ⟨allocation, next⟩ := answer
  cases hcases with
  | exhausted hfull => exact ⟨hp, rfl⟩
  | granted b _ hroom hcapacity hnext => exact ⟨hnext.uniform, hnext.capacity⟩
  | panicked _ hlarge hnext => exact ⟨hnext.uniform, hnext.capacity⟩

/-- A buffer of the pool goes back. -/
theorem Leads.release {p q : BufferPool} {outstanding : Nat} (h : p.Leads q (outstanding + 1))
    {b : Buffer} (hb : b.capacity = p.capacity) : p.Leads (q.release b) outstanding where
  uniform := List.forall_mem_cons.mpr ⟨hb.trans h.capacity.symm, h.uniform⟩
  capacity := h.capacity
  limit := h.limit
  outstanding := by
    show q.outstanding - 1 = outstanding
    rw [h.outstanding]
    rfl

end BufferPool

namespace ReceiveTask

open BufferPool

variable {σ : Type} {k : Kernel σ} {kind : TaskKind} {fd : Fd} {pool : BufferPool} {host : σ}

/-- A receive keeps the size of its buffer. -/
theorem capacity_receive (kind : TaskKind) (fd : Fd) (b : Buffer) (k : Kernel σ) (host : σ) :
    ((receive kind fd b).run k host).1.buffer.capacity = b.capacity := by
  cases kind with
  | datagram =>
      simp only [receive, receiveDatagram, Program.run_bind]
      split
      · rfl
      · simp
  | message =>
      simp only [receive, receiveMessage, Program.run_bind]
      split
      · rfl
      · split <;> simp
  | stream =>
      simp only [receive, receiveStream, Program.run_bind]
      split
      · rfl
      · split <;> simp

/-- **A datagram never ends a registration.** -/
theorem datagram_keeps (fd : Fd) (b : Buffer) (k : Kernel σ) (host : σ) :
    ((receive .datagram fd b).run k host).1.verdict = .keep := by
  simp only [receive, receiveDatagram, Program.run_bind]
  split <;> rfl

/-- How an attempt goes, with the pool and the host that it leaves. -/
inductive Attempts (k : Kernel σ) (kind : TaskKind) (fd : Fd) (pool : BufferPool) (host : σ) :
    Attempt → BufferPool → σ → Prop where
  /-- There is no buffer, and **nothing is received**. -/
  | exhausted (hfull : pool.limit ≤ pool.outstanding) :
      Attempts k kind fd pool host ⟨.keep, none⟩ pool host
  /-- A buffer cannot be made, and nothing is received. -/
  | panics (next : BufferPool) (hlarge : maxStorage < pool.capacity)
      (hnext : pool.Leads next (pool.outstanding + 1)) :
      Attempts k kind fd pool host ⟨.panic, none⟩ next host
  | delivers (b : Buffer) (next : BufferPool) (origin : Origin)
      (hroom : pool.outstanding < pool.limit) (hcapacity : b.capacity = pool.capacity)
      (horigin : ((receive kind fd b).run k host).1.origin = some origin)
      (hnext : pool.Leads next (pool.outstanding + 1)) :
      Attempts k kind fd pool host
        ⟨((receive kind fd b).run k host).1.verdict,
          some ⟨((receive kind fd b).run k host).1.buffer, origin⟩⟩
        next ((receive kind fd b).run k host).2
  /-- Nothing is delivered, and the buffer goes back. -/
  | returns (b : Buffer) (next : BufferPool) (hroom : pool.outstanding < pool.limit)
      (hcapacity : b.capacity = pool.capacity)
      (horigin : ((receive kind fd b).run k host).1.origin = none)
      (hnext : pool.Leads next pool.outstanding) :
      Attempts k kind fd pool host ⟨((receive kind fd b).run k host).1.verdict, none⟩ next
        ((receive kind fd b).run k host).2

/-- **Every attempt** is one of the ways of `Attempts`, whatever the kernel answers. -/
theorem attempt_attempts (k : Kernel σ) (kind : TaskKind) (fd : Fd) (hpool : pool.Uniform)
    (host : σ) :
    Attempts k kind fd pool host ((attempt kind fd pool).run k host).1.1
      ((attempt kind fd pool).run k host).1.2 ((attempt kind fd pool).run k host).2 := by
  have hcases := allocate_allocates hpool
  unfold attempt
  generalize pool.allocate = answer at hcases ⊢
  obtain ⟨allocation, next⟩ := answer
  cases hcases with
  | exhausted hfull => exact .exhausted hfull
  | panicked _ hlarge hnext => exact .panics next hlarge hnext
  | granted b _ hroom hcapacity hnext =>
      simp only [Program.run_bind]
      cases horigin : ((receive kind fd b).run k host).1.origin with
      | some origin => exact .delivers b next origin hroom hcapacity horigin hnext
      | none =>
          refine .returns b _ hroom hcapacity horigin (hnext.release ?_)
          rw [capacity_receive, hcapacity]

/-- Every attempt leaves a pool of the same kind. -/
theorem Attempts.uniform {attempt : Attempt} {next : BufferPool} {host' : σ} (hpool : pool.Uniform)
    (h : Attempts k kind fd pool host attempt next host') :
    next.Uniform ∧ next.capacity = pool.capacity := by
  cases h with
  | exhausted hfull => exact ⟨hpool, rfl⟩
  | panics _ hlarge hnext => exact ⟨hnext.uniform, hnext.capacity⟩
  | delivers b _ origin hroom hcapacity horigin hnext => exact ⟨hnext.uniform, hnext.capacity⟩
  | returns b _ hroom hcapacity horigin hnext => exact ⟨hnext.uniform, hnext.capacity⟩

/-- No attempt on datagrams ends a registration. -/
theorem Attempts.datagram_ne_retire {attempt : Attempt} {next : BufferPool} {host' : σ}
    (h : Attempts k .datagram fd pool host attempt next host') : attempt.verdict ≠ .retire := by
  cases h with
  | exhausted hfull => exact Verdict.noConfusion
  | panics _ hlarge hnext => exact Verdict.noConfusion
  | delivers b _ origin => rw [datagram_keeps]; exact Verdict.noConfusion
  | returns b => rw [datagram_keeps]; exact Verdict.noConfusion

end ReceiveTask

end ReceiveReactor
