import ReceiveReactor.Proofs.Circulation

/-!
# Allocations that fail

An allocation counts its buffer first, and finds or makes the storage after that.  One that
is refused at the limit has counted nothing yet.  One whose storage cannot be made has
counted **a buffer that does not exist**, and no drop takes that back.

* `BufferPool.AllocationCase` — the four ways in which an allocation can go;
* `Circulation.Counts.runFrom` — a pool counts the buffers that are out **and the allocations
  that panicked**;
* `Circulation.runFrom_barren` — a pool of buffers that cannot be made panics as often as it
  has slots, and is **exhausted from then on**;
* `Circulation.failure_costs_nothing_iff` — for which pools a failed allocation costs
  nothing.
-/

namespace ReceiveReactor

namespace BufferPool

variable {p q : BufferPool} {result : Allocation}

/-- The ways in which an allocation can go. -/
inductive AllocationCase (p : BufferPool) : Allocation → BufferPool → Prop
  /-- Refused **before anything is counted**. -/
  | exhausted (hfull : p.limit ≤ p.outstanding) : p.AllocationCase .exhausted p
  | reused {storage : Bytes} {rest : List Bytes} (hroom : p.outstanding < p.limit)
      (hfree : p.free = storage :: rest) :
      p.AllocationCase (.granted { storage })
        { p with outstanding := p.outstanding + 1, free := rest }
  | made (hroom : p.outstanding < p.limit) (hfree : p.free = [])
      (hfits : p.capacity ≤ maxStorage) :
      p.AllocationCase (.granted { storage := .zeros p.capacity })
        { p with outstanding := p.outstanding + 1 }
  /-- Counted, and then **no storage can be made**. -/
  | panicked (hroom : p.outstanding < p.limit) (hfree : p.free = [])
      (hlarge : maxStorage < p.capacity) :
      p.AllocationCase .panicked { p with outstanding := p.outstanding + 1 }

/-- **Every allocation is one of these cases.**. -/
theorem allocation_case (p : BufferPool) : p.AllocationCase p.allocate.1 p.allocate.2 := by
  rcases Nat.lt_or_ge p.outstanding p.limit with hroom | hfull
  · cases hfree : p.free with
    | cons storage rest =>
        rw [allocate_waiting hroom hfree]
        exact .reused hroom hfree
    | nil =>
        rw [allocate_new hroom hfree]
        split
        · next hlarge => exact .panicked hroom hfree hlarge
        · next hfits => exact .made hroom hfree (Nat.not_lt.mp hfits)
  · rw [allocate_full hfull]
    exact .exhausted hfull

/-- An allocation leaves what the pool was made with. -/
theorem AllocationCase.made_with (h : p.AllocationCase result q) :
    q.capacity = p.capacity ∧ q.limit = p.limit := by
  cases h <;> exact ⟨rfl, rfl⟩

/-- What is refused at the limit leaves the pool **as it was**. -/
theorem AllocationCase.of_exhausted (h : p.AllocationCase .exhausted q) : q = p := by
  cases h
  rfl

/-- An allocation that panics had a slot and no storage to reuse, and it **took the slot**. -/
theorem AllocationCase.of_panicked (h : p.AllocationCase .panicked q) :
    (p.outstanding < p.limit ∧ p.free = [] ∧ maxStorage < p.capacity) ∧
      q = { p with outstanding := p.outstanding + 1 } := by
  cases h with
  | panicked hroom hfree hlarge => exact ⟨⟨hroom, hfree, hlarge⟩, rfl⟩

end BufferPool

namespace Circulation

variable {s : Circulation} {a : Action} {as : List Action}

/-- An allocation adds what it grants to the buffers that are out. -/
theorem step_allocate (s : Circulation) :
    s.step .allocate = ([s.pool.allocate.1],
      { pool := s.pool.allocate.2
        out := match s.pool.allocate.1 with
          | .granted b => b :: s.out
          | _ => s.out }) := by
  simp only [step]
  generalize s.pool.allocate = answer
  obtain ⟨result, pool⟩ := answer
  cases result <;> rfl

/-- What is done to a buffer allocates nothing. -/
theorem results_eq_nil (h : a ≠ .allocate) : (s.step a).1 = [] := by
  cases a with
  | allocate => exact absurd rfl h
  | drop i | use i u =>
      simp only [step]
      split <;> rfl

/-! ## What a pool counts -/

/-- The pool counts the buffers that are out, and some more that are **lost**. -/
def Counts (s : Circulation) (lost : Nat) : Prop := s.pool.outstanding = s.out.length + lost

/-- A new pool counts nothing. -/
theorem counts_ofLimits (capacity limit : Nat) : (ofLimits capacity limit).Counts 0 := rfl

variable {lost : Nat}

/-- A panicked allocation is counted and out nowhere: it is lost. -/
theorem Counts.step_allocate (h : s.Counts lost) :
    (s.step .allocate).2.Counts (lost + (s.step .allocate).1.count .panicked) := by
  have hways := s.pool.allocation_case
  unfold Counts at h ⊢
  rw [Circulation.step_allocate]
  generalize s.pool.allocate.1 = result, s.pool.allocate.2 = pool at hways
  cases hways with
  | exhausted => exact h
  | reused | made =>
      show s.pool.outstanding + 1 = s.out.length + 1 + lost
      omega
  | panicked =>
      show s.pool.outstanding + 1 = s.out.length + (lost + 1)
      omega

/-- A drop gives its own slot back and no lost one. -/
theorem Counts.step_drop (h : s.Counts lost) (i : Nat) : (s.step (.drop i)).2.Counts lost := by
  simp only [Circulation.step]
  cases hi : s.out[i]? with
  | none => exact h
  | some b =>
      have hlt : i < s.out.length := (List.getElem?_eq_some_iff.mp hi).1
      unfold Counts at h ⊢
      show s.pool.outstanding - 1 = (s.out.eraseIdx i).length + lost
      rw [List.length_eraseIdx_of_lt hlt]
      omega

/-- A use is not counted. -/
theorem Counts.step_use (h : s.Counts lost) (i : Nat) (u : Use) :
    (s.step (.use i u)).2.Counts lost := by
  simp only [Circulation.step]
  cases s.out[i]? with
  | none => exact h
  | some b => exact h.trans (congrArg (· + lost) List.length_set.symm)

/-- **One action.**  What is lost grows by one when an allocation panics, and never
shrinks. -/
theorem Counts.step (h : s.Counts lost) (a : Action) :
    (s.step a).2.Counts (lost + (s.step a).1.count .panicked) := by
  cases a with
  | allocate => exact h.step_allocate
  | drop i =>
      have hnil : (s.step (.drop i)).1 = [] := results_eq_nil nofun
      rw [hnil]
      exact h.step_drop i
  | use i u =>
      have hnil : (s.step (.use i u)).1 = [] := results_eq_nil nofun
      rw [hnil]
      exact h.step_use i u

/-- **Any actions.**  The pool counts the buffers that are out and the allocations that
panicked. -/
theorem Counts.runFrom (h : s.Counts lost) (as : List Action) :
    (s.runFrom as).2.Counts (lost + (s.runFrom as).1.count .panicked) := by
  induction as generalizing s lost with
  | nil => exact h
  | cons a as ih =>
      rw [Circulation.runFrom, List.count_append, ← Nat.add_assoc]
      exact ih (h.step a)

/-! ## Pools of buffers that can be made -/

/-- An action leaves what the pool was made with. -/
theorem made_with_step (s : Circulation) (a : Action) :
    (s.step a).2.pool.capacity = s.pool.capacity ∧ (s.step a).2.pool.limit = s.pool.limit := by
  cases a with
  | allocate =>
      rw [step_allocate]
      exact s.pool.allocation_case.made_with
  | drop i | use i u =>
      simp only [step]
      split <;> exact ⟨rfl, rfl⟩

/-- No actions change what the pool was made with. -/
theorem made_with_runFrom (s : Circulation) (as : List Action) :
    (s.runFrom as).2.pool.capacity = s.pool.capacity ∧
      (s.runFrom as).2.pool.limit = s.pool.limit := by
  induction as generalizing s with
  | nil => exact ⟨rfl, rfl⟩
  | cons a as ih =>
      exact ⟨(ih _).1.trans (s.made_with_step a).1, (ih _).2.trans (s.made_with_step a).2⟩

/-- Where a buffer can be made, no action panics. -/
theorem calm_step (hfits : s.pool.capacity ≤ BufferPool.maxStorage) (a : Action) :
    .panicked ∉ (s.step a).1 := by
  intro hmem
  by_cases ha : a = .allocate
  · have hways := s.pool.allocation_case
    rw [ha, step_allocate] at hmem
    rw [← List.mem_singleton.mp hmem] at hways
    exact absurd hways.of_panicked.1.2.2 (Nat.not_lt.mpr hfits)
  · rw [results_eq_nil ha] at hmem
    cases hmem

/-- A pool whose buffers can be made never panics. -/
theorem calm_runFrom (hfits : s.pool.capacity ≤ BufferPool.maxStorage) (as : List Action) :
    .panicked ∉ (s.runFrom as).1 := by
  induction as generalizing s with
  | nil => exact List.not_mem_nil
  | cons a as ih =>
      have hnext : (s.step a).2.pool.capacity ≤ BufferPool.maxStorage := by
        rw [(s.made_with_step a).1]
        exact hfits
      exact fun hmem => (List.mem_append.mp hmem).elim (calm_step hfits a) (ih hnext)

/-! ## Pools of buffers that cannot be made -/

/-- A pool that has counted `n` buffers and has none. -/
def barren (capacity limit n : Nat) : Circulation :=
  { pool := { capacity, limit, outstanding := n } }

/-- What the allocations of such a pool come to when `room` slots are left. -/
def failures (room calls : Nat) : List Allocation :=
  List.replicate (min room calls) .panicked ++ List.replicate (calls - room) .exhausted

/-- While a slot is left the next call panics. -/
theorem failures_succ_succ (room calls : Nat) :
    failures (room + 1) (calls + 1) = .panicked :: failures room calls := by
  rw [failures, failures, Nat.add_min_add_right, Nat.add_sub_add_right, List.replicate_succ,
    List.cons_append]

/-- After that all calls find the pool exhausted. -/
theorem failures_zero (calls : Nat) : failures 0 calls = List.replicate calls .exhausted := by
  rw [failures, Nat.zero_min, Nat.sub_zero, List.replicate_zero, List.nil_append]

variable {capacity limit n : Nat}

/-- Nothing but an allocation does anything to a barren pool. -/
theorem step_barren_of_ne (h : a ≠ .allocate) :
    (barren capacity limit n).step a = ([], barren capacity limit n) := by
  cases a with
  | allocate => exact absurd rfl h
  | drop i | use i u => rfl

/-- At its limit it is exhausted, **without a single buffer**. -/
theorem step_barren_full (hfull : limit ≤ n) :
    (barren capacity limit n).step .allocate = ([.exhausted], barren capacity limit n) := by
  have hallocate := BufferPool.allocate_full (p := (barren capacity limit n).pool) hfull
  simp only [step, hallocate]

/-- Below it, each allocation panics and takes a slot. -/
theorem step_barren_room (hlarge : BufferPool.maxStorage < capacity) (hroom : n < limit) :
    (barren capacity limit n).step .allocate = ([.panicked], barren capacity limit (n + 1)) := by
  have hallocate := BufferPool.allocate_new (p := (barren capacity limit n).pool) hroom rfl
  rw [if_pos (show BufferPool.maxStorage < (barren capacity limit n).pool.capacity from hlarge)]
    at hallocate
  simp only [step, hallocate]
  rfl

/-- **A barren pool stays barren.**  Each allocation takes a slot for nothing, until none is
left. -/
theorem runFrom_barren (hlarge : BufferPool.maxStorage < capacity) (hn : n ≤ limit)
    (as : List Action) :
    (barren capacity limit n).runFrom as =
      (failures (limit - n) (as.count .allocate),
        barren capacity limit (min limit (n + as.count .allocate))) := by
  induction as generalizing n with
  | nil =>
      rw [List.count_nil, Nat.add_zero, Nat.min_eq_right hn, failures, Nat.min_zero,
        Nat.zero_sub]
      rfl
  | cons a as ih =>
      by_cases ha : a = .allocate
      · subst ha
        rw [runFrom, List.count_cons_self]
        rcases Nat.lt_or_ge n limit with hroom | hfull
        · have hleft : limit - n = limit - (n + 1) + 1 := by omega
          have hcalls : n + (as.count .allocate + 1) = n + 1 + as.count .allocate := by omega
          rw [step_barren_room hlarge hroom, ih hroom, hleft, failures_succ_succ, hcalls]
          rfl
        · obtain rfl : n = limit := Nat.le_antisymm hn hfull
          have hstays : ∀ calls, min n (n + calls) = n :=
            fun calls => Nat.min_eq_left (Nat.le_add_right n calls)
          rw [step_barren_full hfull, ih hn, Nat.sub_self, failures_zero, failures_zero,
            List.replicate_succ, hstays, hstays]
          rfl
      · rw [runFrom, step_barren_of_ne ha, ih hn, List.count_cons_of_ne ha]
        rfl

/-! ## What a failed allocation costs -/

/-- The pool counts exactly the buffers that exist, and an allocation that makes none leaves
count and free list as they were. -/
structure CostsNothing (s : Circulation) : Prop where
  exact : s.pool.outstanding = s.out.length
  failed : (∀ b, s.pool.allocate.1 ≠ .granted b) →
    s.pool.allocate.2.outstanding = s.pool.outstanding ∧ s.pool.allocate.2.free = s.pool.free

/-- What holds after any allocations, drops and uses of buffers. -/
structure FailedAllocations (capacity limit : Nat) (as : List Action) (results : List Allocation)
    (s : Circulation) : Prop where
  /-- **Every panic is counted as a buffer for ever.** -/
  counted : s.pool.outstanding = s.out.length + results.count .panicked
  /-- So the count is exact as long as no allocation panicked, and never again. -/
  exact_iff : s.pool.outstanding = s.out.length ↔ .panicked ∉ results
  /-- What is refused at the limit leaves the pool **as it was**. -/
  exhausted : s.pool.allocate.1 = .exhausted → s.pool.allocate.2 = s.pool
  /-- An allocation panics exactly if a slot is left and no buffer can be made. -/
  panicked_iff : s.pool.allocate.1 = .panicked ↔
    BufferPool.maxStorage < capacity ∧ s.pool.outstanding < limit
  /-- It **takes the slot**, and leaves the rest as it was. -/
  panicked : s.pool.allocate.1 = .panicked →
    s.pool.allocate.2 = { s.pool with outstanding := s.pool.outstanding + 1 }
  /-- Failed allocations cost nothing exactly if none panicked, and none would now. -/
  costs_nothing_iff :
    s.CostsNothing ↔ .panicked ∉ results ∧ s.pool.allocate.1 ≠ .panicked
  /-- A pool whose buffers cannot be made **is used up** by as many calls as it has slots,
  without one buffer. -/
  used_up : BufferPool.maxStorage < capacity →
    results = failures limit (as.count .allocate) ∧
      s = barren capacity limit (min limit (as.count .allocate))

/-- Failed allocations cost nothing just if nothing is lost and the next one does not panic. -/
theorem costsNothing_iff {k : Nat} (h : s.Counts k) :
    s.CostsNothing ↔ k = 0 ∧ s.pool.allocate.1 ≠ .panicked := by
  have hways := s.pool.allocation_case
  unfold Counts at h
  constructor
  · rintro ⟨hexact, hfailed⟩
    refine ⟨by omega, fun hpanicked => ?_⟩
    rw [hpanicked] at hways
    have hmore := (hfailed fun b => by rw [hpanicked]; exact nofun).1
    rw [hways.of_panicked.2] at hmore
    exact absurd hmore (Nat.succ_ne_self _)
  · rintro ⟨rfl, hcalm⟩
    refine ⟨h, fun hfailed => ?_⟩
    cases hresult : s.pool.allocate.1 with
    | granted b => exact absurd hresult (hfailed b)
    | panicked => exact absurd hresult hcalm
    | exhausted =>
        rw [hresult] at hways
        rw [hways.of_exhausted]
        exact ⟨rfl, rfl⟩

/-- What a pool counts, what it was made with and that it is used up if its buffers cannot
be made say **all there is to say** of its failures. -/
theorem FailedAllocations.of_counts {results : List Allocation}
    (hcounts : s.Counts (results.count .panicked)) (hcapacity : s.pool.capacity = capacity)
    (hlimit : s.pool.limit = limit)
    (hused : BufferPool.maxStorage < capacity → results = failures limit (as.count .allocate) ∧
      s = barren capacity limit (min limit (as.count .allocate))) :
    FailedAllocations capacity limit as results s := by
  have hways := s.pool.allocation_case
  have hnone : results.count .panicked = 0 ↔ .panicked ∉ results := List.count_eq_zero
  exact
    { counted := hcounts
      exact_iff := by
        rw [← hnone, hcounts]
        omega
      exhausted := by
        intro hresult
        rw [hresult] at hways
        exact hways.of_exhausted
      panicked_iff := by
        rw [← hcapacity, ← hlimit]
        constructor
        · intro hresult
          rw [hresult] at hways
          exact ⟨hways.of_panicked.1.2.2, hways.of_panicked.1.1⟩
        · rintro ⟨hlarge, hroom⟩
          have hfree : s.pool.free = [] := by
            rw [(hused (hcapacity ▸ hlarge)).2]
            rfl
          rw [BufferPool.allocate_new hroom hfree]
          exact if_pos hlarge
      panicked := by
        intro hresult
        rw [hresult] at hways
        exact hways.of_panicked.2
      costs_nothing_iff := by
        rw [← hnone]
        exact costsNothing_iff hcounts
      used_up := hused }

/-- What holds after a run of a new pool. -/
theorem failedAllocations_runFrom (capacity limit : Nat) (as : List Action) :
    FailedAllocations capacity limit as ((ofLimits capacity limit).runFrom as).1
      ((ofLimits capacity limit).runFrom as).2 := by
  have hcounts := (counts_ofLimits capacity limit).runFrom as
  rw [Nat.zero_add] at hcounts
  obtain ⟨hcapacity, hlimit⟩ := (ofLimits capacity limit).made_with_runFrom as
  refine .of_counts hcounts hcapacity hlimit fun hlarge => ?_
  have hrun := runFrom_barren hlarge (Nat.zero_le limit) as
  rw [Nat.zero_add] at hrun
  exact Prod.mk.inj hrun

/-- **For which pools a failed allocation costs nothing**: for those whose buffers can be
made, and for those that hand out none. -/
theorem failure_costs_nothing_iff (capacity limit : Nat) :
    (∀ as, FailedAllocations capacity limit as ((ofLimits capacity limit).runFrom as).1
      ((ofLimits capacity limit).runFrom as).2) ∧
      ((∀ as, ((ofLimits capacity limit).runFrom as).2.CostsNothing) ↔
        capacity ≤ BufferPool.maxStorage ∨ limit = 0) := by
  have hall := failedAllocations_runFrom capacity limit
  refine ⟨hall, fun hnothing => ?_, fun hpool as => ?_⟩
  · -- The first call decides: it panics unless it fits or there is no slot.
    have hfirst := mt (hall []).panicked_iff.mpr ((hall []).costs_nothing_iff.mp (hnothing [])).2
    rcases Nat.lt_or_ge BufferPool.maxStorage capacity with hlarge | hfits
    · exact Or.inr (Nat.eq_zero_of_not_pos fun hroom => hfirst ⟨hlarge, hroom⟩)
    · exact Or.inl hfits
  · refine (hall as).costs_nothing_iff.mpr ⟨?_, fun hpanicked => ?_⟩
    · rcases Nat.lt_or_ge BufferPool.maxStorage capacity with hlarge | hfits
      · obtain rfl : limit = 0 := hpool.resolve_left (Nat.not_le.mpr hlarge)
        rw [((hall as).used_up hlarge).1, failures_zero]
        exact fun hmem => nomatch List.eq_of_mem_replicate hmem
      · exact calm_runFrom hfits as
    · obtain ⟨hlarge, hroom⟩ := (hall as).panicked_iff.mp hpanicked
      omega

/-- A pool of one buffer that cannot be made.  The first call panics, and the second finds
the pool **exhausted though no buffer was ever out**. -/
theorem oversized_pool_exhausted :
    (ofLimits 0x8000000000000000 1).runFrom [.allocate] =
        ([.panicked], barren 0x8000000000000000 1 1) ∧
      (ofLimits 0x8000000000000000 1).runFrom [.allocate, .allocate] =
        ([.panicked, .exhausted], barren 0x8000000000000000 1 1) ∧
      (barren 0x8000000000000000 1 1).out = [] ∧
      ¬ ((ofLimits 0x8000000000000000 1).runFrom [.allocate]).2.CostsNothing := by
  refine ⟨by decide, by decide, rfl, fun hnothing => ?_⟩
  exact absurd hnothing.exact (by decide)

end Circulation

end ReceiveReactor
