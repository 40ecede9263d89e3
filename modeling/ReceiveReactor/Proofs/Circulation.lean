import Mathlib.Data.List.GetD
import Mathlib.Data.List.Nodup
import Mathlib.Data.List.Perm.Basic
import ReceiveReactor.Buffer

/-!
# A pool and the buffers that are out

Storage circulates: an allocation takes it out of the pool, a dropped buffer brings it
back.  A pool knows its storages by their bytes only.  The **books** of a pool give each
storage a number when it is made, and follow the number wherever the storage goes.

* `Circulation.step`, `Circulation.runFrom` — allocations, drops and uses of buffers in
  any order;
* `Circulation.peak` — how many buffers were out at once at most;
* `Books.step` — the same for numbered storages, of which each has its bytes once;
* `Books.Kept` — each storage is in one place, and **what waits is latest released
  first**;
* `Books.circulation_step` — the books **show the pool and its buffers** after every step;
* `Circulation.storages_accounted` — all of that, after every run.
-/

namespace ReceiveReactor

/-- A pool, and the buffers that are out, the latest first. -/
structure Circulation where
  pool : BufferPool
  out : List Buffer := []
deriving DecidableEq, Repr

namespace Circulation

/-- What the owner of a buffer does to it. -/
inductive Use where
  | setLen (n : Nat)
  | writeSpare (offset : Nat) (data : Bytes)
  | writeFilled (data : Bytes)
deriving DecidableEq, Repr

/-- A buffer after its use. -/
def Use.apply : Use → Buffer → Buffer
  | setLen n, b => b.setLen n
  | writeSpare offset data, b => (b.writeSpare offset data).1
  | writeFilled data, b => (b.writeFilled data).1

/-- What can happen next.  A buffer is named by its place among those that are out. -/
inductive Action where
  | allocate
  | drop (i : Nat)
  | use (i : Nat) (u : Use)
deriving DecidableEq, Repr

/-- One action, with what an allocation comes to. -/
def step (s : Circulation) : Action → List Allocation × Circulation
  | .allocate =>
    match s.pool.allocate with
    | (.granted b, pool) => ([.granted b], ⟨pool, b :: s.out⟩)
    | (refusal, pool) => ([refusal], { s with pool })
  | .drop i =>
    match s.out[i]? with
    | some b => ([], ⟨s.pool.release b, s.out.eraseIdx i⟩)
    | none => ([], s)
  | .use i u =>
    match s.out[i]? with
    | some b => ([], { s with out := s.out.set i (u.apply b) })
    | none => ([], s)

/-- Some actions one after the other, with what the allocations come to. -/
def runFrom (s : Circulation) : List Action → List Allocation × Circulation
  | [] => ([], s)
  | a :: as => ((s.step a).1 ++ (runFrom (s.step a).2 as).1, (runFrom (s.step a).2 as).2)

/-- How many buffers were out at once at most. -/
def peak (s : Circulation) : List Action → Nat
  | [] => s.out.length
  | a :: as => max s.out.length (peak (s.step a).2 as)

/-- A pool that has handed out nothing yet. -/
def ofLimits (capacity limit : Nat) : Circulation := { pool := .ofLimits capacity limit }

/-- A use keeps the size of its buffer. -/
theorem Use.capacity_apply (u : Use) (b : Buffer) : (u.apply b).capacity = b.capacity := by
  cases u <;> simp [Use.apply]

/-- A use leaves no more filled than there is. -/
theorem Use.len_apply_le (u : Use) {b : Buffer} (h : b.len ≤ b.capacity) :
    (u.apply b).len ≤ b.capacity := by
  cases u with
  | setLen n => exact b.len_setLen_le n
  | writeSpare offset data => exact h
  | writeFilled data => exact h

/-- What is out at the start counts. -/
theorem le_peak (s : Circulation) (as : List Action) : s.out.length ≤ s.peak as := by
  cases as with
  | nil => exact Nat.le_refl _
  | cons a as => exact Nat.le_max_left _ _

end Circulation

namespace BufferPool

variable {p : BufferPool}

/-- **Nothing is granted past the limit.** -/
theorem allocate_full (h : p.limit ≤ p.outstanding) : p.allocate = (.exhausted, p) :=
  if_pos h

/-- **What was released last** is granted first. -/
theorem allocate_waiting {storage : Bytes} {rest : List Bytes} (h : p.outstanding < p.limit)
    (hfree : p.free = storage :: rest) :
    p.allocate =
      (.granted { storage }, { p with outstanding := p.outstanding + 1, free := rest }) := by
  rw [allocate, if_neg (Nat.not_le.mpr h)]
  simp only [hfree]

/-- New storage is made only when none waits. -/
theorem allocate_new (h : p.outstanding < p.limit) (hfree : p.free = []) :
    p.allocate =
      (if maxStorage < p.capacity then .panicked else .granted { storage := .zeros p.capacity },
        { p with outstanding := p.outstanding + 1 }) := by
  rw [allocate, if_neg (Nat.not_le.mpr h)]
  simp only [hfree]
  split <;> rfl

end BufferPool

/-! ## Numbered storages -/

/-- A storage that is out, by its number, and how much of it is filled. -/
structure Loan where
  storage : Nat
  len : Nat := 0
deriving DecidableEq, Repr

/-- Where every storage is that was ever made. -/
structure Books where
  capacity : Nat
  limit : Nat
  /-- The bytes of each storage, in the order in which they were made. -/
  contents : List Bytes := []
  /-- The storages that wait for reuse. -/
  free : List Nat := []
  /-- The storages that are out. -/
  loans : List Loan := []
  /-- All releases so far, the latest first. -/
  releases : List Nat := []
deriving DecidableEq, Repr

namespace Books

/-- The bytes of a storage. -/
def bytes (k : Books) (n : Nat) : Bytes := k.contents.getD n []

/-- The buffer that a loan is. -/
def buffer (k : Books) (l : Loan) : Buffer := ⟨k.bytes l.storage, l.len⟩

/-- The pool and the buffers that the books show. -/
def circulation (k : Books) : Circulation where
  pool :=
    { capacity := k.capacity
      limit := k.limit
      free := k.free.map k.bytes
      outstanding := k.loans.length }
  out := k.loans.map k.buffer

/-- One action on numbered storages. -/
def step (k : Books) : Circulation.Action → Books
  | .allocate =>
    if k.limit ≤ k.loans.length then k
    else
      match k.free with
      | n :: rest => { k with free := rest, loans := ⟨n, 0⟩ :: k.loans }
      | [] =>
        { k with
          contents := k.contents ++ [.zeros k.capacity]
          loans := ⟨k.contents.length, 0⟩ :: k.loans }
  | .drop i =>
    match k.loans[i]? with
    | some l =>
      { k with
        free := l.storage :: k.free
        loans := k.loans.eraseIdx i
        releases := l.storage :: k.releases }
    | none => k
  | .use i u =>
    match k.loans[i]? with
    | some l =>
      { k with
        contents := k.contents.set l.storage (u.apply (k.buffer l)).storage
        loans := k.loans.set i { l with len := (u.apply (k.buffer l)).len } }
    | none => k

/-- Some actions one after the other. -/
def runFrom (k : Books) : List Circulation.Action → Books
  | [] => k
  | a :: as => runFrom (k.step a) as

/-- The storages that are somewhere: waiting, or out. -/
def places (k : Books) : List Nat := k.free ++ k.loans.map (·.storage)

/-- What the books keep. -/
structure Kept (k : Books) : Prop where
  /-- **Each storage is in exactly one place.** -/
  placed : k.places.Perm (List.range k.contents.length)
  sized : ∀ storage ∈ k.contents, storage.length = k.capacity
  filled : ∀ l ∈ k.loans, l.len ≤ k.capacity
  within : k.loans.length ≤ k.limit
  /-- What waits was released, **the latest first**. -/
  latestFirst : k.free.Pairwise fun m n => k.releases.idxOf m < k.releases.idxOf n

variable {k : Books}

/-! ## One action -/

/-- At the limit an allocation enters nothing in the books. -/
theorem step_full (hfull : k.limit ≤ k.loans.length) : k.step .allocate = k :=
  if_pos hfull

/-- Below it, the storage released last goes out again, with nothing filled. -/
theorem step_waiting {n : Nat} {rest : List Nat} (hroom : k.loans.length < k.limit)
    (hfree : k.free = n :: rest) :
    k.step .allocate = { k with free := rest, loans := ⟨n, 0⟩ :: k.loans } := by
  simp only [step, if_neg (Nat.not_le.mpr hroom), hfree]

/-- When none waits, a new storage of zeros is made. -/
theorem step_new (hroom : k.loans.length < k.limit) (hfree : k.free = []) :
    k.step .allocate =
      { k with
        contents := k.contents ++ [Bytes.zeros k.capacity]
        loans := ⟨k.contents.length, 0⟩ :: k.loans } := by
  simp only [step, if_neg (Nat.not_le.mpr hroom), hfree]

/-- A drop releases the storage of its loan, which waits from then on. -/
theorem step_drop {i : Nat} {l : Loan} (hl : k.loans[i]? = some l) :
    k.step (.drop i) =
      { k with
        free := l.storage :: k.free
        loans := k.loans.eraseIdx i
        releases := l.storage :: k.releases } := by
  simp only [step, hl]

/-- A use changes the bytes and the length of its loan, and **of no other**. -/
theorem step_use {i : Nat} {l : Loan} (hl : k.loans[i]? = some l) (u : Circulation.Use) :
    k.step (.use i u) =
      { k with
        contents := k.contents.set l.storage (u.apply (k.buffer l)).storage
        loans := k.loans.set i { l with len := (u.apply (k.buffer l)).len } } := by
  simp only [step, hl]

/-- What is done to a buffer that is not there does nothing. -/
theorem step_absent {i : Nat} (hl : k.loans[i]? = none) :
    k.step (.drop i) = k ∧ ∀ u, k.step (.use i u) = k := by
  constructor
  · simp only [step, hl]
  · intro u
    simp only [step, hl]

/-! ## Where the storages are -/

/-- No storage is in two places. -/
theorem Kept.nodup (h : k.Kept) : k.places.Nodup :=
  h.placed.nodup_iff.mpr List.nodup_range

/-- Every place is that of a storage that was made. -/
theorem Kept.lt_of_mem (h : k.Kept) {n : Nat} (hn : n ∈ k.places) : n < k.contents.length :=
  List.mem_range.mp (h.placed.mem_iff.mp hn)

/-- A storage on loan is somewhere. -/
theorem mem_places_of_loan {l : Loan} (hl : l ∈ k.loans) : l.storage ∈ k.places :=
  List.mem_append_right _ (List.mem_map_of_mem hl)

/-- Every storage that was made waits or is out. -/
theorem Kept.length_contents (h : k.Kept) :
    k.contents.length = k.free.length + k.loans.length := by
  have hlength := h.placed.length_eq
  rw [List.length_range, places, List.length_append, List.length_map] at hlength
  exact hlength.symm

/-- Every storage has the size of the pool. -/
theorem Kept.length_bytes (h : k.Kept) {n : Nat} (hn : n ∈ k.places) :
    (k.bytes n).length = k.capacity := by
  have hlt := h.lt_of_mem hn
  rw [bytes, List.getD_eq_getElem _ _ hlt]
  exact h.sized _ (List.getElem_mem hlt)

/-- So has every buffer that is out. -/
theorem Kept.capacity_buffer (h : k.Kept) {l : Loan} (hl : l ∈ k.loans) :
    (k.buffer l).capacity = k.capacity :=
  h.length_bytes (mem_places_of_loan hl)

/-- No two loans are of one storage. -/
theorem Kept.storage_inj (h : k.Kept) {i j : Nat} {l l' : Loan} (hi : k.loans[i]? = some l)
    (hj : k.loans[j]? = some l') (hsame : l.storage = l'.storage) : i = j := by
  have hnodup : (k.loans.map (·.storage)).Nodup := (List.nodup_append.mp h.nodup).2.1
  obtain ⟨hlt, rfl⟩ := List.getElem?_eq_some_iff.mp hi
  have hnumber : (k.loans.map (·.storage))[i]? = (k.loans.map (·.storage))[j]? := by
    rw [List.getElem?_map, List.getElem?_map, hi, hj, Option.map_some, Option.map_some, hsame]
  exact (List.getElem?_inj (by simpa using hlt) hnodup).mp hnumber

/-- No loan is of a storage that waits. -/
theorem Kept.not_mem_free (h : k.Kept) {l : Loan} (hl : l ∈ k.loans) : l.storage ∉ k.free :=
  fun hfree =>
    (List.nodup_append.mp h.nodup).2.2 _ hfree _ (List.mem_map_of_mem hl) rfl

/-! ## What each action keeps -/

/-- Empty books keep all of that. -/
theorem kept_start (capacity limit : Nat) : Kept { capacity, limit } where
  placed := List.Perm.refl _
  sized := fun _ h => nomatch h
  filled := fun _ h => nomatch h
  within := Nat.zero_le _
  latestFirst := List.Pairwise.nil

/-- **An allocation keeps the books**, whether it finds a storage, makes one, or is refused. -/
theorem Kept.allocate (h : k.Kept) : (k.step .allocate).Kept := by
  rcases Nat.lt_or_ge k.loans.length k.limit with hroom | hfull
  · cases hfree : k.free with
    | cons n rest =>
        have hmoved : (rest ++ n :: k.loans.map (·.storage)).Perm k.places := by
          rw [places, hfree]
          exact List.perm_middle
        rw [step_waiting hroom hfree]
        exact
          { placed := hmoved.trans h.placed
            sized := h.sized
            filled := List.forall_mem_cons.mpr ⟨Nat.zero_le _, h.filled⟩
            within := hroom
            latestFirst := (List.pairwise_cons.mp (hfree ▸ h.latestFirst)).2 }
    | nil =>
        have hplaced : (k.loans.map (·.storage)).Perm (List.range k.contents.length) := by
          have hplaces := h.placed
          rwa [places, hfree, List.nil_append] at hplaces
        have hmore : (k.contents.length :: k.loans.map (·.storage)).Perm
            (List.range (k.contents.length + 1)) := by
          rw [List.range_succ]
          exact (hplaced.cons _).trans (List.perm_append_singleton _ _).symm
        rw [step_new hroom hfree]
        refine
          { placed := ?_
            sized := ?_
            filled := List.forall_mem_cons.mpr ⟨Nat.zero_le _, h.filled⟩
            within := hroom
            latestFirst := h.latestFirst }
        · simpa [places, hfree] using hmore
        · intro storage hstorage
          rcases List.mem_append.mp hstorage with hold | hnew
          · exact h.sized _ hold
          · rw [List.mem_singleton.mp hnew]
            exact Bytes.length_zeros _
  · rw [step_full hfull]
    exact h

/-- So does a drop: its storage is the latest to be released. -/
theorem Kept.drop (h : k.Kept) (i : Nat) : (k.step (.drop i)).Kept := by
  cases hl : k.loans[i]? with
  | none =>
      rw [(step_absent hl).1]
      exact h
  | some l =>
      have hmem : l ∈ k.loans := List.mem_of_getElem? hl
      have hloans : (l :: k.loans.eraseIdx i).Perm k.loans := by
        obtain ⟨hlt, rfl⟩ := List.getElem?_eq_some_iff.mp hl
        exact List.getElem_cons_eraseIdx_perm hlt
      have hmoved : (l.storage :: k.free ++ (k.loans.eraseIdx i).map Loan.storage).Perm
          k.places := by
        refine List.perm_middle.symm.trans ?_
        exact List.Perm.append_left k.free (hloans.map Loan.storage)
      -- Every storage that waited already has one more release before it.
      have hlater : ∀ n ∈ k.free,
          (l.storage :: k.releases).idxOf n = k.releases.idxOf n + 1 := by
        intro n hn
        have hne : l.storage ≠ n := by
          rintro rfl
          exact h.not_mem_free hmem hn
        rw [List.idxOf_cons_ne _ hne]
      rw [step_drop hl]
      refine
        { placed := hmoved.trans h.placed
          sized := h.sized
          filled := fun l' hl' => h.filled l' (List.mem_of_mem_eraseIdx hl')
          within := Nat.le_trans (List.length_eraseIdx_le _ _) h.within
          latestFirst := List.pairwise_cons.mpr ⟨?_, ?_⟩ }
      · intro n hn
        rw [hlater n hn, List.idxOf_cons_self]
        exact Nat.zero_lt_succ _
      · refine h.latestFirst.imp_of_mem ?_
        intro m n hm hn hlt
        rw [hlater m hm, hlater n hn]
        exact Nat.succ_lt_succ hlt

/-- A use changes how much of a storage is filled, not which storage it is. -/
theorem map_storage_set {i : Nat} {l : Loan} (hl : k.loans[i]? = some l) (len : Nat) :
    (k.loans.set i { l with len }).map (·.storage) = k.loans.map (·.storage) := by
  refine List.ext_getElem? fun j => ?_
  rw [List.getElem?_map, List.getElem?_map, List.getElem?_set]
  split
  · next hij =>
      subst hij
      rw [if_pos (List.getElem?_eq_some_iff.mp hl).1, hl]
      rfl
  · rfl

/-- So does a use, which leaves every storage where it is. -/
theorem Kept.use (h : k.Kept) (i : Nat) (u : Circulation.Use) : (k.step (.use i u)).Kept := by
  cases hl : k.loans[i]? with
  | none =>
      rw [(step_absent hl).2]
      exact h
  | some l =>
      have hmem : l ∈ k.loans := List.mem_of_getElem? hl
      have hcapacity : (u.apply (k.buffer l)).capacity = k.capacity :=
        (u.capacity_apply _).trans (h.capacity_buffer hmem)
      have hlen : (u.apply (k.buffer l)).len ≤ k.capacity := by
        rw [← h.capacity_buffer hmem]
        refine u.len_apply_le ?_
        rw [h.capacity_buffer hmem]
        exact h.filled l hmem
      rw [step_use hl]
      refine
        { placed := ?_
          sized := ?_
          filled := ?_
          within := by simpa using h.within
          latestFirst := h.latestFirst }
      · rw [places, map_storage_set hl, List.length_set]
        exact h.placed
      · intro storage hstorage
        rcases List.mem_or_eq_of_mem_set hstorage with hold | rfl
        · exact h.sized _ hold
        · exact hcapacity
      · intro l' hl'
        rcases List.mem_or_eq_of_mem_set hl' with hold | rfl
        · exact h.filled l' hold
        · exact hlen

/-- **Every action keeps the books.** -/
theorem Kept.next (h : k.Kept) (a : Circulation.Action) : (k.step a).Kept := by
  cases a with
  | allocate => exact h.allocate
  | drop i => exact h.drop i
  | use i u => exact h.use i u

/-! ## The pool that the books show -/

/-- Writing one storage leaves the bytes of all others alone. -/
theorem getD_set_of_ne {m n : Nat} (hne : m ≠ n) (contents : List Bytes) (storage : Bytes) :
    (contents.set m storage).getD n [] = contents.getD n [] := by
  rw [List.getD_eq_getElem?_getD, List.getElem?_set_ne hne, List.getD_eq_getElem?_getD]

/-- **An allocation on the books** is one of the pool that they show, unless that
panics. -/
theorem Kept.circulation_allocate (h : k.Kept)
    (hcalm : .panicked ∉ (k.circulation.step .allocate).1) :
    (k.step .allocate).circulation = (k.circulation.step .allocate).2 := by
  rcases Nat.lt_or_ge k.loans.length k.limit with hroom | hfull
  · cases hfree : k.free with
    | cons n rest =>
        have hwaiting : k.circulation.pool.free = k.bytes n :: rest.map k.bytes := by
          simp only [circulation, hfree, List.map_cons]
        have hallocate := BufferPool.allocate_waiting hroom hwaiting
        rw [step_waiting hroom hfree]
        simp only [Circulation.step, hallocate]
        rfl
    | nil =>
        have hnone : k.circulation.pool.free = [] := by
          simp only [circulation, hfree, List.map_nil]
        have hallocate := BufferPool.allocate_new hroom hnone
        have hsmall : ¬ BufferPool.maxStorage < k.circulation.pool.capacity := by
          intro hlarge
          rw [if_pos hlarge] at hallocate
          simp [Circulation.step, hallocate] at hcalm
        rw [if_neg hsmall] at hallocate
        have hmade : (k.contents ++ [Bytes.zeros k.capacity]).getD k.contents.length [] =
            Bytes.zeros k.capacity := by
          simp
        have hothers : ∀ l ∈ k.loans,
            (k.contents ++ [Bytes.zeros k.capacity]).getD l.storage [] = k.bytes l.storage :=
          fun l hl => List.getD_append _ _ _ _ (h.lt_of_mem (mem_places_of_loan hl))
        rw [step_new hroom hfree]
        simp only [Circulation.step, hallocate]
        refine congrArg₂ Circulation.mk ?_ (congrArg₂ List.cons ?_ ?_)
        · simp only [circulation, hfree, List.map_nil, List.length_cons]
        · exact congrArg (Buffer.mk · 0) hmade
        · exact List.map_congr_left fun l hl => congrArg (Buffer.mk · l.len) (hothers l hl)
  · have hallocate := BufferPool.allocate_full (p := k.circulation.pool) hfull
    rw [step_full hfull]
    simp only [Circulation.step, hallocate]

/-- The buffer at a place is the loan there. -/
theorem getElem?_out (k : Books) (i : Nat) :
    k.circulation.out[i]? = (k.loans[i]?).map k.buffer :=
  List.getElem?_map

/-- **A drop on the books** is one of a buffer that they show. -/
theorem circulation_drop (k : Books) (i : Nat) :
    (k.step (.drop i)).circulation = (k.circulation.step (.drop i)).2 := by
  have hout := k.getElem?_out i
  cases hl : k.loans[i]? with
  | none =>
      rw [hl] at hout
      rw [(step_absent hl).1]
      simp only [Circulation.step, hout, Option.map_none]
  | some l =>
      have hlt : i < k.loans.length := (List.getElem?_eq_some_iff.mp hl).1
      rw [hl] at hout
      rw [step_drop hl]
      simp only [Circulation.step, hout, Option.map_some]
      refine congrArg₂ Circulation.mk (congrArg (BufferPool.mk _ _ _) ?_) ?_
      · exact List.length_eraseIdx_of_lt hlt
      · exact (List.eraseIdx_map _ _ _).symm

/-- **A use on the books** is one of a buffer that they show.  It touches the bytes of no
other storage. -/
theorem Kept.circulation_use (h : k.Kept) (i : Nat) (u : Circulation.Use) :
    (k.step (.use i u)).circulation = (k.circulation.step (.use i u)).2 := by
  have hout := k.getElem?_out i
  cases hl : k.loans[i]? with
  | none =>
      rw [hl] at hout
      rw [(step_absent hl).2]
      simp only [Circulation.step, hout, Option.map_none]
  | some l =>
      have hlt : i < k.loans.length := (List.getElem?_eq_some_iff.mp hl).1
      have hmem : l ∈ k.loans := List.mem_of_getElem? hl
      have hmade : l.storage < k.contents.length := h.lt_of_mem (mem_places_of_loan hmem)
      rw [hl] at hout
      rw [step_use hl]
      simp only [Circulation.step, hout, Option.map_some]
      refine congrArg₂ Circulation.mk (congrArg₂ (BufferPool.mk _ _) ?_ ?_) ?_
      · refine List.map_congr_left fun n hn => getD_set_of_ne ?_ _ _
        rintro rfl
        exact h.not_mem_free hmem hn
      · exact List.length_set
      · refine List.ext_getElem? fun j => ?_
        rw [List.getElem?_map, List.getElem?_set, List.getElem?_set]
        split
        · next hij =>
            subst hij
            simp [circulation, buffer, bytes, hlt, hmade]
        · next hij =>
            rw [getElem?_out]
            cases hl' : k.loans[j]? with
            | none => rfl
            | some l' =>
                have hne : l.storage ≠ l'.storage := fun hsame => hij (h.storage_inj hl hl' hsame)
                exact congrArg (fun bs => some (Buffer.mk bs l'.len)) (getD_set_of_ne hne _ _)

/-- **The books show the pool and its buffers after every action.** -/
theorem Kept.circulation_step (h : k.Kept) {a : Circulation.Action}
    (hcalm : .panicked ∉ (k.circulation.step a).1) :
    (k.step a).circulation = (k.circulation.step a).2 := by
  cases a with
  | allocate => exact h.circulation_allocate hcalm
  | drop i => exact circulation_drop k i
  | use i u => exact h.circulation_use i u

/-! ## How many storages are made -/

/-- **New storage is made for a new peak only.** -/
theorem Kept.length_contents_step (h : k.Kept) (a : Circulation.Action) :
    (k.step a).contents.length = max k.contents.length (k.step a).loans.length := by
  have hmade := h.length_contents
  have hafter := (h.next a).length_contents
  -- Only an allocation from an empty free list makes storage; there all of it is out.
  have hcases : (k.step a).contents.length = k.contents.length ∨
      (k.step a).contents.length = k.contents.length + 1 ∧ (k.step a).free = [] := by
    cases a with
    | allocate =>
        rcases Nat.lt_or_ge k.loans.length k.limit with hroom | hfull
        · cases hfree : k.free with
          | cons n rest =>
              rw [step_waiting hroom hfree]
              exact Or.inl rfl
          | nil =>
              rw [step_new hroom hfree]
              exact Or.inr ⟨List.length_append, hfree⟩
        · rw [step_full hfull]
          exact Or.inl rfl
    | drop i =>
        cases hl : k.loans[i]? with
        | none => rw [(step_absent hl).1]; exact Or.inl rfl
        | some l => rw [step_drop hl]; exact Or.inl rfl
    | use i u =>
        cases hl : k.loans[i]? with
        | none => rw [(step_absent hl).2]; exact Or.inl rfl
        | some l => rw [step_use hl]; exact Or.inl List.length_set
  rcases hcases with hsame | ⟨hmore, hnone⟩
  · omega
  · rw [hnone, List.length_nil] at hafter
    omega

/-- What holds of the books and of the pool at the end of a run. -/
theorem Kept.runFrom (h : k.Kept) {as : List Circulation.Action}
    (hcalm : .panicked ∉ (k.circulation.runFrom as).1) :
    (Books.runFrom k as).Kept ∧
      (Books.runFrom k as).circulation = (k.circulation.runFrom as).2 ∧
      (Books.runFrom k as).contents.length = max k.contents.length (k.circulation.peak as) := by
  have hout (k : Books) : k.circulation.out.length = k.loans.length := List.length_map _
  induction as generalizing k with
  | nil =>
      refine ⟨h, rfl, (Nat.max_eq_left ?_).symm⟩
      show k.circulation.out.length ≤ k.contents.length
      rw [hout, h.length_contents]
      exact Nat.le_add_left _ _
  | cons a as ih =>
      simp only [Circulation.runFrom, List.mem_append, not_or] at hcalm
      have hshown := h.circulation_step hcalm.1
      rw [← hshown] at hcalm
      obtain ⟨hkept, hlast, hpeak⟩ := ih (h.next a) hcalm.2
      refine ⟨hkept, ?_, ?_⟩
      · rw [Books.runFrom, hlast, hshown]
        rfl
      · have hmade := h.length_contents
        have hnext := (k.step a).circulation.le_peak as
        rw [Books.runFrom, hpeak, h.length_contents_step, Circulation.peak, ← hshown, hout]
        rw [hout] at hnext
        omega

/-- **What an allocation grants**: an empty buffer, of the storage that waits in front, or
of a new one. -/
theorem Kept.granted (h : k.Kept) {b : Buffer}
    (hgranted : k.circulation.pool.allocate.1 = .granted b) :
    b.len = 0 ∧ b.capacity = k.capacity ∧
      ∀ n rest, k.free = n :: rest → b.storage = k.bytes n ∧ (k.step .allocate).free = rest := by
  rcases Nat.lt_or_ge k.loans.length k.limit with hroom | hfull
  · cases hfree : k.free with
    | cons n rest =>
        have hwaiting : k.circulation.pool.free = k.bytes n :: rest.map k.bytes := by
          simp only [circulation, hfree, List.map_cons]
        rw [BufferPool.allocate_waiting hroom hwaiting] at hgranted
        obtain rfl := Allocation.granted.inj hgranted
        refine ⟨rfl, h.length_bytes ?_, ?_⟩
        · rw [places, hfree]
          exact List.mem_cons_self
        · rintro m more ⟨⟩
          rw [step_waiting hroom hfree]
          exact ⟨rfl, rfl⟩
    | nil =>
        have hnone : k.circulation.pool.free = [] := by
          simp only [circulation, hfree, List.map_nil]
        rw [BufferPool.allocate_new hroom hnone] at hgranted
        split at hgranted
        · cases hgranted
        · obtain rfl := Allocation.granted.inj hgranted
          exact ⟨rfl, Bytes.length_zeros _, fun _ _ hsome => nomatch hsome⟩
  · rw [BufferPool.allocate_full (p := k.circulation.pool) hfull] at hgranted
    cases hgranted

/-- **Nothing is granted exactly if** as many buffers are out as there may be. -/
theorem Kept.exhausted_iff (h : k.Kept) :
    k.circulation.pool.allocate.1 = .exhausted ↔ k.loans.length = k.limit := by
  constructor
  · intro hexhausted
    refine Nat.le_antisymm h.within (Nat.not_lt.mp fun hroom => ?_)
    cases hfree : k.circulation.pool.free with
    | cons storage rest =>
        rw [BufferPool.allocate_waiting hroom hfree] at hexhausted
        cases hexhausted
    | nil =>
        rw [BufferPool.allocate_new hroom hfree] at hexhausted
        split at hexhausted <;> cases hexhausted
  · intro hall
    rw [BufferPool.allocate_full (p := k.circulation.pool) (Nat.le_of_eq hall.symm)]

end Books

namespace Circulation

/-- What holds of a pool, of the buffers that are out, and of the numbered storages
behind both. -/
structure Accounted (capacity limit peak : Nat) (k : Books) (s : Circulation) : Prop where
  capacity_eq : s.pool.capacity = capacity
  limit_eq : s.pool.limit = limit
  /-- The pool and the buffers **are the storages of the books**, each where its number
  is. -/
  shown : k.circulation = s
  /-- **Each storage is in exactly one place**: it waits, or it is in one buffer. -/
  placed : (k.free ++ k.loans.map (·.storage)).Perm (List.range k.contents.length)
  sized : ∀ storage ∈ k.contents, storage.length = capacity
  /-- What waits was released, the latest first. -/
  latestFirst : k.free.Pairwise fun m n => k.releases.idxOf m < k.releases.idxOf n
  /-- **As many storages were made** as buffers were out at once at most. -/
  made : k.contents.length = s.pool.free.length + s.pool.outstanding
  peak_eq : s.pool.free.length + s.pool.outstanding = peak
  /-- **The pool counts the buffers that are out**, and a release never counts below
  zero. -/
  outstanding : s.pool.outstanding = s.out.length
  released : ∀ b ∈ s.out, (s.pool.release b).outstanding + 1 = s.pool.outstanding
  within : s.out.length ≤ limit
  exhausted_iff : s.pool.allocate.1 = .exhausted ↔ s.out.length = limit
  /-- Nothing reads past the end of a buffer. -/
  fits : ∀ b ∈ s.out, b.len ≤ b.capacity ∧ b.capacity = capacity
  /-- **What is granted is empty**, and what was released last of all that waits. -/
  granted : ∀ b, s.pool.allocate.1 = .granted b →
    b.len = 0 ∧ b.capacity = capacity ∧
      ∀ n rest, k.free = n :: rest → b.storage = k.bytes n ∧ (k.step .allocate).free = rest

/-- An action leaves what the books were made with. -/
theorem limits_step (k : Books) (a : Action) :
    (k.step a).capacity = k.capacity ∧ (k.step a).limit = k.limit := by
  cases a with
  | allocate =>
      simp only [Books.step]
      split
      · exact ⟨rfl, rfl⟩
      · split <;> exact ⟨rfl, rfl⟩
  | drop i =>
      simp only [Books.step]
      split <;> exact ⟨rfl, rfl⟩
  | use i u =>
      simp only [Books.step]
      split <;> exact ⟨rfl, rfl⟩

/-- Capacity and limit never change. -/
theorem limits_runFrom (k : Books) (as : List Action) :
    (k.runFrom as).capacity = k.capacity ∧ (k.runFrom as).limit = k.limit := by
  induction as generalizing k with
  | nil => exact ⟨rfl, rfl⟩
  | cons a as ih =>
      obtain ⟨hcapacity, hlimit⟩ := limits_step k a
      obtain ⟨hcapacity', hlimit'⟩ := ih (k.step a)
      exact ⟨hcapacity'.trans hcapacity, hlimit'.trans hlimit⟩

/-- **Every storage of a pool is accounted for**, after any allocations, drops and uses of
buffers, as long as no allocation panicked. -/
theorem storages_accounted (capacity limit : Nat) (as : List Action)
    (hcalm : .panicked ∉ ((ofLimits capacity limit).runFrom as).1) :
    Accounted capacity limit ((ofLimits capacity limit).peak as)
      (Books.runFrom { capacity, limit } as) ((ofLimits capacity limit).runFrom as).2 := by
  obtain ⟨hkept, hshown, hpeak⟩ := (Books.kept_start capacity limit).runFrom hcalm
  have hcapacity : (Books.runFrom { capacity, limit } as).capacity = capacity :=
    (limits_runFrom _ as).1
  have hlimit : (Books.runFrom { capacity, limit } as).limit = limit := (limits_runFrom _ as).2
  have hstart : Books.circulation { capacity, limit } = ofLimits capacity limit := rfl
  rw [hstart] at hshown hpeak
  rw [← hshown]
  generalize Books.runFrom { capacity, limit } as = k at hkept hpeak hcapacity hlimit ⊢
  have hout : k.circulation.out.length = k.loans.length := List.length_map _
  have hfree : k.circulation.pool.free.length = k.free.length := List.length_map _
  have hmade : k.contents.length =
      k.circulation.pool.free.length + k.circulation.pool.outstanding := by
    rw [hfree]
    exact hkept.length_contents
  exact
    { capacity_eq := hcapacity
      limit_eq := hlimit
      shown := rfl
      placed := hkept.placed
      sized := fun storage hs => (hkept.sized storage hs).trans hcapacity
      latestFirst := hkept.latestFirst
      made := hmade
      peak_eq := by
        rw [← hmade, hpeak]
        exact Nat.max_eq_right (Nat.zero_le _)
      outstanding := hout.symm
      released := by
        intro b hb
        have hsome : 0 < k.loans.length := hout ▸ List.length_pos_of_mem hb
        exact Nat.sub_add_cancel hsome
      within := by
        rw [hout, ← hlimit]
        exact hkept.within
      exhausted_iff := by
        rw [hout, ← hlimit]
        exact hkept.exhausted_iff
      fits := by
        intro b hb
        obtain ⟨l, hl, rfl⟩ := List.mem_map.mp hb
        rw [hkept.capacity_buffer hl]
        exact ⟨hkept.filled l hl, hcapacity⟩
      granted := by
        rw [← hcapacity]
        exact fun b hb => hkept.granted hb }

/-- Two buffers of four bytes, and a third that is refused.  The first storage to be made
comes back last and is granted first, with what was written into it. -/
def borrowed : List Action :=
  [.allocate, .use 0 (.writeSpare 1 [7, 8]), .use 0 (.setLen 9), .use 0 (.writeFilled [6]),
    .allocate, .allocate, .drop 0, .drop 0, .allocate, .drop 3]

/-- Two buffers are out at once at most, and the one that comes back last is out again with
the bytes that it came back with. -/
theorem storages_accounted_borrowed :
    (.panicked ∉ ((ofLimits 4 2).runFrom borrowed).1) ∧
      Accounted 4 2 ((ofLimits 4 2).peak borrowed)
        (Books.runFrom { capacity := 4, limit := 2 } borrowed)
        ((ofLimits 4 2).runFrom borrowed).2 ∧
      (ofLimits 4 2).peak borrowed = 2 ∧
      ((ofLimits 4 2).runFrom borrowed).2.out = [⟨[6, 7, 8, 0], 0⟩] ∧
      Books.runFrom { capacity := 4, limit := 2 } borrowed =
        ⟨4, 2, [[6, 7, 8, 0], [0, 0, 0, 0]], [1], [⟨0, 0⟩], [0, 1]⟩ := by
  have hcalm : .panicked ∉ ((ofLimits 4 2).runFrom borrowed).1 := by decide
  exact ⟨hcalm, storages_accounted 4 2 borrowed hcalm, by decide, by decide, by decide⟩

end Circulation

end ReceiveReactor
