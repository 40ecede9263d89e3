import Mathlib.Data.Finmap
import ReceiveReactor.Proofs.Readiness

/-!
# The readiness set in two columns

A wait takes all slots as one array, so the generations stand in a second column beside it.
Nothing but the index ties a slot to its generation, and the control slot shifts every index
by one.  Here the set is laid out that way, each operation works on both columns by index,
and the two layouts are shown to be **one and the same** through any operations.

* `Columns.insert`, `Columns.remove`, `Columns.wait`, `Columns.collect` — the operations on
  two columns;
* `columns_insert`, `columns_remove`, `columns_wait`, `collect_columns` — what they have to
  do with those on watched descriptors;
* `Columns.IsMap`, `Columns.Changes` — the columns as a finite map, and what the next
  operation makes of their slots;
* `ReadinessSet.columns_are_map` — all of that **after any operations**, whatever the waits
  find.
-/

namespace ReceiveReactor

/-- The slots of a readiness set, the control slot first, and the generations beside them. -/
structure Columns where
  slots : List PollSlot
  generations : List UInt64
deriving DecidableEq, Repr

namespace Columns

open ReadinessSet (swapOut)

/-- A set that watches nothing but the control channel, whose generation is of no use. -/
def ofControl (control : Fd) : Columns := ⟨[⟨control, .input, .none⟩], [0]⟩

/-- How many descriptors are watched; the control slot does not count. -/
def size (c : Columns) : Nat := c.slots.length - 1

/-- The slots of watched descriptors, each with its generation. -/
def watched (c : Columns) : List (PollSlot × UInt64) := (c.slots.zip c.generations).drop 1

/-- Where a descriptor stands in either column.  The control slot is passed over. -/
def position? (c : Columns) (fd : Fd) : Option Nat :=
  ((c.slots.drop 1).findIdx? fun p => p.fd == fd).map (· + 1)

/-- Starts watching a descriptor, or gives it a new generation and no result. -/
def insert (c : Columns) (fd : Fd) (generation : UInt64) : Columns :=
  match c.position? fd with
  | some i =>
    { slots := c.slots.modify i fun p => { p with result := .none }
      generations := c.generations.set i generation }
  | none =>
    { slots := c.slots ++ [⟨fd, .input, .none⟩]
      generations := c.generations ++ [generation] }

/-- Stops watching a descriptor; answers whether it was watched.  In **both** columns the
last element moves into the gap. -/
def remove (c : Columns) (fd : Fd) : Bool × Columns :=
  match c.position? fd with
  | some i => (true, ⟨swapOut i c.slots, swapOut i c.generations⟩)
  | none => (false, c)

/-- The columns with every result forgotten. -/
def forget (c : Columns) : Columns :=
  { c with slots := c.slots.map fun p => { p with result := .none } }

/-- What a wait leaves, given what the kernel answers to it. -/
def waited (c : Columns) : Except Errno (Int × List Events) → Except Errno Nat × Columns
  | .error errno => (.error errno, c.forget)
  | .ok (count, results) =>
    (.ok (wordOfCount count),
      { c with slots := c.slots.mapIdx fun i p => { p with result := (results[i]?).getD .none } })

/-- Waits, without a timeout, until something in the set is ready. -/
def wait (c : Columns) : Program (Except Errno Nat × Columns) := do
  return c.waited (← Program.ask (.poll c.forget.slots (-1)))

/-- Whether the last wait found the control channel readable. -/
def controlReady (c : Columns) : Bool :=
  c.slots.head?.any fun p => p.result.meets .readable

/-- Reports behind those that are there already: one for each slot of a watched descriptor
that the last wait found closed or ready. -/
def collect (c : Columns) (reports : List Readiness) : List Readiness :=
  c.watched.foldl
    (fun reports (p, generation) =>
      if p.result.meets .invalid then reports ++ [.closed p.fd generation]
      else if p.result.meets .readable then reports ++ [.readable p.fd generation]
      else reports)
    reports

end Columns

/-- The slot of a watched descriptor as the wait sees it. -/
def Watch.slot (w : Watch) : PollSlot := ⟨w.fd, .input, w.result⟩

/-- A set without events meets no other. -/
theorem Events.none_meets (a : Events) : Events.none.meets a = false := by
  simp [meets, Events.none]

/-- Two sets of events have one in common with a union if they have with either part. -/
theorem Events.meets_union (a b c : Events) : a.meets (b ∪ c) = (a.meets b || a.meets c) := by
  have hdistrib : a.bits &&& (b.bits ||| c.bits) = a.bits &&& b.bits ||| a.bits &&& c.bits := by
    apply UInt16.toNat_inj.mp
    simp [Nat.and_or_distrib_left]
  show (a.bits &&& (b.bits ||| c.bits) != 0) = _
  rw [hdistrib, Bool.eq_iff_iff]
  simp only [meets, bne_iff_ne, Bool.or_eq_true, ne_eq, UInt16.or_eq_zero_iff, not_and_or]

namespace ReadinessSet

/-- A readiness set in two columns. -/
def columns (s : ReadinessSet) : Columns := ⟨s.slots, 0 :: s.watched.map (·.generation)⟩

/-! ## One layout and the other -/

/-- The slots are the control channel's and then one for each watch. -/
theorem slots_eq (s : ReadinessSet) :
    s.slots = ⟨s.control, .input, s.controlResult⟩ :: s.watched.map Watch.slot := rfl

/-- The columns behind slot 0 are the watches, slot and generation side by side. -/
theorem watched_columns (s : ReadinessSet) :
    s.columns.watched = s.watched.map fun w => (w.slot, w.generation) := by
  simp [Columns.watched, columns, slots_eq, List.zip_map']

/-- Both forms watch the same number of descriptors. -/
@[simp] theorem size_columns (s : ReadinessSet) : s.columns.size = s.size := by
  simp [Columns.size, columns, slots_eq, size]

/-- Both forms tell alike whether the control channel is ready. -/
@[simp] theorem controlReady_columns (s : ReadinessSet) :
    s.columns.controlReady = s.controlReady := by
  simp [Columns.controlReady, columns, slots_eq, controlReady]

/-- A descriptor is found one place later in the columns, since slot 0 is not its. -/
theorem position?_columns (s : ReadinessSet) (fd : Fd) :
    s.columns.position? fd = (s.position? fd).map (· + 1) := by
  simp [Columns.position?, columns, slots_eq, position?, List.findIdx?_map, Watch.slot,
    Function.comp_def]

/-- The slot of a descriptor that is watched again forgets its result. -/
theorem modify_slot {ws : List Watch} {i : Nat} {fd : Fd} (hi : i < ws.length)
    (hfd : ws[i].fd = fd) (g : UInt64) :
    (ws.map Watch.slot).modify i (fun p => { p with result := .none }) =
      (ws.set i { fd, generation := g }).map Watch.slot := by
  apply List.ext_getElem
  · simp
  · intro j hj hj'
    by_cases heq : i = j
    · subst heq
      simpa [Watch.slot] using hfd
    · simp [heq]

/-- A descriptor that is watched again keeps its place **in both columns**. -/
theorem columns_insert (s : ReadinessSet) (fd : Fd) (g : UInt64) :
    s.columns.insert fd g = (s.insert fd g).columns := by
  have hposition := position?_columns s fd
  cases hpos : s.position? fd with
  | none =>
      rw [hpos, Option.map_none] at hposition
      rw [Columns.insert, insert, hposition, hpos]
      simp [columns, slots_eq, Watch.slot]
  | some i =>
      obtain ⟨hi, hfd, -⟩ := List.findIdx?_eq_some_iff_getElem.mp hpos
      rw [hpos, Option.map_some] at hposition
      rw [Columns.insert, insert, hposition, hpos]
      simp only [columns, slots_eq, List.modify_succ_cons, List.set_cons_succ, List.map_set,
        ← modify_slot hi (eq_of_beq hfd) g]

/-- Moving the last element into a gap does not touch the element in front. -/
theorem swapOut_succ_cons {α : Type} {i : Nat} {x : α} {xs : List α} (h : i < xs.length) :
    swapOut (i + 1) (x :: xs) = x :: swapOut i xs := by
  cases hlast : xs.getLast? with
  | none => simp [List.getLast?_eq_none_iff.mp hlast] at h
  | some last =>
      have hne : xs.set i last ≠ [] := by
        intro hnil
        have hlength := congrArg List.length hnil
        rw [List.length_set, List.length_nil] at hlength
        omega
      simp [swapOut, List.getLast?_cons, hlast, List.dropLast_cons_of_ne_nil hne]

/-- Taking out by swapping commutes with a change of every element. -/
theorem map_swapOut {α β : Type} (f : α → β) (i : Nat) (xs : List α) :
    (swapOut i xs).map f = swapOut i (xs.map f) := by
  unfold swapOut
  rw [List.getLast?_map]
  cases xs.getLast? with
  | none => rfl
  | some last => simp [List.map_dropLast, List.map_set]

/-- **Both columns** lose the removed descriptor, and the last slot keeps its generation when
it moves. -/
theorem columns_remove (s : ReadinessSet) (fd : Fd) :
    s.columns.remove fd = ((s.remove fd).1, (s.remove fd).2.columns) := by
  have hposition := position?_columns s fd
  cases hpos : s.position? fd with
  | none =>
      rw [hpos, Option.map_none] at hposition
      rw [Columns.remove, remove, hposition, hpos]
  | some i =>
      obtain ⟨hi, -⟩ := List.findIdx?_eq_some_iff_getElem.mp hpos
      rw [hpos, Option.map_some] at hposition
      rw [Columns.remove, remove, hposition, hpos]
      simp only [columns, slots_eq]
      rw [swapOut_succ_cons (by simpa using hi), swapOut_succ_cons (by simpa using hi),
        map_swapOut, map_swapOut]

/-- Forgetting what was found is the same in both forms. -/
theorem columns_forget (s : ReadinessSet) : s.columns.forget = s.forget.columns := by
  simp [Columns.forget, columns, slots_eq, forget, Watch.slot, Function.comp_def]

/-- Recording what a wait found is the same in both forms. -/
theorem columns_record (s : ReadinessSet) (n : Int) (results : List Events) :
    s.columns.waited (.ok (n, results)) =
      (.ok (wordOfCount n), (s.forget.record results).columns) := by
  have hslots : (s.forget.record results).watched.map Watch.slot =
      (s.watched.map Watch.slot).mapIdx
        fun i p => { p with result := (results[i + 1]?).getD .none } := by
    apply List.ext_getElem <;> simp [record, forget, Watch.slot]
  have hgenerations : (s.forget.record results).watched.map (·.generation) =
      s.watched.map (·.generation) := by
    apply List.ext_getElem <;> simp [record, forget]
  simp only [Columns.waited, columns, slots_eq, List.mapIdx_cons, hslots, hgenerations]
  cases results <;> rfl

/-- A wait is **the same** in either layout, whatever the kernel answers. -/
theorem columns_wait (s : ReadinessSet) :
    s.columns.wait = (do let (answer, t) ← s.wait; return (answer, t.columns)) := by
  have hslots : s.columns.forget.slots = s.forget.slots := by rw [columns_forget]; rfl
  rw [Columns.wait, hslots]
  refine congrArg (Program.call _) (funext fun reply => ?_)
  cases reply with
  | error errno => exact congrArg (fun c => pure (Except.error errno, c)) (columns_forget s)
  | ok reply => exact congrArg pure (columns_record s reply.1 reply.2)

/-- Collecting adds **what the set reports** behind what is there. -/
theorem collect_columns (s : ReadinessSet) (reports : List Readiness) :
    s.columns.collect reports = reports ++ s.ready := by
  rw [Columns.collect, watched_columns, List.foldl_map, ready]
  induction s.watched generalizing reports with
  | nil => simp
  | cons w ws ih =>
      rw [List.foldl_cons, ih, List.filterMap_cons]
      unfold Watch.readiness? Watch.slot
      grind

end ReadinessSet

/-! ## Any operations -/

namespace ReadinessSet

/-- What can be done with a readiness set. -/
inductive Operation where
  | insert (fd : Fd) (generation : UInt64)
  | remove (fd : Fd)
  | wait
deriving DecidableEq, Repr

/-- The set after an operation. -/
def perform (s : ReadinessSet) : Operation → Program ReadinessSet
  | .insert fd generation => pure (s.insert fd generation)
  | .remove fd => pure (s.remove fd).2
  | .wait => do return (← s.wait).2

/-- The set after some operations, one after the other. -/
def performAll (s : ReadinessSet) : List Operation → Program ReadinessSet
  | [] => pure s
  | op :: ops => do performAll (← s.perform op) ops

end ReadinessSet

namespace Columns

open ReadinessSet (Operation)

/-- The columns after an operation. -/
def perform (c : Columns) : Operation → Program Columns
  | .insert fd generation => pure (c.insert fd generation)
  | .remove fd => pure (c.remove fd).2
  | .wait => do return (← c.wait).2

/-- The columns after some operations, one after the other. -/
def performAll (c : Columns) : List Operation → Program Columns
  | [] => pure c
  | op :: ops => do performAll (← c.perform op) ops

/-- A map from descriptors to generations after an operation.  A wait does not change it. -/
def onMap (m : Finmap fun _ : Fd => UInt64) : Operation → Finmap fun _ : Fd => UInt64
  | .insert fd generation => m.insert fd generation
  | .remove fd => m.erase fd
  | .wait => m

/-- The map that some operations make. -/
def mapOf (ops : List Operation) : Finmap fun _ : Fd => UInt64 := ops.foldl onMap ∅

/-- The columns are a finite map from descriptors to generations. -/
structure IsMap (c : Columns) (control : Fd) (m : Finmap fun _ : Fd => UInt64) : Prop where
  aligned : c.slots.length = c.generations.length
  nonempty : 1 ≤ c.slots.length
  control_eq : (c.slots.head?.map (·.fd)) = some control
  /-- **No two slots** of watched descriptors are of one descriptor. -/
  distinct : (c.watched.map (·.1.fd)).Nodup
  lookup : ∀ fd g, m.lookup fd = some g ↔ ∃ p, (p, g) ∈ c.watched ∧ p.fd = fd
  size_eq : c.size = m.keys.card

/-- What the next operation makes of the slots. -/
structure Changes (c : Columns) (m : Finmap fun _ : Fd => UInt64) : Prop where
  removed : ∀ fd, (c.remove fd).1 = decide (fd ∈ m)
  /-- Every other slot keeps its generation **and its result**, also the one that moves. -/
  remove : ∀ fd slot,
    slot ∈ (c.remove fd).2.watched ↔ slot ∈ c.watched ∧ slot.1.fd ≠ fd
  /-- An inserted descriptor has **no result**, also one that had one before. -/
  insert : ∀ fd g slot, slot ∈ (c.insert fd g).watched ↔
    slot = (⟨fd, .input, .none⟩, g) ∨ slot ∈ c.watched ∧ slot.1.fd ≠ fd
  /-- After a wait each slot has its own result, and its own generation still. -/
  waited : ∀ n results, (c.waited (.ok (n, results))).2.generations = c.generations ∧
    ∀ i : Nat, (c.waited (.ok (n, results))).2.slots[i]? =
      c.slots[i]?.map fun p => { p with result := (results[i]?).getD .none }
  /-- After a **failed** wait nothing is ready. -/
  failed : ∀ errno, (c.waited (.error errno)).2.generations = c.generations ∧
    (c.waited (.error errno)).2.slots = c.slots.map (fun p => { p with result := .none }) ∧
    (c.waited (.error errno)).2.controlReady = false ∧
    ∀ reports, (c.waited (.error errno)).2.collect reports = reports
  /-- **One report** for each slot that has something to report, in the order of slots. -/
  collect : ∃ found : List Readiness, (∀ reports, c.collect reports = reports ++ found) ∧
    (found.map (·.fd)).Sublist (c.watched.map (·.1.fd)) ∧
    (∀ fd g, .closed fd g ∈ found ↔
      ∃ p, (p, g) ∈ c.watched ∧ p.fd = fd ∧ p.result.meets .invalid) ∧
    ∀ fd g, .readable fd g ∈ found ↔
      ∃ p, (p, g) ∈ c.watched ∧ p.fd = fd ∧ ¬ p.result.meets .invalid ∧
        (p.result.meets .input ∨ p.result.meets .priority ∨ p.result.meets .error ∨
          p.result.meets .hangup)

end Columns

namespace ReadinessSet

/-- The set watches what a map says, each descriptor in one slot. -/
structure Watches (s : ReadinessSet) (control : Fd) (m : Finmap fun _ : Fd => UInt64) : Prop where
  control_eq : s.control = control
  distinct : s.Distinct
  lookup : ∀ fd, s.generation? fd = m.lookup fd

variable {s : ReadinessSet} {control : Fd} {m : Finmap fun _ : Fd => UInt64}

/-- A new set watches nothing. -/
theorem watches_ofControl (control : Fd) : (ofControl control).Watches control ∅ where
  control_eq := rfl
  distinct := distinct_ofControl control
  lookup := fun fd => by rw [Finmap.lookup_empty]; rfl

/-- **Inserting** is insertion into the map, over an older generation too. -/
theorem Watches.insert (h : s.Watches control m) (fd : Fd) (g : UInt64) :
    (s.insert fd g).Watches control (m.insert fd g) where
  control_eq := (control_insert s fd g).trans h.control_eq
  distinct := h.distinct.insert fd g
  lookup := by
    intro other
    rw [generation?_insert h.distinct]
    by_cases heq : other = fd
    · rw [if_pos heq, heq, Finmap.lookup_insert]
    · rw [if_neg heq, Finmap.lookup_insert_of_ne _ heq, h.lookup]

/-- **Removing** is erasing from the map. -/
theorem Watches.remove (h : s.Watches control m) (fd : Fd) :
    (s.remove fd).2.Watches control (m.erase fd) where
  control_eq := (control_remove s fd).trans h.control_eq
  distinct := h.distinct.remove fd
  lookup := by
    intro other
    rw [generation?_remove h.distinct]
    by_cases heq : other = fd
    · rw [if_pos heq, heq, Finmap.lookup_erase]
    · rw [if_neg heq, Finmap.lookup_erase_ne heq, h.lookup]

/-- What is watched depends on the pairs of descriptor and generation alone. -/
theorem Watches.of_pairs (h : s.Watches control m) {t : ReadinessSet}
    (hcontrol : t.control = s.control) (hpairs : t.pairs = s.pairs) : t.Watches control m where
  control_eq := hcontrol.trans h.control_eq
  distinct := by
    rw [distinct_iff_pairs, hpairs]
    exact s.distinct_iff_pairs.mp h.distinct
  lookup := by
    intro fd
    rw [generation?_eq_lookup, hpairs, ← generation?_eq_lookup]
    exact h.lookup fd

/-- **What is watched** after an operation is what the map says then, whatever a wait
finds. -/
theorem Watches.perform (h : s.Watches control m) {σ : Type} (k : Kernel σ) (world : σ)
    (op : Operation) :
    ((s.perform op).run k world).1.Watches control (Columns.onMap m op) := by
  cases op with
  | insert fd g => exact h.insert fd g
  | remove fd => exact h.remove fd
  | wait =>
      simp only [ReadinessSet.perform, wait, Program.run_bind]
      split
      · exact h.of_pairs rfl (pairs_forget s)
      · exact h.of_pairs rfl ((pairs_record _ _).trans (pairs_forget s))

/-- **Any operations** leave the set watching what they make of the map. -/
theorem Watches.performAll (h : s.Watches control m) {σ : Type} (k : Kernel σ) (world : σ)
    (ops : List Operation) :
    ((s.performAll ops).run k world).1.Watches control (ops.foldl Columns.onMap m) := by
  induction ops generalizing s m world with
  | nil => exact h
  | cons op ops ih =>
      rw [ReadinessSet.performAll, Program.run_bind]
      exact ih (h.perform k world op) _

/-- The two layouts stay **one and the same** through an operation. -/
theorem run_columns_perform (s : ReadinessSet) {σ : Type} (k : Kernel σ) (world : σ)
    (op : Operation) :
    (s.columns.perform op).run k world =
      (((s.perform op).run k world).1.columns, ((s.perform op).run k world).2) := by
  cases op with
  | insert fd g =>
      rw [Columns.perform, columns_insert]
      rfl
  | remove fd =>
      rw [Columns.perform, columns_remove]
      rfl
  | wait =>
      rw [Columns.perform, columns_wait]
      simp [ReadinessSet.perform]

/-- Columns and watches go through the same operations side by side, under the same kernel. -/
theorem run_columns_performAll (s : ReadinessSet) {σ : Type} (k : Kernel σ) (world : σ)
    (ops : List Operation) :
    (s.columns.performAll ops).run k world =
      (((s.performAll ops).run k world).1.columns, ((s.performAll ops).run k world).2) := by
  induction ops generalizing s world with
  | nil => rfl
  | cons op ops ih =>
      rw [Columns.performAll, ReadinessSet.performAll, Program.run_bind, Program.run_bind,
        run_columns_perform]
      exact ih _ _

/-! ## The columns as a map -/

/-- A slot of the columns is that of a watched descriptor. -/
theorem mem_watched_columns {s : ReadinessSet} {slot : PollSlot × UInt64} :
    slot ∈ s.columns.watched ↔ ∃ w ∈ s.watched, (w.slot, w.generation) = slot := by
  rw [watched_columns, List.mem_map]

/-- The columns hold the descriptors of the watches, in their order. -/
theorem map_fd_watched_columns (s : ReadinessSet) :
    s.columns.watched.map (·.1.fd) = s.watched.map (·.fd) := by
  rw [watched_columns, List.map_map]
  rfl

/-- The keys of the map are the watched descriptors. -/
theorem keys_of_watches (h : s.Watches control m) :
    m.keys = (s.watched.map (·.fd)).toFinset := by
  ext fd
  rw [Finmap.mem_keys, List.mem_toFinset, ← not_iff_not, Finmap.lookup_eq_none.symm, ← h.lookup,
    generation?_eq_none_iff]
  simp

/-- **The columns are the map**: aligned, slot 0 the control channel's, one slot for each
key and with its generation. -/
theorem Watches.isMap (h : s.Watches control m) : s.columns.IsMap control m where
  aligned := by simp [columns, slots_eq]
  nonempty := by simp [columns, slots_eq]
  control_eq := by simp [columns, slots_eq, h.control_eq]
  distinct := by
    rw [map_fd_watched_columns]
    exact h.distinct
  lookup := by
    intro fd g
    rw [← h.lookup, generation?_eq_some_iff h.distinct]
    constructor
    · rintro ⟨w, hw, hfd, rfl⟩
      exact ⟨w.slot, mem_watched_columns.mpr ⟨w, hw, rfl⟩, hfd⟩
    · rintro ⟨p, hp, hfd⟩
      obtain ⟨w, hw, heq⟩ := mem_watched_columns.mp hp
      obtain ⟨rfl, rfl⟩ := Prod.mk.inj heq
      exact ⟨w, hw, hfd, rfl⟩
  size_eq := by
    rw [size_columns, keys_of_watches h, List.toFinset_card_of_nodup h.distinct, List.length_map]
    rfl

/-- A descriptor is reported closed just if the wait found its slot invalid. -/
theorem closed_mem_ready_iff {s : ReadinessSet} {fd : Fd} {g : UInt64} :
    .closed fd g ∈ s.ready ↔
      ∃ p, (p, g) ∈ s.columns.watched ∧ p.fd = fd ∧ p.result.meets .invalid := by
  rw [ready, List.mem_filterMap]
  constructor
  · rintro ⟨w, hw, hreport⟩
    refine ⟨w.slot, ?_⟩
    grind [Watch.readiness?, Watch.slot, mem_watched_columns]
  · rintro ⟨p, hp, hfd, hinvalid⟩
    obtain ⟨w, hw, heq⟩ := mem_watched_columns.mp hp
    obtain ⟨rfl, rfl⟩ := Prod.mk.inj heq
    refine ⟨w, hw, ?_⟩
    grind [Watch.readiness?, Watch.slot]

/-- It is reported readable just if the wait found its slot valid and readable. -/
theorem readable_mem_ready_iff {s : ReadinessSet} {fd : Fd} {g : UInt64} :
    .readable fd g ∈ s.ready ↔
      ∃ p, (p, g) ∈ s.columns.watched ∧ p.fd = fd ∧ ¬ p.result.meets .invalid ∧
        p.result.meets .readable := by
  rw [ready, List.mem_filterMap]
  constructor
  · rintro ⟨w, hw, hreport⟩
    refine ⟨w.slot, ?_⟩
    grind [Watch.readiness?, Watch.slot, mem_watched_columns]
  · rintro ⟨p, hp, hfd, hopen, hready⟩
    obtain ⟨w, hw, heq⟩ := mem_watched_columns.mp hp
    obtain ⟨rfl, rfl⟩ := Prod.mk.inj heq
    refine ⟨w, hw, ?_⟩
    grind [Watch.readiness?, Watch.slot]

/-- A set of which every result is forgotten has nothing to report. -/
theorem ready_forget (s : ReadinessSet) : s.forget.ready = [] := by
  rw [ready, List.filterMap_eq_nil_iff]
  intro w hw
  obtain ⟨v, -, rfl⟩ := List.mem_map.mp hw
  simp [Watch.readiness?, Events.none_meets]

/-- A removal answers whether the descriptor was watched. -/
theorem Watches.removed_iff (h : s.Watches control m) (fd : Fd) :
    (s.remove fd).1 = decide (fd ∈ m) := by
  have hmem : fd ∈ m ↔ s.position? fd ≠ none := by
    rw [← not_iff_not, ← Finmap.lookup_eq_none, ← h.lookup, generation?_eq_none_iff]
    simp [position?, List.findIdx?_eq_none_iff]
  unfold ReadinessSet.remove
  cases hpos : s.position? fd with
  | none => simp [hmem, hpos]
  | some i => simp [hmem, hpos]

/-- What each operation on the columns does to the map, and what it answers. -/
theorem Watches.changes (h : s.Watches control m) : s.columns.Changes m where
  removed := by
    intro fd
    rw [columns_remove]
    exact h.removed_iff fd
  remove := by
    intro fd slot
    have hperm := watched_remove_perm h.distinct fd
    rw [columns_remove, mem_watched_columns, mem_watched_columns]
    constructor
    · rintro ⟨w, hw, rfl⟩
      obtain ⟨hmem, hne⟩ := mem_others.mp (hperm.mem_iff.mp hw)
      exact ⟨⟨w, hmem, rfl⟩, hne⟩
    · rintro ⟨⟨w, hw, rfl⟩, hne⟩
      exact ⟨w, hperm.mem_iff.mpr (mem_others.mpr ⟨hw, hne⟩), rfl⟩
  insert := by
    intro fd g slot
    have hperm := watched_insert_perm h.distinct fd g
    rw [columns_insert, mem_watched_columns, mem_watched_columns]
    constructor
    · rintro ⟨w, hw, rfl⟩
      rcases List.mem_cons.mp (hperm.mem_iff.mp hw) with rfl | hother
      · exact Or.inl rfl
      · obtain ⟨hmem, hne⟩ := mem_others.mp hother
        exact Or.inr ⟨⟨w, hmem, rfl⟩, hne⟩
    · rintro (rfl | ⟨⟨w, hw, rfl⟩, hne⟩)
      · exact ⟨_, hperm.mem_iff.mpr List.mem_cons_self, rfl⟩
      · exact ⟨w, hperm.mem_iff.mpr (List.mem_cons_of_mem _ (mem_others.mpr ⟨hw, hne⟩)), rfl⟩
  waited := by
    intro n results
    refine ⟨rfl, ?_⟩
    intro i
    simp [Columns.waited]
  failed := by
    intro errno
    refine ⟨rfl, rfl, ?_, ?_⟩
    · show s.columns.forget.controlReady = false
      rw [columns_forget, controlReady_columns]
      exact Events.none_meets _
    · intro reports
      show s.columns.forget.collect reports = reports
      rw [columns_forget, collect_columns, ready_forget, List.append_nil]
  collect := by
    refine ⟨s.ready, collect_columns s, ?_, fun fd g => closed_mem_ready_iff, ?_⟩
    · rw [map_fd_watched_columns]
      exact map_fd_ready_sublist s
    · intro fd g
      simp only [readable_mem_ready_iff, Events.readable, Events.meets_union, Bool.or_eq_true,
        or_assoc]

/-- **The two columns are one finite map** after any operations: aligned, the control slot in
front, each descriptor in one slot with its own generation and its own result, and every
report from the slot that it is about. -/
theorem columns_are_map {σ : Type} (k : Kernel σ) (world : σ) (control : Fd)
    (ops : List Operation) :
    let s := (((ofControl control).performAll ops).run k world).1
    let c := (((Columns.ofControl control).performAll ops).run k world).1
    s.columns = c ∧ c.IsMap control (Columns.mapOf ops) ∧ c.Changes (Columns.mapOf ops) ∧
      s.size = c.size ∧ s.controlReady = c.controlReady ∧
      ∀ reports, c.collect reports = reports ++ s.ready := by
  have hwatches := (watches_ofControl control).performAll k world ops
  have hsame : (Columns.ofControl control).performAll ops =
      (ofControl control).columns.performAll ops := rfl
  intro s c
  have hc : c = s.columns := by
    show (((Columns.ofControl control).performAll ops).run k world).1 = _
    rw [hsame, run_columns_performAll]
  rw [hc]
  exact ⟨rfl, hwatches.isMap, hwatches.changes, (size_columns s).symm,
    (controlReady_columns s).symm, collect_columns s⟩

end ReadinessSet

end ReceiveReactor
