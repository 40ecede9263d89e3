import Mathlib.Data.List.Induction
import ReceiveReactor.Proofs.RegistryRun

/-!
# A generation names one registration for ever

A registry forgets a registration when it ends.  A **ledger** does not: it keeps every
registration that was ever made, in the order in which they were made, with its entry as
long as that stands.  The generation of a registration is its place in the ledger, counted
from one, whatever has become of the descriptor since.

* `Ledger.step`, `Ledger.runFrom` — the operations on everything that was ever registered;
* `Ledger.Records`, `Ledger.Records.step` — a registry holds **what the ledger has standing**,
  and every operation keeps it so;
* `Registry.records_ledgerOf` — so does every run;
* `Registry.generations_identify` — what follows for a generation and for its task.
-/

namespace ReceiveReactor

/-! ## The ledger -/

open Registry

/-- A registration that was made: its descriptor, and its entry as long as that stands. -/
structure Registration (τ : Type) where
  fd : Fd
  entry : Option (Entry τ)
deriving DecidableEq, Repr

/-- Every registration that was ever made, the first one first. -/
abbrev Ledger (τ : Type) := List (Registration τ)

variable {τ : Type}

/-- What an operation leaves of a registration. -/
def Registration.settle (reg : Registration τ) (op : Operation τ) : Registration τ :=
  { reg with entry := reg.entry.bind fun e => op.settle reg.fd e }

namespace Ledger

/-- Whether a registration of a descriptor stands. -/
def stands (L : Ledger τ) (fd : Fd) : Bool :=
  L.any fun reg => reg.fd == fd && reg.entry.isSome

/-- The registration that an operation makes: that of an insertion, unless one of its
descriptor stands. -/
def opened (L : Ledger τ) : Operation τ → Ledger τ
  | .insert fd task =>
    if L.stands fd then []
    else [⟨fd, some { task, state := .pending, generation := UInt64.ofNat (L.length + 1) }⟩]
  | _ => []

/-- One operation on everything that was ever registered. -/
def step (L : Ledger τ) (op : Operation τ) : Ledger τ := L.map (·.settle op) ++ L.opened op

/-- Some operations, one after the other. -/
def runFrom (L : Ledger τ) (ops : List (Operation τ)) : Ledger τ := ops.foldl step L

/-- A registration stands just if the ledger has its entry. -/
theorem stands_iff {L : Ledger τ} {fd : Fd} : L.stands fd = true ↔ ∃ e, ⟨fd, some e⟩ ∈ L := by
  simp only [stands, List.any_eq_true, Bool.and_eq_true, beq_iff_eq]
  constructor
  · rintro ⟨⟨fd', entry⟩, hmem, rfl, hsome⟩
    obtain ⟨e, rfl⟩ := Option.isSome_iff_exists.mp hsome
    exact ⟨e, hmem⟩
  · rintro ⟨e, hmem⟩
    exact ⟨_, hmem, rfl, rfl⟩

/-- **A registration keeps its place.** -/
theorem getElem?_step {L : Ledger τ} {n : Nat} (h : n < L.length) (op : Operation τ) :
    (L.step op)[n]? = (L[n]?).map (·.settle op) := by
  rw [step, List.getElem?_append_left (by simpa using h), List.getElem?_map]

/-- An operation opens one line at most, and only an insertion does. -/
theorem length_opened (L : Ledger τ) (op : Operation τ) :
    (L.opened op).length ≤ if op.isInsert then 1 else 0 := by
  cases op with
  | insert fd task =>
      cases hstands : L.stands fd <;> simp [opened, hstands, Operation.isInsert]
  | remove | removeGeneration | activate | dispatch | clear => exact Nat.zero_le _

/-- There are no more registrations than insertions. -/
theorem length_runFrom (L : Ledger τ) (ops : List (Operation τ)) :
    (L.runFrom ops).length ≤ L.length + ops.countP Operation.isInsert := by
  induction ops generalizing L with
  | nil => exact Nat.le_refl _
  | cons op ops ih =>
      have hstep : (L.step op).length ≤ L.length + if op.isInsert then 1 else 0 := by
        have hopened := L.length_opened op
        simp only [step, List.length_append, List.length_map]
        omega
      have hrest := ih (L.step op)
      rw [List.countP_cons]
      show ((L.step op).runFrom ops).length ≤ _
      omega

/-! ## What a registry shows of it -/

/-- The operations so far, their outcomes and the registry after them belong to a ledger. -/
structure Records (L : Ledger τ) (log : List (Operation τ × Outcome τ)) (r : Registry τ) :
    Prop where
  latest : r.latest.toNat = L.length
  /-- A generation is a place, counted from one. -/
  numbered : ∀ n fd e, L[n]? = some ⟨fd, some e⟩ → e.generation.toNat = n + 1
  /-- The registry holds what stands. -/
  shown : ∀ fd e, r.find? fd = some e ↔ ⟨fd, some e⟩ ∈ L
  /-- The registrations are the successful insertions. -/
  entered : log.filterMap Operation.entered? = L.mapIdx fun n reg => (reg.fd, n + 1)
  /-- An active entry was activated. -/
  activated : ∀ fd e, ⟨fd, some e⟩ ∈ L → e.state = .active →
    (.activate fd e.generation, ⟨.activated true, []⟩) ∈ log

variable {L : Ledger τ} {log : List (Operation τ × Outcome τ)} {r : Registry τ}

/-- An empty ledger records an empty registry. -/
theorem records_start : Records ([] : Ledger τ) [] {} where
  latest := rfl
  numbered := by simp
  shown := by simp [find?]
  entered := rfl
  activated := by simp

/-- What stands after an operation stood before it. -/
theorem mem_map_settle {op : Operation τ} {fd : Fd} {e : Entry τ} :
    ⟨fd, some e⟩ ∈ L.map (·.settle op) ↔
      ∃ e₀, ⟨fd, some e₀⟩ ∈ L ∧ op.settle fd e₀ = some e := by
  simp only [List.mem_map, Registration.settle, Registration.mk.injEq]
  constructor
  · rintro ⟨⟨fd', entry⟩, hmem, rfl, hentry⟩
    obtain ⟨e₀, rfl, he⟩ := Option.bind_eq_some_iff.mp hentry
    exact ⟨e₀, hmem, he⟩
  · rintro ⟨e₀, hmem, he⟩
    exact ⟨_, hmem, rfl, he⟩

/-- Without an insertion nothing is registered. -/
theorem step_of_not_insert {op : Operation τ} (hop : op.isInsert = false) :
    L.step op = L.map (·.settle op) := by
  have hopened : L.opened op = [] := by
    cases op with
    | insert fd task => cases hop
    | remove | removeGeneration | activate | dispatch | clear => rfl
  rw [Ledger.step, hopened, List.append_nil]

/-- An insertion leaves every registration as it is. -/
theorem map_settle_insert (L : Ledger τ) (fd : Fd) (task : τ) :
    L.map (·.settle (.insert fd task)) = L := by
  have hkept : ∀ reg : Registration τ, reg.settle (.insert fd task) = reg := by
    rintro ⟨fd', entry⟩
    cases entry <;> rfl
  simp [hkept]

/-- An activation of an entry that stands is answered so. -/
theorem activated_step {e : Entry τ} {fd : Fd} (h : r.find? fd = some e) :
    (r.step (.activate fd e.generation)).1 = ⟨.activated true, []⟩ := by
  have hfound := findGeneration?_eq_some_iff.mpr ⟨h, rfl⟩
  simp [Registry.step, activate, hfound]

/-- The entry is active afterwards because it was, or because it is activated. -/
theorem active_of_settle {op : Operation τ} {fd : Fd} {e₀ e : Entry τ}
    (h : op.settle fd e₀ = some e) (hactive : e.state = .active) :
    e₀.state = .active ∨ op = .activate fd e₀.generation := by
  cases op with
  | insert | remove | removeGeneration | clear =>
      left
      grind [Operation.settle]
  | activate fd' g => grind [Operation.settle]
  | dispatch fd' g answer =>
      left
      simp only [Operation.settle] at h
      split at h
      · next hrun => exact hrun.2.2
      · cases h
        exact hactive

/-- What is for one generation changes the registration at that place, if it changes any. -/
theorem changed_of_names
    (hnumbered : ∀ n fd e, L[n]? = some ⟨fd, some e⟩ → e.generation.toNat = n + 1)
    {op : Operation τ} {fd : Fd} {g : UInt64} (hop : op.Names fd g) {n : Nat}
    (hchanged : (L.step op)[n]? ≠ L[n]?) :
    n + 1 = g.toNat ∧ ∃ e, L[n]? = some ⟨fd, some e⟩ := by
  have hinsert : op.isInsert = false := by
    cases op with
    | insert => exact hop.elim
    | remove | removeGeneration | activate | dispatch | clear => rfl
  rw [step_of_not_insert hinsert, List.getElem?_map] at hchanged
  match hreg : L[n]? with
  | none => simp [hreg] at hchanged
  | some ⟨other, none⟩ => simp [hreg, Registration.settle] at hchanged
  | some ⟨other, some e⟩ =>
      by_cases hnamed : other = fd ∧ e.generation = g
      · obtain ⟨rfl, rfl⟩ := hnamed
        exact ⟨(hnumbered n other e hreg).symm, e, rfl⟩
      · refine absurd ?_ hchanged
        simp [hreg, Registration.settle, Operation.settle_of_names hop hnamed]

/-- An operation that inserts nothing settles what stands. -/
theorem Records.settle (h : L.Records log r) {op : Operation τ} (hop : op.isInsert = false) :
    (L.step op).Records (log ++ [(op, (r.step op).1)]) (r.step op).2 := by
  have hnone : Operation.entered? (op, (r.step op).1) = none := by
    cases op with
    | insert fd task => cases hop
    | remove | removeGeneration | activate | dispatch | clear => rfl
  rw [step_of_not_insert hop]
  refine ⟨?latest, ?numbered, ?shown, ?entered, ?activated⟩
  case latest => rw [latest_step_of_not_insert r hop, h.latest, List.length_map]
  case numbered =>
    intro n fd e hn
    rw [List.getElem?_map] at hn
    obtain ⟨⟨fd', entry⟩, hreg, hsettled⟩ := Option.map_eq_some_iff.mp hn
    obtain ⟨rfl, hentry⟩ := Registration.mk.inj hsettled
    obtain ⟨e₀, rfl, he⟩ := Option.bind_eq_some_iff.mp hentry
    rw [Operation.generation_settle he]
    exact h.numbered n fd' e₀ hreg
  case shown =>
    intro fd e
    rw [find?_step_of_not_insert r hop, Option.bind_eq_some_iff, mem_map_settle]
    simp only [h.shown]
  case entered =>
    rw [List.filterMap_append, h.entered]
    simp only [List.filterMap_cons, hnone, List.filterMap_nil, List.append_nil]
    -- An operation changes entries, and never the descriptor of a registration.
    refine List.ext_getElem? fun n => ?_
    simp only [List.getElem?_mapIdx, List.getElem?_map, Option.map_map]
    rfl
  case activated =>
    intro fd e hmem hactive
    obtain ⟨e₀, hmem₀, he⟩ := mem_map_settle.mp hmem
    rw [Operation.generation_settle he, List.mem_append]
    rcases active_of_settle he hactive with hbefore | rfl
    · exact Or.inl (h.activated fd e₀ hmem₀ hbefore)
    · exact Or.inr (by simp [activated_step ((h.shown fd e₀).mpr hmem₀)])

/-- A refused insertion leaves everything as it is. -/
theorem Records.refuse (h : L.Records log r) {fd : Fd} (hstands : L.stands fd = true) (task : τ) :
    L.step (.insert fd task) = L ∧
      r.step (.insert fd task) =
        (⟨.insertion (.refused (.alreadyRegistered fd)), []⟩, r) := by
  obtain ⟨e, hmem⟩ := stands_iff.mp hstands
  refine ⟨?_, step_insert_of_some ((h.shown fd e).mpr hmem) task⟩
  simp [Ledger.step, map_settle_insert, opened, hstands]

/-- A descriptor of which no registration stands can be entered. -/
theorem Records.accepts (h : L.Records log r) (hroom : L.length + 1 < 2 ^ 64) {fd : Fd}
    (hstands : L.stands fd = false) : r.Accepts fd := by
  constructor
  · cases hfind : r.find? fd with
    | none => rfl
    | some e =>
        have hsome := stands_iff.mpr ⟨e, (h.shown fd e).mp hfind⟩
        rw [hstands] at hsome
        cases hsome
  · intro hlast
    have hlatest := h.latest
    rw [hlast] at hlatest
    have hmax : lastGeneration.toNat = 2 ^ 64 - 1 := rfl
    omega

/-- The next generation is the number of the place at the end. -/
theorem Records.next (h : L.Records log r) :
    r.latest + 1 = UInt64.ofNat (L.length + 1) := by
  have hlatest := h.latest
  apply UInt64.toNat_inj.mp
  rw [UInt64.toNat_add, hlatest, UInt64.toNat_ofNat']
  rfl

/-- A successful insertion adds a registration at the end. -/
theorem Records.open (h : L.Records log r) (hroom : L.length + 1 < 2 ^ 64) {fd : Fd}
    (hstands : L.stands fd = false) (task : τ) :
    (L.step (.insert fd task)).Records
      (log ++ [(.insert fd task, (r.step (.insert fd task)).1)])
      (r.step (.insert fd task)).2 := by
  have haccepts := h.accepts hroom hstands
  have hnumber : (r.latest + 1).toNat = L.length + 1 := by
    rw [h.next, UInt64.toNat_ofNat', Nat.mod_eq_of_lt hroom]
  have hstep : L.step (.insert fd task) =
      L ++ [⟨fd, some { task, state := .pending, generation := r.latest + 1 }⟩] := by
    simp [Ledger.step, map_settle_insert, opened, hstands, h.next]
  rw [hstep, step_insert_of_accepts haccepts]
  refine ⟨?latest, ?numbered, ?shown, ?entered, ?activated⟩
  case latest => rw [latest_entered haccepts, hnumber, List.length_append, List.length_singleton]
  case numbered =>
    intro n fd' e hn
    rw [List.getElem?_append] at hn
    split at hn
    · exact h.numbered n fd' e hn
    · next hout =>
        obtain ⟨hlt, hnew⟩ := List.getElem?_eq_some_iff.mp hn
        have hn' : n - L.length = 0 := by simpa using hlt
        simp only [hn', List.getElem_cons_zero, Registration.mk.injEq, Option.some.injEq] at hnew
        obtain ⟨rfl, rfl⟩ := hnew
        show (r.latest + 1).toNat = n + 1
        omega
  case shown =>
    intro fd' e
    rw [find?_entered haccepts, List.mem_append, List.mem_singleton, Registration.mk.injEq,
      Option.some.injEq, ← h.shown]
    by_cases hfd : fd' = fd
    · subst hfd
      simp [haccepts.1, eq_comm]
    · simp [hfd]
  case entered =>
    rw [List.filterMap_append, h.entered, List.mapIdx_append]
    simp [Operation.entered?, hnumber]
  case activated =>
    intro fd' e hmem hactive
    rcases List.mem_append.mp hmem with hmem | hnew
    · exact List.mem_append_left _ (h.activated fd' e hmem hactive)
    · obtain ⟨rfl, rfl⟩ : fd' = fd ∧ e = _ := by simpa using hnew
      cases hactive

/-- **Every operation keeps the records.** -/
theorem Records.step (h : L.Records log r) (op : Operation τ)
    (hroom : op.isInsert = true → L.length + 1 < 2 ^ 64) :
    (L.step op).Records (log ++ [(op, (r.step op).1)]) (r.step op).2 := by
  cases hop : op.isInsert with
  | false => exact h.settle hop
  | true =>
      cases op with
      | insert fd task =>
          cases hstands : L.stands fd with
          | false => exact h.open (hroom rfl) hstands task
          | true =>
              obtain ⟨hL, hr⟩ := h.refuse hstands task
              rw [hL, hr]
              refine ⟨h.latest, h.numbered, h.shown, ?_, ?_⟩
              · rw [List.filterMap_append, h.entered]
                simp [Operation.entered?]
              · intro fd' e hmem hactive
                exact List.mem_append_left _ (h.activated fd' e hmem hactive)
      | remove | removeGeneration | activate | dispatch | clear => cases hop

end Ledger

namespace Registry

/-- The ledger of some operations on a new registry. -/
def ledgerOf (ops : List (Operation τ)) : Ledger τ := Ledger.runFrom [] ops

/-- The ledger of a longer run ends with its last operation. -/
theorem ledgerOf_concat (ops : List (Operation τ)) (op : Operation τ) :
    ledgerOf (ops ++ [op]) = (ledgerOf ops).step op := by
  simp [ledgerOf, Ledger.runFrom]

/-- **There are no more lines than insertions.**. -/
theorem length_ledgerOf (ops : List (Operation τ)) :
    (ledgerOf ops).length ≤ ops.countP Operation.isInsert := by
  have hlength := Ledger.length_runFrom [] ops
  simpa [ledgerOf] using hlength

/-- **Every run keeps the records**, if it inserts less often than there are generations. -/
theorem records_ledgerOf (ops : List (Operation τ))
    (hfew : ops.countP Operation.isInsert < 2 ^ 64) :
    (ledgerOf ops).Records (logOf ops) (after ops) := by
  -- From the back: what is recorded belongs to the whole run so far.
  induction ops using List.reverseRecOn with
  | nil => exact Ledger.records_start
  | append_singleton ops op ih =>
      rw [List.countP_append, List.countP_singleton] at hfew
      have hlength := length_ledgerOf ops
      have hbefore := ih (by omega)
      rw [ledgerOf_concat, logOf_concat, after_concat]
      refine hbefore.step op fun hop => ?_
      rw [if_pos hop] at hfew
      omega

/-- **Generations identify registrations.**  What one more operation does after any others on
a new registry, told by the ledger of all registrations. -/
structure Identified (ops : List (Operation τ)) (op : Operation τ) : Prop where
  /-- The successful insertions, in their order, with the descriptors that they were on and
  the generations that they answered, are the places of the ledger, counted from one. -/
  counted : (logOf (ops ++ [op])).filterMap Operation.entered? =
    (ledgerOf (ops ++ [op])).mapIdx fun n reg => (reg.fd, n + 1)
  /-- Every entry that stands has the generation that its insertion answered. -/
  numbered : ∀ n fd e, (ledgerOf ops)[n]? = some ⟨fd, some e⟩ → e.generation.toNat = n + 1
  /-- The registry holds what stands, and nothing else. -/
  shown : ∀ fd e, (after ops).find? fd = some e ↔ ⟨fd, some e⟩ ∈ ledgerOf ops
  /-- An insertion is refused exactly if a registration of its descriptor stands; then it
  changes nothing.  Else it adds a pending entry under the next generation. -/
  inserted : ∀ fd task, op = .insert fd task →
    if (ledgerOf ops).stands fd then
      outcomeOf ops op = ⟨.insertion (.refused (.alreadyRegistered fd)), []⟩ ∧
        after (ops ++ [op]) = after ops ∧ ledgerOf (ops ++ [op]) = ledgerOf ops
    else
      ∃ g, g.toNat = (ledgerOf ops).length + 1 ∧
        outcomeOf ops op = ⟨.insertion (.entered g), []⟩ ∧
        ledgerOf (ops ++ [op]) = ledgerOf ops ++ [⟨fd, some ⟨task, .pending, g⟩⟩]
  /-- A registration keeps its place and its descriptor, and its entry comes along in one of
  few ways. -/
  passes : ∀ (n : Nat) fd entry, (ledgerOf ops)[n]? = some ⟨fd, entry⟩ → ∃ entry',
    (ledgerOf (ops ++ [op]))[n]? = some ⟨fd, entry'⟩ ∧ Passage op fd entry entry'
  /-- What is for one generation of a descriptor affects that registration only. -/
  aimed : ∀ fd g, op.Names fd g → ∀ n,
    (ledgerOf (ops ++ [op]))[n]? ≠ (ledgerOf ops)[n]? →
      n + 1 = g.toNat ∧ ∃ e, (ledgerOf ops)[n]? = some ⟨fd, some e⟩
  /-- It does nothing if that registration has ended, or never was. -/
  missed : ∀ fd g, op.Names fd g →
    (∀ n e, n + 1 = g.toNat → (ledgerOf ops)[n]? ≠ some ⟨fd, some e⟩) →
      after (ops ++ [op]) = after ops ∧ (outcomeOf ops op).Idle
  /-- A task runs only by a dispatch for its registration, and only after the registration
  was activated. -/
  ran : (outcomeOf ops op).ran = [] ∨ ∃ fd g answer n task,
    op = .dispatch fd g answer ∧ n + 1 = g.toNat ∧
      (ledgerOf ops)[n]? = some ⟨fd, some ⟨task, .active, g⟩⟩ ∧
      (outcomeOf ops op).ran = [(fd, task)] ∧
      (.activate fd g, ⟨.activated true, []⟩) ∈ logOf ops
  /-- An operation on one descriptor leaves the entry of another as it is. -/
  apart : ∀ fd other, op.fd? = some fd → other ≠ fd →
    (after (ops ++ [op])).find? other = (after ops).find? other

/-- **For every run** with fewer insertions than there are generations, and every operation
after it: a generation names one registration for ever. -/
theorem generations_identify (ops : List (Operation τ)) (op : Operation τ)
    (hfew : (ops ++ [op]).countP Operation.isInsert < 2 ^ 64) : Identified ops op := by
  have hall := records_ledgerOf _ hfew
  rw [List.countP_append, List.countP_singleton] at hfew
  have hrecords := records_ledgerOf ops (by omega)
  have hlength := length_ledgerOf ops
  refine ⟨hall.entered, hrecords.numbered, hrecords.shown, ?inserted, ?passes, ?aimed, ?missed,
    ?ran, ?apart⟩
  case inserted =>
    rintro fd task rfl
    have hroom : (ledgerOf ops).length + 1 < 2 ^ 64 := by
      simp only [Operation.isInsert, if_true] at hfew
      omega
    cases hstands : (ledgerOf ops).stands fd with
    | true =>
        obtain ⟨hL, hr⟩ := hrecords.refuse hstands task
        rw [if_pos rfl, outcomeOf, after_concat, ledgerOf_concat, hr]
        exact ⟨rfl, rfl, hL⟩
    | false =>
        have haccepts := hrecords.accepts hroom hstands
        rw [if_neg Bool.false_ne_true, outcomeOf, ledgerOf_concat, step_insert_of_accepts haccepts]
        refine ⟨_, ?_, rfl, ?_⟩
        · rw [hrecords.next, UInt64.toNat_ofNat', Nat.mod_eq_of_lt hroom]
        · simp [Ledger.step, Ledger.map_settle_insert, Ledger.opened, hstands, hrecords.next]
  case passes =>
    intro n fd entry hentry
    obtain ⟨hn, -⟩ := List.getElem?_eq_some_iff.mp hentry
    refine ⟨_, ?_, passage_settle op fd entry⟩
    rw [ledgerOf_concat, Ledger.getElem?_step hn, hentry]
    rfl
  case aimed =>
    intro fd g hop n hchanged
    rw [ledgerOf_concat] at hchanged
    exact Ledger.changed_of_names hrecords.numbered hop hchanged
  case missed =>
    intro fd g hop hgone
    rw [after_concat]
    -- A standing entry of that generation would stand at its place in the ledger.
    refine step_of_absent hop (findGeneration?_eq_none_iff.mpr ?_)
    rintro e hfind rfl
    obtain ⟨n, hn⟩ := List.getElem?_of_mem ((hrecords.shown fd e).mp hfind)
    exact hgone n e (hrecords.numbered n fd e hn).symm hn
  case ran =>
    rcases ran_step (after ops) op with hnone | hsome
    · exact Or.inl hnone
    · obtain ⟨fd, answer, ⟨task, state, g⟩, rfl, hfind, rfl, hran⟩ := hsome
      have hmem := (hrecords.shown fd _).mp hfind
      obtain ⟨n, hn⟩ := List.getElem?_of_mem hmem
      exact Or.inr ⟨fd, g, answer, n, task, rfl, (hrecords.numbered n fd _ hn).symm, hn, hran,
        hrecords.activated fd _ hmem rfl⟩
  case apart =>
    intro fd other hop hne
    rw [after_concat]
    exact find?_step_of_ne _ hop hne

/-- A descriptor that is registered three times, and a refused insertion between them. -/
def thrice : List (Operation Nat) :=
  [.insert 0 10, .activate 0 1, .dispatch 0 1 fun task => (.retire, task), .insert 0 20,
    .insert 0 30, .removeGeneration 0 2, .insert 0 40, .activate 0 1]

/-- A dispatch for the first registration of a descriptor. -/
def late : Operation Nat := .dispatch 0 1 fun task => (.keep, task)

/-- The dispatch comes late: the third registration of the descriptor stands. -/
theorem generations_identify_thrice :
    (thrice ++ [late]).countP Operation.isInsert < 2 ^ 64 ∧ Identified thrice late :=
  ⟨by decide, generations_identify thrice late (by decide)⟩

end Registry

end ReceiveReactor
