import Mathlib.Data.List.Nodup
import Mathlib.Data.List.Perm.Basic
import ReceiveReactor.Readiness

/-!
# The readiness set as a map

A readiness set watches each descriptor at most once.  Then it is a map from
descriptors to generations, whatever the order of its slots: removal takes one
descriptor out, insertion sets one, and a wait changes results only.

* `watched_remove_perm`, `watched_insert_perm` — the slots after a change,
  **up to their order**;
* `generation?_remove`, `generation?_insert` — the map after a change;
* `Distinct.remove`, `Distinct.insert` — no descriptor is watched twice;
* `generation?_of_mem_ready`, `nodup_ready` — every report is that of **one
  slot**.
-/

namespace ReceiveReactor

namespace Readiness

/-- The descriptor that a report is about. -/
def fd : Readiness → Fd
  | readable fd _ | closed fd _ => fd

/-- The generation for which that descriptor was watched. -/
def generation : Readiness → UInt64
  | readable _ generation | closed _ generation => generation

end Readiness

namespace ReadinessSet

/-- No descriptor is watched twice. -/
def Distinct (s : ReadinessSet) : Prop := (s.watched.map (·.fd)).Nodup

instance (s : ReadinessSet) : Decidable s.Distinct :=
  inferInstanceAs (Decidable (s.watched.map (·.fd)).Nodup)

/-- The slots of other descriptors. -/
def others (s : ReadinessSet) (fd : Fd) : List Watch := s.watched.filter fun w => w.fd != fd

/-- The others are the watches of other descriptors. -/
theorem mem_others {s : ReadinessSet} {fd : Fd} {w : Watch} :
    w ∈ s.others fd ↔ w ∈ s.watched ∧ w.fd ≠ fd := by
  simp [others]

/-- A new set watches nothing twice. -/
theorem distinct_ofControl (control : Fd) : (ofControl control).Distinct := List.nodup_nil

/-- Inserting leaves the control channel in slot 0. -/
@[simp] theorem control_insert (s : ReadinessSet) (fd : Fd) (g : UInt64) :
    (s.insert fd g).control = s.control := by
  unfold insert
  split <;> rfl

/-- So does removing. -/
@[simp] theorem control_remove (s : ReadinessSet) (fd : Fd) :
    (s.remove fd).2.control = s.control := by
  unfold remove
  split <;> rfl

/-- And what was found on it. -/
@[simp] theorem controlResult_remove (s : ReadinessSet) (fd : Fd) :
    (s.remove fd).2.controlResult = s.controlResult := by
  unfold remove
  split <;> rfl

/-- Moving the last element into the gap takes the element at the gap out. -/
theorem swapOut_perm {α : Type} {i : Nat} {xs : List α} (h : i < xs.length) :
    (swapOut i xs).Perm (xs.eraseIdx i) := by
  have hne : xs ≠ [] := List.ne_nil_of_length_pos (by omega)
  have hsplit : xs.dropLast ++ [xs.getLast hne] = xs := List.dropLast_append_getLast hne
  generalize xs.dropLast = front, xs.getLast hne = last at hsplit
  subst hsplit
  simp only [swapOut, List.getLast?_concat]
  by_cases hi : i < front.length
  · rw [List.set_append_left _ _ hi, List.dropLast_concat, List.eraseIdx_append_of_lt_length hi]
    exact (List.set_perm_cons_eraseIdx hi last).trans (List.perm_append_singleton _ _).symm
  · have hlast : i = front.length := by
      simp only [List.length_append, List.length_cons, List.length_nil] at h
      omega
    subst hlast
    simp [List.eraseIdx_append_of_length_le]

/-- Where no descriptor occurs twice, taking out the first slot of one takes out
all of its slots. -/
private theorem eraseP_eq_filter (fd : Fd) {ws : List Watch} (h : (ws.map (·.fd)).Nodup) :
    ws.eraseP (fun w => w.fd == fd) = ws.filter fun w => w.fd != fd := by
  induction ws with
  | nil => rfl
  | cons w ws ih =>
      obtain ⟨hw, hws⟩ := List.nodup_cons.mp h
      by_cases hfd : w.fd = fd
      · have hrest : ∀ v ∈ ws, (v.fd != fd) = true := by
          intro v hv
          have : v.fd ≠ w.fd := fun heq => hw (List.mem_map.mpr ⟨v, hv, heq⟩)
          simpa [hfd] using this
        simp [hfd, List.filter_eq_self.mpr hrest]
      · simp [hfd, ih hws]

/-- **Removal**, up to the order of slots. -/
theorem watched_remove_perm {s : ReadinessSet} (h : s.Distinct) (fd : Fd) :
    (s.remove fd).2.watched.Perm (s.others fd) := by
  rw [others, ← eraseP_eq_filter fd h, List.eraseP_eq_eraseIdx]
  unfold remove position?
  cases hpos : s.watched.findIdx? (fun w => w.fd == fd) with
  | none => exact List.Perm.refl _
  | some i =>
      obtain ⟨hi, -⟩ := List.findIdx?_eq_some_iff_getElem.mp hpos
      exact swapOut_perm hi

/-- **Insertion**, up to the order of slots. -/
theorem watched_insert_perm {s : ReadinessSet} (h : s.Distinct) (fd : Fd) (g : UInt64) :
    (s.insert fd g).watched.Perm ({ fd, generation := g } :: s.others fd) := by
  rw [others, ← eraseP_eq_filter fd h, List.eraseP_eq_eraseIdx]
  unfold insert position?
  cases hpos : s.watched.findIdx? (fun w => w.fd == fd) with
  | none => exact List.perm_append_singleton _ _
  | some i =>
      obtain ⟨hi, -⟩ := List.findIdx?_eq_some_iff_getElem.mp hpos
      exact List.set_perm_cons_eraseIdx hi _

/-- The others are still watched once. -/
private theorem nodup_others {s : ReadinessSet} (h : s.Distinct) (fd : Fd) :
    ((s.others fd).map (·.fd)).Nodup :=
  h.sublist (List.Sublist.map _ List.filter_sublist)

/-- A removal leaves every descriptor watched once at most. -/
theorem Distinct.remove {s : ReadinessSet} (h : s.Distinct) (fd : Fd) :
    (s.remove fd).2.Distinct :=
  ((watched_remove_perm h fd).map _).nodup_iff.mpr (nodup_others h fd)

/-- So does an insertion, also of a descriptor that is watched already. -/
theorem Distinct.insert {s : ReadinessSet} (h : s.Distinct) (fd : Fd) (g : UInt64) :
    (s.insert fd g).Distinct := by
  refine ((watched_insert_perm h fd g).map _).nodup_iff.mpr ?_
  refine List.nodup_cons.mpr ⟨?_, nodup_others h fd⟩
  intro hmem
  obtain ⟨w, hw, heq⟩ := List.mem_map.mp hmem
  exact (mem_others.mp hw).2 heq

/-- The generation of a descriptor is that of its slot. -/
theorem generation?_eq_some_iff {s : ReadinessSet} (h : s.Distinct) {fd : Fd} {g : UInt64} :
    s.generation? fd = some g ↔ ∃ w ∈ s.watched, w.fd = fd ∧ w.generation = g := by
  unfold generation?
  constructor
  · intro hg
    obtain ⟨w, hw, rfl⟩ := Option.map_eq_some_iff.mp hg
    exact ⟨w, List.mem_of_find?_eq_some hw, by simpa using List.find?_some hw, rfl⟩
  · rintro ⟨w, hw, rfl, rfl⟩
    cases hfind : s.watched.find? (fun v => v.fd == w.fd) with
    | none => simpa using List.find?_eq_none.mp hfind w hw
    | some v =>
        have hv : v.fd = w.fd := by simpa using List.find?_some hfind
        have : v = w := List.inj_on_of_nodup_map h (List.mem_of_find?_eq_some hfind) hw hv
        rw [this]
        rfl

/-- A descriptor with a generation has **exactly one slot**. -/
theorem filter_watched {s : ReadinessSet} (h : s.Distinct) {fd : Fd} {g : UInt64}
    (hg : s.generation? fd = some g) :
    (s.watched.filter fun w => w.fd = fd).map (·.generation) = [g] := by
  obtain ⟨w, hw, rfl, rfl⟩ := (generation?_eq_some_iff h).mp hg
  have hsame : (s.watched.filter fun v => v.fd = w.fd) = s.watched.filter (· == w) := by
    refine List.filter_congr fun v hv => ?_
    have hinj : v.fd = w.fd ↔ v = w :=
      ⟨List.inj_on_of_nodup_map h hv hw, congrArg Watch.fd⟩
    by_cases heq : v = w <;> simp [hinj, heq]
  rw [hsame, List.filter_beq, List.count_eq_one_of_mem (List.Nodup.of_map _ h) hw]
  rfl

/-- A descriptor without a generation has no slot. -/
theorem generation?_eq_none_iff {s : ReadinessSet} {fd : Fd} :
    s.generation? fd = none ↔ ∀ w ∈ s.watched, w.fd ≠ fd := by
  simp [generation?, List.find?_eq_none]

/-- **Removal.**  A removed descriptor is not watched and nothing else
changes. -/
theorem generation?_remove {s : ReadinessSet} (h : s.Distinct) (fd other : Fd) :
    (s.remove fd).2.generation? other = if other = fd then none else s.generation? other := by
  have hmem (w : Watch) : w ∈ (s.remove fd).2.watched ↔ w ∈ s.watched ∧ w.fd ≠ fd :=
    (watched_remove_perm h fd).mem_iff.trans mem_others
  split
  · next heq =>
      subst heq
      exact generation?_eq_none_iff.mpr fun w hw => ((hmem w).mp hw).2
  · next hne =>
      ext g
      rw [generation?_eq_some_iff (h.remove fd), generation?_eq_some_iff h]
      constructor
      · rintro ⟨w, hw, hfd, hg⟩
        exact ⟨w, ((hmem w).mp hw).1, hfd, hg⟩
      · rintro ⟨w, hw, hfd, hg⟩
        exact ⟨w, (hmem w).mpr ⟨hw, hfd ▸ hne⟩, hfd, hg⟩

/-- **Insertion.**  An inserted descriptor is watched for the new generation and
nothing else changes. -/
theorem generation?_insert {s : ReadinessSet} (h : s.Distinct) (fd other : Fd) (g : UInt64) :
    (s.insert fd g).generation? other = if other = fd then some g else s.generation? other := by
  have hmem (w : Watch) :
      w ∈ (s.insert fd g).watched ↔ w = { fd, generation := g } ∨ w ∈ s.watched ∧ w.fd ≠ fd := by
    rw [(watched_insert_perm h fd g).mem_iff, List.mem_cons, mem_others]
  split
  · next heq =>
      subst heq
      exact (generation?_eq_some_iff (h.insert other g)).mpr
        ⟨_, (hmem _).mpr (Or.inl rfl), rfl, rfl⟩
  · next hne =>
      ext g'
      rw [generation?_eq_some_iff (h.insert fd g), generation?_eq_some_iff h]
      constructor
      · rintro ⟨w, hw, hfd, hg⟩
        rcases (hmem w).mp hw with rfl | ⟨hw, -⟩
        · exact absurd hfd.symm hne
        · exact ⟨w, hw, hfd, hg⟩
      · rintro ⟨w, hw, hfd, hg⟩
        exact ⟨w, (hmem w).mpr (Or.inr ⟨hw, hfd ▸ hne⟩), hfd, hg⟩

/-! ## Waiting -/

/-- The watched descriptors with their generations, in set order. -/
def pairs (s : ReadinessSet) : List (Fd × UInt64) :=
  s.watched.map fun w => (w.fd, w.generation)

/-- Forgetting what was found drops no watch. -/
@[simp] theorem pairs_forget (s : ReadinessSet) : s.forget.pairs = s.pairs := by
  simp [pairs, forget, Function.comp_def]

/-- Nor does recording it. -/
@[simp] theorem pairs_record (s : ReadinessSet) (results : List Events) :
    (s.record results).pairs = s.pairs := by
  exact List.ext_getElem (by simp [pairs, record]) (by simp [pairs, record])

/-- Whether a set is distinct, and which generations it has, hangs on its pairs
alone. -/
theorem distinct_iff_pairs (s : ReadinessSet) : s.Distinct ↔ (s.pairs.map (·.1)).Nodup := by
  simp [Distinct, pairs, Function.comp_def]

/-- A descriptor is watched for a generation exactly if the pair is there. -/
theorem mem_pairs_iff {s : ReadinessSet} (h : s.Distinct) {fd : Fd} {g : UInt64} :
    (fd, g) ∈ s.pairs ↔ s.generation? fd = some g := by
  rw [generation?_eq_some_iff h]
  simp [pairs]

/-- The generation of a descriptor is the one it is watched under. -/
theorem generation?_eq_lookup (s : ReadinessSet) (fd : Fd) :
    s.generation? fd = s.pairs.lookup fd := by
  simp only [generation?, pairs]
  induction s.watched with
  | nil => rfl
  | cons w ws ih =>
      by_cases h : w.fd = fd
      · simp [h]
      · have hne : (fd == w.fd) = false := beq_eq_false_iff_ne.mpr (Ne.symm h)
        rw [List.map_cons, List.lookup_cons, hne]
        simpa [h] using ih

/-- Every report of a wait is that of a slot. -/
private theorem readiness?_eq_some {w : Watch} {r : Readiness} (h : w.readiness? = some r) :
    r.fd = w.fd ∧ r.generation = w.generation := by
  unfold Watch.readiness? at h
  split at h
  · cases Option.some.inj h
    exact ⟨rfl, rfl⟩
  · split at h
    · cases Option.some.inj h
      exact ⟨rfl, rfl⟩
    · cases h

/-- **Every report names a slot.** -/
theorem generation?_of_mem_ready {s : ReadinessSet} (h : s.Distinct) {r : Readiness}
    (hr : r ∈ s.ready) : s.generation? r.fd = some r.generation := by
  obtain ⟨w, hw, hreport⟩ := List.mem_filterMap.mp hr
  obtain ⟨hfd, hg⟩ := readiness?_eq_some hreport
  exact (generation?_eq_some_iff h).mpr ⟨w, hw, hfd.symm, hg.symm⟩

/-- Reports come from the slots, **in set order** and at most one from each. -/
theorem map_fd_ready_sublist (s : ReadinessSet) :
    (s.ready.map (·.fd)).Sublist (s.watched.map (·.fd)) := by
  unfold ready
  induction s.watched with
  | nil => exact List.Sublist.refl _
  | cons w ws ih =>
      cases hreport : w.readiness? with
      | none =>
          rw [List.filterMap_cons_none hreport]
          exact ih.cons _
      | some r =>
          rw [List.filterMap_cons_some hreport, List.map_cons, List.map_cons,
            (readiness?_eq_some hreport).1]
          exact ih.cons_cons _

/-- **No descriptor is reported twice.** -/
theorem nodup_ready {s : ReadinessSet} (h : s.Distinct) : (s.ready.map (·.fd)).Nodup :=
  h.sublist (map_fd_ready_sublist s)

end ReadinessSet

end ReceiveReactor
