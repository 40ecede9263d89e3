import Mathlib.Algebra.Group.Nat.Defs
import ReceiveReactor.Address.Text

/-!
# Numbers and fields of a text read back

What the printed parts of an address read back as: a number through its digits, some pieces
through the separators between them, and the two sides of a gap.

* `Address.numberOf_digits` — the digits of a number denote it;
* `Address.octet?_digits`, `Address.hexGroup?_digits` — so does each number of an address;
* `Address.fields_joined` — joined pieces come apart again;
* `Address.splitGap?_gap`, `Address.splitGap?_joined` — the gap of a text is found, and
  **only where there is one**.
-/

namespace ReceiveReactor

namespace Address

/-! ## Digits -/

/-- The character of a digit has the value of that digit. -/
theorem digitValue?_digitChar {d : Nat} (h : d < 16) : digitValue? d.digitChar = some d := by
  have hall : ∀ d : Fin 16, digitValue? d.val.digitChar = some d.val := by decide
  exact hall ⟨d, h⟩

/-- It is a digit in every base that has it. -/
theorem isDigitOf_digitChar {base d : Nat} (hbase : base ≤ 16) (h : d < base) :
    isDigitOf base d.digitChar = true := by
  rw [isDigitOf, digitValue?_digitChar (by omega)]
  exact decide_eq_true h

/-- A digit is no separator. -/
theorem digitChar_ne {d : Nat} (h : d < 16) : d.digitChar ≠ '.' ∧ d.digitChar ≠ ':' := by
  have hall : ∀ d : Fin 16, d.val.digitChar ≠ '.' ∧ d.val.digitChar ≠ ':' := by decide
  exact hall ⟨d, h⟩

/-- Only the digit zero is written as zero. -/
theorem digitChar_ne_zero {d : Nat} (hpos : 0 < d) (h : d < 16) : d.digitChar ≠ '0' := by
  have hall : ∀ d : Fin 16, 0 < d.val → d.val.digitChar ≠ '0' := by decide
  exact hall ⟨d, h⟩ hpos

variable {base : Nat}

/-- Every character of a number is a digit. -/
theorem mem_digits (hbase : 0 < base) {width n : Nat} {c : Char} (h : c ∈ digits base width n) :
    ∃ d, d < base ∧ c = d.digitChar := by
  induction width generalizing n with
  | zero => cases h
  | succ width ih =>
      unfold digits at h
      split at h
      · next hlt => exact ⟨n, hlt, List.mem_singleton.mp h⟩
      · rcases List.mem_append.mp h with hfront | hlast
        · exact ih hfront
        · exact ⟨n % base, Nat.mod_lt n hbase, List.mem_singleton.mp hlast⟩

/-- A number is written in no more digits than its width. -/
theorem length_digits_le (width n : Nat) : (digits base width n).length ≤ width := by
  induction width generalizing n with
  | zero => exact Nat.le_refl _
  | succ width ih =>
      have hrest := ih (n / base)
      unfold digits
      split
      · simp
      · rw [List.length_append, List.length_singleton]
        omega

/-- It is written in one digit at least. -/
theorem digits_ne_nil {width : Nat} (hwidth : 0 < width) (n : Nat) : digits base width n ≠ [] := by
  cases width with
  | zero => cases hwidth
  | succ width =>
      unfold digits
      split <;> simp

/-- One digit more at the end multiplies by the base and adds its value. -/
theorem numberOf_concat (cs : List Char) (c : Char) :
    numberOf base (cs ++ [c]) = numberOf base cs * base + (digitValue? c).getD 0 := by
  simp [numberOf]

/-- **The digits of a number denote it.** -/
theorem numberOf_digits (hpos : 0 < base) (hbase : base ≤ 16) {width n : Nat}
    (h : n < base ^ width) : numberOf base (digits base width n) = n := by
  induction width generalizing n with
  | zero =>
      obtain rfl : n = 0 := by simpa using h
      rfl
  | succ width ih =>
      unfold digits
      split
      · next hlt => simp [numberOf, digitValue?_digitChar (Nat.lt_of_lt_of_le hlt hbase)]
      · have hquotient : n / base < base ^ width := by
          rw [Nat.pow_succ'] at h
          exact Nat.div_lt_of_lt_mul h
        have hlast : n % base < 16 := Nat.lt_of_lt_of_le (Nat.mod_lt n hpos) hbase
        rw [numberOf_concat, ih hquotient, digitValue?_digitChar hlast]
        exact Nat.div_add_mod' n base

/-- The first digit of a positive number is not zero. -/
theorem head?_digits (hbase : 0 < base) {width n : Nat} (hpos : 0 < n) (h : n < base ^ width) :
    ∃ d, 0 < d ∧ d < base ∧ (digits base width n).head? = some d.digitChar := by
  induction width generalizing n with
  | zero =>
      rw [Nat.pow_zero] at h
      omega
  | succ width ih =>
      unfold digits
      split
      · next hlt => exact ⟨n, hpos, hlt, rfl⟩
      · next hge =>
          have hquotient : n / base < base ^ width := by
            rw [Nat.pow_succ'] at h
            exact Nat.div_lt_of_lt_mul h
          have hrest : 0 < n / base := Nat.div_pos (by omega) hbase
          obtain ⟨d, hd, hlt, hhead⟩ := ih hrest hquotient
          refine ⟨d, hd, hlt, ?_⟩
          rw [List.head?_append, hhead]
          rfl

/-- A number is written with one digit or **without a leading zero**. -/
theorem no_leading_zero (hpos : 0 < base) (hbase : base ≤ 16) {width n : Nat} (hwidth : 0 < width)
    (h : n < base ^ width) :
    (digits base width n).length = 1 ∨ (digits base width n).head? ≠ some '0' := by
  by_cases hzero : n = 0
  · left
    subst hzero
    cases width with
    | zero => cases hwidth
    | succ width => simp [digits, hpos]
  · right
    obtain ⟨d, hd, hlt, hhead⟩ := head?_digits hpos (by omega) h
    rw [hhead]
    intro heq
    exact digitChar_ne_zero hd (by omega) (Option.some.inj heq)

/-- What is written as a number is read as digits. -/
theorem all_isDigitOf_digits (hpos : 0 < base) (hbase : base ≤ 16) (width n : Nat) :
    (digits base width n).all (isDigitOf base) = true := by
  refine List.all_eq_true.mpr fun c hc => ?_
  obtain ⟨d, hd, rfl⟩ := mem_digits hpos hc
  exact isDigitOf_digitChar hbase hd

/-- Digits hold no separator. -/
theorem not_mem_digits (hpos : 0 < base) (hbase : base ≤ 16) (width n : Nat) :
    '.' ∉ digits base width n ∧ ':' ∉ digits base width n := by
  constructor
  · intro hmem
    obtain ⟨d, hd, heq⟩ := mem_digits hpos hmem
    exact (digitChar_ne (by omega)).1 heq.symm
  · intro hmem
    obtain ⟨d, hd, heq⟩ := mem_digits hpos hmem
    exact (digitChar_ne (by omega)).2 heq.symm

/-- **A printed octet reads back.** -/
theorem octet?_digits (b : UInt8) : octet? (digits 10 3 b.toNat) = some b := by
  have hlt := b.toNat_lt
  have hnumber : numberOf 10 (digits 10 3 b.toNat) = b.toNat :=
    numberOf_digits (by decide) (by decide) (by omega)
  have hzero : (digits 10 3 b.toNat).length = 1 ∨ (digits 10 3 b.toNat).head? ≠ some '0' :=
    no_leading_zero (by decide) (by decide) (by decide) (by omega)
  have hdigits : (digits 10 3 b.toNat).all (isDigitOf 10) = true :=
    all_isDigitOf_digits (by decide) (by decide) 3 b.toNat
  rw [octet?, if_pos ⟨digits_ne_nil (by decide) _, length_digits_le _ _, hdigits, hzero, by omega⟩,
    hnumber, UInt8.ofNat_toNat]

/-- **A printed group reads back.** -/
theorem hexGroup?_digits (g : UInt16) : hexGroup? (digits 16 4 g.toNat) = some g := by
  have hlt := g.toNat_lt
  have hnumber : numberOf 16 (digits 16 4 g.toNat) = g.toNat :=
    numberOf_digits (by decide) (by decide) (by omega)
  have hdigits : (digits 16 4 g.toNat).all (isDigitOf 16) = true :=
    all_isDigitOf_digits (by decide) (by decide) 4 g.toNat
  rw [hexGroup?, if_pos ⟨digits_ne_nil (by decide) _, length_digits_le _ _, hdigits⟩, hnumber,
    UInt16.ofNat_toNat]

/-! ## Fields -/

variable {sep : Char}

/-- A text without a separator is its only field. -/
theorem fields_of_not_mem {cs : List Char} (h : sep ∉ cs) : fields sep cs = [cs] := by
  induction cs with
  | nil => rfl
  | cons c cs ih =>
      have hc : sep ≠ c := List.ne_of_not_mem_cons h
      have hrest : sep ∉ cs := List.not_mem_of_not_mem_cons h
      simp [fields, Ne.symm hc, ih hrest]

/-- A field ends at its separator. -/
theorem fields_append {cs : List Char} (h : sep ∉ cs) (rest : List Char) :
    fields sep (cs ++ sep :: rest) = cs :: fields sep rest := by
  induction cs with
  | nil => simp [fields]
  | cons c cs ih =>
      have hc : sep ≠ c := List.ne_of_not_mem_cons h
      have hrest : sep ∉ cs := List.not_mem_of_not_mem_cons h
      simp [fields, Ne.symm hc, ih hrest]

/-- Between two fields stands a separator. -/
theorem joined_cons_cons (p q : List Char) (ps : List (List Char)) :
    joined [sep] (p :: q :: ps) = p ++ sep :: joined [sep] (q :: ps) := by
  simp [joined]

/-- **Joined pieces come apart again.** -/
theorem fields_joined {ps : List (List Char)} (hne : ps ≠ []) (h : ∀ p ∈ ps, sep ∉ p) :
    fields sep (joined [sep] ps) = ps := by
  induction ps with
  | nil => exact absurd rfl hne
  | cons p ps ih =>
      obtain ⟨hp, hps⟩ := List.forall_mem_cons.mp h
      cases ps with
      | nil => exact fields_of_not_mem hp
      | cons q ps => rw [joined_cons_cons, fields_append hp, ih (by simp) hps]

/-- What is in a joined text is a separator or comes from a field. -/
theorem mem_joined {c : Char} {ps : List (List Char)} (h : c ∈ joined [sep] ps) :
    c = sep ∨ ∃ p ∈ ps, c ∈ p := by
  induction ps with
  | nil => cases h
  | cons p ps ih =>
      cases ps with
      | nil => exact Or.inr ⟨p, List.mem_cons_self, h⟩
      | cons q ps =>
          rw [joined_cons_cons] at h
          rcases List.mem_append.mp h with hp | hrest
          · exact Or.inr ⟨p, List.mem_cons_self, hp⟩
          · rcases List.mem_cons.mp hrest with rfl | hrest
            · exact Or.inl rfl
            · rcases ih hrest with hsep | ⟨p', hp', hc⟩
              · exact Or.inl hsep
              · exact Or.inr ⟨p', List.mem_cons_of_mem p hp', hc⟩

/-- A character that is no separator stands in some field. -/
theorem exists_mem_fields {c : Char} (hne : c ≠ sep) {cs : List Char} (h : c ∈ cs) :
    ∃ p ∈ fields sep cs, c ∈ p := by
  induction cs with
  | nil => cases h
  | cons d cs ih =>
      unfold fields
      rcases List.mem_cons.mp h with rfl | hrest
      · rw [if_neg hne]
        split <;> exact ⟨_, List.mem_cons_self, List.mem_cons_self⟩
      · obtain ⟨p, hp, hc⟩ := ih hrest
        split
        · exact ⟨p, List.mem_cons_of_mem _ hp, hc⟩
        · split
          · next hnone =>
              rw [hnone] at hp
              cases hp
          · next first others hfields =>
              rw [hfields] at hp
              rcases List.mem_cons.mp hp with rfl | hp
              · exact ⟨_, List.mem_cons_self, List.mem_cons_of_mem d hc⟩
              · exact ⟨p, List.mem_cons_of_mem _ hp, hc⟩

/-! ## The gap -/

/-- A piece between colons: it holds a character and no colon. -/
def IsPiece (p : List Char) : Prop := p ≠ [] ∧ ':' ∉ p

/-- The gap is looked for behind what has no colon. -/
theorem splitGap?_append {cs : List Char} (h : ':' ∉ cs) (rest : List Char) :
    splitGap? (cs ++ rest) =
      (splitGap? rest).map fun (before, after) => (cs ++ before, after) := by
  induction cs with
  | nil => simp
  | cons c cs ih =>
      have hc : ':' ≠ c := List.ne_of_not_mem_cons h
      have hcs : ':' ∉ cs := List.not_mem_of_not_mem_cons h
      have hnot : ¬ (c = ':' ∧ (cs ++ rest).head? = some ':') := fun hgap => hc hgap.1.symm
      rw [List.cons_append, splitGap?, if_neg hnot, ih hcs, Option.map_map]
      rfl

/-- One colon is no gap. -/
theorem splitGap?_colon {cs : List Char} (h : cs.head? ≠ some ':') :
    splitGap? (':' :: cs) =
      (splitGap? cs).map fun (before, after) => (':' :: before, after) := by
  rw [splitGap?, if_neg fun hgap => h hgap.2]

/-- A run of pieces does not start with a colon. -/
theorem head?_joined {p : List Char} (hp : IsPiece p) (ps : List (List Char)) (rest : List Char) :
    (joined [':'] (p :: ps) ++ rest).head? ≠ some ':' := by
  obtain ⟨hne, hcolon⟩ := hp
  cases p with
  | nil => exact absurd rfl hne
  | cons c cs =>
      have hc : ':' ≠ c := List.ne_of_not_mem_cons hcolon
      cases ps with
      | nil => simpa [joined] using Ne.symm hc
      | cons q ps => simpa [joined] using Ne.symm hc

/-- Pieces before a text belong before its gap. -/
theorem splitGap?_joined_append {ps : List (List Char)} (h : ∀ p ∈ ps, IsPiece p)
    (rest : List Char) :
    splitGap? (joined [':'] ps ++ rest) =
      (splitGap? rest).map fun (before, after) => (joined [':'] ps ++ before, after) := by
  induction ps with
  | nil => simp [joined]
  | cons p ps ih =>
      obtain ⟨hp, hps⟩ := List.forall_mem_cons.mp h
      cases ps with
      | nil => exact splitGap?_append hp.2 rest
      | cons q ps =>
          -- The colon between two pieces is no gap, because the next piece starts without one.
          have hq := (List.forall_mem_cons.mp hps).1
          rw [joined_cons_cons, List.append_assoc, List.cons_append, splitGap?_append hp.2,
            splitGap?_colon (head?_joined hq ps rest), ih hps]
          simp [Function.comp_def]

/-- Joined pieces have **no gap** between them. -/
theorem splitGap?_joined {ps : List (List Char)} (h : ∀ p ∈ ps, IsPiece p) :
    splitGap? (joined [':'] ps) = none := by
  have happend := splitGap?_joined_append h []
  simpa [splitGap?] using happend

/-- The gap after joined pieces is found. -/
theorem splitGap?_gap {ps : List (List Char)} (h : ∀ p ∈ ps, IsPiece p) (after : List Char) :
    splitGap? (joined [':'] ps ++ ':' :: ':' :: after) = some (joined [':'] ps, after) := by
  rw [splitGap?_joined_append h]
  simp [splitGap?]

end Address

end ReceiveReactor
