import Mathlib.Data.List.Induction
import ReceiveReactor.Proofs.AddressText

/-!
# Which texts are addresses

The grammar of address texts, written down **without the reader**: what is a digit, a number,
a group, a run of groups, and which octets each text denotes.  The reader accepts exactly the
texts of the grammar and reads exactly what they denote.

* `Address.V4Text`, `Address.V6Text` — the two grammars, with the octets that a text denotes;
* `Address.octetsOfText?_eq_some_iff`, `Address.exists_groupsOfText?_iff` — **both directions**,
  for each family;
* `Address.V4Text.not_v6Text` — no text belongs to both;
* `Address.parse_by_grammar` — what reading and assigning any text comes to.
-/

namespace ReceiveReactor

namespace Address

/-! ## The grammar -/

/-- The digits in the order of their values, in lower and in upper case. -/
def lowerDigits : List Char := "0123456789abcdef".toList

@[inherit_doc lowerDigits]
def upperDigits : List Char := "0123456789ABCDEF".toList

/-- A character that is the digit of the value `d`, which is below the base. -/
def IsDigit (base : Nat) (c : Char) (d : Nat) : Prop :=
  d < base ∧ (lowerDigits[d]? = some c ∨ upperDigits[d]? = some c)

/-- Some digits, highest first, and the number that they denote. -/
inductive Numeral (base : Nat) : List Char → Nat → Prop where
  | digit {c : Char} {d : Nat} (hd : IsDigit base c d) : Numeral base [c] d
  | concat {cs : List Char} {n : Nat} {c : Char} {d : Nat} (hcs : Numeral base cs n)
      (hd : IsDigit base c d) : Numeral base (cs ++ [c]) (n * base + d)

/-- A number from 0 to 255 of one to three decimal digits, without leading zeros. -/
structure OctetText (cs : List Char) (b : UInt8) : Prop where
  numeral : Numeral 10 cs b.toNat
  short : cs.length ≤ 3
  plain : cs.length = 1 ∨ cs.head? ≠ some '0'

/-- A group of one to four hexadecimal digits, with its higher and its lower octet. -/
structure GroupText (cs : List Char) (hi lo : UInt8) : Prop where
  numeral : Numeral 16 cs (256 * hi.toNat + lo.toNat)
  short : cs.length ≤ 4

/-- **The texts of IPv4 addresses**: four numbers joined by dots. -/
inductive V4Text : List Char → Bytes → Prop where
  | mk {p q r s : List Char} {a b c d : UInt8} (ha : OctetText p a) (hb : OctetText q b)
      (hc : OctetText r c) (hd : OctetText s d) :
      V4Text (p ++ '.' :: (q ++ '.' :: (r ++ '.' :: s))) [a, b, c, d]

/-- Groups joined by colons, one at least; where `dotted`, the last two may be an IPv4 text. -/
inductive RunText (dotted : Bool) : List Char → Bytes → Prop where
  | group {cs : List Char} {hi lo : UInt8} (h : GroupText cs hi lo) : RunText dotted cs [hi, lo]
  | tail {cs : List Char} {octets : Bytes} (hdotted : dotted = true) (h : V4Text cs octets) :
      RunText dotted cs octets
  | cons {cs rest : List Char} {hi lo : UInt8} {octets : Bytes} (h : GroupText cs hi lo)
      (hrest : RunText dotted rest octets) :
      RunText dotted (cs ++ ':' :: rest) (hi :: lo :: octets)

/-- What stands on one side of a gap: groups, or nothing. -/
inductive SideText (dotted : Bool) : List Char → Bytes → Prop where
  | empty : SideText dotted [] []
  | run {cs : List Char} {octets : Bytes} (h : RunText dotted cs octets) :
      SideText dotted cs octets

/-- **The texts of IPv6 addresses**: eight groups, or fewer with a gap that stands for the
zero groups that are missing, **one at least**. -/
inductive V6Text : List Char → Bytes → Prop where
  | whole {cs : List Char} {octets : Bytes} (h : RunText true cs octets)
      (hlength : octets.length = 16) : V6Text cs octets
  | gap {before after : List Char} {front back : Bytes} {n : Nat}
      (hfront : SideText false before front) (hback : SideText true after back) (hpos : 0 < n)
      (hlength : front.length + 2 * n + back.length = 16) :
      V6Text (before ++ ':' :: ':' :: after) (front ++ Bytes.zeros (2 * n) ++ back)

/-- A text that is neither. -/
def Malformed (cs : List Char) : Prop :=
  (∀ octets, ¬ V4Text cs octets) ∧ ∀ octets, ¬ V6Text cs octets

/-! ## Digits and numbers -/

/-- A digit is among the first 128 characters. -/
theorem lt_of_digitValue? {c : Char} {d : Nat} (h : digitValue? c = some d) : c.toNat < 128 := by
  have hle : ∀ last : Char, c ≤ last → c.toNat ≤ last.toNat := fun last hlast => hlast
  unfold digitValue? at h
  split at h
  · next hdigit =>
      have hlast := hle '9' hdigit.2
      exact Nat.lt_of_le_of_lt hlast (by decide)
  · split at h
    · next hlower =>
        have hlast := hle 'f' hlower.2
        exact Nat.lt_of_le_of_lt hlast (by decide)
    · split at h
      · next hupper =>
          have hlast := hle 'F' hupper.2
          exact Nat.lt_of_le_of_lt hlast (by decide)
      · cases h

/-- The reader knows the digits, **and no other character**. -/
theorem isDigit_iff {base : Nat} (hbase : base ≤ 16) {c : Char} {d : Nat} :
    IsDigit base c d ↔ d < base ∧ digitValue? c = some d := by
  refine and_congr_right fun hd => ?_
  constructor
  · intro hspelled
    have hall : ∀ d : Fin 16, lowerDigits[d.val]?.bind digitValue? = some d.val ∧
        upperDigits[d.val]?.bind digitValue? = some d.val := by decide
    have hvalue := hall ⟨d, by omega⟩
    rcases hspelled with hlower | hupper
    · rw [hlower] at hvalue
      exact hvalue.1
    · rw [hupper] at hvalue
      exact hvalue.2
  · intro hvalue
    have hall : ∀ n : Fin 128, ∀ d ∈ digitValue? (Char.ofNat n.val),
        lowerDigits[d]? = some (Char.ofNat n.val) ∨ upperDigits[d]? = some (Char.ofNat n.val) := by
      decide
    have hc := hall ⟨c.toNat, lt_of_digitValue? hvalue⟩ d
    rw [Char.ofNat_toNat] at hc
    exact hc hvalue

/-- The digits of the grammar are those that the parser takes for digits. -/
theorem exists_isDigit_iff {base : Nat} (hbase : base ≤ 16) {c : Char} :
    (∃ d, IsDigit base c d) ↔ isDigitOf base c = true := by
  simp only [isDigit_iff hbase, isDigitOf]
  cases digitValue? c <;> simp

/-- The reader's number of some digits is **the one that they denote**. -/
theorem numeral_iff {base : Nat} (hbase : base ≤ 16) {cs : List Char} {n : Nat} :
    Numeral base cs n ↔
      cs ≠ [] ∧ cs.all (isDigitOf base) = true ∧ numberOf base cs = n := by
  constructor
  · intro h
    induction h with
    | @digit c d hd =>
        have hvalue := ((isDigit_iff hbase).mp hd).2
        have hdigit := (exists_isDigit_iff hbase).mp ⟨d, hd⟩
        refine ⟨by simp, by simp [hdigit], ?_⟩
        simp [numberOf, hvalue]
    | @concat cs n c d hcs hd ih =>
        obtain ⟨-, hall, hnumber⟩ := ih
        have hvalue := ((isDigit_iff hbase).mp hd).2
        have hdigit := (exists_isDigit_iff hbase).mp ⟨d, hd⟩
        refine ⟨by simp, by simp [hall, hdigit], ?_⟩
        rw [numberOf_concat, hnumber, hvalue, Option.getD_some]
  · rintro ⟨hne, hall, rfl⟩
    induction cs using List.reverseRecOn with
    | nil => exact absurd rfl hne
    | append_singleton cs c ih =>
        rw [List.all_append, Bool.and_eq_true, List.all_cons, List.all_nil, Bool.and_true] at hall
        obtain ⟨d, hd⟩ := (exists_isDigit_iff hbase).mpr hall.2
        have hvalue := ((isDigit_iff hbase).mp hd).2
        rw [numberOf_concat, hvalue, Option.getD_some]
        by_cases hcs : cs = []
        · subst hcs
          have hone : numberOf base [] * base + d = d := by simp [numberOf]
          rw [List.nil_append, hone]
          exact .digit hd
        · exact .concat (ih hcs hall.1) hd

/-- A number of few digits is small. -/
theorem Numeral.lt {base : Nat} {cs : List Char} {n : Nat} (h : Numeral base cs n) :
    n < base ^ cs.length := by
  induction h with
  | digit hd => simpa using hd.1
  | @concat cs n c d hcs hd ih =>
      have hlast := hd.1
      rw [List.length_append, List.length_singleton, Nat.pow_succ]
      calc n * base + d < n * base + base := Nat.add_lt_add_left hlast _
        _ = (n + 1) * base := (Nat.succ_mul n base).symm
        _ ≤ base ^ cs.length * base := Nat.mul_le_mul_right base ih

/-- A numeral is a piece of a text: it has a digit, and neither a dot nor a colon. -/
theorem Numeral.isPiece {base : Nat} (hbase : base ≤ 16) {cs : List Char} {n : Nat}
    (h : Numeral base cs n) : IsPiece cs ∧ '.' ∉ cs := by
  obtain ⟨hne, hall, -⟩ := (numeral_iff hbase).mp h
  have hdigit : ∀ c ∈ cs, isDigitOf 16 c = true := by
    intro c hc
    obtain ⟨d, hd, hspelled⟩ := (exists_isDigit_iff hbase).mpr (List.all_eq_true.mp hall c hc)
    exact (exists_isDigit_iff (Nat.le_refl 16)).mp ⟨d, Nat.lt_of_lt_of_le hd hbase, hspelled⟩
  refine ⟨⟨hne, fun hcolon => ?_⟩, fun hdot => ?_⟩
  · exact absurd (hdigit ':' hcolon) (by decide)
  · exact absurd (hdigit '.' hdot) (by decide)

/-- **The numbers of a dotted text** are read, and nothing else is. -/
theorem octet?_eq_some_iff {cs : List Char} {b : UInt8} :
    octet? cs = some b ↔ OctetText cs b := by
  constructor
  · intro h
    unfold octet? at h
    split at h
    · next hoctet =>
        obtain ⟨hne, hshort, hall, hplain, hle⟩ := hoctet
        have hb : numberOf 10 cs = b.toNat := by
          rw [← Option.some.inj h, UInt8.toNat_ofNat', Nat.mod_eq_of_lt (by omega)]
        exact ⟨(numeral_iff (by decide)).mpr ⟨hne, hall, hb⟩, hshort, hplain⟩
    · cases h
  · rintro ⟨hnumeral, hshort, hplain⟩
    obtain ⟨hne, hall, hnumber⟩ := (numeral_iff (by decide)).mp hnumeral
    have hlt := b.toNat_lt
    rw [octet?, if_pos ⟨hne, hshort, hall, hplain, by omega⟩, hnumber, UInt8.ofNat_toNat]

/-- **The groups of an IPv6 text** are read, and nothing else is. -/
theorem exists_hexGroup?_iff {cs : List Char} {hi lo : UInt8} :
    (∃ g, hexGroup? cs = some g ∧ unpairs [g] = [hi, lo]) ↔ GroupText cs hi lo := by
  constructor
  · rintro ⟨g, hg, hoctets⟩
    unfold hexGroup? at hg
    split at hg
    · next hgroup =>
        obtain ⟨hne, hshort, hall⟩ := hgroup
        have hnumeral : Numeral 16 cs (numberOf 16 cs) :=
          (numeral_iff (by decide)).mpr ⟨hne, hall, rfl⟩
        have hbound : numberOf 16 cs < 16 ^ 4 :=
          Nat.lt_of_lt_of_le hnumeral.lt (Nat.pow_le_pow_right (by decide) hshort)
        have hnumber : numberOf 16 cs = 256 * hi.toNat + lo.toNat := by
          rw [← Option.some.inj hg] at hoctets
          simp only [unpairs, List.cons.injEq, and_true] at hoctets
          rw [← hoctets.1, ← hoctets.2]
          simp only [UInt8.toNat_ofNat', UInt16.toNat_ofNat']
          omega
        exact ⟨hnumber ▸ hnumeral, hshort⟩
    · cases hg
  · rintro ⟨hnumeral, hshort⟩
    obtain ⟨hne, hall, hnumber⟩ := (numeral_iff (by decide)).mp hnumeral
    refine ⟨_, if_pos ⟨hne, hshort, hall⟩, ?_⟩
    rw [hnumber]
    exact unpairs_pairs [hi, lo] (by simp)

/-! ## Fields and gaps -/

section Fields

variable {sep : Char}

/-- A text has one field at least. -/
theorem fields_ne_nil (cs : List Char) : fields sep cs ≠ [] := by
  cases cs with
  | nil => simp [fields]
  | cons c cs =>
      unfold fields
      split
      · simp
      · split <;> simp

/-- **The fields with separators between them are the text again.** -/
theorem joined_fields (cs : List Char) : joined [sep] (fields sep cs) = cs := by
  induction cs with
  | nil => rfl
  | cons c cs ih =>
      unfold fields
      split
      · next heq =>
          subst heq
          have hne : fields c cs ≠ [] := fields_ne_nil cs
          obtain ⟨first, others, hfields⟩ := List.exists_cons_of_ne_nil hne
          rw [hfields] at ih ⊢
          rw [joined_cons_cons, ih, List.nil_append]
      · split
        · next hnone => exact absurd hnone (fields_ne_nil cs)
        · next first others hfields =>
            rw [hfields] at ih
            cases others with
            | nil => simpa [joined] using ih
            | cons next others =>
                rw [joined_cons_cons] at ih ⊢
                rw [List.cons_append, ih]

end Fields

/-- A gap is found **where it is**. -/
theorem eq_append_of_splitGap? {cs before after : List Char}
    (h : splitGap? cs = some (before, after)) : cs = before ++ ':' :: ':' :: after := by
  induction cs generalizing before with
  | nil => cases h
  | cons c cs ih =>
      unfold splitGap? at h
      split at h
      · next hgap =>
          obtain ⟨rfl, hhead⟩ := hgap
          obtain ⟨rest, rfl⟩ := List.head?_eq_some_iff.mp hhead
          cases h
          rfl
      · obtain ⟨⟨front, back⟩, hsplit, heq⟩ := Option.map_eq_some_iff.mp h
        cases heq
        rw [ih hsplit, List.cons_append]

/-! ## Dotted texts -/

/-- **The fields that are read as octets** are texts of these octets, one each. -/
theorem mapM_octet?_eq_some_iff {ps : List (List Char)} {octets : Bytes} :
    ps.mapM octet? = some octets ↔ List.Forall₂ OctetText ps octets := by
  induction ps generalizing octets with
  | nil =>
      constructor
      · intro h
        cases h
        exact .nil
      · intro h
        cases h
        rfl
  | cons p ps ih =>
      rw [List.mapM_cons]
      constructor
      · intro h
        obtain ⟨b, hb, hrest⟩ := Option.bind_eq_some_iff.mp h
        obtain ⟨bs, hbs, heq⟩ := Option.bind_eq_some_iff.mp hrest
        cases heq
        exact .cons (octet?_eq_some_iff.mp hb) (ih.mp hbs)
      · intro h
        cases h with
        | cons hb hbs => rw [octet?_eq_some_iff.mpr hb, ih.mpr hbs]; rfl

/-- Four bytes are an IPv4 address, and no other number of bytes is. -/
theorem octets4?_eq_some_iff {bs : Bytes} {octets : Vector UInt8 4} :
    octets4? bs = some octets ↔ bs = octets.toList := by
  constructor
  · intro h
    unfold octets4? at h
    split at h
    · rw [← Option.some.inj h]
      simp [Vector.toList]
    · cases h
  · rintro rfl
    exact octets4?_toList octets

/-- Sixteen bytes are an IPv6 address, and no other number of bytes is. -/
theorem octets16?_eq_some_iff {bs : Bytes} {octets : Vector UInt8 16} :
    octets16? bs = some octets ↔ bs = octets.toList := by
  constructor
  · intro h
    unfold octets16? at h
    split at h
    · rw [← Option.some.inj h]
      simp [Vector.toList]
    · cases h
  · rintro rfl
    exact octets16?_toList octets

/-- **Exactly the texts of the grammar read as IPv4**, as the octets that they denote. -/
theorem octetsOfText?_eq_some_iff {cs : List Char} {octets : Vector UInt8 4} :
    octetsOfText? cs = some octets ↔ V4Text cs octets.toList := by
  constructor
  · intro h
    obtain ⟨bs, hread, hfour⟩ := Option.bind_eq_some_iff.mp h
    obtain rfl := octets4?_eq_some_iff.mp hfour
    have hnumbers := mapM_octet?_eq_some_iff.mp hread
    have hjoined : joined ['.'] (fields '.' cs) = cs := joined_fields cs
    generalize fields '.' cs = ps at hnumbers hjoined
    subst hjoined
    have hlength : octets.toList.length = 4 := by simp
    generalize octets.toList = bs at hnumbers hlength ⊢
    match bs, hlength, hnumbers with
    | [a, b, c, d], _, .cons ha (.cons hb (.cons hc (.cons hd .nil))) =>
        simpa [joined] using V4Text.mk ha hb hc hd
  · intro h
    generalize hbs : octets.toList = bs at h
    cases h with
    | @mk p q r s a b c d ha hb hc hd =>
        have hdot : ∀ {cs b}, OctetText cs b → '.' ∉ cs :=
          fun h => (h.numeral.isPiece (by decide)).2
        have hfields : fields '.' (p ++ '.' :: (q ++ '.' :: (r ++ '.' :: s))) = [p, q, r, s] := by
          rw [fields_append (hdot ha), fields_append (hdot hb), fields_append (hdot hc),
            fields_of_not_mem (hdot hd)]
        have hnumbers : List.Forall₂ OctetText [p, q, r, s] [a, b, c, d] :=
          .cons ha (.cons hb (.cons hc (.cons hd .nil)))
        rw [octetsOfText?, hfields, mapM_octet?_eq_some_iff.mpr hnumbers, Option.bind_some, ← hbs]
        exact octets4?_toList octets

/-- An IPv4 text names four octets. -/
theorem V4Text.length {cs : List Char} {octets : Bytes} (h : V4Text cs octets) :
    octets.length = 4 := by
  cases h
  rfl

/-- A dotted text has a dot, and is a piece between colons. -/
theorem V4Text.isPiece {cs : List Char} {octets : Bytes} (h : V4Text cs octets) :
    IsPiece cs ∧ '.' ∈ cs := by
  cases h with
  | mk ha hb hc hd =>
      have hpiece : ∀ {cs b}, OctetText cs b → ':' ∉ cs :=
        fun h => (h.numeral.isPiece (by decide)).1.2
      exact ⟨⟨by simp, by simp [hpiece ha, hpiece hb, hpiece hc, hpiece hd]⟩, by simp⟩

/-! ## Groups -/

/-- Groups make their octets one group after the other. -/
theorem unpairs_append (gs gs' : List UInt16) :
    unpairs (gs ++ gs') = unpairs gs ++ unpairs gs' := by
  induction gs with
  | nil => rfl
  | cons g gs ih => simp [unpairs, ih]

/-- Groups of zero make octets of zero. -/
theorem unpairs_replicate_zero (n : Nat) :
    unpairs (List.replicate n 0) = Bytes.zeros (2 * n) := by
  induction n with
  | zero => rfl
  | succ n ih =>
      rw [List.replicate_succ, unpairs, ih, Nat.mul_succ]
      simp [Bytes.zeros, List.replicate_succ]

/-- Groups between colons **denote their octets**. -/
theorem runText_of_groupsOfFields? {dotted : Bool} {ps : List (List Char)} {gs : List UInt16}
    (hne : ps ≠ []) (h : groupsOfFields? dotted ps = some gs) :
    RunText dotted (joined [':'] ps) (unpairs gs) := by
  induction ps generalizing gs with
  | nil => exact absurd rfl hne
  | cons p ps ih =>
      cases ps with
      | nil =>
          rw [groupsOfFields?] at h
          split at h
          · next g hg =>
              cases h
              exact .group (exists_hexGroup?_iff.mp ⟨g, hg, rfl⟩)
          · split at h
            · next hdotted =>
                obtain ⟨octets, hoctets, rfl⟩ := Option.map_eq_some_iff.mp h
                rw [unpairs_pairs _ (by simp)]
                exact .tail hdotted (octetsOfText?_eq_some_iff.mp hoctets)
            · cases h
      | cons q ps =>
          rw [groupsOfFields?_cons] at h
          obtain ⟨g, hg, hrest⟩ := Option.bind_eq_some_iff.mp h
          obtain ⟨gs, hgs, rfl⟩ := Option.map_eq_some_iff.mp hrest
          rw [joined_cons_cons]
          exact .cons (exists_hexGroup?_iff.mp ⟨g, hg, rfl⟩) (ih (by simp) hgs)

/-- **Every run of groups comes apart** at its colons, and is read. -/
theorem RunText.exists_pieces {dotted : Bool} {cs : List Char} {octets : Bytes}
    (h : RunText dotted cs octets) :
    ∃ ps gs, ps ≠ [] ∧ (∀ p ∈ ps, IsPiece p) ∧ joined [':'] ps = cs ∧
      groupsOfFields? dotted ps = some gs ∧ unpairs gs = octets := by
  induction h with
  | @group cs hi lo h =>
      obtain ⟨g, hg, hoctets⟩ := exists_hexGroup?_iff.mpr h
      refine ⟨[cs], [g], by simp, ?_, rfl, ?_, hoctets⟩
      · exact List.forall_mem_singleton.mpr (h.numeral.isPiece (by decide)).1
      · rw [groupsOfFields?, hg]
  | @tail cs octets hdotted h =>
      obtain ⟨hpiece, hdot⟩ := h.isPiece
      have hread : octetsOfText? cs = octets4? octets := by
        rw [octets4?, dif_pos h.length]
        exact octetsOfText?_eq_some_iff.mpr (by simpa [Vector.toList] using h)
      refine ⟨[cs], pairs octets, by simp, List.forall_mem_singleton.mpr hpiece, rfl, ?_, ?_⟩
      · rw [groupsOfFields?, hexGroup?_eq_none hdot (by decide), if_pos hdotted, hread, octets4?,
          dif_pos h.length]
        simp [Vector.toList]
      · exact unpairs_pairs octets (by rw [h.length])
  | @cons cs rest hi lo octets h hrest ih =>
      obtain ⟨g, hg, hpair⟩ := exists_hexGroup?_iff.mpr h
      obtain ⟨ps, gs, hne, hpieces, rfl, hgs, rfl⟩ := ih
      obtain ⟨q, ps, rfl⟩ := List.exists_cons_of_ne_nil hne
      refine ⟨cs :: q :: ps, g :: gs, by simp, ?_, joined_cons_cons _ _ _, ?_, ?_⟩
      · exact List.forall_mem_cons.mpr ⟨(h.numeral.isPiece (by decide)).1, hpieces⟩
      · rw [groupsOfFields?_cons, hg, hgs]
        rfl
      · rw [← List.singleton_append, unpairs_append, hpair]
        rfl

/-- What stands on one side of a gap is made of pieces. -/
theorem SideText.exists_pieces {dotted : Bool} {cs : List Char} {octets : Bytes}
    (h : SideText dotted cs octets) : ∃ ps, (∀ p ∈ ps, IsPiece p) ∧ joined [':'] ps = cs := by
  cases h with
  | empty => exact ⟨[], by simp, rfl⟩
  | run h =>
      obtain ⟨ps, -, -, hpieces, hjoined, -⟩ := h.exists_pieces
      exact ⟨ps, hpieces, hjoined⟩

/-- The two sides of a gap read as their octets. -/
theorem exists_groupsOfSide?_iff {dotted : Bool} {cs : List Char} {octets : Bytes} :
    (∃ gs, groupsOfSide? dotted cs = some gs ∧ unpairs gs = octets) ↔
      SideText dotted cs octets := by
  constructor
  · rintro ⟨gs, hgs, rfl⟩
    unfold groupsOfSide? at hgs
    split at hgs
    · next hempty =>
        subst hempty
        cases hgs
        exact .empty
    · have hrun := runText_of_groupsOfFields? (fields_ne_nil cs) hgs
      rw [joined_fields] at hrun
      exact .run hrun
  · intro h
    cases h with
    | empty => exact ⟨[], rfl, rfl⟩
    | run h =>
        obtain ⟨ps, gs, hne, hpieces, rfl, hgs, hoctets⟩ := h.exists_pieces
        have hfields : fields ':' (joined [':'] ps) = ps :=
          fields_joined hne fun p hp => (hpieces p hp).2
        obtain ⟨p, ps, rfl⟩ := List.exists_cons_of_ne_nil hne
        have hp := (hpieces p List.mem_cons_self).1
        have htext : joined [':'] (p :: ps) ≠ [] := by cases ps <;> simp [joined, hp]
        refine ⟨gs, ?_, hoctets⟩
        rw [groupsOfSide?, if_neg htext, hfields, hgs]

/-- **Exactly the texts of the grammar read as IPv6**, as the octets that they denote. -/
theorem exists_groupsOfText?_iff {cs : List Char} {octets : Bytes} :
    (∃ gs, groupsOfText? cs = some gs ∧ unpairs gs = octets) ↔ V6Text cs octets := by
  constructor
  · rintro ⟨gs, hgs, rfl⟩
    unfold groupsOfText? at hgs
    split at hgs
    · obtain ⟨read, hread, height⟩ := Option.bind_eq_some_iff.mp hgs
      split at height
      · next hlength =>
          cases height
          have hside := exists_groupsOfSide?_iff.mp ⟨gs, hread, rfl⟩
          have hsixteen : (unpairs gs).length = 16 := by rw [length_unpairs, hlength]
          generalize unpairs gs = octets at hside hsixteen ⊢
          cases hside with
          | empty => cases hsixteen
          | run h => exact .whole h hsixteen
      · cases height
    · next before after hgap =>
        obtain ⟨front, hfront, hrest⟩ := Option.bind_eq_some_iff.mp hgs
        obtain ⟨back, hback, hroom⟩ := Option.bind_eq_some_iff.mp hrest
        split at hroom
        · cases hroom
          rw [eq_append_of_splitGap? hgap, unpairs_append, unpairs_append, unpairs_replicate_zero]
          refine .gap (exists_groupsOfSide?_iff.mp ⟨front, hfront, rfl⟩)
            (exists_groupsOfSide?_iff.mp ⟨back, hback, rfl⟩) (by omega) ?_
          rw [length_unpairs, length_unpairs]
          omega
        · cases hroom
  · intro h
    cases h with
    | whole h hlength =>
        obtain ⟨ps, -, -, hpieces, rfl, -⟩ := h.exists_pieces
        have hgap : splitGap? (joined [':'] ps) = none := splitGap?_joined hpieces
        obtain ⟨gs, hgs, rfl⟩ := exists_groupsOfSide?_iff.mpr (.run h)
        have height : gs.length = 8 := by
          rw [length_unpairs] at hlength
          omega
        refine ⟨gs, ?_, rfl⟩
        rw [groupsOfText?, hgap]
        simp [hgs, height]
    | @gap before after front back n hfront hback hpos hlength =>
        obtain ⟨ps, hpieces, rfl⟩ := hfront.exists_pieces
        obtain ⟨gs, hgs, rfl⟩ := exists_groupsOfSide?_iff.mpr hfront
        obtain ⟨gs', hgs', rfl⟩ := exists_groupsOfSide?_iff.mpr hback
        rw [length_unpairs, length_unpairs] at hlength
        have hzeros : 8 - gs.length - gs'.length = n := by omega
        refine ⟨_, groupsOfText?_of_gap (splitGap?_gap hpieces after) hgs hgs' (by omega), ?_⟩
        rw [hzeros, unpairs_append, unpairs_append, unpairs_replicate_zero]

/-- The last two groups may be dotted; a gap beside eight groups is none. -/
example :
    groupsOfText? "1::2:3.4.5.6".toList = some [1, 0, 0, 0, 0, 2, 0x304, 0x506] ∧
      groupsOfText? "1:2:3:4::5:6:7:8".toList = none := by
  decide

/-- An IPv6 text names sixteen octets, whatever its gap stands for. -/
theorem V6Text.length {cs : List Char} {octets : Bytes} (h : V6Text cs octets) :
    octets.length = 16 := by
  cases h with
  | whole h hlength => exact hlength
  | gap hfront hback hpos hlength =>
      rw [List.length_append, List.length_append, Bytes.length_zeros]
      exact hlength

/-- **No text belongs to both grammars**: one has no colon, and the other needs one. -/
theorem V4Text.not_v6Text {cs : List Char} {octets octets' : Bytes} (h : V4Text cs octets) :
    ¬ V6Text cs octets' := by
  intro h'
  refine h.isPiece.1.2 ?_
  cases h' with
  | whole hrun hlength =>
      cases hrun with
      | group => cases hlength
      | tail hdotted htail =>
          rw [htail.length] at hlength
          cases hlength
      | cons hgroup hrest => simp
  | gap => simp

/-! ## Whole addresses -/

/-- What is read from the texts that denote something, and refuses all others with one cause,
refuses **exactly those that denote nothing**. -/
theorem eq_error_iff {α : Type} {r : Except SocketError α} {denotes : Bytes → Prop}
    {cause reason : SocketError} (hreads : ∀ octets, denotes octets → ∃ a, r = .ok a)
    (hread : ∀ a, r = .ok a → ∃ octets, denotes octets)
    (hrefuses : ∀ cause, r = .error cause → cause = reason) :
    r = .error cause ↔ (∀ octets, ¬ denotes octets) ∧ cause = reason := by
  cases r with
  | ok a =>
      obtain ⟨octets, hoctets⟩ := hread a rfl
      exact iff_of_false nofun fun h => h.1 octets hoctets
  | error other =>
      obtain rfl := hrefuses other rfl
      refine ⟨fun heq => ⟨fun octets hoctets => ?_, (Except.error.inj heq).symm⟩,
        fun h => h.2 ▸ rfl⟩
      obtain ⟨a, ha⟩ := hreads octets hoctets
      cases ha

/-- **The IPv4 parser takes just the IPv4 texts**, with the port asked for. -/
theorem V4.parse_eq_ok_iff {ip : String} {port : UInt16} {a : V4} :
    V4.parse ip port = .ok a ↔ V4Text ip.toList a.octets.toList ∧ a.port = port := by
  rw [← octetsOfText?_eq_some_iff]
  constructor
  · intro h
    unfold V4.parse at h
    split at h
    · next octets hoctets =>
        cases h
        exact ⟨hoctets, rfl⟩
    · cases h
  · rintro ⟨hoctets, rfl⟩
    rw [V4.parse, hoctets]

/-- What it refuses is none, and there is one error for all of that. -/
theorem V4.parse_eq_error_iff {ip : String} {port : UInt16} {cause : SocketError} :
    V4.parse ip port = .error cause ↔
      (∀ octets, ¬ V4Text ip.toList octets) ∧ cause = .invalidAddress "not an IPv4 address" := by
  refine eq_error_iff (fun octets htext => ?_) (fun a ha => ?_) fun cause hcause => ?_
  · exact ⟨⟨⟨octets.toArray, by simp [htext.length]⟩, port⟩,
      V4.parse_eq_ok_iff.mpr ⟨by simpa [Vector.toList] using htext, rfl⟩⟩
  · exact ⟨_, (V4.parse_eq_ok_iff.mp ha).1⟩
  · unfold V4.parse at hcause
    split at hcause
    · cases hcause
    · exact (Except.error.inj hcause).symm

/-- **The IPv6 parser takes just the IPv6 texts**, without a scope. -/
theorem V6.parse_eq_ok_iff {ip : String} {port : UInt16} {a : V6} :
    V6.parse ip port = .ok a ↔
      V6Text ip.toList a.octets.toList ∧ a.port = port ∧ a.scope = 0 := by
  have hread : ∀ octets : Vector UInt8 16,
      ((groupsOfText? ip.toList).bind fun gs => octets16? (unpairs gs)) = some octets ↔
        V6Text ip.toList octets.toList := by
    intro octets
    simp only [Option.bind_eq_some_iff, octets16?_eq_some_iff, exists_groupsOfText?_iff]
  rw [← hread]
  constructor
  · intro h
    unfold V6.parse at h
    split at h
    · next octets hoctets =>
        cases h
        exact ⟨hoctets, rfl, rfl⟩
    · cases h
  · rintro ⟨hoctets, rfl, hscope⟩
    rw [V6.parse, hoctets]
    dsimp only
    rw [← hscope]

/-- What it refuses is none, and there is one error for all of that. -/
theorem V6.parse_eq_error_iff {ip : String} {port : UInt16} {cause : SocketError} :
    V6.parse ip port = .error cause ↔
      (∀ octets, ¬ V6Text ip.toList octets) ∧ cause = .invalidAddress "not an IPv6 address" := by
  refine eq_error_iff (fun octets htext => ?_) (fun a ha => ?_) fun cause hcause => ?_
  · exact ⟨⟨⟨octets.toArray, by simp [htext.length]⟩, port, 0⟩,
      V6.parse_eq_ok_iff.mpr ⟨by simpa [Vector.toList] using htext, rfl, rfl⟩⟩
  · exact ⟨_, (V6.parse_eq_ok_iff.mp ha).1⟩
  · unfold V6.parse at hcause
    split at hcause
    · cases hcause
    · exact (Except.error.inj hcause).symm

/-- What is an IPv4 text is read as one. -/
theorem parse_of_v4 {ip : String} {port : UInt16} {a : V4} (h : V4.parse ip port = .ok a) :
    parse ip port = .ok (.v4 a) := by
  rw [parse, h]

/-- What is none is left to the IPv6 parser, and the first error is forgotten. -/
theorem parse_of_not_v4 {ip : String} {port : UInt16} {cause : SocketError}
    (h : V4.parse ip port = .error cause) : parse ip port = (V6.parse ip port).map .v6 := by
  rw [parse, h]

/-- A text is refused **exactly if it is malformed**, always with the same cause. -/
theorem parse_eq_error_iff {ip : String} {port : UInt16} {cause : SocketError} :
    parse ip port = .error cause ↔
      Malformed ip.toList ∧ cause = .invalidAddress "not an IPv6 address" := by
  cases hv4 : V4.parse ip port with
  | ok a =>
      rw [parse_of_v4 hv4]
      refine iff_of_false nofun fun hnone => ?_
      exact hnone.1.1 _ (V4.parse_eq_ok_iff.mp hv4).1
  | error other =>
      have hnone := (V4.parse_eq_error_iff.mp hv4).1
      rw [parse_of_not_v4 hv4]
      cases hv6 : V6.parse ip port with
      | ok a =>
          refine iff_of_false nofun fun hmalformed => ?_
          exact hmalformed.1.2 _ (V6.parse_eq_ok_iff.mp hv6).1
      | error cause' =>
          obtain ⟨hnone', rfl⟩ := V6.parse_eq_error_iff.mp hv6
          exact ⟨fun heq => ⟨⟨hnone, hnone'⟩, (Except.error.inj heq).symm⟩, fun heq => heq.2 ▸ rfl⟩

/-- What reading a text with a port comes to, and assigning both to an address. -/
structure ReadsByGrammar (ip : String) (port : UInt16) : Prop where
  /-- An address is read from **exactly the texts that denote it**. -/
  v4_iff : ∀ a, parse ip port = .ok (.v4 a) ↔
    V4Text ip.toList a.octets.toList ∧ a.port = port
  v6_iff : ∀ a, parse ip port = .ok (.v6 a) ↔
    V6Text ip.toList a.octets.toList ∧ a.port = port ∧ a.scope = 0
  /-- All other texts are refused. -/
  error_iff : ∀ cause, parse ip port = .error cause ↔
    Malformed ip.toList ∧ cause = .invalidAddress "not an IPv6 address"
  /-- No text belongs to both grammars, so the families may be tried in either order. -/
  disjoint : ∀ octets octets', ¬ (V4Text ip.toList octets ∧ V6Text ip.toList octets')
  either_order : ((V6.parse ip port).toOption.map .v6).or ((V4.parse ip port).toOption.map .v4) =
    (parse ip port).toOption
  /-- Assigning to an address takes the texts of its family and keeps a scope; after any
  other text the address is **as it was**. -/
  v4_assign : ∀ a : V4,
    (∀ octets : Vector UInt8 4, V4Text ip.toList octets.toList →
      a.assign ip port = (.ok (), { octets, port })) ∧
    ((∀ octets, ¬ V4Text ip.toList octets) →
      a.assign ip port = (.error (.invalidAddress "not an IPv4 address"), a))
  v6_assign : ∀ a : V6,
    (∀ octets : Vector UInt8 16, V6Text ip.toList octets.toList →
      a.assign ip port = (.ok (), { octets, port, scope := a.scope })) ∧
    ((∀ octets, ¬ V6Text ip.toList octets) →
      a.assign ip port = (.error (.invalidAddress "not an IPv6 address"), a))

/-- **Exactly the texts of the grammar are addresses**, and each is read as what it denotes. -/
theorem parse_by_grammar (ip : String) (port : UInt16) : ReadsByGrammar ip port where
  v4_iff a := by
    rw [← V4.parse_eq_ok_iff]
    cases hv4 : V4.parse ip port with
    | ok b => rw [parse_of_v4 hv4, Except.ok.injEq, Except.ok.injEq, Address.v4.injEq]
    | error cause =>
        rw [parse_of_not_v4 hv4]
        cases V6.parse ip port <;> exact iff_of_false nofun nofun
  v6_iff a := by
    rw [← V6.parse_eq_ok_iff]
    cases hv4 : V4.parse ip port with
    | ok b => rw [parse_of_v4 hv4]; exact iff_of_false nofun (V4.parse_ne_ok_of_v6 hv4)
    | error cause =>
        rw [parse_of_not_v4 hv4]
        cases V6.parse ip port with
        | ok b => simp [Except.map]
        | error cause' => exact iff_of_false nofun nofun
  error_iff _ := parse_eq_error_iff
  disjoint _ _ h := h.1.not_v6Text h.2
  either_order := by
    cases hv4 : V4.parse ip port with
    | ok b =>
        rw [parse_of_v4 hv4]
        cases hv6 : V6.parse ip port with
        | ok c => exact absurd hv6 (V4.parse_ne_ok_of_v6 hv4)
        | error cause => rfl
    | error cause =>
        rw [parse_of_not_v4 hv4]
        cases V6.parse ip port <;> rfl
  v4_assign a := by
    refine ⟨fun octets htext => ?_, fun hnone => ?_⟩
    · have hread : V4.parse ip port = .ok { octets, port } := V4.parse_eq_ok_iff.mpr ⟨htext, rfl⟩
      rw [V4.assign, hread]
    · rw [V4.assign, V4.parse_eq_error_iff.mpr ⟨hnone, rfl⟩]
  v6_assign a := by
    refine ⟨fun octets htext => ?_, fun hnone => ?_⟩
    · have hread : V6.parse ip port = .ok { octets, port } :=
        V6.parse_eq_ok_iff.mpr ⟨htext, rfl, rfl⟩
      rw [V6.assign, hread]
    · rw [V6.assign, V6.parse_eq_error_iff.mpr ⟨hnone, rfl⟩]

end Address

end ReceiveReactor
