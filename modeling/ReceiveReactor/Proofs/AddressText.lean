import ReceiveReactor.Proofs.Source
import ReceiveReactor.Proofs.TextFields

/-!
# The text of an address reads back as the address

A printer of IPv6 addresses chooses between a dotted tail, a gap at the front, in the middle
or at the end, and no gap at all; a reader has to undo **each of these choices**.

* `Address.longestRun_isZeroRun`, `Address.le_longestRun` — the gap stands for the longest run
  of zero groups, the first of equals;
* `Address.octetsOfText?_textOfOctets`, `Address.groupsOfText?_textOfGroups` — what is printed
  reads back, for each family;
* `Address.colon_of_octetsOfText?`, `Address.colon_of_groupsOfText?` — one family is read from
  texts with a colon and the other from texts without: **no text is read as both**;
* `Address.ipText_reads_back` — all of it for whole addresses.
-/

namespace ReceiveReactor

namespace Address

/-! ## Runs of zero groups -/

/-- `n` zero groups from the place `i` on. -/
def IsZeroRun (gs : List UInt16) (i n : Nat) : Prop :=
  i + n ≤ gs.length ∧ (gs.drop i).take n = List.replicate n 0

/-- A run of zeros ends at the first group that is none. -/
theorem zeroRun_cons (g : UInt16) (gs : List UInt16) :
    zeroRun (g :: gs) = if g = 0 then zeroRun gs + 1 else 0 := by
  by_cases hg : g = 0 <;> simp [zeroRun, hg]

/-- A run that starts later does not depend on the first group. -/
theorem isZeroRun_succ_iff {g : UInt16} {gs : List UInt16} {i n : Nat} :
    IsZeroRun (g :: gs) (i + 1) n ↔ IsZeroRun gs i n := by
  rw [IsZeroRun, IsZeroRun, List.length_cons, List.drop_succ_cons]
  constructor
  · rintro ⟨hlength, hzeros⟩
    exact ⟨by omega, hzeros⟩
  · rintro ⟨hlength, hzeros⟩
    exact ⟨by omega, hzeros⟩

/-- The zero groups at the front are counted. -/
theorem isZeroRun_zero_iff {gs : List UInt16} {n : Nat} : IsZeroRun gs 0 n ↔ n ≤ zeroRun gs := by
  induction gs generalizing n with
  | nil => cases n <;> simp [IsZeroRun, zeroRun]
  | cons g gs ih =>
      rw [zeroRun_cons]
      cases n with
      | zero => simp [IsZeroRun]
      | succ n =>
          have hrest := ih (n := n)
          rw [IsZeroRun] at hrest ⊢
          by_cases hg : g = 0
          · simp [hg, List.replicate_succ] at hrest ⊢
            exact hrest
          · simp [hg, List.replicate_succ]

/-- The longest run starts at the first group if it is no shorter than those behind it. -/
theorem longestRun_cons (g : UInt16) (gs : List UInt16) :
    longestRun (g :: gs) =
      if (longestRun gs).2 ≤ zeroRun (g :: gs) then (0, zeroRun (g :: gs))
      else ((longestRun gs).1 + 1, (longestRun gs).2) := rfl

/-- The longest run is one. -/
theorem longestRun_isZeroRun (gs : List UInt16) :
    IsZeroRun gs (longestRun gs).1 (longestRun gs).2 := by
  induction gs with
  | nil => exact ⟨Nat.le_refl _, rfl⟩
  | cons g gs ih =>
      rw [longestRun_cons]
      split
      · exact isZeroRun_zero_iff.mpr (Nat.le_refl _)
      · exact isZeroRun_succ_iff.mpr ih

/-- **No run is longer, and none as long starts earlier.** -/
theorem le_longestRun {gs : List UInt16} {i n : Nat} (h : IsZeroRun gs i n) :
    n ≤ (longestRun gs).2 ∧ (n = (longestRun gs).2 → (longestRun gs).1 ≤ i) := by
  induction gs generalizing i n with
  | nil =>
      have hlength := h.1
      rw [List.length_nil] at hlength
      exact ⟨by omega, fun _ => Nat.zero_le i⟩
  | cons g gs ih =>
      rw [longestRun_cons]
      cases i with
      | zero =>
          have hhere := isZeroRun_zero_iff.mp h
          split
          · exact ⟨hhere, fun _ => Nat.le_refl 0⟩
          · exact ⟨by omega, fun heq => by omega⟩
      | succ i =>
          obtain ⟨hle, hfirst⟩ := ih (isZeroRun_succ_iff.mp h)
          split
          · exact ⟨by omega, fun _ => Nat.zero_le _⟩
          · exact ⟨hle, fun heq => Nat.succ_le_succ (hfirst heq)⟩

example : longestRun [0, 0, 1, 0, 0, 1, 2, 0] = (0, 2) := by decide

/-- Groups are what stands before a run, the run, and what stands behind it. -/
theorem IsZeroRun.eq_append {gs : List UInt16} {i n : Nat} (h : IsZeroRun gs i n) :
    gs.take i ++ List.replicate n 0 ++ gs.drop (i + n) = gs := by
  rw [← h.2, List.append_assoc, ← List.drop_drop, List.take_append_drop, List.take_append_drop]

/-! ## Texts of the two families -/

/-- The printed octets, one piece for each. -/
def octetPieces (octets : Bytes) : List (List Char) := octets.map fun b => digits 10 3 b.toNat

/-- The printed groups, one piece for each. -/
def groupPieces (gs : List UInt16) : List (List Char) := gs.map fun g => digits 16 4 g.toNat

/-- The text of a group is a piece between colons. -/
theorem isPiece_of_mem {gs : List UInt16} {p : List Char} (h : p ∈ groupPieces gs) :
    IsPiece p := by
  obtain ⟨g, -, rfl⟩ := List.mem_map.mp h
  exact ⟨digits_ne_nil (by decide) _, (not_mem_digits (by decide) (by decide) _ _).2⟩

/-- **The decimal texts of octets are read back** as those octets. -/
theorem mapM_octet? (octets : Bytes) : (octetPieces octets).mapM octet? = some octets := by
  induction octets with
  | nil => rfl
  | cons b bs ih =>
      rw [octetPieces, List.map_cons, List.mapM_cons, octet?_digits]
      rw [octetPieces] at ih
      simp [ih]

/-- **Printed octets read back.** -/
theorem octetsOfText?_textOfOctets {octets : Bytes} (h : octets ≠ []) :
    octetsOfText? (textOfOctets octets) = octets4? octets := by
  have hpieces : fields '.' (textOfOctets octets) = octetPieces octets := by
    refine fields_joined (by simpa using h) fun p hp => ?_
    obtain ⟨b, -, rfl⟩ := List.mem_map.mp hp
    exact (not_mem_digits (by decide) (by decide) _ _).1
  rw [octetsOfText?, hpieces, mapM_octet?, Option.bind_some]

/-- A field that is not the last must be a group, whatever follows. -/
theorem groupsOfFields?_cons (dotted : Bool) (field next : List Char) (rest : List (List Char)) :
    groupsOfFields? dotted (field :: next :: rest) =
      (hexGroup? field).bind fun g => (groupsOfFields? dotted (next :: rest)).map (g :: ·) := by
  rw [groupsOfFields?]
  · cases hexGroup? field with
    | none => rfl
    | some g => cases groupsOfFields? dotted (next :: rest) <;> rfl
  · simp

/-- **The texts of groups are read back** as those groups, dotted end or not. -/
theorem groupsOfFields?_groupPieces (dotted : Bool) (gs : List UInt16) :
    groupsOfFields? dotted (groupPieces gs) = some gs := by
  induction gs with
  | nil => rfl
  | cons g gs ih =>
      cases gs with
      | nil => simp [groupPieces, groupsOfFields?, hexGroup?_digits]
      | cons g' gs =>
          simp only [groupPieces, List.map_cons] at ih ⊢
          rw [groupsOfFields?_cons, hexGroup?_digits, ih]
          rfl

/-- A run of groups has a text. -/
theorem textOfRun_ne_nil {gs : List UInt16} (h : gs ≠ []) : textOfRun gs ≠ [] := by
  cases gs with
  | nil => exact absurd rfl h
  | cons g gs =>
      have hdigits : digits 16 4 g.toNat ≠ [] := digits_ne_nil (by decide) _
      cases gs <;> simp [textOfRun, joined, hdigits]

/-- **Groups joined by colons read back**, on either side of a gap. -/
theorem groupsOfSide?_textOfRun (dotted : Bool) (gs : List UInt16) :
    groupsOfSide? dotted (textOfRun gs) = some gs := by
  by_cases hgs : gs = []
  · subst hgs
    rfl
  · have hpieces : fields ':' (textOfRun gs) = groupPieces gs :=
      fields_joined (by simpa using hgs) fun p hp => (isPiece_of_mem hp).2
    rw [groupsOfSide?, if_neg (textOfRun_ne_nil hgs), hpieces, groupsOfFields?_groupPieces]

/-! ## The dotted tail -/

/-- Octets make half as many pairs. -/
theorem length_pairs (bs : Bytes) : (pairs bs).length = bs.length / 2 := by
  induction bs using pairs.induct with
  | case1 hi lo rest ih =>
      simp only [pairs, List.length_cons, ih]
      omega
  | case2 bs hne =>
      cases bs with
      | nil => rfl
      | cons hi rest =>
          cases rest with
          | nil => simp [pairs]
          | cons lo rest => exact absurd rfl (hne hi lo rest)

/-- What holds a character that is no digit is no group. -/
theorem hexGroup?_eq_none {cs : List Char} {c : Char} (hc : c ∈ cs) (h : isDigitOf 16 c = false) :
    hexGroup? cs = none := by
  rw [hexGroup?, if_neg]
  rintro ⟨-, -, hall⟩
  rw [List.all_eq_true.mp hall c hc] at h
  cases h

/-- A dotted text is no group, and reads back as two. -/
theorem groupsOfFields?_dotted {gs : List UInt16} (h : gs.length = 2) :
    groupsOfFields? true [textOfOctets (unpairs gs)] = some gs := by
  match gs, h with
  | [g, g'], _ =>
      have hdot : '.' ∈ textOfOctets (unpairs [g, g']) := by
        simp [textOfOctets, unpairs, joined]
      have hoctets : octetsOfText? (textOfOctets (unpairs [g, g'])) =
          octets4? (unpairs [g, g']) := octetsOfText?_textOfOctets (by simp [unpairs])
      have hlength : (unpairs [g, g']).length = 4 := rfl
      rw [groupsOfFields?, hexGroup?_eq_none hdot (by decide), if_pos rfl, hoctets, octets4?,
        dif_pos hlength]
      simp [Vector.toList, pairs_unpairs]

/-- The text of an IPv4 address has no colon. -/
theorem colon_not_mem_textOfOctets (octets : Bytes) : ':' ∉ textOfOctets octets := by
  intro hmem
  rcases mem_joined hmem with hdot | ⟨p, hp, hmem⟩
  · exact absurd hdot (by decide)
  · obtain ⟨b, -, rfl⟩ := List.mem_map.mp hp
    exact (not_mem_digits (by decide) (by decide) _ _).2 hmem

/-- The side behind the gap of a mapped address reads back. -/
theorem groupsOfSide?_mapped {gs : List UInt16} (h : gs.length = 2) :
    groupsOfSide? true ("ffff:".toList ++ textOfOctets (unpairs gs)) = some (0xffff :: gs) := by
  have hfields : fields ':' ("ffff".toList ++ ':' :: textOfOctets (unpairs gs)) =
      ["ffff".toList, textOfOctets (unpairs gs)] := by
    rw [fields_append (by decide), fields_of_not_mem (colon_not_mem_textOfOctets _)]
  have hfront : hexGroup? "ffff".toList = some 0xffff := by decide
  have htext : "ffff:".toList ++ textOfOctets (unpairs gs) =
      "ffff".toList ++ ':' :: textOfOctets (unpairs gs) := rfl
  rw [htext, groupsOfSide?, if_neg (by simp), hfields, groupsOfFields?_cons, hfront,
    groupsOfFields?_dotted h]
  rfl

/-! ## Every choice of the printer -/

/-- A text with a gap reads back as the groups on both sides and zeros between them. -/
theorem groupsOfText?_of_gap {cs before after : List Char} {front back : List UInt16}
    (hgap : splitGap? cs = some (before, after)) (hfront : groupsOfSide? false before = some front)
    (hback : groupsOfSide? true after = some back) (hroom : front.length + back.length ≤ 7) :
    groupsOfText? cs =
      some (front ++ List.replicate (8 - front.length - back.length) 0 ++ back) := by
  rw [groupsOfText?, hgap]
  simp [hfront, hback, hroom]

/-- An address that maps an IPv4 one is printed with a dotted tail, and reads back. -/
theorem groupsOfText?_mapped {gs : List UInt16} (h : gs.length = 8)
    (hmapped : gs.take 6 = [0, 0, 0, 0, 0, 0xffff]) :
    groupsOfText? (textOfGroups gs) = some gs := by
  have htail : (gs.drop 6).length = 2 := by
    rw [List.length_drop]
    omega
  have hgap : splitGap? (textOfGroups gs) =
      some ([], "ffff:".toList ++ textOfOctets (unpairs (gs.drop 6))) := by
    rw [textOfGroups, if_pos hmapped]
    rfl
  rw [groupsOfText?_of_gap hgap rfl (groupsOfSide?_mapped htail) (by simp [h])]
  have hsplit := List.take_append_drop 6 gs
  rw [hmapped] at hsplit
  simpa [h] using hsplit

/-- Groups with a gap for their longest run of zeros read back. -/
theorem groupsOfText?_gapped {gs : List UInt16} (h : gs.length = 8)
    (hmapped : gs.take 6 ≠ [0, 0, 0, 0, 0, 0xffff]) (hrun : 2 ≤ (longestRun gs).2) :
    groupsOfText? (textOfGroups gs) = some gs := by
  have hzeros := longestRun_isZeroRun gs
  generalize hlongest : longestRun gs = run at hrun hzeros
  obtain ⟨i, n⟩ := run
  have hwithin := hzeros.1
  rw [h] at hwithin
  have hgap : splitGap? (textOfGroups gs) =
      some (textOfRun (gs.take i), textOfRun (gs.drop (i + n))) := by
    rw [textOfGroups, if_neg hmapped, hlongest]
    simp only [if_pos hrun, List.append_assoc]
    exact splitGap?_gap (fun _ => isPiece_of_mem) _
  have hfront : (gs.take i).length = i := List.length_take_of_le (by omega)
  have hback : (gs.drop (i + n)).length = 8 - (i + n) := by rw [List.length_drop, h]
  -- The sides leave room for exactly the zeros of the run.
  have hroom : 8 - i - (8 - (i + n)) = n := by omega
  rw [groupsOfText?_of_gap hgap (groupsOfSide?_textOfRun _ _) (groupsOfSide?_textOfRun _ _)
    (by omega), hfront, hback, hroom, hzeros.eq_append]

/-- Groups without a gap read back. -/
theorem groupsOfText?_textOfRun {gs : List UInt16} (h : gs.length = 8) :
    groupsOfText? (textOfRun gs) = some gs := by
  have hgap : splitGap? (textOfRun gs) = none := splitGap?_joined fun _ => isPiece_of_mem
  rw [groupsOfText?, hgap]
  simp [groupsOfSide?_textOfRun, h]

/-- **Printed groups read back**, wherever the gap is. -/
theorem groupsOfText?_textOfGroups {gs : List UInt16} (h : gs.length = 8) :
    groupsOfText? (textOfGroups gs) = some gs := by
  by_cases hmapped : gs.take 6 = [0, 0, 0, 0, 0, 0xffff]
  · exact groupsOfText?_mapped h hmapped
  · by_cases hrun : 2 ≤ (longestRun gs).2
    · exact groupsOfText?_gapped h hmapped hrun
    · have htext : textOfGroups gs = textOfRun gs := by
        rw [textOfGroups, if_neg hmapped]
        exact if_neg hrun
      rw [htext]
      exact groupsOfText?_textOfRun h

/-! ## The two families -/

/-- What is read piece by piece is read in every piece. -/
theorem isSome_of_mapM {ps : List (List Char)} {octets : Bytes} (h : ps.mapM octet? = some octets) :
    ∀ p ∈ ps, (octet? p).isSome = true := by
  induction ps generalizing octets with
  | nil => simp
  | cons p ps ih =>
      rw [List.mapM_cons] at h
      obtain ⟨b, hb, hrest⟩ := Option.bind_eq_some_iff.mp h
      obtain ⟨bs, hbs, -⟩ := Option.bind_eq_some_iff.mp hrest
      exact List.forall_mem_cons.mpr ⟨by rw [hb]; rfl, ih hbs⟩

/-- A number of a dotted text holds no colon. -/
theorem colon_of_octet? {cs : List Char} (h : (octet? cs).isSome = true) : ':' ∉ cs := by
  intro hmem
  unfold octet? at h
  split at h
  · next hoctet =>
      have hdigit := List.all_eq_true.mp hoctet.2.2.1 ':' hmem
      exact absurd hdigit (by decide)
  · cases h

/-- A text that reads as IPv4 holds **no colon**. -/
theorem colon_of_octetsOfText? {cs : List Char} {octets : Vector UInt8 4}
    (h : octetsOfText? cs = some octets) : ':' ∉ cs := by
  intro hmem
  obtain ⟨read, hread, -⟩ := Option.bind_eq_some_iff.mp h
  obtain ⟨p, hp, hcolon⟩ := exists_mem_fields (show ':' ≠ '.' by decide) hmem
  exact colon_of_octet? (isSome_of_mapM hread p hp) hcolon

/-- One field makes two groups at most. -/
theorem length_groupsOfFields?_single {cs : List Char} {gs : List UInt16}
    (h : groupsOfFields? true [cs] = some gs) : gs.length ≤ 2 := by
  rw [groupsOfFields?] at h
  split at h
  · cases h
    exact Nat.le_succ 1
  · rw [if_pos rfl] at h
    obtain ⟨octets, -, rfl⟩ := Option.map_eq_some_iff.mp h
    rw [length_pairs]
    simp

/-- A text that reads as IPv6 **holds a colon**. -/
theorem colon_of_groupsOfText? {cs : List Char} {gs : List UInt16}
    (h : groupsOfText? cs = some gs) : ':' ∈ cs := by
  refine Decidable.byContradiction fun hcolon => ?_
  have hgap : splitGap? cs = none := by
    have happend := splitGap?_append hcolon []
    simpa [splitGap?] using happend
  rw [groupsOfText?, hgap] at h
  obtain ⟨read, hread, hlength⟩ := Option.bind_eq_some_iff.mp h
  have hshort : read.length ≤ 2 := by
    unfold groupsOfSide? at hread
    split at hread
    · cases hread
      exact Nat.zero_le 2
    · rw [fields_of_not_mem hcolon] at hread
      exact length_groupsOfFields?_single hread
  split at hlength
  · omega
  · cases hlength

/-! ## Whole addresses -/

/-- **The text of an IPv4 address is read back** as that address, with the port asked for. -/
theorem V4.parse_ipText (a : V4) (port : UInt16) :
    V4.parse a.ipText port = .ok { octets := a.octets, port } := by
  have hne : a.octets.toList ≠ [] := by
    intro hnil
    have hlength := congrArg List.length hnil
    simp at hlength
  rw [V4.parse, V4.ipText, String.toList_ofList, octetsOfText?_textOfOctets hne,
    octets4?_toList]

/-- **So is the text of an IPv6 address**, without its scope. -/
theorem V6.parse_ipText (a : V6) (port : UInt16) :
    V6.parse a.ipText port = .ok { octets := a.octets, port } := by
  have heven : a.octets.toList.length % 2 = 0 := by simp
  have hgroups : a.groups.length = 8 := by simp [V6.groups, length_pairs]
  rw [V6.parse, V6.ipText, String.toList_ofList, groupsOfText?_textOfGroups hgroups,
    Option.bind_some, V6.groups, unpairs_pairs _ heven, octets16?_toList]

/-- An IPv4 text that is read has no colon, and the port is the one asked for. -/
theorem V4.parse_eq_ok {ip : String} {port : UInt16} {a : V4} (h : V4.parse ip port = .ok a) :
    a.port = port ∧ ':' ∉ ip.toList := by
  unfold V4.parse at h
  split at h
  · next octets hoctets =>
      cases h
      exact ⟨rfl, colon_of_octetsOfText? hoctets⟩
  · cases h

/-- An IPv6 text that is read has a colon, and names no scope. -/
theorem V6.parse_eq_ok {ip : String} {port : UInt16} {a : V6} (h : V6.parse ip port = .ok a) :
    a.port = port ∧ a.scope = 0 ∧ ':' ∈ ip.toList := by
  unfold V6.parse at h
  split at h
  · next octets hoctets =>
      cases h
      obtain ⟨gs, hgs, -⟩ := Option.bind_eq_some_iff.mp hoctets
      exact ⟨rfl, rfl, colon_of_groupsOfText? hgs⟩
  · cases h

/-- **No text reads as both families.** -/
theorem V4.parse_ne_ok_of_v6 {ip : String} {port other : UInt16} {a : V4} {b : V6}
    (h : V4.parse ip port = .ok a) : V6.parse ip other ≠ .ok b := by
  intro h'
  exact (V4.parse_eq_ok h).2 (V6.parse_eq_ok h').2.2

/-- The text of an address reads back as the address, with another port and no scope. -/
theorem parse_ipText (a : Address) (port : UInt16) :
    parse a.ipText port = match a with
      | .v4 b => .ok (.v4 { octets := b.octets, port })
      | .v6 b => .ok (.v6 { octets := b.octets, port }) := by
  cases a with
  | v4 b => rw [ipText, parse, V4.parse_ipText]
  | v6 b =>
      have hread := V6.parse_ipText b port
      rw [ipText, parse]
      cases hv4 : V4.parse b.ipText port with
      | ok c => exact absurd hread (V4.parse_ne_ok_of_v6 hv4)
      | error cause => rw [hread]; rfl

/-- What is read has the port asked for, and no scope. -/
theorem parse_eq_ok {ip : String} {port : UInt16} {a : Address} (h : parse ip port = .ok a) :
    a.port = port ∧ a.scope = 0 := by
  unfold parse at h
  split at h
  · next b hb =>
      cases h
      exact ⟨(V4.parse_eq_ok hb).1, rfl⟩
  · cases hv6 : V6.parse ip port with
    | error cause => rw [hv6] at h; cases h
    | ok b =>
        rw [hv6] at h
        cases h
        exact ⟨(V6.parse_eq_ok hv6).1, (V6.parse_eq_ok hv6).2.1⟩

/-- A printed text says all about the octets. -/
theorem V4.octets_of_ipText {a b : V4} (h : a.ipText = b.ipText) : a.octets = b.octets := by
  have ha := V4.parse_ipText a 0
  rw [h, V4.parse_ipText b 0] at ha
  exact (congrArg V4.octets (Except.ok.inj ha)).symm

/-- **Different octets have different texts.**. -/
theorem V6.octets_of_ipText {a b : V6} (h : a.ipText = b.ipText) : a.octets = b.octets := by
  have ha := V6.parse_ipText a 0
  rw [h, V6.parse_ipText b 0] at ha
  exact (congrArg V6.octets (Except.ok.inj ha)).symm

/-- An address without a scope is read back from its own text. -/
theorem parse_ipText_self {a : Address} (h : a.scope = 0) : parse a.ipText a.port = .ok a := by
  rw [parse_ipText]
  cases a with
  | v4 b => rfl
  | v6 b =>
      obtain ⟨octets, port, scope⟩ := b
      obtain rfl : scope = 0 := h
      rfl

/-- What holds of the texts of all addresses. -/
structure TextsReadBack : Prop where
  /-- An address without a scope reads back from its text, whatever its family. -/
  whole : ∀ a : Address, a.scope = 0 → parse a.ipText a.port = .ok a
  v4 : ∀ a : V4, V4.parse a.ipText a.port = .ok a
  v6 : ∀ a : V6, a.scope = 0 → V6.parse a.ipText a.port = .ok a
  /-- Within a family no two addresses have one text. -/
  v4_injective : ∀ a b : V4, a.ipText = b.ipText → a.octets = b.octets
  v6_injective : ∀ a b : V6, a.ipText = b.ipText → a.octets = b.octets
  /-- No text reads as both families. -/
  apart : ∀ ip port other a b, V4.parse ip port = .ok a → V6.parse ip other ≠ .ok b
  /-- What was read from any text reads back from its own. -/
  again : ∀ ip port a, parse ip port = .ok a → parse a.ipText a.port = .ok a
  /-- The gap stands for the longest run of two or more zero groups, the first of equals. -/
  gap : ∀ gs i n, gs.take 6 ≠ [0, 0, 0, 0, 0, 0xffff] → 2 ≤ n → IsZeroRun gs i n →
    (∀ j m, IsZeroRun gs j m → m ≤ n ∧ (m = n → i ≤ j)) →
      textOfGroups gs = textOfRun (gs.take i) ++ "::".toList ++ textOfRun (gs.drop (i + n))

/-- **The text of an address reads back as the address.** -/
theorem ipText_reads_back : TextsReadBack where
  whole _ h := parse_ipText_self h
  v4 a := V4.parse_ipText a a.port
  v6 a h := by
    obtain ⟨octets, port, scope⟩ := a
    obtain rfl : scope = 0 := h
    exact V6.parse_ipText _ port
  v4_injective _ _ := V4.octets_of_ipText
  v6_injective _ _ := V6.octets_of_ipText
  apart _ _ _ _ _ := V4.parse_ne_ok_of_v6
  again _ _ _ h := parse_ipText_self (parse_eq_ok h).2
  gap gs i n hmapped hn hrun hlongest := by
    have hle := le_longestRun hrun
    have hge := hlongest _ _ (longestRun_isZeroRun gs)
    have hlength : n = (longestRun gs).2 := by omega
    have hstart : i = (longestRun gs).1 := by
      have hbefore := hle.2 hlength
      have hafter := hge.2 hlength.symm
      omega
    subst hlength hstart
    rw [textOfGroups, if_neg hmapped]
    exact if_pos hn

end Address

end ReceiveReactor
