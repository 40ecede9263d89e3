import Mathlib.Tactic.SplitIfs
import ReceiveReactor.Proofs.Record

/-!
# Blocks and the records in them

The control channel hands over blocks of sixteen bytes, whoever wrote them.  What a block is
read as hangs on its tag: it is refused, or it is Exit with **the rest ignored**, or it is a
command, and then the block is **just what that command writes**.

* `layout_fields` — a block is the layout of its own three fields;
* `Reading` — the three ways in which a block can be read;
* `decode_eq_iff` — every block is read in exactly one of them;
* `block_reads_back` — records and blocks determine each other, but for Exit.
-/

namespace ReceiveReactor

namespace ControlRecord

/-- The tag in the bytes of a record. -/
def tagField (bs : Bytes) : UInt32 := UInt32.ofNat (Bytes.fieldLE bs 0 4)

/-- The tag that a record is written with. -/
def tag : ControlRecord → UInt32
  | exit => 0
  | register .. => 1
  | deregister .. => 2

variable {b : Bytes}

/-- The tag is the number in the first four bytes. -/
theorem toNat_tagField (b : Bytes) : (tagField b).toNat = Bytes.fieldLE b 0 4 := by
  have hlt : Bytes.fieldLE b 0 4 < 2 ^ 32 := Bytes.fieldLE_lt b 0 4
  rw [tagField, UInt32.toNat_ofNat', Nat.mod_eq_of_lt hlt]

/-- A record is written with its own tag. -/
@[simp] theorem tagField_encode (r : ControlRecord) : tagField r.encode = r.tag := by
  cases r <;> simp only [tagField, encode, (fieldLE_layout _ _ _).1] <;> rfl

/-- **A block is the layout of its own three fields.** -/
theorem layout_fields (h : b.length = size) :
    layout (tagField b).toNat (fdField b) (generationField b) = b := by
  rw [size] at h
  have htag : Bytes.ofNatLE 4 (tagField b).toNat = b.take 4 := Bytes.ofNatLE_word32 (by omega)
  have hfd : Bytes.ofNatLE 4 (fdField b).toUInt32.toNat = (b.drop 4).take 4 := by
    rw [fdField, UInt32.toUInt32_toInt32, Bytes.ofNatLE_word32 (by omega)]
  have hgeneration : Bytes.ofNatLE 8 (generationField b).toNat = b.drop 8 := by
    rw [generationField, Bytes.ofNatLE_word64 (by omega)]
    exact List.take_of_length_le (by rw [List.length_drop]; omega)
  rw [layout, htag, hfd, hgeneration, List.append_assoc, ← Bytes.drop_eq_append,
    List.take_append_drop]

/-! ## By the tag -/

/-- The tag of Exit is enough, **in a block of any length**. -/
theorem decode_of_tag_zero (htag : tagField b = 0) : decode b = .ok exit := by
  have hfield : Bytes.fieldLE b 0 4 = exitTag := by
    rw [← toNat_tagField, htag]
    rfl
  exact if_pos hfield

/-- A tag above 2 is no command, and **the error names it**. -/
theorem decode_of_tag_above (htag : 2 < tagField b) :
    decode b = .error (.unknownCommand (tagField b)) := by
  have hbeyond : ∀ known ≤ 2, Bytes.fieldLE b 0 4 ≠ known := by
    intro known hknown
    have hlt : 2 < (tagField b).toNat := UInt32.lt_iff_toNat_lt.mp htag
    rw [toNat_tagField] at hlt
    omega
  rw [decode, if_neg (hbeyond exitTag (by decide)), if_neg (hbeyond registerTag (by decide)),
    if_neg (hbeyond deregisterTag (by decide)), tagField]

/-- The ways in which a block can be read. -/
inductive Reading (b : Bytes) : Except ReactorError ControlRecord → Prop where
  | exit (htag : tagField b = 0) : Reading b (.ok exit)
  /-- A command stands in the block as it is written. -/
  | command {r : ControlRecord} (hcommand : r ≠ exit) (hwritten : r.encode = b) :
      Reading b (.ok r)
  | unknown (htag : 2 < tagField b) : Reading b (.error (.unknownCommand (tagField b)))

/-- **Decoding reads every block**, in one of three ways. -/
theorem reading_decode (h : b.length = size) : Reading b (decode b) := by
  have hfields := layout_fields h
  rw [toNat_tagField] at hfields
  simp only [decode]
  split_ifs with hexit hregister hderegister
  · refine .exit (UInt32.toNat_inj.mp ?_)
    rw [toNat_tagField, hexit]
    rfl
  · rw [hregister] at hfields
    exact .command (by simp) hfields
  · rw [hderegister] at hfields
    exact .command (by simp) hfields
  · refine .unknown (UInt32.lt_iff_toNat_lt.mpr ?_)
    rw [toNat_tagField]
    simp only [exitTag, registerTag, deregisterTag] at hexit hregister hderegister
    change 2 < _
    omega

/-- **Every block is read in exactly one way.** -/
theorem decode_eq_iff (h : b.length = size) {result : Except ReactorError ControlRecord} :
    decode b = result ↔ Reading b result := by
  constructor
  · rintro rfl
    exact reading_decode h
  · rintro (htag | ⟨-, rfl⟩ | htag)
    · exact decode_of_tag_zero htag
    · exact decode_encode _
    · exact decode_of_tag_above htag

/-! ## Both directions -/

/-- A block is refused just if its tag is above 2. -/
theorem decode_eq_error_iff (h : b.length = size) {e : ReactorError} :
    decode b = .error e ↔ 2 < tagField b ∧ e = .unknownCommand (tagField b) := by
  constructor
  · intro hrefused
    cases (decode_eq_iff h).mp hrefused with
    | unknown htag => exact ⟨htag, rfl⟩
  · rintro ⟨htag, rfl⟩
    exact decode_of_tag_above htag

/-- It is Exit just if its tag is 0, whatever stands behind. -/
theorem decode_eq_exit_iff (h : b.length = size) : decode b = .ok exit ↔ tagField b = 0 := by
  constructor
  · intro hexit
    cases (decode_eq_iff h).mp hexit with
    | exit htag => exact htag
    | command hcommand => exact absurd rfl hcommand
  · exact decode_of_tag_zero

/-- It is another command just if it is the block of that command, **byte for byte**. -/
theorem decode_eq_command_iff (h : b.length = size) {r : ControlRecord} (hcommand : r ≠ exit) :
    decode b = .ok r ↔ r.encode = b := by
  constructor
  · intro hread
    cases (decode_eq_iff h).mp hread with
    | exit => exact absurd rfl hcommand
    | command _ hwritten => exact hwritten
  · rintro rfl
    exact decode_encode r

/-- What a block is read as, by its tag. -/
structure ReadByTag (b : Bytes) : Prop where
  /-- It is refused **exactly if** its tag is above 2, and the refusal names the tag. -/
  refused_iff : ∀ e, decode b = .error e ↔ 2 < tagField b ∧ e = .unknownCommand (tagField b)
  /-- It is Exit **exactly if** its tag is 0, … -/
  exit_iff : decode b = .ok exit ↔ tagField b = 0
  /-- … and with that tag it is Exit whatever stands behind. -/
  exit_whatever : tagField b = 0 → ∀ rest : Bytes, decode (b.take 4 ++ rest) = .ok exit
  /-- With a tag of 1 or 2 it holds a command, and is **what that command writes**. -/
  command : 0 < tagField b → tagField b ≤ 2 → ∃ r, r ≠ exit ∧ decode b = .ok r ∧ r.encode = b
  /-- Each command is read from the block that it writes, and from no other. -/
  command_iff : ∀ r, r ≠ exit → (decode b = .ok r ↔ r.encode = b)
  /-- What is read has the tag of the block. -/
  tag_eq : ∀ r, decode b = .ok r → r.tag = tagField b

/-- How a block is read is decided by its tag alone. -/
theorem readByTag (h : b.length = size) : ReadByTag b where
  refused_iff _ := decode_eq_error_iff h
  exit_iff := decode_eq_exit_iff h
  exit_whatever htag rest := by
    have htake : (b.take 4 ++ rest).take 4 = b.take 4 := by
      rw [size] at h
      exact List.take_left' (List.length_take_of_le (by omega))
    have hfield : tagField (b.take 4 ++ rest) = tagField b := by
      rw [tagField, tagField, Bytes.fieldLE_congr htake (Nat.le_refl 4)]
    exact decode_of_tag_zero (hfield.trans htag)
  command hlow hhigh := by
    have hreading := reading_decode h
    generalize hresult : decode b = result at hreading
    cases hreading with
    | exit htag => simp [htag] at hlow
    | command hcommand hwritten => exact ⟨_, hcommand, rfl, hwritten⟩
    | unknown htag => exact absurd hhigh (UInt32.not_le.mpr htag)
  command_iff _ hcommand := decode_eq_command_iff h hcommand
  tag_eq r hread := by
    cases (decode_eq_iff h).mp hread with
    | exit htag => exact htag.symm
    | command _ hwritten => rw [← hwritten, tagField_encode]

/-- **Records and blocks determine each other.**  Every record reads back from what it writes,
so no two write the same; and every block is read by its tag, refused for it, or the very
bytes of the record that it holds, Exit alone apart. -/
theorem block_reads_back (r : ControlRecord) (b : Bytes) (h : b.length = size) :
    decode r.encode = .ok r ∧ Function.Injective encode ∧ ReadByTag b := by
  refine ⟨decode_encode r, ?_, readByTag h⟩
  intro r₁ r₂ hsame
  have hread : (.ok r₁ : Except ReactorError ControlRecord) = .ok r₂ := by
    rw [← decode_encode r₁, ← decode_encode r₂, hsame]
  exact Except.ok.inj hread

/-- The block that takes back the last of all generations of a descriptor below zero. -/
def lastBlock : Bytes :=
  [2, 0, 0, 0, 0xfe, 0xff, 0xff, 0xff, 0xff, 0xff, 0xff, 0xff, 0xff, 0xff, 0xff, 0xff]

/-- Neither the sign of the descriptor nor the width of the generation is lost. -/
theorem block_reads_back_last :
    lastBlock.length = size ∧ ReadByTag lastBlock ∧
      decode lastBlock = .ok (deregister (-2) 0xffffffffffffffff) := by
  have hall := (block_reads_back (deregister (-2) 0xffffffffffffffff) lastBlock (by decide)).2.2
  exact ⟨by decide, hall, (hall.command_iff _ (by decide)).mpr (by decide)⟩

end ControlRecord

end ReceiveReactor
