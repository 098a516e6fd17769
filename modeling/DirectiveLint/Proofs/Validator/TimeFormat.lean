import DirectiveLint.Proofs.Text.Utf8
import DirectiveLint.Proofs.Validator.Numeral
import Mathlib.Data.List.Forall2
import Mathlib.Data.List.TakeWhile

/-!
# Shapes and formats

`Written items t values` says that a text is made of the parts of a format, with each field at
its full width.  A format alone is read from other texts too; together with its shape it is read
from exactly these, as exactly these values (`readValues?_of_hasShape_iff`).
-/

namespace DirectiveLint

/-- A numeral with a fixed number of digits. -/
structure FixedNumeral (width : Nat) (t : Text) (n : Nat) : Prop where
  /-- The text denotes the number. -/
  numeral : Numeral t n
  /-- There are as many digits. -/
  length_eq : t.length = width

/-- A text that is made of the parts of a format, with the values of its fields. -/
inductive Written : List FormatItem → Text → FieldValues → Prop where
  /-- No parts. -/
  | nil : Written [] [] []
  /-- A field at its full width. -/
  | field {f : TimeField} {digits t : Text} {n : Nat} {items : List FormatItem}
      {values : FieldValues} (hdigits : FixedNumeral f.width digits n)
      (h : Written items t values) :
    Written (.field f :: items) (digits ++ t) ((f, n) :: values)
  /-- A mark. -/
  | mark {c : Char} {t : Text} {items : List FormatItem} {values : FieldValues}
      (h : Written items t values) :
    Written (.mark c :: items) (c :: t) values

theorem written_nil_iff {t : Text} {values : FieldValues} :
  Written [] t values ↔ t = [] ∧ values = []
  := by
  constructor
  · intro h
    cases h
    exact ⟨rfl, rfl⟩
  · rintro ⟨rfl, rfl⟩
    exact .nil

theorem written_field_iff {f : TimeField} {items : List FormatItem} {t : Text}
    {values : FieldValues} :
  Written (.field f :: items) t values
    ↔ ∃ digits n rest others, FixedNumeral f.width digits n ∧ Written items rest others
      ∧ t = digits ++ rest ∧ values = (f, n) :: others
  := by
  constructor
  · intro h
    cases h with
    | field hdigits h => exact ⟨_, _, _, _, hdigits, h, rfl, rfl⟩
  · rintro ⟨digits, n, rest, others, hdigits, h, rfl, rfl⟩
    exact .field hdigits h

theorem written_mark_iff {c : Char} {items : List FormatItem} {t : Text} {values : FieldValues} :
  Written (.mark c :: items) t values ↔ ∃ rest, Written items rest values ∧ t = c :: rest
  := by
  constructor
  · intro h
    cases h with
    | mark h => exact ⟨_, h, rfl⟩
  · rintro ⟨rest, h, rfl⟩
    exact .mark h

/-- A field at the end of a format takes the rest of the text. -/
theorem written_last_iff {f : TimeField} {t : Text} {values : FieldValues} :
  Written [.field f] t values ↔ ∃ n, FixedNumeral f.width t n ∧ values = [(f, n)]
  := by
  simp [written_field_iff, written_nil_iff]

theorem Written.last {f : TimeField} {t : Text} {n : Nat} (h : FixedNumeral f.width t n) :
  Written [.field f] t [(f, n)]
  := by
  apply written_last_iff.mpr ⟨n, h, rfl⟩

/-- A field in front of a mark ends there. -/
theorem written_field_mark_iff {f : TimeField} {c : Char} {items : List FormatItem} {t : Text}
    {values : FieldValues} :
  Written (.field f :: .mark c :: items) t values
    ↔ ∃ digits n rest others, FixedNumeral f.width digits n ∧ Written items rest others
      ∧ t = digits ++ c :: rest ∧ values = (f, n) :: others
  := by
  rw [written_field_iff]
  simp only [written_mark_iff]
  constructor
  · rintro ⟨digits, n, _, others, hdigits, ⟨rest, h, rfl⟩, rfl, rfl⟩
    exact ⟨digits, n, rest, others, hdigits, h, rfl, rfl⟩
  · rintro ⟨digits, n, rest, others, hdigits, h, rfl, rfl⟩
    exact ⟨digits, n, _, others, hdigits, ⟨rest, h, rfl⟩, rfl, rfl⟩

theorem written_append_iff {items others : List FormatItem} {t : Text} {values : FieldValues} :
  Written (items ++ others) t values
    ↔ ∃ t₁ t₂ values₁ values₂, Written items t₁ values₁ ∧ Written others t₂ values₂
      ∧ t = t₁ ++ t₂ ∧ values = values₁ ++ values₂
  := by
  induction items generalizing t values with
  | nil => simp [written_nil_iff]
  | cons item items ih =>
    rw [List.cons_append]
    cases item with
    | field f =>
      simp only [written_field_iff, ih]
      constructor
      · rintro ⟨digits, n, _, _, hdigits, ⟨t₁, t₂, values₁, values₂, h₁, h₂, rfl, rfl⟩, rfl, rfl⟩
        refine ⟨digits ++ t₁, t₂, (f, n) :: values₁, values₂, ?_, h₂, by simp, rfl⟩
        exact ⟨digits, n, t₁, values₁, hdigits, h₁, rfl, rfl⟩
      · rintro ⟨_, t₂, _, values₂, ⟨digits, n, t₁, values₁, hdigits, h₁, rfl, rfl⟩, h₂, rfl, rfl⟩
        refine ⟨digits, n, t₁ ++ t₂, values₁ ++ values₂, hdigits, ?_, by simp, rfl⟩
        exact ⟨t₁, t₂, values₁, values₂, h₁, h₂, rfl, rfl⟩
    | mark c =>
      simp only [written_mark_iff, ih]
      constructor
      · rintro ⟨_, ⟨t₁, t₂, values₁, values₂, h₁, h₂, rfl, rfl⟩, rfl⟩
        exact ⟨c :: t₁, t₂, values₁, values₂, ⟨t₁, h₁, rfl⟩, h₂, rfl, rfl⟩
      · rintro ⟨_, t₂, values₁, values₂, ⟨t₁, h₁, rfl⟩, h₂, rfl, rfl⟩
        exact ⟨t₁ ++ t₂, ⟨t₁, t₂, values₁, values₂, h₁, h₂, rfl, rfl⟩, rfl⟩

/-! ### Shapes -/

/-- The shape of a part of a format. -/
def FormatItem.shape : FormatItem → Text
  | .field f => List.replicate f.width 'D'
  | .mark c => [c]

theorem hasShape_iff {t shape : Text} :
  hasShape t shape = true
    ↔ List.Forall₂ (fun byte expected => fitsByte byte expected = true) (utf8 t) (utf8 shape)
  := by
  rw [List.forall₂_iff_zip, hasShape, Bool.and_eq_true, beq_iff_eq, List.all_eq_true]
  simp

/-- Only ASCII bytes are what an ASCII byte of a shape stands for. -/
theorem lt_of_fitsByte {byte expected : UInt8} (he : expected < 128)
    (h : fitsByte byte expected = true) :
  byte < 128
  := by
  unfold fitsByte at h
  split at h
  · rw [Bool.and_eq_true, decide_eq_true_iff, decide_eq_true_iff] at h
    apply UInt8.lt_of_le_of_lt h.2 (by decide)
  · obtain rfl := eq_of_beq h
    apply he

theorem toNat_ofNat_toNat {c : Char} (hc : c.toNat < 128) :
  (UInt8.ofNat c.toNat).toNat = c.toNat
  := by
  rw [UInt8.toNat_ofNat', Nat.mod_eq_of_lt (by omega)]

theorem ofNat_toNat_inj {c d : Char} (hc : c.toNat < 128) (hd : d.toNat < 128) :
  UInt8.ofNat c.toNat = UInt8.ofNat d.toNat ↔ c = d
  := by
  rw [← UInt8.toNat_inj, toNat_ofNat_toNat hc, toNat_ofNat_toNat hd, Char.toNat_inj]

/-- A character is one that a character of a shape stands for. -/
def FitsChar (c expected : Char) : Prop :=
  if expected = 'D' then c.isDigit = true else c = expected

theorem FitsChar.lt {c e : Char} (he : e.toNat < 128) (h : FitsChar c e) :
  c.toNat < 128
  := by
  unfold FitsChar at h
  split at h
  · have hle : c.toNat ≤ 57 := (Char.isDigit_iff_toNat.mp h).2
    omega
  · rwa [h]

theorem fitsByte_ofNat_iff {c e : Char} (hc : c.toNat < 128) (he : e.toNat < 128) :
  fitsByte (UInt8.ofNat c.toNat) (UInt8.ofNat e.toNat) = true ↔ FitsChar c e
  := by
  have hdigit : UInt8.ofNat e.toNat = 'D'.toUInt8 ↔ e = 'D' := ofNat_toNat_inj he (by decide)
  unfold fitsByte FitsChar
  simp only [hdigit]
  split_ifs
  · rw [Bool.and_eq_true, decide_eq_true_iff, decide_eq_true_iff, UInt8.le_iff_toNat_le,
      UInt8.le_iff_toNat_le, toNat_ofNat_toNat hc, Char.isDigit_iff_toNat]
    rfl
  · rw [beq_iff_eq, ofNat_toNat_inj hc he]

/-- A text fits a shape of ASCII characters one after the other. -/
theorem hasShape_cons_iff {t shape : Text} {e : Char} (he : e.toNat < 128) :
  hasShape t (e :: shape) = true
    ↔ ∃ c rest, t = c :: rest ∧ FitsChar c e ∧ hasShape rest shape = true
  := by
  simp only [hasShape_iff, utf8_cons_of_lt he, List.forall₂_cons_right_iff]
  constructor
  · rintro ⟨b, bs, hfits, hrest, h⟩
    have he' : UInt8.ofNat e.toNat < 128 := by
      rwa [UInt8.lt_iff_toNat_lt, toNat_ofNat_toNat he]
    obtain ⟨c, rest, rfl, hc, rfl, rfl⟩ := exists_of_utf8_eq_cons h (lt_of_fitsByte he' hfits)
    exact ⟨c, rest, rfl, (fitsByte_ofNat_iff hc he).mp hfits, hrest⟩
  · rintro ⟨c, rest, rfl, hfits, hrest⟩
    have hc := hfits.lt he
    exact ⟨_, _, (fitsByte_ofNat_iff hc he).mpr hfits, hrest, utf8_cons_of_lt hc rest⟩

theorem hasShape_nil_iff {t : Text} :
  hasShape t [] = true ↔ t = []
  := by
  have hempty : utf8 [] = [] := rfl
  rw [hasShape_iff, hempty, List.forall₂_nil_right_iff]
  cases t with
  | nil => simp [hempty]
  | cons c t => simp [utf8]

/-- A text that starts with a mark of a shape. -/
theorem hasShape_mark_iff {t shape : Text} {e : Char} (he : e.toNat < 128) (hne : e ≠ 'D') :
  hasShape t (e :: shape) = true ↔ ∃ rest, t = e :: rest ∧ hasShape rest shape = true
  := by
  rw [hasShape_cons_iff he]
  simp [FitsChar, hne]

/-- A text that starts with the digits of a shape. -/
theorem hasShape_digits_iff {t shape : Text} {width : Nat} :
  hasShape t (List.replicate width 'D' ++ shape) = true
    ↔ ∃ digits rest, t = digits ++ rest ∧ digits.length = width
      ∧ (∀ c ∈ digits, c.isDigit = true) ∧ hasShape rest shape = true
  := by
  induction width generalizing t with
  | zero => simp
  | succ width ih =>
    rw [List.replicate_succ, List.cons_append, hasShape_cons_iff (by decide)]
    constructor
    · rintro ⟨c, rest, rfl, hc, h⟩
      obtain ⟨digits, rest, rfl, rfl, hdigits, h⟩ := ih.mp h
      exact ⟨c :: digits, rest, rfl, rfl, List.forall_mem_cons.mpr ⟨hc, hdigits⟩, h⟩
    · rintro ⟨digits, rest, rfl, hlen, hall, h⟩
      obtain ⟨c, digits, rfl⟩ := List.exists_cons_of_length_eq_add_one hlen
      obtain ⟨hc, hdigits⟩ := List.forall_mem_cons.mp hall
      refine ⟨c, digits ++ rest, rfl, hc, ih.mpr ⟨digits, rest, rfl, ?_, hdigits, h⟩⟩
      apply Nat.succ.inj hlen

/-! ### Formats -/

theorem TimeField.width_pos (f : TimeField) :
  0 < f.width
  := by
  cases f
  all_goals decide

theorem fixedNumeral_iff {width : Nat} (hwidth : 0 < width) {t : Text} {n : Nat} :
  FixedNumeral width t n
    ↔ t.length = width ∧ (∀ c ∈ t, c.isDigit = true) ∧ ofDigits t = n
  := by
  constructor
  · rintro ⟨hnumeral, hlen⟩
    exact ⟨hlen, fun c hc => hnumeral.isDigit_of_mem hc, (numeral_iff.mp hnumeral).2⟩
  · rintro ⟨rfl, hdigits, hvalue⟩
    have hne : t ≠ [] := List.ne_nil_of_length_pos hwidth
    exact ⟨numeral_iff.mpr ⟨isDigits_iff.mpr ⟨hne, hdigits⟩, hvalue⟩, rfl⟩

/-- A format that a shape pins: its fields have their full width there, and no mark is one of
the characters that stand for digits. -/
structure Pins (shape format : Text) (items : List FormatItem) : Prop where
  /-- The format consists of the parts. -/
  formatItems?_eq : formatItems? format = some items
  /-- The shape is that of the parts. -/
  shape_eq : shape = items.flatMap FormatItem.shape
  /-- The marks stand for themselves in the shape. -/
  mark_ne : ∀ c, FormatItem.mark c ∈ items → c.toNat < 128 ∧ c ≠ 'D'

/-- The texts of a shape are those that are made of the parts of the format. -/
theorem hasShape_flatMap_iff {items : List FormatItem}
    (hmarks : ∀ c, FormatItem.mark c ∈ items → c.toNat < 128 ∧ c ≠ 'D') {t : Text} :
  hasShape t (items.flatMap FormatItem.shape) = true ↔ ∃ values, Written items t values
  := by
  induction items generalizing t with
  | nil =>
    rw [List.flatMap_nil, hasShape_nil_iff]
    constructor
    · rintro rfl
      exact ⟨[], .nil⟩
    · rintro ⟨_, ⟨⟩⟩
      rfl
  | cons item items ih =>
    replace ih {t : Text} := ih (t := t) fun c hc => hmarks c (List.mem_cons_of_mem _ hc)
    rw [List.flatMap_cons]
    cases item with
    | field f =>
      rw [FormatItem.shape, hasShape_digits_iff]
      constructor
      · rintro ⟨digits, rest, rfl, hlen, hdigits, h⟩
        obtain ⟨values, hrest⟩ := ih.mp h
        exact ⟨_, .field ((fixedNumeral_iff f.width_pos).mpr ⟨hlen, hdigits, rfl⟩) hrest⟩
      · rintro ⟨values, h⟩
        obtain ⟨digits, n, rest, others, hfield, hrest, rfl, -⟩ := written_field_iff.mp h
        obtain ⟨hlen, hdigits, -⟩ := (fixedNumeral_iff f.width_pos).mp hfield
        exact ⟨digits, rest, rfl, hlen, hdigits, ih.mpr ⟨others, hrest⟩⟩
    | mark c =>
      obtain ⟨hlt, hne⟩ := hmarks c List.mem_cons_self
      rw [FormatItem.shape, List.singleton_append, hasShape_mark_iff hlt hne]
      constructor
      · rintro ⟨rest, rfl, h⟩
        obtain ⟨values, hrest⟩ := ih.mp h
        exact ⟨values, .mark hrest⟩
      · rintro ⟨values, h⟩
        obtain ⟨rest, hrest, rfl⟩ := written_mark_iff.mp h
        exact ⟨rest, rfl, ih.mpr ⟨values, hrest⟩⟩

/-- A field at its full width is read to its end. -/
theorem readItems?_of_written {items : List FormatItem} {t : Text} {values : FieldValues}
    (h : Written items t values) :
  readItems? items t = some values
  := by
  induction h with
  | nil => rfl
  | @field f digits t n items values hdigits h ih =>
    obtain ⟨hlen, hall, rfl⟩ := (fixedNumeral_iff f.width_pos).mp hdigits
    have hne : digits ≠ [] := List.ne_nil_of_length_pos (hlen ▸ f.width_pos)
    have htake : ((digits ++ t).take f.width).takeWhile Char.isDigit = digits := by
      rw [List.take_left' hlen, List.takeWhile_eq_self_iff]
      apply hall
    simp [readItems?, htake, hne, ih]
  | mark h ih => simp [readItems?, dropPrefix?, ih]

/-- A format is read from the texts of the shape that pins it, as the values that are written
there. -/
theorem readValues?_of_hasShape_iff {shape format : Text} {items : List FormatItem}
    (hpins : Pins shape format items) {t : Text} {values : FieldValues} :
  hasShape t shape = true ∧ readValues? format t = some values ↔ Written items t values
  := by
  have hread : readValues? format t = readItems? items t := by
    simp [readValues?, hpins.formatItems?_eq]
  rw [hread, hpins.shape_eq, hasShape_flatMap_iff hpins.mark_ne]
  constructor
  · rintro ⟨⟨values', h⟩, hvalues⟩
    obtain rfl := Option.some.inj ((readItems?_of_written h).symm.trans hvalues)
    apply h
  · intro h
    exact ⟨⟨values, h⟩, readItems?_of_written h⟩

/-- What is read in the formats whose shape a text fits are the values that are written in it in
one of them. -/
theorem any_matchingFormats_iff {formats : List (Text × Text)} {parts : List (List FormatItem)}
    (hpins : List.Forall₂ (fun p items => Pins p.1 p.2 items) formats parts) {t : Text}
    {accepts : FieldValues → Bool} :
  ((matchingFormats t formats).any fun format => (readValues? format t).any accepts) = true
    ↔ ∃ items ∈ parts, ∃ values, Written items t values ∧ accepts values = true
  := by
  have hmatching : ((matchingFormats t formats).any fun format =>
      (readValues? format t).any accepts)
      = formats.any fun p => hasShape t p.1 && (readValues? p.2 t).any accepts := by
    rw [matchingFormats, List.any_map, List.any_filter]
    rfl
  rw [hmatching]
  clear hmatching
  induction hpins with
  | nil => simp
  | @cons p items formats parts h hpins ih =>
    rw [List.any_cons, Bool.or_eq_true, List.exists_mem_cons_iff]
    apply or_congr _ ih
    rw [Bool.and_eq_true, Option.any_eq_true]
    simp only [← readValues?_of_hasShape_iff h, and_assoc, exists_and_left]

end DirectiveLint
