import DirectiveLint.Proofs.Steps
import DirectiveLint.Text.Utf8
import Mathlib.Tactic.SplitIfs

/-!
# Texts and their bytes

The bytes of a text are read as the text, and no other bytes are (`ofUtf8?_eq_some_iff`); so they
are shown as the text (`display_utf8`).  An ASCII byte stands for its character only: it is found
in the bytes of a text exactly if the character is found in the text (`mem_utf8_iff`), and it comes
first exactly if the character does (`head?_utf8_eq_some_iff`).
-/

namespace DirectiveLint

variable {c : Char} {b : UInt8} {bs : Bytes} {t : Text}

theorem utf8_cons (c : Char) (t : Text) :
  utf8 (c :: t) = String.utf8EncodeChar c ++ utf8 t
  := List.flatMap_cons

theorem utf8_append (s t : Text) :
  utf8 (s ++ t) = utf8 s ++ utf8 t
  := List.flatMap_append

/-- Every character has at least one byte. -/
theorem exists_utf8EncodeChar_eq (c : Char) :
  ∃ b bs, String.utf8EncodeChar c = b :: bs
  := List.exists_cons_of_length_pos (String.length_utf8EncodeChar c ▸ c.utf8Size_pos)

theorem utf8_ne_nil (h : t ≠ []) :
  utf8 t ≠ []
  := by
  obtain ⟨c, rest, rfl⟩ := List.exists_cons_of_ne_nil h
  obtain ⟨b, bs, hchar⟩ := exists_utf8EncodeChar_eq c
  rw [utf8_cons, hchar]
  apply List.cons_ne_nil

/-! ### ASCII -/

theorem utf8EncodeChar_of_lt (hc : c.toNat < 128) :
  String.utf8EncodeChar c = [UInt8.ofNat c.toNat]
  := by
  have hle : c.val.toNat ≤ 127 := Nat.le_of_lt_succ hc
  rw [String.utf8EncodeChar, if_pos hle]
  rfl

theorem utf8_cons_of_lt (hc : c.toNat < 128) (t : Text) :
  utf8 (c :: t) = UInt8.ofNat c.toNat :: utf8 t
  := by
  rw [utf8_cons, utf8EncodeChar_of_lt hc]
  rfl

/-- No byte of any other character is an ASCII byte. -/
theorem le_of_mem_utf8EncodeChar (hc : 128 ≤ c.toNat) (hb : b ∈ String.utf8EncodeChar c) :
  128 ≤ b
  := by
  have hgt : ¬ c.val.toNat ≤ 127 := Nat.not_le_of_lt hc
  simp only [String.utf8EncodeChar, if_neg hgt] at hb
  split_ifs at hb
  all_goals
    simp only [List.mem_cons, List.not_mem_nil, or_false] at hb
    rw [UInt8.le_iff_toNat_le]
    rcases hb with rfl | rfl | rfl | rfl
  all_goals
    simp only [UInt8.toNat_ofNat', UInt8.reduceToNat]
    omega

/-- An ASCII byte is found among the bytes of its character only. -/
theorem mem_utf8EncodeChar_iff {d : Char} (hd : d.toNat < 128) :
  UInt8.ofNat d.toNat ∈ String.utf8EncodeChar c ↔ d = c
  := by
  have hbyte : (UInt8.ofNat d.toNat).toNat = d.toNat := by
    rw [UInt8.toNat_ofNat']
    omega
  constructor
  · intro hmem
    by_cases hc : c.toNat < 128
    · rw [utf8EncodeChar_of_lt hc, List.mem_singleton] at hmem
      have hsame := congrArg UInt8.toNat hmem
      rw [hbyte, UInt8.toNat_ofNat'] at hsame
      apply Char.toNat_inj.mp
      omega
    · have hle := UInt8.le_iff_toNat_le.mp (le_of_mem_utf8EncodeChar (Nat.le_of_not_lt hc) hmem)
      rw [hbyte] at hle
      cases Nat.not_le_of_lt hd hle
  · rintro rfl
    rw [utf8EncodeChar_of_lt hd]
    apply List.mem_singleton_self

theorem mem_utf8_iff {d : Char} (hd : d.toNat < 128) :
  UInt8.ofNat d.toNat ∈ utf8 t ↔ d ∈ t
  := by
  rw [utf8, List.mem_flatMap]
  simp only [mem_utf8EncodeChar_iff hd, exists_eq_right']

/-- An ASCII byte at the start is that of an ASCII character. -/
theorem exists_of_utf8_eq_cons (h : utf8 t = b :: bs) (hb : b < 128) :
  ∃ c rest, t = c :: rest ∧ c.toNat < 128 ∧ b = UInt8.ofNat c.toNat ∧ bs = utf8 rest
  := by
  cases t with
  | nil => contradiction
  | cons c rest =>
    by_cases hc : c.toNat < 128
    · rw [utf8_cons_of_lt hc] at h
      obtain ⟨hb', hbs⟩ := List.cons.inj h
      exact ⟨c, rest, rfl, hc, hb'.symm, hbs.symm⟩
    · obtain ⟨b', bs', hchar⟩ := exists_utf8EncodeChar_eq c
      have hle : 128 ≤ b' := by
        apply le_of_mem_utf8EncodeChar (Nat.le_of_not_lt hc)
        rw [hchar]
        apply List.mem_cons_self
      rw [utf8_cons, hchar, List.cons_append] at h
      obtain rfl := (List.cons.inj h).1
      exact absurd hb (UInt8.not_lt.mpr hle)

theorem head?_utf8_eq_some_iff {d : Char} (hd : d.toNat < 128) :
  (utf8 t).head? = some (UInt8.ofNat d.toNat) ↔ t.head? = some d
  := by
  constructor
  · intro h
    obtain ⟨bs, hbs⟩ := List.head?_eq_some_iff.mp h
    have hmem : d ∈ t := by
      rw [← mem_utf8_iff hd, hbs]
      apply List.mem_cons_self
    obtain ⟨c, rest, rfl⟩ := List.exists_cons_of_ne_nil (List.ne_nil_of_mem hmem)
    obtain ⟨b, bs', hchar⟩ := exists_utf8EncodeChar_eq c
    rw [utf8_cons, hchar, List.cons_append] at hbs
    obtain rfl := (List.cons.inj hbs).1
    rw [List.head?_cons, Option.some.injEq, eq_comm, ← mem_utf8EncodeChar_iff hd, hchar]
    apply List.mem_cons_self
  · intro h
    obtain ⟨rest, rfl⟩ := List.head?_eq_some_iff.mp h
    rw [utf8_cons_of_lt hd]
    rfl

/-! ### Reading -/

theorem firstChar?_eq_some_iff :
  firstChar? bs = some c ↔ ∃ rest, bs = String.utf8EncodeChar c ++ rest
  := by
  constructor
  · intro h
    obtain ⟨rest, hrest⟩ := ByteArray.exists_of_utf8DecodeChar?_eq_some h
    use rest.data.toList
    have hbytes := congrArg (fun bytes => bytes.data.toList) hrest
    simpa using hbytes
  · rintro ⟨rest, rfl⟩
    rw [firstChar?, List.toByteArray_append]
    apply ByteArray.utf8DecodeChar?_utf8EncodeChar_append

theorem unitsWithin_of_firstChar? {n : Nat} (h : firstChar? bs = some c) :
  unitsWithin (n + 1) bs = some c :: unitsWithin n (bs.drop c.utf8Size)
  := by
  cases bs with
  | nil => contradiction
  | cons b bs => rw [unitsWithin, h]

/-- The bytes of a text are read as its characters. -/
theorem unitsWithin_utf8 {n : Nat} (h : (utf8 t).length ≤ n) :
  unitsWithin n (utf8 t) = t.map some
  := by
  induction t generalizing n with
  | nil => cases n <;> rfl
  | cons c t ih =>
    have hlength := String.length_utf8EncodeChar c
    have hpos := c.utf8Size_pos
    rw [utf8_cons, List.length_append] at h
    obtain ⟨m, rfl⟩ := Nat.exists_eq_add_of_le' (show 1 ≤ n by omega)
    rw [utf8_cons, unitsWithin_of_firstChar? (firstChar?_eq_some_iff.mpr ⟨_, rfl⟩),
      List.drop_left' hlength, ih (by omega)]
    rfl

/-- Bytes that are read as characters are those of a text. -/
theorem eq_utf8_of_unitsWithin {n : Nat} (hlength : bs.length ≤ n)
    (h : unitsWithin n bs = t.map some) :
  bs = utf8 t
  := by
  induction n generalizing bs t with
  | zero =>
    obtain rfl := List.length_eq_zero_iff.mp (Nat.le_zero.mp hlength)
    obtain rfl := List.map_eq_nil_iff.mp h.symm
    rfl
  | succ n ih =>
    cases bs with
    | nil =>
      obtain rfl := List.map_eq_nil_iff.mp h.symm
      rfl
    | cons b bs =>
      cases hfirst : firstChar? (b :: bs) with
      | none =>
        rw [unitsWithin, hfirst] at h
        obtain ⟨c, rest, -, hc, -⟩ := List.map_eq_cons_iff.mp h.symm
        contradiction
      | some c =>
        rw [unitsWithin_of_firstChar? hfirst] at h
        obtain ⟨c', rest, rfl, hc, hrest⟩ := List.map_eq_cons_iff.mp h.symm
        obtain rfl := Option.some.inj hc
        obtain ⟨bs', hbs'⟩ := firstChar?_eq_some_iff.mp hfirst
        have hsize := String.length_utf8EncodeChar c'
        have hpos := c'.utf8Size_pos
        rw [hbs', List.drop_left' hsize] at hrest
        rw [hbs', List.length_append] at hlength
        rw [hbs', utf8_cons, ih (by omega) hrest.symm]

/-- The bytes of a text, and no others, are read as the text. -/
theorem ofUtf8?_eq_some_iff :
  ofUtf8? bs = some t ↔ bs = utf8 t
  := by
  have hunits : ofUtf8? bs = some t ↔ units bs = t.map some := by
    rw [ofUtf8?, mapM_eq_some_iff, ← List.forall₂_eq_eq_eq, List.forall₂_map_right_iff]
    rfl
  rw [hunits]
  constructor
  · apply eq_utf8_of_unitsWithin (Nat.le_refl _)
  · rintro rfl
    apply unitsWithin_utf8 (Nat.le_refl _)

theorem ofUtf8?_utf8 (t : Text) :
  ofUtf8? (utf8 t) = some t
  := ofUtf8?_eq_some_iff.mpr rfl

/-- The bytes of a text are shown as the text. -/
theorem display_utf8 (t : Text) :
  display (utf8 t) = t
  := by
  rw [display, units, unitsWithin_utf8 (Nat.le_refl _), List.map_map]
  apply List.map_id

end DirectiveLint
