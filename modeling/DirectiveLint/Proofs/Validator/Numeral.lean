import DirectiveLint.Validator.Builtin
import Mathlib.Data.List.Induction

/-!
# Decimal numerals

`Numeral t n` says that a text of ASCII digits denotes a number, without reference to how it is
read; leading zeros are allowed.  A field of digits is read as the number that it denotes
(`numeral_iff`), a bounded one if that is below `2 ^ 32` (`boundedNumber?_eq_some_iff`).
-/

namespace DirectiveLint

/-- A text of decimal digits and the number that it denotes. -/
inductive Numeral : Text → Nat → Prop where
  /-- A digit denotes its value. -/
  | digit {d : Nat} (hd : d < 10) : Numeral [d.digitChar] d
  /-- A further digit moves those in front of it to the next higher place. -/
  | append {t : Text} {n d : Nat} (ht : Numeral t n) (hd : d < 10) :
    Numeral (t ++ [d.digitChar]) (10 * n + d)

/-- A numeral of a number below `2 ^ 32`. -/
structure BoundedNumeral (t : Text) (n : Nat) : Prop where
  /-- The text denotes the number. -/
  numeral : Numeral t n
  /-- The number is in bounds. -/
  lt : n < Nat.pow 2 32

theorem isDigit_iff_exists {c : Char} :
  c.isDigit = true ↔ ∃ d < 10, d.digitChar = c
  := by
  constructor
  · intro h
    have hbounds : 48 ≤ c.toNat ∧ c.toNat ≤ 57 := Char.isDigit_iff_toNat.mp h
    have hlt : c.toNat - 48 < 10 := by omega
    refine ⟨c.toNat - 48, hlt, ?_⟩
    apply Char.toNat_inj.mp
    rw [Nat.toNat_digitChar_of_lt_ten hlt]
    omega
  · rintro ⟨d, hd, rfl⟩
    simpa [Nat.isDigit_digitChar] using hd

/-- A digit behind others is read as the next lower place. -/
theorem ofDigits_append_digitChar (t : Text) {d : Nat} (hd : d < 10) :
  ofDigits (t ++ [d.digitChar]) = 10 * ofDigits t + d
  := by
  have hvalue : d.digitChar.toNat - '0'.toNat = d := by
    rw [Nat.toNat_digitChar_of_lt_ten hd]
    apply Nat.add_sub_cancel_left
  rw [ofDigits, List.foldl_append, List.foldl_cons, List.foldl_nil, hvalue]
  rfl

theorem isDigits_iff {t : Text} :
  isDigits t = true ↔ t ≠ [] ∧ ∀ c ∈ t, c.isDigit = true
  := by
  simp [isDigits]

/-- The non-empty texts of digits are the numerals of what is read from them. -/
theorem numeral_iff {t : Text} {n : Nat} :
  Numeral t n ↔ isDigits t = true ∧ ofDigits t = n
  := by
  rw [isDigits_iff]
  constructor
  · intro h
    induction h with
    | @digit d hd =>
      have hvalue := ofDigits_append_digitChar [] hd
      refine ⟨⟨List.cons_ne_nil _ _, ?_⟩, by simpa [ofDigits] using hvalue⟩
      simpa [Nat.isDigit_digitChar] using hd
    | @append t n d ht hd ih =>
      obtain ⟨⟨hne, hdigits⟩, rfl⟩ := ih
      refine ⟨⟨List.append_ne_nil_of_left_ne_nil hne _, ?_⟩, ofDigits_append_digitChar t hd⟩
      simpa [Nat.isDigit_digitChar, hd, or_imp, forall_and] using hdigits
  · rintro ⟨⟨hne, hdigits⟩, rfl⟩
    induction t using List.reverseRecOn with
    | nil => contradiction
    | append_singleton t c ih =>
      obtain ⟨ht, hc⟩ := List.forall_mem_append.mp hdigits
      obtain ⟨d, hd, rfl⟩ := isDigit_iff_exists.mp (hc c List.mem_cons_self)
      rw [ofDigits_append_digitChar t hd]
      by_cases hempty : t = []
      · subst hempty
        simpa [ofDigits] using Numeral.digit hd
      · exact .append (ih hempty ht) hd

theorem Numeral.isDigit_of_mem {t : Text} {n : Nat} (h : Numeral t n) {c : Char} (hc : c ∈ t) :
  c.isDigit = true
  := by
  apply (isDigits_iff.mp (numeral_iff.mp h).1).2 c hc

/-- There is no mark among digits. -/
theorem Numeral.not_mem {t : Text} {n : Nat} (h : Numeral t n) {c : Char}
    (hc : c.isDigit = false) :
  c ∉ t
  := by
  intro hmem
  rw [h.isDigit_of_mem hmem] at hc
  contradiction

theorem boundedNumber?_eq_some_iff {t : Text} {n : Nat} :
  boundedNumber? t = some n ↔ BoundedNumeral t n
  := by
  have hbound : bitBound 32 = Nat.pow 2 32 := rfl
  unfold boundedNumber?
  constructor
  · intro h
    split at h
    · next hcond =>
      rw [Bool.and_eq_true, decide_eq_true_iff, hbound] at hcond
      obtain rfl := Option.some.inj h
      exact ⟨numeral_iff.mpr ⟨hcond.1, rfl⟩, hcond.2⟩
    · contradiction
  · intro h
    obtain ⟨hdigits, rfl⟩ := numeral_iff.mp h.numeral
    rw [if_pos]
    rw [Bool.and_eq_true, decide_eq_true_iff, hbound]
    exact ⟨hdigits, h.lt⟩

end DirectiveLint
