import DirectiveLint.Proofs.Text.Pieces
import DirectiveLint.Proofs.Validator.Numeral

/-!
# Lists of numbers

`NumberItem` is the grammar of an item: a number, or a range of numbers.  The builtin validator
for lists of numbers accepts exactly the non-empty sequences of items with commas between them,
hence two texts with a comma between them exactly if it accepts both of them
(`Builtin.accepts_numberList_iff`).
-/

namespace DirectiveLint

/-- An item of a list of numbers. -/
inductive NumberItem : Text → Prop where
  /-- A number. -/
  | number {t : Text} {n : Nat} (h : BoundedNumeral t n) : NumberItem t
  /-- A range from one number to another that is no less. -/
  | range {low high : Text} {l h : Nat} (hlow : BoundedNumeral low l)
      (hhigh : BoundedNumeral high h) (hle : l ≤ h) :
    NumberItem (low ++ '-' :: high)

/-- There is no comma inside an item. -/
theorem NumberItem.not_mem {t : Text} (h : NumberItem t) :
  ',' ∉ t
  := by
  cases h with
  | number h => apply h.numeral.not_mem rfl
  | @range low high l h hlow hhigh hle =>
    have hlow' : ',' ∉ low := hlow.numeral.not_mem rfl
    have hhigh' : ',' ∉ high := hhigh.numeral.not_mem rfl
    simp [hlow', hhigh']

theorem isNumberRange_iff {t : Text} :
  isNumberRange t = true ↔ NumberItem t
  := by
  unfold isNumberRange
  constructor
  · intro h
    split at h
    · next low high hcut =>
      obtain ⟨rfl, -⟩ := cutAt_eq_some_iff.mp hcut
      split at h
      · next l h' hlow hhigh =>
        apply NumberItem.range (boundedNumber?_eq_some_iff.mp hlow)
          (boundedNumber?_eq_some_iff.mp hhigh) (of_decide_eq_true h)
      · contradiction
    · obtain ⟨n, hn⟩ := Option.isSome_iff_exists.mp h
      apply NumberItem.number (boundedNumber?_eq_some_iff.mp hn)
  · intro h
    cases h with
    | @number t n h =>
      have hcut : cutAt '-' t = none := cutAt_eq_none_iff.mpr (h.numeral.not_mem rfl)
      simp [hcut, boundedNumber?_eq_some_iff.mpr h]
    | @range low high l h hlow hhigh hle =>
      -- The dash of the range is the first one, because there is none among digits.
      have hcut : cutAt '-' (low ++ '-' :: high) = some (low, high) :=
        cutAt_eq_some_iff.mpr ⟨rfl, hlow.numeral.not_mem rfl⟩
      simp [hcut, boundedNumber?_eq_some_iff.mpr hlow, boundedNumber?_eq_some_iff.mpr hhigh, hle]

theorem isNumberList_iff {t : Text} :
  isNumberList t = true
    ↔ ∃ items, items ≠ [] ∧ (∀ item ∈ items, NumberItem item) ∧ t = joinWith [','] items
  := by
  have hmark : ∀ item, ',' ∉ item ∧ NumberItem item ↔ NumberItem item :=
    fun item => and_iff_right_of_imp NumberItem.not_mem
  rw [isNumberList, List.all_eq_true]
  simp only [isNumberRange_iff]
  rw [← exists_joinWith_iff]
  simp only [hmark]

theorem isNumberList_append_comma (a b : Text) :
  isNumberList (a ++ ',' :: b) = (isNumberList a && isNumberList b)
  := by
  simp only [isNumberList, pieces_append_cons, List.all_append]

/-- The builtin validator for lists of numbers accepts the items with commas between them and
nothing else, so it judges a list part by part. -/
theorem Builtin.accepts_numberList_iff :
  (∀ t, Builtin.numberList.accepts t = true
      ↔ ∃ items, items ≠ [] ∧ (∀ item ∈ items, NumberItem item) ∧ t = joinWith [','] items)
    ∧ ∀ a b, Builtin.numberList.accepts (a ++ ',' :: b)
      = (Builtin.numberList.accepts a && Builtin.numberList.accepts b)
  := by
  constructor
  · intro t
    apply isNumberList_iff
  · apply isNumberList_append_comma

/-- A range is judged by its numbers and not as text. -/
example : Builtin.numberList.accepts "9-010,4294967295".toList = true
    ∧ Builtin.numberList.accepts "10-9".toList = false
    ∧ Builtin.numberList.accepts "1-2-3".toList = false := by decide

end DirectiveLint
