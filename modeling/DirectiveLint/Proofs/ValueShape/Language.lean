import DirectiveLint.Proofs.Text.Pieces
import DirectiveLint.Validator.Registry
import DirectiveLint.ValueShape
import Mathlib.Data.Set.Insert
import Mathlib.Logic.ExistsUnique

/-!
# The language of a shape

`ValueShape.language` gives the set of the texts that have a shape, by recursion on the
shape and without reference to the checker.  The checker finds no mismatch exactly in the
texts of the language (`ValueShape.mismatch?_eq_none_iff`).  Proofs about shapes go by
`ValueShape.ind`, which has one case for each kind of shape.
-/

namespace DirectiveLint

namespace ValueShape

/-- Induction on shapes, where the hypothesis holds for each of the alternatives. -/
@[elab_as_elim, induction_eliminator]
theorem ind {motive : ValueShape → Prop}
    (literal : ∀ t, motive (literal t))
    (validator : ∀ name, motive (validator name))
    (empty : motive empty)
    (list : ∀ element d, motive element → motive (list element d))
    (oneOf : ∀ shapes, (∀ s ∈ shapes, motive s) → motive (oneOf shapes))
    (anyOf : ∀ shapes, (∀ s ∈ shapes, motive s) → motive (anyOf shapes)) :
    ∀ s, motive s :=
  @ValueShape.rec motive (fun shapes => ∀ s ∈ shapes, motive s) literal validator empty list
    oneOf anyOf (fun _ h => nomatch h)
    (fun _ _ hs hss => List.forall_mem_cons.mpr ⟨hs, hss⟩)

mutual

/-- The texts that have a shape, where `accepted` gives the texts of each named validator. -/
def language (accepted : Text → Set Text) : ValueShape → Set Text
  | literal t => {t}
  | validator name => accepted name
  | empty => {[]}
  | list element d =>
    {u | ∃ ps : List Text, ps ≠ [] ∧ (∀ p ∈ ps, d ∉ p ∧ p ∈ element.language accepted)
      ∧ u = joinWith [d] ps}
  | oneOf shapes => {u | ∃! i : Nat, ∃ L, (languages accepted shapes)[i]? = some L ∧ u ∈ L}
  | anyOf shapes => {u | ∃ L ∈ languages accepted shapes, u ∈ L}

/-- The sets of the texts that have the shapes of a list, in the same order. -/
def languages (accepted : Text → Set Text) : List ValueShape → List (Set Text)
  | [] => []
  | s :: ss => s.language accepted :: languages accepted ss

end

theorem languages_eq_map (accepted : Text → Set Text) (shapes : List ValueShape) :
  languages accepted shapes = shapes.map (language accepted)
  := by
  induction shapes with
  | nil => rfl
  | cons s ss ih => rw [languages, ih, List.map_cons]

theorem firstMismatch?_eq_none_iff {element : Text → Option Mismatch} {index : Nat}
    {ts : List Text} :
  firstMismatch? element index ts = none ↔ ∀ t ∈ ts, element t = none
  := by
  induction ts generalizing index with
  | nil => simp [firstMismatch?]
  | cons t ts ih =>
    rw [firstMismatch?, List.forall_mem_cons]
    split
    · next h => simp [h]
    · next h => simp [h, ih]

/-- Exactly one element of a list satisfies `p` if there is exactly one such position. -/
theorem countP_eq_one_iff {α : Type} {p : α → Bool} {l : List α} :
  l.countP p = 1 ↔ ∃! i : Nat, ∃ a, l[i]? = some a ∧ p a = true
  := by
  induction l with
  | nil =>
    rw [List.countP_nil]
    constructor
    · intro h
      contradiction
    · rintro ⟨i, ⟨a, ha, -⟩, -⟩
      contradiction
  | cons b l ih =>
    by_cases hb : p b = true
    · rw [List.countP_cons_of_pos hb, Nat.add_eq_right, List.countP_eq_zero]
      constructor
      · intro h
        refine ⟨0, ⟨b, rfl, hb⟩, ?_⟩
        rintro (_ | i) ⟨a, ha, hpa⟩
        · rfl
        · cases h a (List.mem_of_getElem? ha) hpa
      · rintro ⟨i, -, hunique⟩ a ha hpa
        obtain ⟨k, hk⟩ := List.mem_iff_getElem?.mp ha
        have h := (hunique (k + 1) ⟨a, hk, hpa⟩).trans (hunique 0 ⟨b, rfl, hb⟩).symm
        contradiction
    · rw [List.countP_cons_of_neg hb, ih]
      constructor
      · rintro ⟨i, hi, hunique⟩
        refine ⟨i + 1, hi, ?_⟩
        rintro (_ | k) ⟨a, ha, hpa⟩
        · obtain rfl := Option.some.inj ha
          contradiction
        · rw [hunique k ⟨a, ha, hpa⟩]
      · rintro ⟨_ | i, ⟨a, ha, hpa⟩, hunique⟩
        · obtain rfl := Option.some.inj ha
          contradiction
        · refine ⟨i, ⟨a, ha, hpa⟩, ?_⟩
          intro k hk
          apply Nat.succ.inj (hunique (k + 1) hk)

theorem matchCount_eq_countP (accepts : Text → Text → Bool) (shapes : List ValueShape)
    (t : Text) :
  matchCount accepts shapes t = shapes.countP fun s => (s.mismatch? accepts t).isNone
  := by
  induction shapes with
  | nil => rfl
  | cons s ss ih =>
    rw [matchCount, ih, List.countP_cons, Nat.add_comm]

theorem matchCount_ne_zero_iff {accepts : Text → Text → Bool} {shapes : List ValueShape}
    {t : Text} :
  matchCount accepts shapes t ≠ 0 ↔ ∃ s ∈ shapes, s.mismatch? accepts t = none
  := by
  rw [matchCount_eq_countP, ← Nat.pos_iff_ne_zero, List.countP_pos_iff]
  simp only [Option.isNone_iff_eq_none]

/-! ### The checker and the language -/

/-- A text is in the language of a list if all its pieces are in that of the elements. -/
theorem mem_language_list {accepted : Text → Set Text} {element : ValueShape} {d : Char}
    {t : Text} :
  t ∈ (list element d).language accepted
    ↔ ∀ p ∈ pieces d t, p ∈ element.language accepted
  := by
  rw [language]
  apply exists_joinWith_iff (· ∈ element.language accepted)

/-- No piece of the empty text is found to mismatch exactly if the empty text is not, so the
empty text needs no rule of its own to be accepted. -/
theorem mismatch?_list_eq_none_iff {accepts : Text → Text → Bool} {element : ValueShape}
    {d : Char} {t : Text} :
  (list element d).mismatch? accepts t = none
    ↔ firstMismatch? (element.mismatch? accepts) 0 (pieces d t) = none
  := by
  rw [mismatch?]
  split
  · next h =>
    subst h
    rw [Option.map_eq_none_iff, pieces, firstMismatch?_eq_none_iff, List.forall_mem_singleton]
  · apply Iff.rfl

/-- A text has the shape of a list if all its pieces have that of the elements. -/
theorem mismatch?_list_eq_none_iff_pieces {accepts : Text → Text → Bool} {element : ValueShape}
    {d : Char} {t : Text} :
  (list element d).mismatch? accepts t = none
    ↔ ∀ p ∈ pieces d t, element.mismatch? accepts p = none
  := by
  rw [mismatch?_list_eq_none_iff, firstMismatch?_eq_none_iff]

theorem mismatch?_oneOf_eq_none_iff {accepts : Text → Text → Bool} {shapes : List ValueShape}
    {t : Text} :
  (oneOf shapes).mismatch? accepts t = none ↔ matchCount accepts shapes t = 1
  := by
  rw [mismatch?]
  split <;> simp_all

theorem mismatch?_anyOf_eq_none_iff {accepts : Text → Text → Bool} {shapes : List ValueShape}
    {t : Text} :
  (anyOf shapes).mismatch? accepts t = none ↔ matchCount accepts shapes t ≠ 0
  := by
  rw [mismatch?]
  split <;> simp_all

/-- The checker finds no mismatch in exactly the texts of the language. -/
theorem mismatch?_eq_none_iff {accepts : Text → Text → Bool} {accepted : Text → Set Text}
    (h : ∀ name t, accepts name t = true ↔ t ∈ accepted name) (shape : ValueShape) (t : Text) :
  shape.mismatch? accepts t = none ↔ t ∈ shape.language accepted
  := by
  induction shape generalizing t with
  | literal u =>
    rw [mismatch?, language, Set.mem_singleton_iff]
    split <;> simp_all
  | validator name =>
    rw [mismatch?, language, ← h]
    split <;> simp_all
  | empty =>
    rw [mismatch?, language, Set.mem_singleton_iff]
    split <;> simp_all
  | list element d ih =>
    rw [mismatch?_list_eq_none_iff_pieces, mem_language_list]
    simp only [ih]
  | oneOf shapes ih =>
    rw [mismatch?_oneOf_eq_none_iff, matchCount_eq_countP, countP_eq_one_iff, language,
      languages_eq_map]
    apply existsUnique_congr
    intro i
    rw [List.getElem?_map]
    constructor
    · rintro ⟨s, hs, hnone⟩
      rw [Option.isNone_iff_eq_none] at hnone
      refine ⟨s.language accepted, by rw [hs]; rfl, ?_⟩
      apply (ih s (List.mem_of_getElem? hs) t).mp hnone
    · rintro ⟨L, hL, ht⟩
      obtain ⟨s, hs, rfl⟩ := Option.map_eq_some_iff.mp hL
      refine ⟨s, hs, ?_⟩
      rw [Option.isNone_iff_eq_none]
      apply (ih s (List.mem_of_getElem? hs) t).mpr ht
  | anyOf shapes ih =>
    rw [mismatch?_anyOf_eq_none_iff, matchCount_ne_zero_iff, language, languages_eq_map]
    constructor
    · rintro ⟨s, hs, hnone⟩
      use s.language accepted, List.mem_map_of_mem hs
      apply (ih s hs t).mp hnone
    · rintro ⟨L, hL, ht⟩
      obtain ⟨s, hs, rfl⟩ := List.mem_map.mp hL
      use s, hs
      apply (ih s hs t).mpr ht

end ValueShape

/-- The texts that the validator under a name accepts; none if there is no such validator. -/
def Registry.language (r : Registry) (name : Text) : Set Text :=
  {t | ∃ v, r.find? name = some v ∧ v.accepts t = true}

theorem Registry.accepts_iff_mem_language (r : Registry) (name t : Text) :
  r.accepts name t = true ↔ t ∈ r.language name
  := by
  rw [accepts, Option.any_eq_true]
  rfl

/-- The checker decides the language of every shape over every registry.  The empty text is
in the language of a list exactly if it is in that of the elements, and the rule for the
empty text agrees with the one for its only piece.  A validator that is not registered has
the empty language. -/
theorem ValueShape.mismatch?_decides_language (registry : Registry) :
  (∀ shape t, mismatch? registry.accepts shape t = none
      ↔ t ∈ language registry.language shape)
    ∧ (∀ element d, [] ∈ language registry.language (list element d)
      ↔ [] ∈ language registry.language element)
    ∧ (∀ element d, mismatch? registry.accepts (list element d) [] = none
      ↔ firstMismatch? (mismatch? registry.accepts element) 0 (pieces d []) = none)
    ∧ ∀ name, registry.find? name = none →
      language registry.language (validator name) = ∅
  := by
  refine ⟨?_, ?_, ?_, ?_⟩
  · intro shape t
    apply mismatch?_eq_none_iff registry.accepts_iff_mem_language
  · intro element d
    rw [mem_language_list, pieces, List.forall_mem_singleton]
  · intro element d
    apply mismatch?_list_eq_none_iff
  · intro name h
    rw [language]
    apply Set.eq_empty_of_forall_notMem
    rintro t ⟨v, hv, -⟩
    rw [h] at hv
    contradiction

/-- Alternatives are counted by position: a text that has the same shape in two places does
not have exactly one of the alternatives. -/
theorem ValueShape.mismatch?_decides_language_twice :
  Registry.empty.find? ['v'] = none
    ∧ language Registry.empty.language (validator ['v']) = ∅
    ∧ ['a'] ∉ language Registry.empty.language
      (list (oneOf [literal ['a'], anyOf [validator ['v'], literal ['a']]]) ',')
  := by
  obtain ⟨hlanguage, -, -, hunknown⟩ := mismatch?_decides_language Registry.empty
  refine ⟨rfl, hunknown ['v'] rfl, ?_⟩
  rw [← hlanguage]
  decide

end DirectiveLint
