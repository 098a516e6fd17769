import DirectiveLint.Proofs.ValueShape.Language

/-!
# Lists in lists

A text has the shape of lists in lists exactly if each of the pieces between any of their
delimiters has the shape of the innermost elements (`ValueShape.mismatch?_nested_eq_none_iff`).
So it does not matter in which order the delimiters come, or how often.
-/

namespace DirectiveLint

namespace ValueShape

/-- Lists in lists around an element, where the first delimiter is that of the outermost. -/
def nested (element : ValueShape) (ds : List Char) : ValueShape :=
  ds.foldr (fun d s => list s d) element

theorem nested_cons (element : ValueShape) (d : Char) (ds : List Char) :
  nested element (d :: ds) = list (nested element ds) d
  := rfl

variable {accepts : Text → Text → Bool} {element : ValueShape} {ds ds' : List Char} {t : Text}

theorem mismatch?_nested_eq_none_iff :
  (nested element ds).mismatch? accepts t = none
    ↔ ∀ p ∈ t.splitOnP (ds.contains ·), element.mismatch? accepts p = none
  := by
  induction ds generalizing t with
  | nil =>
    have hpieces : t.splitOnP ([].contains ·) = [t] := List.splitOnP_eq_singleton fun _ _ => rfl
    rw [hpieces, List.forall_mem_singleton]
    rfl
  | cons d ds ih =>
    simp only [nested_cons, mismatch?_list_eq_none_iff_pieces, ih, List.contains_cons,
      ← flatMap_pieces, List.forall_mem_flatMap]

/-- Which texts have the shape of lists in lists depends on the set of the delimiters. -/
theorem mismatch?_nested_congr (h : ∀ d, d ∈ ds ↔ d ∈ ds') :
  (nested element ds).mismatch? accepts t = none
    ↔ (nested element ds').mismatch? accepts t = none
  := by
  have hcontains : (ds.contains ·) = (ds'.contains ·) := by
    funext d
    rw [Bool.eq_iff_iff, List.contains_iff_mem, List.contains_iff_mem]
    apply h
  rw [mismatch?_nested_eq_none_iff, mismatch?_nested_eq_none_iff, hcontains]

/-- Of two delimiters it does not matter which one is that of the outer list, and lists in
lists with the same delimiter are such lists.  So it is for any number of lists. -/
theorem nested_lists_exchange (registry : Registry) (element : ValueShape) :
  (∀ d₁ d₂ t, (list (list element d₁) d₂).mismatch? registry.accepts t = none
      ↔ (list (list element d₂) d₁).mismatch? registry.accepts t = none)
    ∧ (∀ d t, (list (list element d) d).mismatch? registry.accepts t = none
      ↔ (list element d).mismatch? registry.accepts t = none)
    ∧ ∀ ds ds' t, (∀ d, d ∈ ds ↔ d ∈ ds') →
      ((nested element ds).mismatch? registry.accepts t = none
        ↔ (nested element ds').mismatch? registry.accepts t = none)
  := by
  refine ⟨?_, ?_, ?_⟩
  · intro d₁ d₂ t
    have hswap : ∀ d, d ∈ [d₂, d₁] ↔ d ∈ [d₁, d₂] := by
      intro d
      apply (List.Perm.swap d₁ d₂ []).mem_iff
    apply mismatch?_nested_congr hswap
  · intro d t
    have htwice : ∀ c, c ∈ [d, d] ↔ c ∈ [d] := by
      intro c
      rw [List.mem_cons, List.mem_singleton, or_self]
    apply mismatch?_nested_congr htwice
  · intro ds ds' t h
    apply mismatch?_nested_congr h

/-- Three lists with two delimiters take the texts that two lists take. -/
theorem nested_lists_exchange_twice :
  (∀ d, d ∈ [',', ';', ','] ↔ d ∈ [';', ','])
    ∧ (nested (anyOf [literal ['a'], empty]) [',', ';', ',']).mismatch? Registry.empty.accepts
      "a;a,,a".toList = none
  := by
  have h : ∀ d, d ∈ [',', ';', ','] ↔ d ∈ [';', ','] := by
    intro d
    rw [List.mem_cons]
    apply or_iff_right_of_imp
    rintro rfl
    decide
  obtain ⟨-, -, hnested⟩ :=
    nested_lists_exchange Registry.empty (anyOf [literal ['a'], empty])
  use h
  rw [hnested _ [';', ','] _ h]
  decide

end ValueShape

end DirectiveLint
