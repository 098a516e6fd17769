import DirectiveLint.Proofs.ValueShape.Language
import Mathlib.Logic.Relation

/-!
# Rearranged alternatives

`ValueShape.Rearranges s s'` says that the alternatives in one place of a shape, however deep
it lies, are rearranged: they come in another order, or one of several of which any may match
stands twice, or is spread out if it consists of such alternatives itself.  No such change, nor
any number of them in either direction, has an influence on what is found wrong with a text
(`ValueShape.mismatch?_eq_of_rearranged`).
-/

namespace DirectiveLint

namespace ValueShape

/-- The alternatives in one place of a shape are rearranged. -/
inductive Rearranges : ValueShape → ValueShape → Prop where
  /-- The shapes of which a text has exactly one come in another order. -/
  | permuteOneOf {shapes shapes' : List ValueShape} (h : shapes.Perm shapes') :
    Rearranges (oneOf shapes) (oneOf shapes')
  /-- The shapes of which a text has at least one come in another order. -/
  | permuteAnyOf {shapes shapes' : List ValueShape} (h : shapes.Perm shapes') :
    Rearranges (anyOf shapes) (anyOf shapes')
  /-- One of the shapes of which a text has at least one stands twice. -/
  | duplicate (before : List ValueShape) (s : ValueShape) (after : List ValueShape) :
    Rearranges (anyOf (before ++ s :: after)) (anyOf (before ++ s :: s :: after))
  /-- Shapes of which a text has at least one stand in their place among others. -/
  | flatten (before inner after : List ValueShape) :
    Rearranges (anyOf (before ++ anyOf inner :: after)) (anyOf (before ++ inner ++ after))
  /-- The change is made in the elements of a list. -/
  | inList {element element' : ValueShape} (d : Char) (h : Rearranges element element') :
    Rearranges (list element d) (list element' d)
  /-- The change is made in one of the shapes of which a text has exactly one. -/
  | inOneOf (before : List ValueShape) {s s' : ValueShape} (after : List ValueShape)
      (h : Rearranges s s') :
    Rearranges (oneOf (before ++ s :: after)) (oneOf (before ++ s' :: after))
  /-- The change is made in one of the shapes of which a text has at least one. -/
  | inAnyOf (before : List ValueShape) {s s' : ValueShape} (after : List ValueShape)
      (h : Rearranges s s') :
    Rearranges (anyOf (before ++ s :: after)) (anyOf (before ++ s' :: after))

variable {accepts : Text → Text → Bool} {s s' : ValueShape}
  {before after shapes shapes' : List ValueShape} {t : Text}

/-! ### What alternatives depend on -/

theorem mismatch?_oneOf_congr
    (h : matchCount accepts shapes t = matchCount accepts shapes' t) :
  (oneOf shapes).mismatch? accepts t = (oneOf shapes').mismatch? accepts t
  := by
  rw [mismatch?, mismatch?, h]

theorem mismatch?_anyOf_eq_ite :
  (anyOf shapes).mismatch? accepts t
    = if matchCount accepts shapes t ≠ 0 then none else some .noAlternative
  := by
  rw [mismatch?]
  split
  · next h => rw [if_neg (not_not_intro h)]
  · next h => rw [if_pos h]

/-- Of shapes any of which may match, it matters only whether one does. -/
theorem mismatch?_anyOf_congr
    (h : (∃ s ∈ shapes, s.mismatch? accepts t = none)
      ↔ ∃ s ∈ shapes', s.mismatch? accepts t = none) :
  (anyOf shapes).mismatch? accepts t = (anyOf shapes').mismatch? accepts t
  := by
  rw [mismatch?_anyOf_eq_ite, mismatch?_anyOf_eq_ite]
  apply if_congr _ rfl rfl
  rw [matchCount_ne_zero_iff, matchCount_ne_zero_iff]
  apply h

theorem matchCount_perm (h : shapes.Perm shapes') :
  matchCount accepts shapes t = matchCount accepts shapes' t
  := by
  rw [matchCount_eq_countP, matchCount_eq_countP]
  apply h.countP_eq

/-- A shape can be exchanged for one that mismatches in the same way. -/
theorem matchCount_exchange (h : s.mismatch? accepts t = s'.mismatch? accepts t) :
  matchCount accepts (before ++ s :: after) t = matchCount accepts (before ++ s' :: after) t
  := by
  simp only [matchCount_eq_countP, List.countP_append, List.countP_cons, h]

/-! ### One change and many -/

/-- A change in one place has no influence on what is found wrong with any text. -/
theorem Rearranges.mismatch?_eq (h : Rearranges s s') (t : Text) :
  s.mismatch? accepts t = s'.mismatch? accepts t
  := by
  induction h generalizing t with
  | permuteOneOf h =>
    apply mismatch?_oneOf_congr
    apply matchCount_perm h
  | permuteAnyOf h =>
    apply mismatch?_anyOf_congr
    simp only [h.mem_iff]
  | duplicate before s after =>
    apply mismatch?_anyOf_congr
    simp only [List.mem_append, List.mem_cons, or_self_left]
  | flatten before inner after =>
    apply mismatch?_anyOf_congr
    -- the inner alternatives match together if one of them does
    have hinner : (anyOf inner).mismatch? accepts t = none
        ↔ ∃ s ∈ inner, s.mismatch? accepts t = none := by
      rw [mismatch?_anyOf_eq_none_iff, matchCount_ne_zero_iff]
    simp only [List.mem_append, List.mem_cons, or_and_right, exists_or, exists_eq_left, hinner,
      or_assoc]
  | @inList element element' d h ih =>
    have helement : element.mismatch? accepts = element'.mismatch? accepts := funext ih
    rw [mismatch?, mismatch?, helement]
  | inOneOf before after h ih =>
    apply mismatch?_oneOf_congr
    apply matchCount_exchange (ih t)
  | inAnyOf before after h ih =>
    rw [mismatch?_anyOf_eq_ite, mismatch?_anyOf_eq_ite, matchCount_exchange (ih t)]

/-- What is found wrong with a text, with all causes, is the same for shapes that can be made
from each other by rearranging alternatives in any places. -/
theorem mismatch?_eq_of_rearranged (h : Relation.EqvGen Rearranges s s') (registry : Registry)
    (t : Text) :
  s.mismatch? registry.accepts t = s'.mismatch? registry.accepts t
  := by
  induction h with
  | rel s s' h => apply h.mismatch?_eq
  | refl s => rfl
  | symm s s' _ ih => apply ih.symm
  | trans s u s' _ _ hsu hus' => apply hsu.trans hus'

/-- In the elements of a list, the alternatives that start with `b` are spread out, doubled and
put in front, and the second element is still ambiguous in the same way. -/
theorem mismatch?_eq_of_rearranged_deep :
  let b : ValueShape := literal ['b']
  let s := list (oneOf [b, anyOf [anyOf [b, literal ['c']], literal ['a']]]) ','
  let s' := list (oneOf [anyOf [literal ['a'], b, b, literal ['c']], b]) ','
  Relation.EqvGen Rearranges s s'
    ∧ s'.mismatch? Registry.empty.accepts "a,b".toList = some (.element 1 ['b'] (.ambiguous 2))
  := by
  intro b s s'
  let flat := anyOf [b, literal ['c'], literal ['a']]
  let doubled := anyOf [b, b, literal ['c'], literal ['a']]
  let turned := anyOf [literal ['a'], b, b, literal ['c']]
  have hflat : Rearranges (anyOf [anyOf [b, literal ['c']], literal ['a']]) flat :=
    .flatten [] [b, literal ['c']] [literal ['a']]
  have hdoubled : Rearranges flat doubled := .duplicate [] b [literal ['c'], literal ['a']]
  have hturned : Rearranges doubled turned :=
    .permuteAnyOf (List.perm_append_singleton (literal ['a']) [b, b, literal ['c']])
  have hinside : ∀ u u', Rearranges u u' →
      Relation.EqvGen Rearranges (list (oneOf [b, u]) ',') (list (oneOf [b, u']) ',') :=
    fun u u' h => .rel _ _ (.inList ',' (.inOneOf [b] [] h))
  have h : Relation.EqvGen Rearranges s s' := by
    apply (hinside _ _ hflat).trans
    apply (hinside _ _ hdoubled).trans
    apply (hinside _ _ hturned).trans
    apply Relation.EqvGen.rel
    apply Rearranges.inList
    apply Rearranges.permuteOneOf
    apply List.Perm.swap
  use h
  rw [← mismatch?_eq_of_rearranged h]
  rfl

end ValueShape

end DirectiveLint
