import DirectiveLint.Proofs.ValueShape.Language

/-!
# The validators that a shape mentions

`ValueShape.Mentions name s` says that a shape names a validator somewhere in its tree.  These
are all the validators that matter for the shape: what is found wrong with a text and the
words for the shape stay the same if other validators change (`ValueShape.mismatch?_congr`,
`ValueShape.describeWith_congr`).
-/

namespace DirectiveLint

namespace ValueShape

/-- A validator is named somewhere in the shape. -/
inductive Mentions (name : Text) : ValueShape → Prop where
  | validator : Mentions name (.validator name)
  | list {element : ValueShape} {d : Char} (h : Mentions name element) :
    Mentions name (.list element d)
  | oneOf {s : ValueShape} {shapes : List ValueShape} (hs : s ∈ shapes) (h : Mentions name s) :
    Mentions name (.oneOf shapes)
  | anyOf {s : ValueShape} {shapes : List ValueShape} (hs : s ∈ shapes) (h : Mentions name s) :
    Mentions name (.anyOf shapes)

theorem mem_validatorNamesOf_iff {name : Text} {shapes : List ValueShape} :
  name ∈ validatorNamesOf shapes ↔ ∃ s ∈ shapes, name ∈ s.validatorNames
  := by
  induction shapes with
  | nil => simp [validatorNamesOf]
  | cons s ss ih =>
    rw [validatorNamesOf, List.mem_append, ih]
    simp only [List.mem_cons, exists_eq_or_imp]

theorem mem_validatorNames_iff {name : Text} {s : ValueShape} :
  name ∈ s.validatorNames ↔ s.Mentions name
  := by
  induction s with
  | literal t =>
    apply iff_of_false List.not_mem_nil
    nofun
  | validator n =>
    rw [validatorNames, List.mem_singleton]
    constructor
    · rintro rfl
      apply Mentions.validator
    · rintro ⟨⟩
      rfl
  | empty =>
    apply iff_of_false List.not_mem_nil
    nofun
  | list element d ih =>
    rw [validatorNames, ih]
    constructor
    · apply Mentions.list
    · rintro (_ | h)
      apply h
  | oneOf shapes ih =>
    rw [validatorNames, mem_validatorNamesOf_iff]
    constructor
    · rintro ⟨s, hs, h⟩
      apply Mentions.oneOf hs ((ih s hs).mp h)
    · rintro (_ | _ | ⟨hs, h⟩)
      exact ⟨_, hs, (ih _ hs).mpr h⟩
  | anyOf shapes ih =>
    rw [validatorNames, mem_validatorNamesOf_iff]
    constructor
    · rintro ⟨s, hs, h⟩
      apply Mentions.anyOf hs ((ih s hs).mp h)
    · rintro (_ | _ | _ | ⟨hs, h⟩)
      exact ⟨_, hs, (ih _ hs).mpr h⟩

/-! ### Validators that are not mentioned -/

theorem matchCount_congr {accepts accepts' : Text → Text → Bool} {shapes : List ValueShape}
    {t : Text} (h : ∀ s ∈ shapes, s.mismatch? accepts t = s.mismatch? accepts' t) :
  matchCount accepts shapes t = matchCount accepts' shapes t
  := by
  rw [matchCount_eq_countP, matchCount_eq_countP]
  apply List.countP_congr
  intro s hs
  rw [h s hs]

/-- What is found wrong with a text depends on the mentioned validators only. -/
theorem mismatch?_congr {accepts accepts' : Text → Text → Bool} {s : ValueShape}
    (h : ∀ name, s.Mentions name → ∀ t, accepts name t = accepts' name t) (t : Text) :
  s.mismatch? accepts t = s.mismatch? accepts' t
  := by
  induction s generalizing t with
  | literal u => rw [mismatch?, mismatch?]
  | validator name => rw [mismatch?, mismatch?, h name .validator]
  | empty => rw [mismatch?, mismatch?]
  | list element d ih =>
    have helement : element.mismatch? accepts = element.mismatch? accepts' := by
      funext u
      apply ih
      intro name hname
      apply h name (.list hname)
    rw [mismatch?, mismatch?, helement]
  | oneOf shapes ih =>
    rw [mismatch?, mismatch?, matchCount_congr]
    intro s hs
    apply ih s hs
    intro name hname
    apply h name (.oneOf hs hname)
  | anyOf shapes ih =>
    rw [mismatch?, mismatch?, matchCount_congr]
    intro s hs
    apply ih s hs
    intro name hname
    apply h name (.anyOf hs hname)

theorem describeWith_list (nameOf : Text → Text) (element : ValueShape) (d : Char) :
  (list element d).describeWith nameOf
    = ['\'', d] ++ "'-separated list of ".toList ++ element.describeWith nameOf
  := rfl

theorem describeAllWith_eq_map (nameOf : Text → Text) (shapes : List ValueShape) :
  describeAllWith nameOf shapes = shapes.map (describeWith nameOf)
  := by
  induction shapes with
  | nil => rfl
  | cons s ss ih =>
    rw [List.map_cons, ← ih]
    rfl

theorem describeWith_oneOf (nameOf : Text → Text) (shapes : List ValueShape) :
  (oneOf shapes).describeWith nameOf
    = "one of: ".toList ++ joinWith ", ".toList (shapes.map (describeWith nameOf))
  := by
  rw [← describeAllWith_eq_map]
  rfl

theorem describeWith_anyOf (nameOf : Text → Text) (shapes : List ValueShape) :
  (anyOf shapes).describeWith nameOf
    = "any of: ".toList ++ joinWith ", ".toList (shapes.map (describeWith nameOf))
  := by
  rw [← describeAllWith_eq_map]
  rfl

/-- The words for a shape depend on the words for the mentioned validators only. -/
theorem describeWith_congr {nameOf nameOf' : Text → Text} {s : ValueShape}
    (h : ∀ name, s.Mentions name → nameOf name = nameOf' name) :
  s.describeWith nameOf = s.describeWith nameOf'
  := by
  induction s with
  | literal t => rfl
  | validator name => apply h name .validator
  | empty => rfl
  | list element d ih =>
    rw [describeWith_list, describeWith_list, ih]
    intro name hname
    apply h name (.list hname)
  | oneOf shapes ih =>
    rw [describeWith_oneOf, describeWith_oneOf, List.map_congr_left]
    intro s hs
    apply ih s hs
    intro name hname
    apply h name (.oneOf hs hname)
  | anyOf shapes ih =>
    rw [describeWith_anyOf, describeWith_anyOf, List.map_congr_left]
    intro s hs
    apply ih s hs
    intro name hname
    apply h name (.anyOf hs hname)

end ValueShape

end DirectiveLint
