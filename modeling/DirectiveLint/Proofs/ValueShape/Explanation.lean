import DirectiveLint.Proofs.ValueShape.Language

/-!
# Why a text does not have a shape

`ValueShape.Explains accepted s t m` says that a mismatch is the reason why a text is not in
the language of a shape, and for a list also why the text of the blamed element is not in the
language of the elements, and so on down the shape.  The checker reports exactly this reason
(`ValueShape.mismatch?_eq_some_iff`), and there is one for each text that is not in the
language.
-/

namespace DirectiveLint

namespace ValueShape

open Classical in
/-- The number of the shapes that a text has, counted by position. -/
noncomputable def timesMatched (accepted : Text → Set Text) (shapes : List ValueShape)
    (t : Text) : Nat :=
  shapes.countP fun s => t ∈ s.language accepted

/-- The mismatch is the reason why a text does not have a shape. -/
inductive Explains (accepted : Text → Set Text) : ValueShape → Text → Mismatch → Prop where
  /-- The text is another one than the expected one. -/
  | literal {expected t : Text} (h : t ≠ expected) :
    Explains accepted (literal expected) t (.literal expected)
  /-- The validator does not accept the text. -/
  | validator {name t : Text} (h : t ∉ accepted name) :
    Explains accepted (validator name) t (.validator name)
  /-- There is a text where none is expected. -/
  | unexpected {t : Text} (h : t ≠ []) : Explains accepted empty t .unexpectedValue
  /-- There is no text, and no element either that could be empty. -/
  | emptyList {element : ValueShape} {d : Char} (h : [] ∉ element.language accepted) :
    Explains accepted (list element d) [] .emptyList
  /-- The first of the pieces that is no element is blamed, for the reason why it is none. -/
  | element {element : ValueShape} {d : Char} {t p : Text} {before after : List Text}
      {cause : Mismatch} (hne : t ≠ []) (hpieces : pieces d t = before ++ p :: after)
      (hbefore : ∀ q ∈ before, q ∈ element.language accepted)
      (hcause : Explains accepted element p cause) :
    Explains accepted (list element d) t (.element before.length p cause)
  /-- The text has none of the shapes of which it should have one. -/
  | noneOf {shapes : List ValueShape} {t : Text} (h : ∀ s ∈ shapes, t ∉ s.language accepted) :
    Explains accepted (oneOf shapes) t .noAlternative
  /-- The text has several of the shapes of which it should have one. -/
  | ambiguous {shapes : List ValueShape} {t : Text}
      (h : 2 ≤ timesMatched accepted shapes t) :
    Explains accepted (oneOf shapes) t (.ambiguous (timesMatched accepted shapes t))
  /-- The text has none of the shapes of which it should have any. -/
  | noneAny {shapes : List ValueShape} {t : Text} (h : ∀ s ∈ shapes, t ∉ s.language accepted) :
    Explains accepted (anyOf shapes) t .noAlternative

variable {accepts : Text → Text → Bool} {accepted : Text → Set Text} {element : ValueShape}
  {shapes : List ValueShape} {d : Char} {t : Text} {m : Mismatch}

theorem timesMatched_eq_zero_iff :
  timesMatched accepted shapes t = 0 ↔ ∀ s ∈ shapes, t ∉ s.language accepted
  := by
  rw [timesMatched, List.countP_eq_zero]
  simp only [decide_eq_true_iff]

/-- The first of the elements that mismatches is reported, with its place and its cause. -/
theorem firstMismatch?_eq_some_iff {element : Text → Option Mismatch} {index : Nat}
    {ts : List Text} :
  firstMismatch? element index ts = some m
    ↔ ∃ before t after cause, ts = before ++ t :: after ∧ (∀ u ∈ before, element u = none)
      ∧ element t = some cause ∧ m = .element (index + before.length) t cause
  := by
  induction ts generalizing index with
  | nil => simp [firstMismatch?]
  | cons t ts ih =>
    rw [firstMismatch?]
    cases ht : element t with
    | some cause =>
      constructor
      · intro h
        obtain rfl := Option.some.inj h
        exact ⟨[], t, ts, cause, rfl, List.forall_mem_nil _, ht, rfl⟩
      · rintro ⟨_ | ⟨u, before⟩, u', after, cause', hsplit, hbefore, hu', rfl⟩
        · obtain ⟨rfl, rfl⟩ := List.cons.inj hsplit
          rw [ht] at hu'
          obtain rfl := Option.some.inj hu'
          rfl
        · obtain ⟨rfl, -⟩ := List.cons.inj hsplit
          rw [hbefore t List.mem_cons_self] at ht
          contradiction
    | none =>
      rw [ih]
      constructor
      · rintro ⟨before, u, after, cause, rfl, hbefore, hu, rfl⟩
        refine ⟨t :: before, u, after, cause, rfl, ?_, hu, ?_⟩
        · rw [List.forall_mem_cons]
          exact ⟨ht, hbefore⟩
        · rw [List.length_cons, Nat.add_right_comm, Nat.add_assoc]
      · rintro ⟨_ | ⟨u, before⟩, u', after, cause, hsplit, hbefore, hu', rfl⟩
        · obtain ⟨rfl, rfl⟩ := List.cons.inj hsplit
          rw [ht] at hu'
          contradiction
        · obtain ⟨rfl, rfl⟩ := List.cons.inj hsplit
          refine ⟨before, u', after, cause, rfl, (List.forall_mem_cons.mp hbefore).2, hu', ?_⟩
          rw [List.length_cons, Nat.add_right_comm, Nat.add_assoc]

theorem mismatch?_list_eq_some_iff :
  (list element d).mismatch? accepts t = some m
    ↔ t = [] ∧ element.mismatch? accepts [] ≠ none ∧ m = .emptyList
      ∨ t ≠ [] ∧ firstMismatch? (element.mismatch? accepts) 0 (pieces d t) = some m
  := by
  rw [mismatch?]
  split
  · next h =>
    subst h
    cases element.mismatch? accepts [] <;> simp [eq_comm]
  · next h => simp [h]

theorem mismatch?_oneOf_eq_some_iff :
  (oneOf shapes).mismatch? accepts t = some m
    ↔ matchCount accepts shapes t = 0 ∧ m = .noAlternative
      ∨ 2 ≤ matchCount accepts shapes t ∧ m = .ambiguous (matchCount accepts shapes t)
  := by
  rw [mismatch?]
  generalize matchCount accepts shapes t = count
  rcases count with _ | _ | n
  · simp [eq_comm]
  · simp
  · simp [eq_comm]

theorem mismatch?_anyOf_eq_some_iff :
  (anyOf shapes).mismatch? accepts t = some m
    ↔ matchCount accepts shapes t = 0 ∧ m = .noAlternative
  := by
  rw [mismatch?]
  generalize matchCount accepts shapes t = count
  cases count with
  | zero => simp [eq_comm]
  | succ n => simp

/-- The checker counts the shapes that have the text in their language. -/
theorem matchCount_eq_timesMatched
    (h : ∀ name t, accepts name t = true ↔ t ∈ accepted name) (shapes : List ValueShape)
    (t : Text) :
  matchCount accepts shapes t = timesMatched accepted shapes t
  := by
  rw [matchCount_eq_countP, timesMatched]
  apply List.countP_congr
  intro s _
  simp only [Option.isNone_iff_eq_none, mismatch?_eq_none_iff h, decide_eq_true_iff]

/-- The checker reports the reason why a text does not have a shape, and nothing else. -/
theorem mismatch?_eq_some_iff {shape : ValueShape}
    (h : ∀ name t, accepts name t = true ↔ t ∈ accepted name) :
  shape.mismatch? accepts t = some m ↔ shape.Explains accepted t m
  := by
  have hmismatch : ∀ (s : ValueShape) (u : Text),
      s.mismatch? accepts u ≠ none ↔ u ∉ s.language accepted :=
    fun s u => not_congr (mismatch?_eq_none_iff h s u)
  induction shape generalizing t m with
  | literal expected =>
    rw [mismatch?]
    constructor
    · intro hm
      split at hm
      · contradiction
      · next hne =>
        obtain rfl := Option.some.inj hm
        apply Explains.literal hne
    · rintro ⟨hne⟩
      rw [if_neg hne]
  | validator name =>
    rw [mismatch?]
    constructor
    · intro hm
      split at hm
      · contradiction
      · next hname =>
        obtain rfl := Option.some.inj hm
        apply Explains.validator
        rw [← h]
        apply hname
    · rintro (_ | hname)
      rw [← h] at hname
      rw [if_neg hname]
  | empty =>
    rw [mismatch?]
    constructor
    · intro hm
      split at hm
      · contradiction
      · next hne =>
        obtain rfl := Option.some.inj hm
        apply Explains.unexpected hne
    · rintro (_ | _ | hne)
      rw [if_neg hne]
  | list element d ih =>
    rw [mismatch?_list_eq_some_iff, firstMismatch?_eq_some_iff, hmismatch]
    constructor
    · rintro (⟨rfl, hempty, rfl⟩ | ⟨hne, before, p, after, cause, hpieces, hbefore, hp, rfl⟩)
      · apply Explains.emptyList hempty
      · rw [Nat.zero_add]
        apply Explains.element hne hpieces
        · intro q hq
          apply (mismatch?_eq_none_iff h element q).mp (hbefore q hq)
        · apply ih.mp hp
    · intro hm
      cases hm with
      | emptyList hempty => exact .inl ⟨rfl, hempty, rfl⟩
      | @element _ _ _ p before after cause hne hpieces hbefore hcause =>
        refine .inr ⟨hne, before, p, after, cause, hpieces, ?_, ih.mpr hcause, ?_⟩
        · intro q hq
          apply (mismatch?_eq_none_iff h element q).mpr (hbefore q hq)
        · rw [Nat.zero_add]
  | oneOf shapes =>
    rw [mismatch?_oneOf_eq_some_iff, matchCount_eq_timesMatched h, timesMatched_eq_zero_iff]
    constructor
    · rintro (⟨hnone, rfl⟩ | ⟨htwo, rfl⟩)
      · apply Explains.noneOf hnone
      · apply Explains.ambiguous htwo
    · intro hm
      cases hm with
      | noneOf hnone => exact .inl ⟨hnone, rfl⟩
      | ambiguous htwo => exact .inr ⟨htwo, rfl⟩
  | anyOf shapes =>
    rw [mismatch?_anyOf_eq_some_iff, matchCount_eq_timesMatched h, timesMatched_eq_zero_iff]
    constructor
    · rintro ⟨hnone, rfl⟩
      apply Explains.noneAny hnone
    · intro hm
      cases hm with
      | noneAny hnone => exact ⟨hnone, rfl⟩

/-- What the checker reports is the reason why a text does not have a shape, down to the
innermost list, and whatever explains it is reported.  Every text that is not in the language
of a shape has exactly one reason for it. -/
theorem mismatch?_explains_exactly (registry : Registry) (shape : ValueShape) (t : Text) :
  (∀ m, shape.mismatch? registry.accepts t = some m ↔ shape.Explains registry.language t m)
    ∧ (t ∉ shape.language registry.language ↔ ∃! m, shape.Explains registry.language t m)
  := by
  have hexplains : ∀ m, shape.mismatch? registry.accepts t = some m
      ↔ shape.Explains registry.language t m :=
    fun m => mismatch?_eq_some_iff registry.accepts_iff_mem_language
  refine ⟨hexplains, ?_⟩
  rw [← mismatch?_eq_none_iff registry.accepts_iff_mem_language, ← ne_eq,
    Option.ne_none_iff_exists']
  constructor
  · rintro ⟨m, hm⟩
    use m, (hexplains m).mp hm
    intro m' hm'
    apply Option.some.inj ((hexplains m').mpr hm' ▸ hm)
  · rintro ⟨m, hm, -⟩
    exact ⟨m, (hexplains m).mpr hm⟩

/-- The second element of the second element has both of the alternatives. -/
example :
  (list (list (oneOf [.literal ['a'], .anyOf [.literal ['a'], .empty]]) '+') ',').mismatch?
      (fun _ _ => false) ",+a".toList
    = some (.element 1 ['+', 'a'] (.element 1 ['a'] (.ambiguous 2)))
  := by decide

end ValueShape

end DirectiveLint
