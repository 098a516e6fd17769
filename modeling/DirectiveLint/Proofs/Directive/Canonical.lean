import DirectiveLint.Directive
import DirectiveLint.Proofs.Text.Boundary
import DirectiveLint.Proofs.Text.Pieces
import Mathlib.Tactic.Use

/-!
# Canonical slots

The slots of a directive are canonical if each of them takes as much as it can: this is a
condition on the slots alone, apart from how a line is cut.  A line is cut into the one
list of canonical slots behind the tag that make it up (`Directive.read_eq_some_iff`), and
their spans tile it.
-/

namespace DirectiveLint

/-! ### Cutting off one slot -/

theorem takeSpace_eq_iff {t s rest : Text} :
  takeSpace t = (s, rest)
    ↔ t = s ++ rest ∧ (s = [' '] ∨ s = [] ∧ rest.head? ≠ some ' ')
  := by
  constructor
  · intro h
    unfold takeSpace at h
    split at h
    · obtain ⟨rfl, rfl⟩ := Prod.mk.inj h
      simp
    · next hne =>
      obtain ⟨rfl, rfl⟩ := Prod.mk.inj h
      refine ⟨rfl, .inr ⟨rfl, ?_⟩⟩
      intro hs
      obtain ⟨t', rfl⟩ := List.head?_eq_some_iff.mp hs
      apply hne t' rfl
  · rintro ⟨rfl, rfl | ⟨rfl, hs⟩⟩
    · rfl
    · cases rest with
      | nil => rfl
      | cons c rest =>
        simp only [List.head?_cons, ne_eq, Option.some.injEq] at hs
        simp [takeSpace, hs]

theorem takeDashes_eq_iff {t s rest : Text} :
  takeDashes t = (s, rest)
    ↔ t = s ++ rest
      ∧ (s = ['-', '-'] ∨ (s = ['-'] ∨ s = []) ∧ rest.head? ≠ some '-')
  := by
  constructor
  · intro h
    unfold takeDashes at h
    split at h
    · obtain ⟨rfl, rfl⟩ := Prod.mk.inj h
      simp
    · next hne =>
      obtain ⟨rfl, rfl⟩ := Prod.mk.inj h
      refine ⟨rfl, .inr ⟨.inl rfl, ?_⟩⟩
      intro hs
      obtain ⟨t', rfl⟩ := List.head?_eq_some_iff.mp hs
      apply hne t' rfl
    · next hne =>
      obtain ⟨rfl, rfl⟩ := Prod.mk.inj h
      refine ⟨rfl, .inr ⟨.inr rfl, ?_⟩⟩
      intro hs
      obtain ⟨t', rfl⟩ := List.head?_eq_some_iff.mp hs
      apply hne t' rfl
  · rintro ⟨rfl, rfl | ⟨rfl | rfl, hs⟩⟩
    · rfl
    · cases rest with
      | nil => rfl
      | cons c rest =>
        simp only [List.head?_cons, ne_eq, Option.some.injEq] at hs
        simp [takeDashes, hs]
    · cases rest with
      | nil => rfl
      | cons c rest =>
        simp only [List.head?_cons, ne_eq, Option.some.injEq] at hs
        simp [takeDashes, hs]

theorem take_one_eq_and_drop_one_eq_iff {t s rest : Text} :
  t.take 1 = s ∧ t.drop 1 = rest
    ↔ t = s ++ rest ∧ s.length ≤ 1 ∧ (s = [] → rest = [])
  := by
  constructor
  · rintro ⟨rfl, rfl⟩
    cases t <;> simp
  · rintro ⟨rfl, hs, hrest⟩
    match s with
    | [] => simp [hrest]
    | [c] => simp

namespace Directive

/-- Each slot takes as much of the line as it can. -/
structure Canonical (d : Directive) : Prop where
  /-- There is at most one space behind the tag. -/
  space_eq : d.space = [] ∨ d.space = [' ']
  /-- The space is left out only if no space follows the tag. -/
  space_most : d.space = [] → (d.dashes ++ d.flag ++ d.separator ++ d.value).head? ≠ some ' '
  /-- There are at most two dashes. -/
  dashes_eq : d.dashes = [] ∨ d.dashes = ['-'] ∨ d.dashes = ['-', '-']
  /-- There are fewer than two dashes only if the flag does not start with one. -/
  dashes_most : d.dashes.length < 2 → d.flag.head? ≠ some '-'
  /-- The flag ends before the first separator. -/
  flag_eq : ∀ c ∈ d.flag, c ≠ '=' ∧ c ≠ ' '
  /-- At most one character parts the flag from the value. -/
  separator_eq : d.separator = [] ∨ d.separator = ['='] ∨ d.separator = [' ']
  /-- There is no value without a separator. -/
  value_eq : d.separator = [] → d.value = []

namespace Canonical

variable {d : Directive}

/-- The text from the separator on starts with a separator, if it is not empty. -/
theorem isSeparator_of_head? (h : d.Canonical) :
  ∀ c ∈ (d.separator ++ d.value).head?, isSeparator c = true
  := by
  intro c hc
  rcases h.separator_eq with hs | hs | hs
  · simp [hs, h.value_eq hs] at hc
  · simp only [hs, List.cons_append, List.head?_cons, Option.mem_some] at hc
    subst hc
    rfl
  · simp only [hs, List.cons_append, List.head?_cons, Option.mem_some] at hc
    subst hc
    rfl

/-- With fewer than two dashes, the text behind them does not start with another one. -/
theorem head?_flag_ne (h : d.Canonical) (hd : d.dashes.length < 2) :
  (d.flag ++ (d.separator ++ d.value)).head? ≠ some '-'
  := by
  intro hc
  cases hf : d.flag with
  | nil =>
    rw [hf, List.nil_append] at hc
    have hs := h.isSeparator_of_head? '-' hc
    contradiction
  | cons c flag =>
    have hm := h.dashes_most hd
    rw [hf] at hc hm
    apply hm hc

end Canonical

/-- The slots read from a text make it up. -/
theorem slots_ofRest (tag rest : Text) :
  rest = (ofRest tag rest).space ++ ((ofRest tag rest).dashes ++ ((ofRest tag rest).flag
    ++ ((ofRest tag rest).separator ++ (ofRest tag rest).value)))
  := by
  have h := text_ofRest tag rest
  simp only [text, List.append_assoc] at h
  apply (List.append_cancel_left h).symm

/-- A text behind the tag is cut into canonical slots. -/
theorem canonical_ofRest (tag rest : Text) :
  (ofRest tag rest).Canonical
  := by
  obtain ⟨hspaced, hspace⟩ := takeSpace_eq_iff.mp (Prod.eta (takeSpace rest)).symm
  obtain ⟨-, hdashes⟩ := takeDashes_eq_iff.mp (Prod.eta (takeDashes (takeSpace rest).2)).symm
  obtain ⟨hflagged, hflag, hhead⟩ := takeWhile_eq_and_dropWhile_eq_iff
    (t := (takeDashes (takeSpace rest).2).2).mp ⟨Eq.refl (ofRest tag rest).flag, rfl⟩
  obtain ⟨hvalued, hone, hvalue⟩ := take_one_eq_and_drop_one_eq_iff
    (t := (takeDashes (takeSpace rest).2).2.dropWhile (!isSeparator ·)).mp
    ⟨Eq.refl (ofRest tag rest).separator, rfl⟩
  constructor
  · rcases hspace with h | ⟨h, -⟩
    · apply Or.inr h
    · apply Or.inl h
  · intro hnil
    rcases hspace with h | ⟨h, hne⟩
    · cases hnil.symm.trans h
    · have hslots := slots_ofRest tag rest
      rw [hnil, List.nil_append] at hslots
      rw [List.append_assoc, List.append_assoc, ← hslots, hspaced, h]
      apply hne
  · rcases hdashes with h | ⟨h | h, -⟩
    · apply Or.inr (Or.inr h)
    · apply Or.inr (Or.inl h)
    · apply Or.inl h
  · intro hlt hf
    rcases hdashes with h | ⟨-, hne⟩
    · have htwo : (ofRest tag rest).dashes.length = 2 := congrArg List.length h
      omega
    · apply hne
      rw [hflagged, List.head?_append, hf]
      rfl
  · intro c hc
    have hc := hflag c hc
    simpa [isSeparator] using hc
  · cases hs : (ofRest tag rest).separator with
    | nil => apply Or.inl rfl
    | cons c s =>
      rw [hs] at hone hvalued
      have hc : isSeparator c = true := by
        have hc := hhead c (by rw [hvalued]; rfl)
        simpa using hc
      obtain rfl : s = [] := by simpa using hone
      simpa [isSeparator] using hc
  · apply hvalue

/-- The slots that make up a text behind the tag are the slots read from it, if they are
canonical. -/
theorem ofRest_of_canonical {d : Directive} (h : d.Canonical) :
  ofRest d.tag (d.space ++ (d.dashes ++ (d.flag ++ (d.separator ++ d.value)))) = d
  := by
  have hspace : takeSpace (d.space ++ (d.dashes ++ (d.flag ++ (d.separator ++ d.value))))
      = (d.space, d.dashes ++ (d.flag ++ (d.separator ++ d.value))) := by
    apply takeSpace_eq_iff.mpr
    refine ⟨rfl, ?_⟩
    rcases h.space_eq with hs | hs
    · refine .inr ⟨hs, ?_⟩
      simpa only [List.append_assoc] using h.space_most hs
    · apply Or.inl hs
  have hdashes : takeDashes (d.dashes ++ (d.flag ++ (d.separator ++ d.value)))
      = (d.dashes, d.flag ++ (d.separator ++ d.value)) := by
    apply takeDashes_eq_iff.mpr
    refine ⟨rfl, ?_⟩
    rcases h.dashes_eq with hd | hd | hd
    · refine .inr ⟨.inr hd, h.head?_flag_ne (by simp [hd])⟩
    · refine .inr ⟨.inl hd, h.head?_flag_ne (by simp [hd])⟩
    · apply Or.inl hd
  obtain ⟨hflag, hrest⟩ := takeWhile_eq_and_dropWhile_eq_iff (p := (!isSeparator ·)).mpr
    ⟨Eq.refl (d.flag ++ (d.separator ++ d.value)),
      fun c hc => by simpa [isSeparator] using h.flag_eq c hc,
      fun c hc => by simpa using h.isSeparator_of_head? c hc⟩
  obtain ⟨hseparator, hvalue⟩ := take_one_eq_and_drop_one_eq_iff.mpr
    ⟨Eq.refl (d.separator ++ d.value),
      by rcases h.separator_eq with hs | hs | hs <;> simp [hs], h.value_eq⟩
  simp only [ofRest, hspace, hdashes, hflag, hrest, hseparator, hvalue]

theorem read_eq_none_iff {tag line : Text} :
  read tag line = none ↔ ¬ tag <+: line
  := by
  rw [read, Option.map_eq_none_iff, Option.eq_none_iff_forall_ne_some]
  constructor
  · rintro h ⟨rest, rfl⟩
    apply h rest
    apply dropPrefix?_eq_some_iff.mpr rfl
  · intro h rest hrest
    apply h
    use rest
    apply (dropPrefix?_eq_some_iff.mp hrest).symm

/-- The directive read from a line is the canonical one with this tag that makes it up. -/
theorem read_eq_some_iff {tag line : Text} {d : Directive} :
  read tag line = some d ↔ d.tag = tag ∧ d.Canonical ∧ d.text = line
  := by
  rw [read, Option.map_eq_some_iff]
  constructor
  · rintro ⟨rest, hrest, rfl⟩
    refine ⟨rfl, canonical_ofRest tag rest, ?_⟩
    rw [text_ofRest]
    apply (dropPrefix?_eq_some_iff.mp hrest).symm
  · rintro ⟨rfl, h, rfl⟩
    use d.space ++ (d.dashes ++ (d.flag ++ (d.separator ++ d.value)))
    constructor
    · apply dropPrefix?_eq_some_iff.mpr
      simp only [text, List.append_assoc]
    · apply ofRest_of_canonical h

/-! ### The spans of the slots -/

/-- Some slots behind a text, each with its span. -/
def slotsBehind (before : Text) : List Text → List (Text × Span)
  | [] => []
  | slot :: rest => (slot, spanAfter before slot) :: slotsBehind (before ++ slot) rest

theorem tiling_slotsBehind (before : Text) (slots : List Text) :
  Tiling (byteLength before) ((slotsBehind before slots).map Prod.snd)
    (byteLength (before ++ slots.flatten))
  := by
  induction slots generalizing before with
  | nil =>
    rw [List.flatten_nil, List.append_nil]
    apply Tiling.nil
  | cons slot rest ih =>
    have h := ih (before ++ slot)
    rw [byteLength_append, List.append_assoc, ← List.flatten_cons] at h
    apply Tiling.cons (s := spanAfter before slot) h

theorem covers_slotsBehind (before : Text) (slots : List Text) :
  ∀ p ∈ slotsBehind before slots, p.2.Covers (before ++ slots.flatten) p.1
  := by
  induction slots generalizing before with
  | nil => simp [slotsBehind]
  | cons slot rest ih =>
    intro p hp
    rw [List.flatten_cons, ← List.append_assoc]
    rcases List.mem_cons.mp hp with rfl | hp
    · use before, rest.flatten
      constructor <;> rfl
    · apply ih (before ++ slot) p hp

/-- The slots of a directive from left to right, each with its span. -/
def slots (d : Directive) : List (Text × Span) :=
  [(d.tag, d.tagSpan), (d.space, d.spaceSpan), (d.dashes, d.dashesSpan), (d.flag, d.flagSpan),
    (d.separator, d.separatorSpan), (d.value, d.valueSpan)]

theorem slots_eq_slotsBehind (d : Directive) :
  d.slots = slotsBehind [] [d.tag, d.space, d.dashes, d.flag, d.separator, d.value]
  := rfl

theorem text_eq_flatten (d : Directive) :
  d.text = [] ++ [d.tag, d.space, d.dashes, d.flag, d.separator, d.value].flatten
  := by
  simp [text]

/-- The spans of the slots tile the line. -/
theorem tiling_slots (d : Directive) :
  Tiling 0 (d.slots.map Prod.snd) d.lineLength
  := by
  rw [lineLength, text_eq_flatten, slots_eq_slotsBehind]
  apply tiling_slotsBehind []

/-- The span of each slot holds its text. -/
theorem covers_slots (d : Directive) :
  ∀ p ∈ d.slots, p.2.Covers d.text p.1
  := by
  rw [text_eq_flatten, slots_eq_slotsBehind]
  apply covers_slotsBehind

theorem Canonical.count_dashStyle {d : Directive} (h : d.Canonical) :
  d.dashStyle.count = d.dashes.length
  := by
  unfold dashStyle
  rcases h.dashes_eq with hd | hd | hd <;> rw [hd] <;> rfl

end Directive

end DirectiveLint
