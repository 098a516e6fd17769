import DirectiveLint.Span
import DirectiveLint.Text

/-!
# Boundaries of characters

`IsBoundary t n` says that offset `n` lies between two characters of the UTF-8 form of `t`,
as the positions of strings have it.  `Span.Covers s line slot` says that the span `s` of
`line` holds exactly the text `slot`; the ends of such a span are boundaries
(`Span.Covers.isBoundary`).  `Tiling start spans stop` says that spans lie one behind the
other from one offset to another, without gaps.  Next to a boundary, one byte further on is
one as well only if the character between them is one byte long (`isBoundary_add_one_iff`,
`isBoundary_sub_one_iff`).
-/

namespace DirectiveLint

theorem byteLength_eq_utf8ByteSize (t : Text) :
  byteLength t = (String.ofList t).utf8ByteSize
  := by
  induction t with
  | nil => rfl
  | cons c t ih =>
    rw [byteLength_cons, ih, String.ofList_cons, String.utf8ByteSize_append,
      String.utf8ByteSize_singleton]

/-- The offset is between two characters of the text, at its start or at its end. -/
def IsBoundary (t : Text) (offset : Nat) : Prop :=
  String.Pos.Raw.IsValid (String.ofList t) ⟨offset⟩

/-- The boundaries of a text are the lengths of the texts it starts with. -/
theorem isBoundary_iff {t : Text} {offset : Nat} :
  IsBoundary t offset ↔ ∃ before after, t = before ++ after ∧ offset = byteLength before
  := by
  unfold IsBoundary
  rw [String.Pos.Raw.isValid_ofList]
  constructor
  · rintro ⟨i, hi⟩
    refine ⟨t.take i, t.drop i, ?_, ?_⟩
    · rw [List.take_append_drop]
    · rw [byteLength_eq_utf8ByteSize, ← hi]
  · rintro ⟨before, after, rfl, rfl⟩
    refine ⟨before.length, ?_⟩
    rw [List.take_left, byteLength_eq_utf8ByteSize]

theorem isBoundary_nil_iff {n : Nat} :
  IsBoundary [] n ↔ n = 0
  := by
  rw [isBoundary_iff]
  constructor
  · rintro ⟨before, after, h, rfl⟩
    obtain ⟨rfl, -⟩ := List.append_eq_nil_iff.mp h.symm
    rfl
  · rintro rfl
    exact ⟨[], [], rfl, rfl⟩

theorem isBoundary_cons_iff {c : Char} {t : Text} {n : Nat} :
  IsBoundary (c :: t) n ↔ n = 0 ∨ ∃ m, IsBoundary t m ∧ n = c.utf8Size + m
  := by
  simp only [isBoundary_iff]
  constructor
  · rintro ⟨before, after, h, rfl⟩
    cases before with
    | nil => apply Or.inl rfl
    | cons b before =>
      obtain ⟨rfl, rfl⟩ := List.cons.inj h
      exact .inr ⟨byteLength before, ⟨before, after, rfl, rfl⟩, rfl⟩
  · rintro (rfl | ⟨m, ⟨before, after, rfl, rfl⟩, rfl⟩)
    · exact ⟨[], c :: t, rfl, rfl⟩
    · exact ⟨c :: before, after, rfl, rfl⟩

/-- Behind a text that a line starts with, the boundaries of the line are those of the rest. -/
theorem isBoundary_append_iff {before after : Text} {n : Nat} :
  IsBoundary (before ++ after) (byteLength before + n) ↔ IsBoundary after n
  := by
  induction before with
  | nil => simp
  | cons c before ih =>
    have hpos := c.utf8Size_pos
    rw [List.cons_append, isBoundary_cons_iff, ← ih, byteLength_cons]
    constructor
    · rintro (h | ⟨m, hm, h⟩)
      · omega
      · obtain rfl : byteLength before + n = m := by omega
        apply hm
    · intro h
      refine .inr ⟨byteLength before + n, h, ?_⟩
      omega

/-- The first byte behind a text is a whole character exactly if the character there is one
byte long. -/
theorem isBoundary_add_one_iff {before after : Text} (h : after ≠ []) :
  IsBoundary (before ++ after) (byteLength before + 1) ↔ ∀ c ∈ after.head?, c.utf8Size = 1
  := by
  obtain ⟨c, after, rfl⟩ := List.exists_cons_of_ne_nil h
  have hpos := c.utf8Size_pos
  rw [isBoundary_append_iff, isBoundary_cons_iff]
  simp only [List.head?_cons, Option.mem_some_iff, forall_eq']
  constructor
  · rintro (h | ⟨m, -, h⟩)
    · contradiction
    · omega
  · intro h
    refine .inr ⟨0, ?_, ?_⟩
    · apply isBoundary_iff.mpr ⟨[], after, rfl, rfl⟩
    · rw [h]

/-- The last byte of a text is a whole character exactly if its last character is one byte
long. -/
theorem isBoundary_sub_one_iff {t : Text} (h : t ≠ []) :
  IsBoundary t (byteLength t - 1) ↔ ∀ c ∈ t.getLast?, c.utf8Size = 1
  := by
  obtain ⟨before, c, rfl⟩ : ∃ before c, t = before ++ [c] :=
    ⟨t.dropLast, t.getLast h, (List.dropLast_concat_getLast h).symm⟩
  have hpos := c.utf8Size_pos
  have hlength : byteLength (before ++ [c]) - 1 = byteLength before + (c.utf8Size - 1) := by
    simp only [byteLength_append, byteLength_cons, byteLength_nil]
    omega
  rw [hlength, isBoundary_append_iff, isBoundary_cons_iff]
  simp only [isBoundary_nil_iff, List.getLast?_concat, Option.mem_some_iff, forall_eq']
  constructor
  · rintro (h | ⟨m, rfl, h⟩)
    · omega
    · omega
  · intro h
    apply Or.inl
    omega

namespace Span

/-- The bytes of the span are the text `slot` of the line. -/
def Covers (s : Span) (line slot : Text) : Prop :=
  ∃ before after, line = before ++ slot ++ after
    ∧ s = ⟨byteLength before, byteLength before + byteLength slot⟩

theorem Covers.isBoundary {s : Span} {line slot : Text} (h : s.Covers line slot) :
  IsBoundary line s.start ∧ IsBoundary line s.stop
  := by
  obtain ⟨before, after, rfl, rfl⟩ := h
  constructor
  · apply isBoundary_iff.mpr
    refine ⟨before, slot ++ after, ?_, rfl⟩
    apply List.append_assoc
  · apply isBoundary_iff.mpr
    refine ⟨before ++ slot, after, rfl, ?_⟩
    rw [byteLength_append]

end Span

/-- Spans that lie one behind the other from the first offset to the second. -/
inductive Tiling : Nat → List Span → Nat → Prop where
  | nil (offset : Nat) : Tiling offset [] offset
  | cons {s : Span} {spans : List Span} {stop : Nat} (rest : Tiling s.stop spans stop) :
    Tiling s.start (s :: spans) stop

end DirectiveLint
