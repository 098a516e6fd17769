import DirectiveLint.Proofs.Text.Boundary
import DirectiveLint.Text.Slice

/-!
# Slices between characters

A text is parted at exactly the offsets that are boundaries (`exists_cutAtOffset?_iff`), and a
span has a slice exactly if its ends are boundaries in order (`Span.exists_slice?_iff`); the slice
is then the text that the span covers (`Span.slice?_eq_some_iff`).  The end of the characters of
a kind that a text starts with is such an offset (`offsetWhere?_getD`).
-/

namespace DirectiveLint

theorem cutAtOffset?_eq_some_iff {offset : Nat} {t before after : Text} :
  cutAtOffset? offset t = some (before, after)
    ↔ t = before ++ after ∧ offset = byteLength before
  := by
  constructor
  · intro h
    induction offset, t using cutAtOffset?.induct generalizing before with
    | case1 t =>
      rw [cutAtOffset?] at h
      obtain ⟨rfl, rfl⟩ := Prod.mk.inj (Option.some.inj h)
      exact ⟨rfl, rfl⟩
    | case2 n => contradiction
    | case3 n c t hle ih =>
      rw [cutAtOffset?, if_pos hle] at h
      obtain ⟨⟨before', after'⟩, hcut, heq⟩ := Option.map_eq_some_iff.mp h
      obtain ⟨rfl, rfl⟩ := Prod.mk.inj heq
      obtain ⟨rfl, hoffset⟩ := ih hcut
      refine ⟨rfl, ?_⟩
      rw [byteLength_cons, ← hoffset]
      omega
    | case4 n c t hlt =>
      rw [cutAtOffset?, if_neg hlt] at h
      contradiction
  · rintro ⟨rfl, rfl⟩
    induction before with
    | nil => simp [cutAtOffset?]
    | cons c before ih =>
      obtain ⟨n, hn⟩ : ∃ n, byteLength (c :: before) = n + 1 := by
        apply Nat.exists_eq_add_one.mpr (byteLength_pos (List.cons_ne_nil c before))
      have hlength := hn
      rw [byteLength_cons] at hlength
      have hrest : n + 1 - c.utf8Size = byteLength before := by omega
      rw [hn, List.cons_append, cutAtOffset?, if_pos (by omega), hrest, ih]
      rfl

/-- A text is parted at its boundaries and at no other offset. -/
theorem exists_cutAtOffset?_iff {offset : Nat} {t : Text} :
  (∃ parts, cutAtOffset? offset t = some parts) ↔ IsBoundary t offset
  := by
  simp only [Prod.exists, cutAtOffset?_eq_some_iff, isBoundary_iff]

namespace Span

/-- The slice of a span is the text that it covers. -/
theorem slice?_eq_some_iff {s : Span} {t inner : Text} :
  s.slice? t = some inner ↔ s.Covers t inner
  := by
  obtain ⟨start, stop⟩ := s
  simp only [slice?, Option.bind_eq_bind, Option.bind_eq_some_iff, Prod.exists,
    cutAtOffset?_eq_some_iff, Option.pure_def, Option.some.injEq]
  constructor
  · rintro ⟨upTo, after, ⟨rfl, rfl⟩, before, _, ⟨rfl, rfl⟩, rfl⟩
    refine ⟨before, after, rfl, ?_⟩
    rw [byteLength_append]
  · rintro ⟨before, after, rfl, hspan⟩
    obtain ⟨rfl, rfl⟩ := Span.mk.inj hspan
    refine ⟨before ++ inner, after, ⟨rfl, ?_⟩, before, inner, ⟨rfl, rfl⟩, rfl⟩
    rw [byteLength_append]

/-- A span has a slice exactly if its ends are boundaries in order. -/
theorem exists_slice?_iff {s : Span} {t : Text} :
  (∃ inner, s.slice? t = some inner)
    ↔ IsBoundary t s.start ∧ IsBoundary t s.stop ∧ s.start ≤ s.stop
  := by
  obtain ⟨start, stop⟩ := s
  simp only [slice?_eq_some_iff]
  constructor
  · rintro ⟨inner, h⟩
    obtain ⟨hstart, hstop⟩ := h.isBoundary
    obtain ⟨before, after, -, hspan⟩ := h
    obtain ⟨rfl, rfl⟩ := Span.mk.inj hspan
    exact ⟨hstart, hstop, Nat.le_add_right _ _⟩
  · rintro ⟨hstart, hstop, hle⟩
    obtain ⟨before, behind, rfl, rfl⟩ := isBoundary_iff.mp hstart
    obtain ⟨n, rfl⟩ : ∃ n, stop = byteLength before + n := Nat.exists_eq_add_of_le hle
    obtain ⟨inner, after, rfl, rfl⟩ := isBoundary_iff.mp (isBoundary_append_iff.mp hstop)
    refine ⟨inner, before, after, ?_, rfl⟩
    rw [List.append_assoc]

end Span

/-- The first character not of a kind stands behind those of the kind that a text starts with. -/
theorem offsetWhere?_getD (P : Char → Bool) (t : Text) :
  (offsetWhere? (fun c => !P c) t).getD (byteLength t) = byteLength (t.takeWhile P)
  := by
  induction t with
  | nil => rfl
  | cons c t ih =>
    rw [offsetWhere?, List.takeWhile_cons]
    cases hP : P c with
    | false => rfl
    | true =>
      rw [if_neg (by simp), if_pos rfl, byteLength_cons, byteLength_cons, ← ih]
      cases offsetWhere? (fun c => !P c) t with
      | none => rfl
      | some offset => rfl

end DirectiveLint
