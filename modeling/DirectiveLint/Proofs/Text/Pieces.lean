import DirectiveLint.Text
import Mathlib.Data.List.TakeWhile
import Mathlib.Tactic.Use

/-!
# Cutting and joining

A text is cut at a character into pieces without it, and the pieces are the only such texts
that it is joined from (`exists_joinWith_iff`).  A text is cut in two at the first occurrence of
a character (`cutAt_eq_some_iff`), if there is one (`cutAt_eq_none_iff`), and behind the
characters of a kind that it starts with (`takeWhile_eq_and_dropWhile_eq_iff`).
-/

namespace DirectiveLint

section Sequences

variable {α : Type} [DecidableEq α]

theorem pieces_eq_splitOn (d : α) (t : List α) :
  pieces d t = t.splitOn d
  := by
  induction t with
  | nil => rfl
  | cons c t ih =>
    simp only [pieces, List.splitOn_cons_eq_if_modifyHead, beq_iff_eq, ih]

theorem not_mem_of_mem_pieces {d : α} {t p : List α} (h : p ∈ pieces d t) :
  d ∉ p
  := by
  induction t generalizing p with
  | nil =>
    obtain rfl := List.mem_singleton.mp h
    apply List.not_mem_nil
  | cons c t ih =>
    unfold pieces at h
    split at h
    · rcases List.mem_cons.mp h with rfl | h
      · apply List.not_mem_nil
      · apply ih h
    · next hc =>
      obtain ⟨q, qs, hq⟩ := List.exists_cons_of_ne_nil (pieces_ne_nil d t)
      rw [hq] at ih h
      rcases List.mem_cons.mp h with rfl | h
      · rw [List.mem_cons, not_or]
        use Ne.symm hc
        apply ih List.mem_cons_self
      · apply ih (List.mem_cons_of_mem q h)

theorem pieces_joinWith {d : α} {ps : List (List α)} (hne : ps ≠ []) (h : ∀ p ∈ ps, d ∉ p) :
  pieces d (joinWith [d] ps) = ps
  := by
  rw [pieces_eq_splitOn]
  apply List.splitOn_intercalate d h hne

theorem pieces_eq_singleton {d : α} {t : List α} (h : d ∉ t) :
  pieces d t = [t]
  := by
  rw [pieces_eq_splitOn]
  apply List.splitOn_eq_singleton h

theorem pieces_append_cons (d : α) (s t : List α) :
  pieces d (s ++ d :: t) = pieces d s ++ pieces d t
  := by
  simp only [pieces_eq_splitOn]
  apply List.splitOn_append_cons_self

/-- To cut the pieces of a text once more is to cut the text at more characters. -/
theorem flatMap_pieces (d : α) (P : α → Bool) (t : List α) :
  (pieces d t).flatMap (List.splitOnP P) = t.splitOnP fun c => c == d || P c
  := by
  induction t with
  | nil => simp [pieces]
  | cons c t ih =>
    rw [pieces, List.splitOnP_cons_eq_if_modifyHead, ← ih]
    by_cases hd : c = d
    · simp [hd]
    · obtain ⟨p, ps, hp⟩ := List.exists_cons_of_ne_nil (pieces_ne_nil d t)
      obtain ⟨q, qs, hq⟩ := List.exists_cons_of_ne_nil (List.splitOnP_ne_nil P p)
      rw [if_neg hd, hp, List.modifyHead_cons, List.flatMap_cons, List.flatMap_cons,
        List.splitOnP_cons_eq_if_modifyHead, hq]
      cases hP : P c <;> simp [hd]

theorem length_pieces (d : α) (t : List α) :
  (pieces d t).length = t.count d + 1
  := by
  induction t with
  | nil => rfl
  | cons c t ih =>
    unfold pieces
    rw [List.count_cons]
    split
    · next h => simp [h, ih]
    · next h => simp [h, ih]

/-- The texts joined from pieces of some kind are those all of whose pieces are of it. -/
theorem exists_joinWith_iff {d : α} {t : List α} (P : List α → Prop) :
  (∃ ps, ps ≠ [] ∧ (∀ p ∈ ps, d ∉ p ∧ P p) ∧ t = joinWith [d] ps) ↔ ∀ p ∈ pieces d t, P p
  := by
  constructor
  · rintro ⟨ps, hne, hps, rfl⟩
    rw [pieces_joinWith hne fun p hp => (hps p hp).1]
    intro p hp
    apply (hps p hp).2
  · intro h
    use pieces d t, pieces_ne_nil d t
    constructor
    · intro p hp
      exact ⟨not_mem_of_mem_pieces hp, h p hp⟩
    · apply (intercalate_pieces d t).symm

theorem cutAt_eq_some_iff {d : α} {t before after : List α} :
  cutAt d t = some (before, after) ↔ t = before ++ d :: after ∧ d ∉ before
  := by
  constructor
  · intro h
    induction t generalizing before with
    | nil => contradiction
    | cons c t ih =>
      unfold cutAt at h
      split at h
      · next hc =>
        obtain ⟨rfl, rfl⟩ := Prod.mk.inj (Option.some.inj h)
        exact ⟨by rw [hc]; rfl, List.not_mem_nil⟩
      · next hc =>
        obtain ⟨⟨before', after'⟩, hcut, heq⟩ := Option.map_eq_some_iff.mp h
        obtain ⟨rfl, rfl⟩ := Prod.mk.inj heq
        obtain ⟨rfl, hnot⟩ := ih hcut
        refine ⟨rfl, ?_⟩
        rw [List.mem_cons, not_or]
        exact ⟨Ne.symm hc, hnot⟩
  · rintro ⟨rfl, hnot⟩
    induction before with
    | nil => simp [cutAt]
    | cons c before ih =>
      rw [List.mem_cons, not_or] at hnot
      rw [List.cons_append, cutAt, if_neg (Ne.symm hnot.1), ih hnot.2]
      rfl

theorem cutAt_eq_none_iff {d : α} {t : List α} :
  cutAt d t = none ↔ d ∉ t
  := by
  induction t with
  | nil => simp [cutAt]
  | cons c t ih =>
    unfold cutAt
    split
    · next hc => simp [hc]
    · next hc => simp [ih, Ne.symm hc]

end Sequences

theorem takeWhile_eq_and_dropWhile_eq_iff {p : Char → Bool} {t s rest : Text} :
  t.takeWhile p = s ∧ t.dropWhile p = rest
    ↔ t = s ++ rest ∧ (∀ c ∈ s, p c) ∧ ∀ c ∈ rest.head?, p c = false
  := by
  constructor
  · rintro ⟨rfl, rfl⟩
    refine ⟨List.takeWhile_append_dropWhile.symm, ?_, ?_⟩
    · intro c
      apply List.mem_takeWhile_imp
    · intro c hc
      have h := List.head?_dropWhile_not p t
      rw [hc] at h
      apply h
  · rintro ⟨rfl, hs, hrest⟩
    rw [List.takeWhile_append_of_pos hs, List.dropWhile_append_of_pos hs]
    cases rest with
    | nil => simp
    | cons c rest =>
      have hc := hrest c rfl
      simp [hc]

end DirectiveLint
