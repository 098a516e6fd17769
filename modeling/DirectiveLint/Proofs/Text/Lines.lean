import DirectiveLint.Proofs.Text.Pieces
import DirectiveLint.Text.Line

/-!
# The lines of a document

`LinesOf text ls` says what the lines of a text are, without reference to how they are cut:
a line is ended by a line feed, a carriage return before it belongs to the terminator, and
the last line may lack its terminator.  Every text has one list of lines, the one that is cut
from it (`linesOf_iff`).  The lines of two texts with a line feed between them are those of
the first text with the line feed and those of the second (`lines_append_cons`).  Text in front
that ends no line becomes part of the first one (`lines_append`).
-/

namespace DirectiveLint

/-- The lines of a text without their terminators. -/
inductive LinesOf : Text → List Text → Prop where
  /-- A text without characters has no line. -/
  | nil : LinesOf [] []
  /-- The last line lacks its terminator. -/
  | last {line : Text} (hne : line ≠ []) (hline : '\n' ∉ line) : LinesOf line [line]
  /-- The first line is ended by a line feed, with a carriage return before it or without. -/
  | cons {line rest : Text} {ls : List Text} (hline : '\n' ∉ line) (hrest : LinesOf rest ls) :
    LinesOf (line ++ '\n' :: rest) (dropReturn line :: ls)

theorem linesOfPieces_append (ps : List Text) {qs : List Text} (h : qs ≠ []) :
  linesOfPieces (ps ++ qs) = ps.map dropReturn ++ linesOfPieces qs
  := by
  induction ps with
  | nil => rfl
  | cons p ps ih =>
    obtain ⟨q, rest, hrest⟩ := List.exists_cons_of_ne_nil (List.append_ne_nil_of_right_ne_nil ps h)
    rw [hrest] at ih
    rw [List.cons_append, hrest, linesOfPieces, ih, List.map_cons, List.cons_append]

theorem terminatedLines_append_cons (s t : Text) :
  terminatedLines (s ++ '\n' :: t) = (pieces '\n' s).map dropReturn ++ terminatedLines t
  := by
  unfold terminatedLines
  rw [pieces_append_cons, linesOfPieces_append _ (pieces_ne_nil '\n' t)]

/-- A line that starts with another character than a line feed is longer by that character. -/
theorem LinesOf.exists_cons {t : Text} {ls : List Text} (c : Char) (h : LinesOf t ls) :
  ∃ ls, LinesOf (c :: t) ls
  := by
  by_cases hc : c = '\n'
  · subst hc
    exact ⟨_, .cons List.not_mem_nil h⟩
  · cases h with
    | nil =>
      refine ⟨_, .last (List.cons_ne_nil c []) ?_⟩
      simpa using Ne.symm hc
    | last hne hline =>
      refine ⟨_, .last (List.cons_ne_nil c _) ?_⟩
      simpa [hline] using Ne.symm hc
    | @cons line rest ls hline hrest =>
      refine ⟨_, @LinesOf.cons (c :: line) rest ls ?_ hrest⟩
      simpa [hline] using Ne.symm hc

theorem exists_linesOf (t : Text) :
  ∃ ls, LinesOf t ls
  := by
  induction t with
  | nil => exact ⟨[], .nil⟩
  | cons c t ih =>
    obtain ⟨ls, h⟩ := ih
    apply h.exists_cons c

/-- The lines of a text are those that are cut from it. -/
theorem linesOf_iff {t : Text} {ls : List Text} :
  LinesOf t ls ↔ terminatedLines t = ls
  := by
  have hcut : ∀ {t ls}, LinesOf t ls → terminatedLines t = ls := by
    intro t ls h
    induction h with
    | nil => rfl
    | last hne hline => simp [terminatedLines, pieces_eq_singleton hline, linesOfPieces, hne]
    | cons hline hrest ih =>
      rw [terminatedLines_append_cons, pieces_eq_singleton hline, ih]
      rfl
  constructor
  · apply hcut
  · rintro rfl
    obtain ⟨ls, h⟩ := exists_linesOf t
    rw [hcut h]
    apply h

/-- The lines of two texts with a line feed between them. -/
theorem lines_append_cons (s t : Text) :
  lines (s ++ '\n' :: t) = lines (s ++ ['\n']) ++ lines t
  := by
  unfold lines
  simp only [terminatedLines_append_cons, List.map_append, List.append_assoc]
  rfl

/-- A carriage return that ends a text still does so behind other text. -/
theorem dropReturn_append {s : Text} (h : s.getLast? ≠ some '\r') (t : Text) :
  dropReturn (s ++ t) = s ++ dropReturn t
  := by
  unfold dropReturn
  cases t with
  | nil => simp [h]
  | cons c t =>
    have hends : (s ++ c :: t).getLast? = (c :: t).getLast? := by
      rw [List.getLast?_append, List.getLast?_cons]
      rfl
    rw [hends]
    split
    · apply List.dropLast_append_of_ne_nil (List.cons_ne_nil c t)
    · rfl

/-- Text in front of a document that ends no line becomes part of its first line. -/
theorem LinesOf.append {s t : Text} {ls : List Text} (hs : '\n' ∉ s)
    (hlast : s.getLast? ≠ some '\r') (ht : t ≠ []) (h : LinesOf t ls) :
  LinesOf (s ++ t) (ls.modifyHead (s ++ ·))
  := by
  cases h with
  | nil => contradiction
  | last hne hline =>
    apply LinesOf.last (List.append_ne_nil_of_right_ne_nil s hne)
    simp [hs, hline]
  | @cons line rest ls hline hrest =>
    rw [List.modifyHead_cons, ← dropReturn_append hlast, ← List.append_assoc]
    apply LinesOf.cons ?_ hrest
    simp [hs, hline]

theorem lines_append {s t : Text} (hs : '\n' ∉ s) (hlast : s.getLast? ≠ some '\r')
    (ht : t ≠ []) :
  lines (s ++ t) = (lines t).modifyHead (s ++ ·)
  := by
  have h : terminatedLines (s ++ t) = (terminatedLines t).modifyHead (s ++ ·) :=
    linesOf_iff.mp ((linesOf_iff.mpr rfl).append hs hlast ht)
  unfold lines
  rw [h]
  cases terminatedLines t with
  | nil => rfl
  | cons line ls =>
    rw [List.modifyHead_cons, List.map_cons, List.map_cons, List.modifyHead_cons,
      dropReturn_append hlast]

theorem lines_ne_nil {t : Text} (h : t ≠ []) :
  lines t ≠ []
  := by
  have hls := linesOf_iff.mpr (Eq.refl (terminatedLines t))
  rw [lines, ne_eq, List.map_eq_nil_iff]
  intro hnil
  rw [hnil] at hls
  cases hls
  contradiction

theorem isPrefix_dropReturn (t : Text) :
  dropReturn t <+: t
  := by
  unfold dropReturn
  split
  · apply List.dropLast_prefix
  · apply List.prefix_rfl

/-- A document starts with its first line. -/
theorem prefix_of_lines_eq_cons {t first : Text} {rest : List Text}
    (h : lines t = first :: rest) :
  first <+: t
  := by
  obtain ⟨line, ls, hcut, rfl, -⟩ := List.map_eq_cons_iff.mp h
  apply (isPrefix_dropReturn line).trans
  have hls := linesOf_iff.mpr hcut
  cases hls with
  | last hne hline => apply List.prefix_rfl
  | @cons line rest ls hline hrest =>
    apply (isPrefix_dropReturn line).trans
    apply List.prefix_append

/-- A line without its terminator loses one carriage return. -/
theorem lines_of_not_mem {line : Text} (hne : line ≠ []) (hline : '\n' ∉ line) :
  lines line = [dropReturn line]
  := by
  have hcut : terminatedLines line = [line] := linesOf_iff.mp (.last hne hline)
  rw [lines, hcut, List.map_singleton]

/-- A line with its terminator loses two carriage returns. -/
theorem lines_append_lineFeed {line : Text} (hline : '\n' ∉ line) :
  lines (line ++ ['\n']) = [dropReturn (dropReturn line)]
  := by
  have hcut : terminatedLines (line ++ ['\n']) = [dropReturn line] :=
    linesOf_iff.mp (.cons hline .nil)
  rw [lines, hcut, List.map_singleton]

/-- A text is its only line if no line feed is in it and no carriage return ends it. -/
theorem lines_eq_singleton {t : Text} (hne : t ≠ []) (hline : '\n' ∉ t)
    (hlast : t.getLast? ≠ some '\r') :
  lines t = [t]
  := by
  rw [lines_of_not_mem hne hline, dropReturn, if_neg hlast]

/-- Every line feed of a text ends a line of it. -/
theorem length_lines_append_singleton (s : Text) :
  (lines (s ++ ['\n'])).length = s.count '\n' + 1
  := by
  unfold lines
  rw [terminatedLines_append_cons]
  simp [length_pieces, terminatedLines, pieces, linesOfPieces]

end DirectiveLint
