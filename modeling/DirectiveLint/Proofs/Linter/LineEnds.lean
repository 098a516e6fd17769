import DirectiveLint.Proofs.Linter.Document

/-!
# Line ends

How the lines of a document are ended makes hardly a difference.  Carriage returns may be put
in front of its line feeds, as long as none is behind two of them
(`Linter.checkDocument_of_returnsAdded`).  A line feed may be put at its end
(`Linter.checkDocument_append_lineFeed`), with one exception: a line that is ended by a line feed
loses up to two carriage returns, and the last line without one loses only one.
-/

namespace DirectiveLint

/-- A text with carriage returns put in front of some of its line feeds. -/
inductive ReturnsAdded : Text → Text → Prop where
  /-- There is no line feed in an empty text. -/
  | nil : ReturnsAdded [] []
  /-- A character is kept as it is. -/
  | keep (c : Char) {s t : Text} (h : ReturnsAdded s t) : ReturnsAdded (c :: s) (c :: t)
  /-- A carriage return is put in front of a line feed. -/
  | add {s t : Text} (h : ReturnsAdded s t) : ReturnsAdded ('\n' :: s) ('\r' :: '\n' :: t)

/-! ### A line and its end -/

@[simp]
theorem dropReturn_append_return (t : Text) :
  dropReturn (t ++ ['\r']) = t
  := by
  simp [dropReturn]

/-- A second carriage return is dropped only if there are two. -/
theorem dropReturn_dropReturn {t : Text} (h : ¬ ['\r', '\r'] <:+ t) :
  dropReturn (dropReturn t) = dropReturn t
  := by
  by_cases hlast : t.getLast? = some '\r'
  · obtain ⟨s, rfl⟩ := List.getLast?_eq_some_iff.mp hlast
    have hs : s.getLast? ≠ some '\r' := by
      intro hs
      obtain ⟨r, rfl⟩ := List.getLast?_eq_some_iff.mp hs
      apply h
      exact ⟨r, by simp⟩
    rw [dropReturn_append_return, dropReturn, if_neg hs]
  · have hdrop : dropReturn t = t := if_neg hlast
    rw [hdrop, hdrop]

/-- The last line of a text is all of it or what is behind its last line feed. -/
theorem exists_last_line (t : Text) :
  '\n' ∉ t ∨ ∃ s line, t = s ++ '\n' :: line ∧ '\n' ∉ line
  := by
  induction t with
  | nil => exact .inl List.not_mem_nil
  | cons c t ih =>
    rcases ih with hline | ⟨s, line, rfl, hline⟩
    · by_cases hc : c = '\n'
      · subst hc
        exact .inr ⟨[], t, rfl, hline⟩
      · apply Or.inl
        simpa [hline] using Ne.symm hc
    · exact .inr ⟨c :: s, line, rfl, hline⟩

namespace Linter

variable {l : Linter} {s t : Text}

/-- What is put behind a text is judged together with the last line of the text only. -/
theorem checkDocument_append_congr {a b : Text}
    (h : ∀ line, line <:+ s → '\n' ∉ line →
      l.checkDocument (line ++ a) = l.checkDocument (line ++ b)) :
  l.checkDocument (s ++ a) = l.checkDocument (s ++ b)
  := by
  rcases exists_last_line s with hline | ⟨before, line, rfl, hline⟩
  · apply h s List.suffix_rfl hline
  · have hsuffix : line <:+ before ++ '\n' :: line :=
      (List.suffix_cons '\n' line).trans (List.suffix_append before _)
    rw [List.append_assoc, List.append_assoc, List.cons_append, List.cons_append,
      checkDocument_append_cons, h line hsuffix hline, ← checkDocument_append_cons]

/-- An only line with its terminator. -/
theorem checkDocument_lineFeed {line : Text} (hline : '\n' ∉ line) :
  l.checkDocument (line ++ ['\n']) = l.checkNumbered (dropReturn (dropReturn line)) 0
  := by
  rw [checkDocument, lines_append_lineFeed hline]
  simp

/-- An only line without its terminator; that the empty text has no line hides nothing. -/
theorem checkDocument_of_not_mem {line : Text} (hline : '\n' ∉ line) :
  l.checkDocument line = l.checkNumbered (dropReturn line) 0
  := by
  by_cases hne : line = []
  · subst hne
    rfl
  · rw [checkDocument, lines_of_not_mem hne hline]
    simp

/-! ### Carriage returns in front of line feeds -/

/-- A carriage return in front of a line feed, behind at most one other, belongs to no line. -/
theorem checkDocument_append_return_cons (h : ¬ ['\r', '\r'] <:+ s) :
  l.checkDocument (s ++ '\r' :: '\n' :: t) = l.checkDocument (s ++ '\n' :: t)
  := by
  apply checkDocument_append_congr
  intro line hsuffix hline
  have hreturns : ¬ ['\r', '\r'] <:+ line := by
    intro hreturns
    apply h (hreturns.trans hsuffix)
  have hfirst : lines (line ++ ['\r'] ++ ['\n']) = lines (line ++ ['\n']) := by
    rw [lines_append_lineFeed hline, lines_append_lineFeed (by simpa using hline),
      dropReturn_append_return, dropReturn_dropReturn hreturns]
  rw [checkDocument, checkDocument, List.append_cons, lines_append_cons, hfirst,
    ← lines_append_cons]

theorem checkDocument_append_of_returnsAdded (h : ReturnsAdded s t) (before : Text)
    (hreturns : ¬ ['\r', '\r', '\n'] <:+: before ++ s) :
  l.checkDocument (before ++ t) = l.checkDocument (before ++ s)
  := by
  -- Nothing is added to what is before, so the condition is on the original text throughout.
  induction h generalizing before with
  | nil => rfl
  | @keep c s t h ih =>
    rw [List.append_cons] at hreturns
    rw [List.append_cons before c t, List.append_cons before c s]
    apply ih _ hreturns
  | @add s t h ih =>
    have hbefore : ¬ ['\r', '\r'] <:+ before := by
      rintro ⟨r, rfl⟩
      apply hreturns
      exact ⟨r, s, by simp⟩
    rw [List.append_cons] at hreturns
    rw [checkDocument_append_return_cons hbefore, List.append_cons before '\n' t,
      List.append_cons before '\n' s]
    apply ih _ hreturns

/-- Carriage returns make no difference in front of line feeds.  They may be put in front of
any line feeds of a text in which none is behind two of them. -/
theorem checkDocument_of_returnsAdded (l : Linter) {s t : Text} (h : ReturnsAdded s t)
    (hreturns : ¬ ['\r', '\r', '\n'] <:+: s) :
  l.checkDocument t = l.checkDocument s
  := by
  apply checkDocument_append_of_returnsAdded h [] hreturns

/-- The first line feed, which has a carriage return already, gets another one, the second one is
kept, and the third one gets its first. -/
theorem checkDocument_of_returnsAdded_mixed :
  let l : Linter := { schema := ⟨⟨[], [], []⟩, .empty⟩, tag := ⟨['#'], by decide⟩ }
  let s : Text := ['#', '\r', '\n', '\n', '#', 'a', '\n', '#', '\r']
  let t : Text := ['#', '\r', '\r', '\n', '\n', '#', 'a', '\r', '\n', '#', '\r']
  ReturnsAdded s t ∧ ¬ ['\r', '\r', '\n'] <:+: s ∧ l.checkDocument t = l.checkDocument s
    ∧ (l.checkDocument s).map Finding.line = [0, 2, 2, 2, 3]
  := by
  intro l s t
  have hend : ReturnsAdded ['#', '\r'] ['#', '\r'] := .keep '#' (.keep '\r' .nil)
  have h : ReturnsAdded s t :=
    .keep '#' (.keep '\r' (.add (.keep '\n' (.keep '#' (.keep 'a' (.add hend))))))
  have hreturns : ¬ ['\r', '\r', '\n'] <:+: s := by decide
  refine ⟨h, hreturns, checkDocument_of_returnsAdded l h hreturns, ?_⟩
  decide

/-! ### A line feed at the end -/

/-- A line feed at the end of a text makes no difference, unless two carriage returns are in
front of it.  Then it makes the difference of one carriage return. -/
theorem checkDocument_append_lineFeed (l : Linter) (text : Text) :
  (¬ ['\r', '\r'] <:+ text → l.checkDocument (text ++ ['\n']) = l.checkDocument text)
    ∧ ∀ s, text = s ++ ['\r', '\r'] →
      l.checkDocument (text ++ ['\n']) = l.checkDocument (s ++ ['\r'])
  := by
  constructor
  · intro hreturns
    have hsame : l.checkDocument (text ++ ['\n']) = l.checkDocument (text ++ []) := by
      apply checkDocument_append_congr
      intro line hsuffix hline
      rw [checkDocument_lineFeed hline, List.append_nil, checkDocument_of_not_mem hline,
        dropReturn_dropReturn]
      intro hline
      apply hreturns (hline.trans hsuffix)
    rw [hsame, List.append_nil]
  · rintro s rfl
    rw [List.append_assoc]
    apply checkDocument_append_congr
    intro line _ hline
    have hline' : '\n' ∉ line ++ ['\r'] := by simpa using hline
    have hline'' : '\n' ∉ line ++ ['\r'] ++ ['\r'] := by simpa using hline
    rw [checkDocument_of_not_mem hline', dropReturn_append_return, ← List.append_assoc,
      List.append_cons line '\r' ['\r'], checkDocument_lineFeed hline'',
      dropReturn_append_return, dropReturn_append_return]

/-- One carriage return may end the text, of two only one is as good as the line feed. -/
theorem checkDocument_append_lineFeed_returns :
  let l : Linter := { schema := ⟨⟨[], [], []⟩, .empty⟩, tag := ⟨['#'], by decide⟩ }
  ¬ ['\r', '\r'] <:+ ['\n', '#', '\r']
    ∧ l.checkDocument ['\n', '#', '\r', '\n'] = l.checkDocument ['\n', '#', '\r']
    ∧ l.checkDocument ['\n', '#', '\r', '\r', '\n'] = l.checkDocument ['\n', '#', '\r']
  := by
  intro l
  have hreturns : ¬ ['\r', '\r'] <:+ ['\n', '#', '\r'] := by decide
  refine ⟨hreturns, ?_, ?_⟩
  · apply (checkDocument_append_lineFeed l ['\n', '#', '\r']).1 hreturns
  · apply (checkDocument_append_lineFeed l ['\n', '#', '\r', '\r']).2 ['\n', '#'] rfl

/-- A flag that is known on a line with its terminator is unknown without it, because a carriage
return is left behind its name. -/
theorem exists_finding_without_lineFeed :
  let f : Flag := ⟨some ['a'], none, none, .empty⟩
  let l : Linter := { schema := ⟨⟨[f], [(['a'], f)], []⟩, .empty⟩ }
  FlagTable.ofList [f] = .ok l.schema.table
    ∧ l.checkDocument "#SBATCH --a\r\r\n".toList = []
    ∧ ∃ finding ∈ l.checkDocument "#SBATCH --a\r\r".toList,
      finding.diagnostic.rule = .unknownFlag
  := by
  intro f l
  refine ⟨rfl, ?_, ?_⟩
  · decide
  · decide

end Linter

end DirectiveLint
