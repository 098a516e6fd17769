import DirectiveLint.Config
import DirectiveLint.Proofs.Linter.Order
import DirectiveLint.Proofs.Text.Lines

/-!
# Documents line by line

A document is checked line by line: the findings in two texts with a line feed between them
are those in the first and, further down, those in the second
(`Linter.checkDocument_append_cons`), and the findings on a line are the reports on that line
alone (`Linter.filter_line_checkDocument`).  That blank lines are passed over hides nothing,
because a tag that can be seen does not start a blank line.
-/

namespace DirectiveLint

/-- The tag holds a character that is not blank. -/
def Tag.IsVisible (tag : Tag) : Prop := ∃ c ∈ tag.text, Unicode.isBlank c = false

/-- The finding on a line that is further down by some lines. -/
def Finding.moveDown (count : Nat) (f : Finding) : Finding := { f with line := count + f.line }

/-- A usable configuration selects a tag that can be seen. -/
theorem Config.isVisible_of_linter {c : Config} {db : Database} {l : Linter}
    (hc : c.defect? = none) (hl : c.linter db = .ok l) :
  l.tag.IsVisible
  := by
  have htag : l.tag.text = c.tag := by
    unfold linter Tag.ofText at hl
    split at hl
    · contradiction
    · next tag htag =>
      split at htag
      · obtain rfl := Except.ok.inj htag
        obtain rfl := Except.ok.inj hl
        rfl
      · contradiction
  have hblank : c.tag.any Unicode.isBlank = false := by
    unfold defect? at hc
    split at hc
    · contradiction
    · split at hc
      · contradiction
      · next h => simpa using h
  obtain ⟨ch, rest, hcons⟩ := List.exists_cons_of_ne_nil l.tag.text_ne
  rw [← htag, List.any_eq_false] at hblank
  refine ⟨ch, ?_, ?_⟩
  · rw [hcons]
    apply List.mem_cons_self
  · have hch := hblank ch (by rw [hcons]; apply List.mem_cons_self)
    simpa using hch

/-- Of the items of a list, each with its index, the one at an index is picked. -/
theorem flatMap_zipIdx_ite {α β : Type} (f : α → List β) (as : List α) (start n : Nat) :
  ((as.zipIdx start).flatMap fun p => if p.2 = start + n then f p.1 else [])
    = as[n]?.elim [] f
  := by
  induction as generalizing start n with
  | nil => rfl
  | cons a as ih =>
    rw [List.zipIdx_cons, List.flatMap_cons]
    cases n with
    | zero =>
      have hrest : ((as.zipIdx (start + 1)).flatMap fun p => if p.2 = start then f p.1 else [])
          = [] := by
        rw [List.flatMap_eq_nil_iff]
        rintro ⟨b, i⟩ hi
        have hle := List.le_snd_of_mem_zipIdx hi
        rw [if_neg]
        omega
      simp [hrest]
    | succ n =>
      rw [if_neg (by omega), List.nil_append, List.getElem?_cons_succ, ← ih (start + 1) n]
      simp only [Nat.add_assoc, Nat.add_comm 1 n]

namespace Linter

variable {l : Linter}

/-- A tag that can be seen does not start a blank line. -/
theorem checkLine_eq_nil_of_blank (h : l.tag.IsVisible) {line : Text}
    (hline : line.all Unicode.isBlank = true) :
  l.checkLine line = []
  := by
  obtain ⟨c, hc, hvisible⟩ := h
  have hnone : Directive.read l.tag.text line = none := by
    rw [Directive.read_eq_none_iff]
    intro hstarts
    have hblank := List.all_eq_true.mp hline c (hstarts.subset hc)
    rw [hvisible] at hblank
    contradiction
  rw [checkLine, hnone]

/-- Nothing is lost where blank lines are passed over. -/
theorem checkNumbered_eq_map (h : l.tag.IsVisible) (line : Text) (number : Nat) :
  l.checkNumbered line number = (l.checkLine line).map (⟨number, ·⟩)
  := by
  unfold checkNumbered
  split
  · next hblank =>
    rw [checkLine_eq_nil_of_blank h hblank]
    rfl
  · rfl

theorem checkNumbered_add (l : Linter) (line : Text) (count number : Nat) :
  l.checkNumbered line (count + number)
    = (l.checkNumbered line number).map (Finding.moveDown count)
  := by
  unfold checkNumbered
  split
  · rfl
  · rw [List.map_map]
    rfl

/-- The findings in two texts with a line feed between them. -/
theorem checkDocument_append_cons (l : Linter) (s t : Text) :
  l.checkDocument (s ++ '\n' :: t)
    = l.checkDocument (s ++ ['\n'])
      ++ (l.checkDocument t).map (Finding.moveDown (s.count '\n' + 1))
  := by
  unfold checkDocument
  rw [lines_append_cons, List.zipIdx_append, List.flatMap_append,
    length_lines_append_singleton, Nat.zero_add,
    @List.zipIdx_eq_map_add _ (lines t) (s.count '\n' + 1), List.flatMap_map, List.map_flatMap]
  simp only [checkNumbered_add]

/-- The findings with a number are those on the line that has it. -/
theorem filter_line_checkDocument (l : Linter) (text : Text) (n : Nat) :
  ((l.checkDocument text).filter fun f => f.line = n)
    = (lines text)[n]?.elim [] (l.checkNumbered · n)
  := by
  have hfilter : ∀ p : Text × Nat, ((l.checkNumbered p.1 p.2).filter fun f => f.line = n)
      = if p.2 = 0 + n then l.checkNumbered p.1 n else [] := by
    rintro ⟨line, number⟩
    rw [Nat.zero_add]
    by_cases hn : number = n
    · subst hn
      rw [if_pos rfl, List.filter_eq_self]
      intro f hf
      rw [line_of_mem_checkNumbered hf, decide_eq_true_iff]
    · rw [if_neg hn, List.filter_eq_nil_iff]
      intro f hf
      rw [line_of_mem_checkNumbered hf, decide_eq_true_iff]
      apply hn
  unfold checkDocument
  rw [List.filter_flatMap]
  simp only [hfilter]
  apply flatMap_zipIdx_ite (l.checkNumbered · n)

/-- The checks of a document go line by line.  A usable configuration selects a tag that can be
seen.  The findings in two texts with a line feed between them are those in the first one,
ended by the line feed, and those in the second one, moved down by the lines of the first.
If the tag can be seen, the findings with a number are the reports on the line with that
number, from which one more carriage return is dropped. -/
theorem checkDocument_compositional :
  (∀ (c : Config) (db : Database) (l : Linter), c.defect? = none → c.linter db = .ok l →
      l.tag.IsVisible)
    ∧ ∀ l : Linter,
      (∀ s t : Text, l.checkDocument (s ++ '\n' :: t)
        = l.checkDocument (s ++ ['\n'])
          ++ (l.checkDocument t).map (Finding.moveDown (s.count '\n' + 1)))
      ∧ (l.tag.IsVisible → ∀ text, ∃ ls, LinesOf text ls ∧ ∀ n,
        ((l.checkDocument text).filter fun f => f.line = n)
          = ls[n]?.elim [] fun line => (l.checkLine (dropReturn line)).map (⟨n, ·⟩))
  := by
  refine ⟨fun c db l => Config.isVisible_of_linter, fun l => ⟨l.checkDocument_append_cons, ?_⟩⟩
  intro h text
  refine ⟨terminatedLines text, linesOf_iff.mpr rfl, ?_⟩
  intro n
  rw [filter_line_checkDocument, lines, List.getElem?_map]
  simp only [checkNumbered_eq_map h, Option.elim_map]
  rfl

/-- A blank line is counted, and the carriage return at the end of the last line is dropped
although no line feed follows it. -/
theorem checkDocument_compositional_blank :
  let l : Linter := { schema := ⟨⟨[], [], []⟩, .empty⟩ }
  l.tag.IsVisible
    ∧ ((l.checkDocument "#SBATCHx\r\n \n#SBATCH\r".toList).filter fun f => f.line = 2)
      = (l.checkLine "#SBATCH".toList).map (⟨2, ·⟩)
    ∧ l.checkDocument "#SBATCHx\r\n \n#SBATCH\r".toList
      = l.checkDocument "#SBATCHx\r\n \n".toList
        ++ (l.checkDocument "#SBATCH\r".toList).map (Finding.moveDown 2)
  := by
  intro l
  have hvisible : l.tag.IsVisible := by
    refine ⟨'#', List.mem_cons_self, ?_⟩
    decide
  obtain ⟨-, hlocal⟩ := checkDocument_compositional
  obtain ⟨happend, hlines⟩ := hlocal l
  obtain ⟨ls, hls, hline⟩ := hlines hvisible "#SBATCHx\r\n \n#SBATCH\r".toList
  obtain rfl : ["#SBATCHx".toList, " ".toList, "#SBATCH\r".toList] = ls :=
    linesOf_iff.mp hls
  refine ⟨hvisible, hline 2, ?_⟩
  apply happend "#SBATCHx\r\n ".toList

end Linter

end DirectiveLint
