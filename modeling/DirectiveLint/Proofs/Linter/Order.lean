import DirectiveLint.Linter
import DirectiveLint.Proofs.Directive.Reports
import Mathlib.Data.Option.Basic

/-!
# The order of reports

The reports on a line come in the order of the checks: `InCheckOrder` lists the sequences of
rules that occur.  The slots of a directive lie one behind the other, and each report starts
in or right before the slot that it is about, so the reports are also in the order in which
they start, and each of them is about some bytes of the line (`WellFormedReports`).  The
findings in a document are therefore sorted by line and start (`Linter.reports_sorted`).
-/

namespace DirectiveLint

/-! ### Sequences of rules -/

/-- The sequences of rules that the checks of a line can report.  Dashes are judged wrong only
on a flag that is in the table. -/
inductive InCheckOrder : List Rule → Prop where
  | missingFlag : InCheckOrder [.missingFlag]
  | slots {space dashes last : Option Rule} (hspace : ∀ r ∈ space, r = .missingSpace)
      (hdashes : ∀ r ∈ dashes, r = .missingDashes ∨ r = .longFlagNeedsDoubleDash
        ∨ r = .shortFlagNeedsSingleDash)
      (hlast : ∀ r ∈ last, r = .invalidValue
        ∨ r = .unknownFlag ∧ ∀ r ∈ dashes, r = .missingDashes) :
    InCheckOrder (space.toList ++ dashes.toList ++ last.toList)

theorem pairwise_toList_append {α : Type} {R : α → α → Prop} {a b c : Option α}
    (hab : ∀ x ∈ a, ∀ y ∈ b, R x y) (hac : ∀ x ∈ a, ∀ y ∈ c, R x y)
    (hbc : ∀ x ∈ b, ∀ y ∈ c, R x y) :
  (a.toList ++ b.toList ++ c.toList).Pairwise R
  := by
  have hone : ∀ o : Option α, o.toList.Pairwise R := by
    intro o
    cases o with
    | none => apply List.Pairwise.nil
    | some x => apply List.pairwise_singleton
  simp only [List.pairwise_append, List.mem_append, Option.mem_toList]
  refine ⟨⟨hone a, hone b, hab⟩, hone c, ?_⟩
  rintro x (hx | hx) y hy
  · apply hac x hx y hy
  · apply hbc x hx y hy

namespace InCheckOrder

variable {rules : List Rule}

/-- At most three rules are reported. -/
theorem length_le (h : InCheckOrder rules) :
  rules.length ≤ 3
  := by
  cases h with
  | missingFlag => decide
  | @slots space dashes last =>
    rcases space with _ | _ <;> rcases dashes with _ | _ <;> rcases last with _ | _ <;> simp

/-- No rule is reported twice. -/
theorem nodup (h : InCheckOrder rules) :
  rules.Nodup
  := by
  cases h with
  | missingFlag => apply List.pairwise_singleton
  | slots hspace hdashes hlast =>
    apply pairwise_toList_append
    · intro x hx y hy
      rw [hspace x hx]
      rcases hdashes y hy with rfl | rfl | rfl <;> decide
    · intro x hx y hy
      rw [hspace x hx]
      rcases hlast y hy with rfl | ⟨rfl, -⟩ <;> decide
    · intro x hx y hy
      rcases hdashes x hx with rfl | rfl | rfl <;>
        rcases hlast y hy with rfl | ⟨rfl, -⟩ <;> decide

end InCheckOrder

/-! ### Places of reports -/

namespace Span

/-- The span holds bytes of a line, the first of them between two offsets. -/
structure Starts (s : Span) (first last lineLength : Nat) : Prop where
  /-- The span does not start too early. -/
  first_le : first ≤ s.start
  /-- The span does not start too late. -/
  le_last : s.start ≤ last
  /-- The span is not empty. -/
  start_lt : s.start < s.stop
  /-- The span ends in the line. -/
  stop_le : s.stop ≤ lineLength

/-- A span of a line is shown where it starts, or at the last byte if it starts behind it. -/
theorem starts_visible {s : Span} {lineLength : Nat} (h : s.start ≤ s.stop)
    (hstop : s.stop ≤ lineLength) (hline : 0 < lineLength) :
  (s.visible lineLength).Starts (min s.start (lineLength - 1)) s.start lineLength
  := by
  by_cases hempty : s.start = s.stop
  · by_cases hlt : s.start < lineLength
    · have hvisible : s.visible lineLength = ⟨s.start, s.start + 1⟩ := by
        simp [visible, isEmpty, hempty, hempty ▸ hlt]
      rw [hvisible]
      constructor <;> dsimp only <;> omega
    · have hvisible : s.visible lineLength = ⟨lineLength - 1, lineLength⟩ := by
        simp [visible, isEmpty, hempty, hempty ▸ hlt, hline]
      rw [hvisible]
      constructor <;> dsimp only <;> omega
  · have hvisible : s.visible lineLength = s := by
      simp [visible, isEmpty, hempty]
    rw [hvisible]
    constructor <;> omega

end Span

/-- The reports on a line of some bytes are well formed and ordered. -/
structure WellFormedReports (lineLength : Nat) (reports : List Diagnostic) : Prop where
  /-- There are at most three reports. -/
  length_le : reports.length ≤ 3
  /-- No rule is reported twice. -/
  nodup : (reports.map Diagnostic.rule).Nodup
  /-- The rules come in the order of the checks. -/
  inCheckOrder : InCheckOrder (reports.map Diagnostic.rule)
  /-- Each report is about some bytes of the line. -/
  inLine : ∀ r ∈ reports, r.span.start < r.span.stop ∧ r.span.stop ≤ lineLength
  /-- No report starts before the one in front of it. -/
  sorted : reports.Pairwise fun r s => r.span.start ≤ s.span.start

/-- Reports on the space, the dashes and the rest are well formed if they start in these parts
of the line. -/
theorem WellFormedReports.slots {space dashes last : Option Diagnostic}
    {first middle lineLength : Nat} (hmiddle : first ≤ middle)
    (hspace : ∀ r ∈ space, r.rule = .missingSpace ∧ r.span.Starts first first lineLength)
    (hdashes : ∀ r ∈ dashes, (r.rule = .missingDashes ∨ r.rule = .longFlagNeedsDoubleDash
        ∨ r.rule = .shortFlagNeedsSingleDash)
      ∧ r.span.Starts first middle lineLength)
    (hlast : ∀ r ∈ last, (r.rule = .invalidValue
        ∨ r.rule = .unknownFlag ∧ ∀ r ∈ dashes, r.rule = .missingDashes)
      ∧ r.span.Starts middle lineLength lineLength) :
  WellFormedReports lineLength (space.toList ++ dashes.toList ++ last.toList)
  := by
  have horder : InCheckOrder
      ((space.toList ++ dashes.toList ++ last.toList).map Diagnostic.rule) := by
    simp only [List.map_append, ← Option.toList_map]
    apply InCheckOrder.slots
    · rw [Option.forall_mem_map]
      intro r hr
      apply (hspace r hr).1
    · rw [Option.forall_mem_map]
      intro r hr
      apply (hdashes r hr).1
    · simp only [Option.forall_mem_map]
      intro r hr
      apply (hlast r hr).1
  constructor
  · simpa using horder.length_le
  · apply horder.nodup
  · apply horder
  · simp only [List.mem_append, Option.mem_toList]
    rintro r ((hr | hr) | hr)
    · obtain ⟨-, h⟩ := hspace r hr
      exact ⟨h.start_lt, h.stop_le⟩
    · obtain ⟨-, h⟩ := hdashes r hr
      exact ⟨h.start_lt, h.stop_le⟩
    · obtain ⟨-, h⟩ := hlast r hr
      exact ⟨h.start_lt, h.stop_le⟩
  · apply pairwise_toList_append
    · intro x hx y hy
      apply Nat.le_trans (hspace x hx).2.le_last (hdashes y hy).2.first_le
    · intro x hx y hy
      obtain ⟨-, hx⟩ := hspace x hx
      obtain ⟨-, hy⟩ := hlast y hy
      apply Nat.le_trans hx.le_last (Nat.le_trans hmiddle hy.first_le)
    · intro x hx y hy
      apply Nat.le_trans (hdashes x hx).2.le_last (hlast y hy).2.first_le

namespace Directive

variable {d : Directive} {schema : Schema} {tag : Text}

/-- The span of a slot that is not empty is not empty. -/
theorem start_lt_stop_spanAfter {before slot : Text} (h : slot ≠ []) :
  (spanAfter before slot).start < (spanAfter before slot).stop
  := by
  apply Nat.lt_add_of_pos_right
  apply byteLength_pos h

/-- The offsets at which the slots around a flag start and end, from left to right. -/
theorem offsets_around_flag (h : d.flag ≠ []) :
  d.spaceSpan.start ≤ d.spaceSpan.stop ∧ d.spaceSpan.stop = d.dashesSpan.start
    ∧ d.dashesSpan.start ≤ d.flagSpan.start ∧ d.flagSpan.start < d.flagSpan.stop
    ∧ d.flagSpan.stop ≤ d.valueSpan.start ∧ d.valueSpan.start ≤ d.valueSpan.stop
    ∧ d.valueSpan.stop = d.lineLength
  := by
  have hflag : d.flagSpan.start < d.flagSpan.stop := start_lt_stop_spanAfter h
  refine ⟨?_, ?_, ?_, hflag, ?_⟩
  all_goals
    simp only [spaceSpan, dashesSpan, flagSpan, valueSpan, spanAfter, lineLength, text,
      byteLength_append, Nat.le_add_right, and_self]

/-- A missing space is reported where it should have been. -/
theorem starts_missingSpace? (hflag : d.flag ≠ []) :
  ∀ r ∈ d.missingSpace? tag, r.rule = .missingSpace
    ∧ r.span.Starts d.spaceSpan.start d.spaceSpan.start d.lineLength
  := by
  intro r hr
  obtain ⟨hspace, hdashes, hbefore, hlt, hbehind, hvalue, hline⟩ := offsets_around_flag hflag
  unfold missingSpace? at hr
  split at hr
  · obtain rfl := Option.mem_some.mp hr
    obtain ⟨hfirst, hlast, hstart, hstop⟩ : (d.spaceSpan.visible d.lineLength).Starts _ _ _ :=
      Span.starts_visible hspace (by omega) (by omega)
    refine ⟨rfl, ⟨?_, hlast, hstart, hstop⟩⟩
    apply Nat.le_trans ?_ hfirst
    omega
  · contradiction

/-- Missing dashes are reported at the space before the flag, or where it should have been. -/
theorem starts_missingDashes? (hflag : d.flag ≠ []) :
  ∀ r ∈ d.missingDashes?, r.rule = .missingDashes
    ∧ r.span.Starts d.spaceSpan.start d.flagSpan.start d.lineLength
  := by
  intro r hr
  obtain ⟨hspace, hdashes, hbefore, hlt, hbehind, hvalue, hline⟩ := offsets_around_flag hflag
  have hstart : d.spaceSpan.start ≤ d.missingDashesStart
      ∧ d.missingDashesStart ≤ d.flagSpan.start := by
    unfold missingDashesStart
    split
    · omega
    · next hne =>
      have hpos : d.spaceSpan.start < d.spaceSpan.stop := start_lt_stop_spanAfter hne
      omega
  unfold missingDashes? at hr
  split at hr
  · obtain rfl := Option.mem_some.mp hr
    refine ⟨rfl, ⟨hstart.1, hstart.2, Nat.lt_succ_self _, ?_⟩⟩
    apply Nat.le_trans (Nat.succ_le_succ hstart.2)
    omega
  · contradiction

/-- Wrong dashes are reported together with the flag. -/
theorem starts_wrongDashes? (hflag : d.flag ≠ []) (resolution : Resolution) :
  ∀ r ∈ d.wrongDashes? resolution,
    (r.rule = .longFlagNeedsDoubleDash ∨ r.rule = .shortFlagNeedsSingleDash)
      ∧ r.span.Starts d.spaceSpan.start d.flagSpan.start d.lineLength
  := by
  intro r hr
  obtain ⟨hspace, hdashes, hbefore, hlt, hbehind, hvalue, hline⟩ := offsets_around_flag hflag
  have hstarts : Span.Starts ⟨d.dashesSpan.start, d.flagSpan.stop⟩
      d.spaceSpan.start d.flagSpan.start d.lineLength := by
    constructor <;> dsimp only <;> omega
  unfold wrongDashes? at hr
  split at hr
  · split at hr
    · contradiction
    · obtain rfl := Option.mem_some.mp hr
      exact ⟨.inl rfl, hstarts⟩
  · split at hr
    · contradiction
    · obtain rfl := Option.mem_some.mp hr
      exact ⟨.inr rfl, hstarts⟩
  · contradiction

/-- An unknown flag is reported where it stands. -/
theorem starts_unknownFlag (hflag : d.flag ≠ []) :
  d.unknownFlag.span.Starts d.flagSpan.start d.lineLength d.lineLength
  := by
  obtain ⟨-, -, -, hlt, hbehind, hvalue, hline⟩ := offsets_around_flag hflag
  change d.flagSpan.Starts d.flagSpan.start d.lineLength d.lineLength
  constructor <;> omega

/-- An invalid value is reported where it stands or, without a value, at the end of the line,
which is in or behind the flag. -/
theorem starts_invalidValue? (hflag : d.flag ≠ []) (f : Flag) :
  ∀ r ∈ d.invalidValue? schema f, r.rule = .invalidValue
    ∧ r.span.Starts d.flagSpan.start d.lineLength d.lineLength
  := by
  intro r hr
  obtain ⟨-, -, -, hlt, hbehind, hvalue, hline⟩ := offsets_around_flag hflag
  obtain ⟨m, -, rfl⟩ := Option.map_eq_some_iff.mp hr
  obtain ⟨hfirst, hlast, hstart, hstop⟩ : (d.valueSpan.visible d.lineLength).Starts _ _ _ :=
    Span.starts_visible hvalue (by omega) (by omega)
  refine ⟨rfl, ⟨Nat.le_trans ?_ hfirst, Nat.le_trans hlast ?_, hstart, hstop⟩⟩
  · omega
  · omega

/-! ### All reports -/

/-- The reports on a directive behind a marker are well formed and ordered. -/
theorem wellFormed_diagnostics (htag : d.tag ≠ []) :
  WellFormedReports d.lineLength (d.diagnostics schema tag)
  := by
  have hmiddle : d.spaceSpan.start ≤ d.flagSpan.start := by
    simp only [spaceSpan, flagSpan, spanAfter, byteLength_append, Nat.add_assoc,
      Nat.le_add_right]
  have hreports := d.diagnostics_reports schema tag
  generalize d.diagnostics schema tag = reports at hreports ⊢
  cases hreports with
  | noFlag h =>
    have hpos : 0 < d.lineLength := by
      apply byteLength_pos
      simp [text, htag]
    constructor
    · apply Nat.le_add_left
    · apply List.pairwise_singleton
    · apply InCheckOrder.missingFlag
    · intro r hr
      obtain rfl := List.mem_singleton.mp hr
      exact ⟨hpos, Nat.le_refl _⟩
    · apply List.pairwise_singleton
  | unknown h hknown =>
    have hdashes : ∀ r ∈ d.missingDashes?, r.rule = .missingDashes := by
      intro r hr
      apply (starts_missingDashes? h r hr).1
    have hlast : ∀ r ∈ some d.unknownFlag, (r.rule = .invalidValue
          ∨ r.rule = .unknownFlag ∧ ∀ r ∈ d.missingDashes?, r.rule = .missingDashes)
        ∧ r.span.Starts d.flagSpan.start d.lineLength d.lineLength := by
      intro r hr
      obtain rfl := Option.mem_some.mp hr
      exact ⟨.inr ⟨rfl, hdashes⟩, starts_unknownFlag h⟩
    apply WellFormedReports.slots hmiddle (starts_missingSpace? h) ?_ hlast
    intro r hr
    obtain ⟨hrule, hstarts⟩ := starts_missingDashes? h r hr
    exact ⟨.inl hrule, hstarts⟩
  | known h hf =>
    apply WellFormedReports.slots hmiddle (starts_missingSpace? h)
    · intro r hr
      rcases Option.or_eq_some_iff.mp hr with hr | ⟨-, hr⟩
      · obtain ⟨hrule, hstarts⟩ := starts_missingDashes? h r hr
        exact ⟨.inl hrule, hstarts⟩
      · obtain ⟨hrule, hstarts⟩ := starts_wrongDashes? h _ r hr
        exact ⟨.inr hrule, hstarts⟩
    · intro r hr
      obtain ⟨hrule, hstarts⟩ := starts_invalidValue? h _ r hr
      exact ⟨.inl hrule, hstarts⟩

end Directive

/-- A finding stands before another, or at the same place. -/
def Finding.Precedes (a b : Finding) : Prop :=
  a.line < b.line
    ∨ a.line = b.line ∧ a.diagnostic.span.start ≤ b.diagnostic.span.start

namespace Linter

theorem wellFormed_checkLine (l : Linter) (line : Text) :
  WellFormedReports (byteLength line) (l.checkLine line)
  := by
  unfold checkLine
  cases hd : Directive.read l.tag.text line with
  | none =>
    refine @WellFormedReports.slots none none none 0 0 _ (Nat.le_refl 0) ?_ ?_ ?_ <;> simp
  | some d =>
    obtain ⟨htag, -, rfl⟩ := Directive.read_eq_some_iff.mp hd
    apply Directive.wellFormed_diagnostics
    rw [htag]
    apply l.tag.text_ne

theorem line_of_mem_checkNumbered {l : Linter} {line : Text} {number : Nat} {f : Finding}
    (h : f ∈ l.checkNumbered line number) :
  f.line = number
  := by
  unfold checkNumbered at h
  split at h
  · contradiction
  · obtain ⟨r, -, rfl⟩ := List.mem_map.mp h
    rfl

theorem pairwise_checkNumbered (l : Linter) (line : Text) (number : Nat) :
  (l.checkNumbered line number).Pairwise Finding.Precedes
  := by
  unfold checkNumbered
  split
  · apply List.Pairwise.nil
  · rw [List.pairwise_map]
    apply (l.wellFormed_checkLine line).sorted.imp
    intro r s h
    apply Or.inr ⟨rfl, h⟩

/-- The findings in a document are sorted. -/
theorem pairwise_checkDocument (l : Linter) (text : Text) :
  (l.checkDocument text).Pairwise Finding.Precedes
  := by
  have hnumbers : (lines text).zipIdx.Pairwise fun a b => a.2 < b.2 := by
    rw [← List.pairwise_map, List.zipIdx_map_snd]
    apply List.pairwise_lt_range' 1 (by decide)
  unfold checkDocument
  rw [List.pairwise_flatMap]
  constructor
  · rintro ⟨line, number⟩ -
    apply l.pairwise_checkNumbered
  · apply hnumbers.imp
    rintro ⟨line, number⟩ ⟨line', number'⟩ hlt a ha b hb
    apply Or.inl
    rw [line_of_mem_checkNumbered ha, line_of_mem_checkNumbered hb]
    apply hlt

/-- The reports on every line are well formed and ordered, and so the findings in every
document are sorted by line and start. -/
theorem reports_sorted (l : Linter) :
  (∀ line, WellFormedReports (byteLength line) (l.checkLine line))
    ∧ ∀ text, (l.checkDocument text).Pairwise Finding.Precedes
  := by
  constructor
  · apply l.wellFormed_checkLine
  · apply l.pairwise_checkDocument

/-- The bound on the number of reports is attained, and two of them start together. -/
example :
  let l : Linter := { schema := ⟨⟨[], [], []⟩, .empty⟩ }
  (l.checkLine "#SBATCHx".toList).map (fun r => (r.rule, r.span))
    = [(.missingSpace, ⟨7, 8⟩), (.missingDashes, ⟨7, 8⟩), (.unknownFlag, ⟨7, 8⟩)]
  := by
  decide

end Linter

end DirectiveLint
