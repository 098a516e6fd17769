import DirectiveLint.Linter
import DirectiveLint.Proofs.Directive.Reports

/-!
# The ends of reported spans

The span of a report on something that is written on the line covers whole characters.  A
report on something missing is shown at one byte next to the empty slot, and that byte is a
whole character only if the character there is one byte long: the character behind the tag
for a missing space and for dashes that are missing with it, the last character of the line
for a missing value.  `Directive.SpanEnds` says so for one report, and
`Linter.isBoundary_span_iff` for all reports on a line.
-/

namespace DirectiveLint

namespace Directive

variable {d : Directive} {schema : Schema} {tag : Text} {r : Diagnostic}

/-- The span of a report starts and stops between characters, those reports apart that stand
for an empty slot next to a character of more than one byte. -/
structure SpanEnds (d : Directive) (r : Diagnostic) : Prop where
  /-- A missing value is shown at the last byte of the line. -/
  start_iff : IsBoundary d.text r.span.start
    ↔ (r.rule = .invalidValue → d.value = [] → ∀ c ∈ d.text.getLast?, c.utf8Size = 1)
  /-- A missing space, and dashes missing with it, are shown at the byte behind the tag. -/
  stop_iff : IsBoundary d.text r.span.stop
    ↔ (r.rule = .missingSpace ∨ r.rule = .missingDashes → d.space = [] →
      ∀ c ∈ (d.dashes ++ d.flag).head?, c.utf8Size = 1)

/-- A report on a text of the line covers whole characters. -/
theorem SpanEnds.of_covers {slot : Text} (h : r.span.Covers d.text slot)
    (hvalue : r.rule = .invalidValue → d.value ≠ [])
    (hspace : r.rule = .missingSpace ∨ r.rule = .missingDashes → d.space ≠ []) :
  d.SpanEnds r
  := by
  obtain ⟨hstart, hstop⟩ := h.isBoundary
  constructor
  · apply iff_of_true hstart
    intro hrule hnil
    cases hvalue hrule hnil
  · apply iff_of_true hstop
    intro hrule hnil
    cases hspace hrule hnil

/-- A report on a text of the line that is not about a slot that can be empty. -/
theorem SpanEnds.of_written {slot : Text} (rule : Rule) (hrule : r.rule = rule)
    (hother : rule ∉ [.invalidValue, .missingSpace, .missingDashes])
    (h : r.span.Covers d.text slot) :
  d.SpanEnds r
  := by
  simp only [List.mem_cons, List.not_mem_nil, or_false, not_or, ← hrule] at hother
  obtain ⟨hvalue, hspace, hdashes⟩ := hother
  apply SpanEnds.of_covers h
  · intro h
    contradiction
  · rintro (h | h) <;> contradiction

/-- A report at a missing space covers the byte behind the tag. -/
theorem SpanEnds.of_missingSpace (hflag : d.flag ≠ []) (hspace : d.space = [])
    (hrule : r.rule = .missingSpace ∨ r.rule = .missingDashes)
    (hspan : r.span = ⟨byteLength d.tag, byteLength d.tag + 1⟩) :
  d.SpanEnds r
  := by
  have htext : d.text = d.tag ++ (d.dashes ++ d.flag ++ (d.separator ++ d.value)) := by
    simp [text, hspace]
  have hne : d.dashes ++ d.flag ≠ [] := by simp [hflag]
  have hhead : (d.dashes ++ d.flag ++ (d.separator ++ d.value)).head?
      = (d.dashes ++ d.flag).head? := by
    rw [List.head?_append, Option.or_of_isSome (List.isSome_head?.mpr hne)]
  constructor
  · rw [hspan]
    apply iff_of_true
    · apply isBoundary_iff.mpr ⟨_, _, htext, rfl⟩
    · intro h
      rw [h] at hrule
      rcases hrule with hrule | hrule <;> cases hrule
  · rw [hspan, htext, isBoundary_add_one_iff (List.append_ne_nil_of_left_ne_nil hne _), hhead]
    simp only [hrule, hspace, forall_const]

/-- A report of a missing value covers the last byte of the line. -/
theorem SpanEnds.of_missingValue (hflag : d.flag ≠ []) (hvalue : d.value = [])
    (hrule : r.rule = .invalidValue) (hspan : r.span = ⟨d.lineLength - 1, d.lineLength⟩) :
  d.SpanEnds r
  := by
  have hne : d.text ≠ [] := by simp [text, hflag]
  constructor
  · rw [hspan, lineLength, isBoundary_sub_one_iff hne]
    simp only [hrule, hvalue, forall_const]
  · rw [hspan]
    apply iff_of_true
    · apply isBoundary_iff.mpr ⟨d.text, [], (List.append_nil d.text).symm, rfl⟩
    · rw [hrule]
      rintro (h | h) <;> cases h

/-! ### The reports one by one -/

theorem spanEnds_missingFlag :
  d.SpanEnds (d.missingFlag tag)
  := by
  have hcovers : (d.missingFlag tag).span.Covers d.text d.text := by
    refine ⟨[], [], (List.append_nil _).symm, ?_⟩
    simp [missingFlag, Rule.broken, lineLength]
  apply SpanEnds.of_written .missingFlag rfl (by decide) hcovers

theorem spanEnds_missingSpace? (hflag : d.flag ≠ []) :
  ∀ r ∈ d.missingSpace? tag, d.SpanEnds r
  := by
  intro r hr
  unfold missingSpace? at hr
  split at hr
  · next hspace =>
    obtain rfl := Option.mem_some.mp hr
    have hlt : byteLength d.tag < d.lineLength := by
      have hpos := byteLength_pos hflag
      simp only [lineLength, text, byteLength_append]
      omega
    apply SpanEnds.of_missingSpace hflag hspace (.inl rfl)
    simp [Rule.broken, spaceSpan, spanAfter, hspace, Span.visible, Span.isEmpty, hlt]
  · contradiction

theorem spanEnds_missingDashes? (hd : d.Canonical) (hflag : d.flag ≠ []) :
  ∀ r ∈ d.missingDashes?, d.SpanEnds r
  := by
  intro r hr
  unfold missingDashes? at hr
  split at hr
  · next hdashes =>
    obtain rfl := Option.mem_some.mp hr
    by_cases hspace : d.space = []
    · apply SpanEnds.of_missingSpace hflag hspace (.inr rfl)
      simp [Rule.broken, missingDashesStart, spaceSpan, spanAfter, hspace]
    · have hone : d.space = [' '] := hd.space_eq.resolve_left hspace
      have hstart : d.missingDashesStart = byteLength d.tag := by
        simp [missingDashesStart, flagSpan, spanAfter, hdashes, hone, Char.utf8Size]
      have hcovers : Span.Covers ⟨d.missingDashesStart, d.missingDashesStart + 1⟩ d.text
          d.space := by
        refine ⟨d.tag, d.dashes ++ d.flag ++ d.separator ++ d.value, ?_, ?_⟩
        · simp [text]
        · rw [hstart, hone]
          rfl
      apply SpanEnds.of_covers hcovers
      · intro h
        cases h
      · intro _
        apply hspace
  · contradiction

theorem spanEnds_unknownFlag :
  d.SpanEnds d.unknownFlag
  := by
  have hcovers : d.unknownFlag.span.Covers d.text d.flag := by
    apply d.covers_slots (d.flag, d.flagSpan)
    simp [slots]
  apply SpanEnds.of_written .unknownFlag rfl (by decide) hcovers

theorem spanEnds_wrongDashes? (resolution : Resolution) :
  ∀ r ∈ d.wrongDashes? resolution, d.SpanEnds r
  := by
  intro r hr
  have hcovers : Span.Covers ⟨d.dashesSpan.start, d.flagSpan.stop⟩ d.text
      (d.dashes ++ d.flag) := by
    refine ⟨d.tag ++ d.space, d.separator ++ d.value, ?_, ?_⟩
    · simp [text]
    · simp [dashesSpan, flagSpan, spanAfter, Nat.add_assoc]
  unfold wrongDashes? at hr
  split at hr
  · split at hr
    · contradiction
    · obtain rfl := Option.mem_some.mp hr
      apply SpanEnds.of_written .longFlagNeedsDoubleDash rfl (by decide) hcovers
  · split at hr
    · contradiction
    · obtain rfl := Option.mem_some.mp hr
      apply SpanEnds.of_written .shortFlagNeedsSingleDash rfl (by decide) hcovers
  · contradiction

theorem spanEnds_invalidValue? (hflag : d.flag ≠ []) (f : Flag) :
  ∀ r ∈ d.invalidValue? schema f, d.SpanEnds r
  := by
  intro r hr
  obtain ⟨m, -, rfl⟩ := Option.map_eq_some_iff.mp hr
  by_cases hvalue : d.value = []
  · have hstart : d.valueSpan = Span.emptyAt d.lineLength := by
      simp [valueSpan, spanAfter, lineLength, text, hvalue, Span.emptyAt]
    have hpos : 0 < d.lineLength := by
      apply byteLength_pos
      simp [text, hflag]
    apply SpanEnds.of_missingValue hflag hvalue rfl
    simp [Rule.broken, hstart, Span.visible, Span.isEmpty, Span.emptyAt, hpos]
  · have hpos := byteLength_pos hvalue
    have hvisible : d.valueSpan.visible d.lineLength = d.valueSpan := by
      rw [Span.visible, if_neg]
      simp [valueSpan, spanAfter, Span.isEmpty]
      omega
    have hcovers : Span.Covers (d.valueSpan.visible d.lineLength) d.text d.value := by
      rw [hvisible]
      apply d.covers_slots (d.value, d.valueSpan)
      simp [slots]
    apply SpanEnds.of_covers hcovers
    · intro _
      apply hvalue
    · rintro (h | h) <;> cases h

/-! ### All reports -/

theorem spanEnds_of_mem_diagnostics (hd : d.Canonical) :
  ∀ r ∈ d.diagnostics schema tag, d.SpanEnds r
  := by
  have hreports := d.diagnostics_reports schema tag
  generalize d.diagnostics schema tag = reports at hreports ⊢
  cases hreports with
  | noFlag h =>
    rw [List.forall_mem_singleton]
    apply spanEnds_missingFlag
  | unknown h hknown =>
    simp only [List.mem_append, Option.mem_toList, List.mem_singleton]
    rintro r ((hr | hr) | rfl)
    · apply spanEnds_missingSpace? h r hr
    · apply spanEnds_missingDashes? hd h r hr
    · apply spanEnds_unknownFlag
  | known h hf =>
    simp only [List.mem_append, Option.mem_toList]
    rintro r ((hr | hr) | hr)
    · apply spanEnds_missingSpace? h r hr
    · rcases Option.or_eq_some_iff.mp hr with hr | ⟨-, hr⟩
      · apply spanEnds_missingDashes? hd h r hr
      · apply spanEnds_wrongDashes? _ r hr
    · apply spanEnds_invalidValue? h _ r hr

end Directive

namespace Linter

/-- The span of every report on a line starts between two characters, unless it is the report
of a missing value on a line that ends in a character of more than one byte; and it stops
between two characters, unless it is the report of a missing space, or of dashes missing with
it, before a character of more than one byte. -/
theorem isBoundary_span_iff {l : Linter} {line : Text} {d : Directive}
    (h : Directive.read l.tag.text line = some d) :
  ∀ r ∈ l.checkLine line,
    (IsBoundary line r.span.start
      ↔ (r.rule = .invalidValue → d.value = [] → ∀ c ∈ line.getLast?, c.utf8Size = 1))
    ∧ (IsBoundary line r.span.stop
      ↔ (r.rule = .missingSpace ∨ r.rule = .missingDashes → d.space = [] →
        ∀ c ∈ (d.dashes ++ d.flag).head?, c.utf8Size = 1))
  := by
  intro r hr
  obtain ⟨-, hcanonical, rfl⟩ := Directive.read_eq_some_iff.mp h
  unfold checkLine at hr
  rw [h] at hr
  have hends := Directive.spanEnds_of_mem_diagnostics hcanonical r hr
  exact ⟨hends.start_iff, hends.stop_iff⟩

/-- The missing value of a flag that ends in a character of two bytes is shown at the second
of them. -/
theorem isBoundary_span_iff_wide :
  let f : Flag := ⟨some ['é'], none, none, .literal ['1']⟩
  let l : Linter := { schema := ⟨⟨[f], [(['é'], f)], []⟩, .empty⟩ }
  ∃ r ∈ l.checkLine "#SBATCH --é".toList, r.rule = .invalidValue ∧ r.span = ⟨11, 12⟩
    ∧ ¬ IsBoundary "#SBATCH --é".toList r.span.start
    ∧ IsBoundary "#SBATCH --é".toList r.span.stop
  := by
  intro f l
  have hread : Directive.read l.tag.text "#SBATCH --é".toList
      = some ⟨"#SBATCH".toList, [' '], ['-', '-'], ['é'], [], []⟩ := by
    decide
  obtain ⟨r, hr, hrule, hspan⟩ : ∃ r ∈ l.checkLine "#SBATCH --é".toList,
      r.rule = .invalidValue ∧ r.span = ⟨11, 12⟩ := by
    decide
  obtain ⟨hstart, hstop⟩ := isBoundary_span_iff hread r hr
  refine ⟨r, hr, hrule, hspan, ?_, ?_⟩
  · rw [hstart]
    intro hwide
    have hone := hwide hrule rfl 'é' rfl
    contradiction
  · rw [hstop, hrule]
    rintro (h | h) <;> cases h

/-- A missing space before a character of two bytes is shown at the first of them, so its span
cannot be cut out of the line. -/
theorem exists_span_inside_character :
  let l : Linter := { schema := ⟨⟨[], [], []⟩, .empty⟩ }
  ∃ r ∈ l.checkLine "#SBATCHé".toList, r.rule = .missingSpace ∧ r.span = ⟨7, 8⟩
    ∧ ¬ IsBoundary "#SBATCHé".toList r.span.stop
  := by
  intro l
  obtain ⟨r, hr, hrule, hspan⟩ : ∃ r ∈ l.checkLine "#SBATCHé".toList,
      r.rule = .missingSpace ∧ r.span = ⟨7, 8⟩ := by
    decide
  refine ⟨r, hr, hrule, hspan, ?_⟩
  rw [hspan]
  have hiff := @isBoundary_add_one_iff "#SBATCH".toList ['é'] (List.cons_ne_nil 'é' [])
  intro hboundary
  have hone := hiff.mp hboundary 'é' rfl
  contradiction

end Linter

end DirectiveLint
