import DirectiveLint.Proofs.Linter.Lookup
import Mathlib.Data.List.Forall2
import Mathlib.Tactic.Simps.Basic

/-!
# Lines behind another tag

The tag of a line only moves what is reported on it.  `Directive.behind` puts the slots of a
directive behind another tag.  All slots move by the difference of the lengths of the tags, and
so do the spans of the reports, which have the same rules in the same order and, where they do
not mention the tag, the same words (`Linter.checkLine_translates`).
-/

namespace DirectiveLint

/-- A span is another one moved by some bytes to the right, or to the left if they are
negative. -/
structure Span.Moved (bytes : Int) (s s' : Span) : Prop where
  /-- The start is moved. -/
  start_eq : (s'.start : Int) = s.start + bytes
  /-- The end is moved. -/
  stop_eq : (s'.stop : Int) = s.stop + bytes

/-- The words for a missing flag behind a tag. -/
def missingFlagMessage (tag : Text) : Text :=
  tag ++ " flag is missing. Format should be one of the following:\n  ".toList
    ++ tag ++ " -<short_flag>[=values]\n  ".toList
    ++ tag ++ " --<long_flag>[=values]".toList

/-- A report on a text behind a tag and the one on the same text behind another tag. -/
inductive Diagnostic.Translates (tag tag' rest : Text) : Diagnostic → Diagnostic → Prop where
  /-- A missing flag is reported over the whole line and names the tag. -/
  | missingFlag :
    Translates tag tag' rest
      (Rule.missingFlag.broken ⟨0, byteLength (tag ++ rest)⟩ (missingFlagMessage tag))
      (Rule.missingFlag.broken ⟨0, byteLength (tag' ++ rest)⟩ (missingFlagMessage tag'))
  /-- The report of a missing space is moved and names the tag. -/
  | missingSpace {s s' : Span} (h : s.Moved (byteLength tag' - byteLength tag) s') :
    Translates tag tag' rest
      (Rule.missingSpace.broken s ("space missing after ".toList ++ tag))
      (Rule.missingSpace.broken s' ("space missing after ".toList ++ tag'))
  /-- Any other report is moved and keeps its words. -/
  | other {rule : Rule} {s s' : Span} {message : Text} (hflag : rule ≠ .missingFlag)
      (hspace : rule ≠ .missingSpace) (h : s.Moved (byteLength tag' - byteLength tag) s') :
    Translates tag tag' rest (rule.broken s message) (rule.broken s' message)

namespace Span.Moved

variable {bytes : Int} {s s' : Span}

theorem isEmpty_eq (h : s.Moved bytes s') :
  s'.isEmpty = s.isEmpty
  := by
  obtain ⟨hstart, hstop⟩ := h
  rw [Bool.eq_iff_iff]
  simp only [isEmpty, beq_iff_eq]
  omega

/-- What is shown for a span is moved with it, if the end of the line is. -/
theorem visible (h : s.Moved bytes s') {lineLength lineLength' : Nat}
    (hline : (lineLength' : Int) = lineLength + bytes) (hpos : 0 < lineLength)
    (hpos' : 0 < lineLength') :
  (s.visible lineLength).Moved bytes (s'.visible lineLength')
  := by
  have hempty := h.isEmpty_eq
  obtain ⟨hstart, hstop⟩ := h
  rw [Span.visible, Span.visible, hempty]
  by_cases hs : s.isEmpty = true
  · by_cases hlt : s.start < lineLength
    · have hlt' : s'.start < lineLength' := by omega
      rw [if_pos hs, if_pos hs, if_pos hlt, if_pos hlt']
      constructor <;> dsimp only <;> omega
    · have hlt' : ¬ s'.start < lineLength' := by omega
      rw [if_pos hs, if_pos hs, if_neg hlt, if_neg hlt', if_pos hpos, if_pos hpos']
      constructor <;> dsimp only <;> omega
  · rw [if_neg hs, if_neg hs]
    exact ⟨hstart, hstop⟩

end Span.Moved

namespace Directive

/-- The slots of a directive behind another tag. -/
@[simps]
def behind (d : Directive) (tag : Text) : Directive := { d with tag := tag }

variable {d : Directive} {schema : Schema} (tag tag' : Text)

@[simp]
theorem dashStyle_behind :
  (d.behind tag).dashStyle = d.dashStyle
  := rfl

theorem ofRest_eq_behind (rest : Text) :
  ofRest tag rest = (ofRest [] rest).behind tag
  := rfl

theorem text_behind :
  (d.behind tag).text = tag ++ (d.behind []).text
  := by
  simp [text]

theorem lineLength_behind :
  (d.behind tag).lineLength = byteLength tag + (d.behind []).lineLength
  := by
  rw [lineLength, text_behind, byteLength_append]
  rfl

/-! ### Slots -/

theorem moved_spanAfter (before slot : Text) :
  (spanAfter (tag ++ before) slot).Moved (byteLength tag' - byteLength tag)
    (spanAfter (tag' ++ before) slot)
  := by
  constructor
  · simp only [spanAfter, byteLength_append]
    omega
  · simp only [spanAfter, byteLength_append]
    omega

theorem moved_spaceSpan :
  (d.behind tag).spaceSpan.Moved (byteLength tag' - byteLength tag) (d.behind tag').spaceSpan
  := by
  have h := moved_spanAfter tag tag' [] d.space
  rw [List.append_nil, List.append_nil] at h
  apply h

theorem moved_dashesSpan :
  (d.behind tag).dashesSpan.Moved (byteLength tag' - byteLength tag) (d.behind tag').dashesSpan
  := by
  apply moved_spanAfter

theorem moved_flagSpan :
  (d.behind tag).flagSpan.Moved (byteLength tag' - byteLength tag) (d.behind tag').flagSpan
  := by
  simp only [flagSpan, behind_tag, behind_space, behind_dashes, behind_flag, List.append_assoc]
  apply moved_spanAfter

theorem moved_valueSpan :
  (d.behind tag).valueSpan.Moved (byteLength tag' - byteLength tag) (d.behind tag').valueSpan
  := by
  simp only [valueSpan, behind_tag, behind_space, behind_dashes, behind_flag, behind_separator,
    behind_value, List.append_assoc]
  apply moved_spanAfter

/-- What is shown for a moved span on a line with a flag is moved as well. -/
theorem moved_visible (hflag : d.flag ≠ []) {s s' : Span}
    (h : s.Moved (byteLength tag' - byteLength tag) s') :
  (s.visible (d.behind tag).lineLength).Moved (byteLength tag' - byteLength tag)
    (s'.visible (d.behind tag').lineLength)
  := by
  have hpos : 0 < (d.behind []).lineLength := by
    apply byteLength_pos
    simp [text, hflag]
  apply h.visible
  · rw [lineLength_behind tag, lineLength_behind tag']
    omega
  · rw [lineLength_behind]
    omega
  · rw [lineLength_behind]
    omega

/-- Missing dashes are reported at a place that is moved with the tag. -/
theorem missingDashesStart_behind :
  ((d.behind tag').missingDashesStart : Int)
    = (d.behind tag).missingDashesStart + (byteLength tag' - byteLength tag)
  := by
  rw [missingDashesStart, missingDashesStart, behind_space, behind_space]
  by_cases hspace : d.space = []
  · rw [if_pos hspace, if_pos hspace]
    apply (moved_spaceSpan tag tag').start_eq
  · -- The space is in front of the flag, so that one byte can be taken off its offset.
    have hpos := byteLength_pos hspace
    rw [if_neg hspace, if_neg hspace]
    simp only [flagSpan, spanAfter, behind_tag, behind_space, behind_dashes, byteLength_append]
    omega

/-! ### Reports -/

variable {rest : Text}

theorem translates_missingSpace? (hflag : d.flag ≠ []) :
  List.Forall₂ (Diagnostic.Translates tag tag' rest) ((d.behind tag).missingSpace? tag).toList
    ((d.behind tag').missingSpace? tag').toList
  := by
  rw [missingSpace?, missingSpace?, behind_space, behind_space]
  by_cases hspace : d.space = []
  · rw [if_pos hspace, if_pos hspace]
    apply List.Forall₂.cons ?_ .nil
    apply Diagnostic.Translates.missingSpace
    apply moved_visible tag tag' hflag (moved_spaceSpan tag tag')
  · rw [if_neg hspace, if_neg hspace]
    apply List.Forall₂.nil

theorem translates_missingDashes? :
  List.Forall₂ (Diagnostic.Translates tag tag' rest) (d.behind tag).missingDashes?.toList
    (d.behind tag').missingDashes?.toList
  := by
  rw [missingDashes?, missingDashes?, behind_dashes, behind_dashes]
  by_cases hdashes : d.dashes = []
  · rw [if_pos hdashes, if_pos hdashes]
    apply List.Forall₂.cons ?_ .nil
    apply Diagnostic.Translates.other (by decide) (by decide)
    have hstart := @missingDashesStart_behind d tag tag'
    constructor
    · apply hstart
    · dsimp only
      omega
  · rw [if_neg hdashes, if_neg hdashes]
    apply List.Forall₂.nil

theorem translates_unknownFlag :
  Diagnostic.Translates tag tag' rest (d.behind tag).unknownFlag (d.behind tag').unknownFlag
  := by
  apply Diagnostic.Translates.other (by decide) (by decide)
  apply moved_flagSpan

theorem translates_wrongDashes? (r : Resolution) :
  List.Forall₂ (Diagnostic.Translates tag tag' rest) ((d.behind tag).wrongDashes? r).toList
    ((d.behind tag').wrongDashes? r).toList
  := by
  have hwritten : Span.Moved (byteLength tag' - byteLength tag)
      ⟨(d.behind tag).dashesSpan.start, (d.behind tag).flagSpan.stop⟩
      ⟨(d.behind tag').dashesSpan.start, (d.behind tag').flagSpan.stop⟩ :=
    ⟨(moved_dashesSpan tag tag').start_eq, (moved_flagSpan tag tag').stop_eq⟩
  rw [wrongDashes?, wrongDashes?, dashStyle_behind, dashStyle_behind, behind_flag, behind_flag]
  cases d.dashStyle with
  | none => apply List.Forall₂.nil
  | single =>
    cases r.acceptsSingleDash with
    | true => apply List.Forall₂.nil
    | false =>
      apply List.Forall₂.cons ?_ .nil
      apply Diagnostic.Translates.other (by decide) (by decide) hwritten
  | double =>
    cases r.acceptsDoubleDash with
    | true => apply List.Forall₂.nil
    | false =>
      apply List.Forall₂.cons ?_ .nil
      apply Diagnostic.Translates.other (by decide) (by decide) hwritten

theorem translates_invalidValue? (hflag : d.flag ≠ []) (f : Flag) :
  List.Forall₂ (Diagnostic.Translates tag tag' rest)
    ((d.behind tag).invalidValue? schema f).toList
    ((d.behind tag').invalidValue? schema f).toList
  := by
  rw [invalidValue?, invalidValue?, behind_value, behind_value]
  cases schema.mismatch? f.shape d.value with
  | none => apply List.Forall₂.nil
  | some m =>
    apply List.Forall₂.cons ?_ .nil
    apply Diagnostic.Translates.other (by decide) (by decide)
    apply moved_visible tag tag' hflag (moved_valueSpan tag tag')

/-- The reports on a directive are translated when it is put behind another tag. -/
theorem translates_diagnostics (d : Directive) (schema : Schema) :
  List.Forall₂ (Diagnostic.Translates tag tag' (d.behind []).text)
    ((d.behind tag).diagnostics schema tag) ((d.behind tag').diagnostics schema tag')
  := by
  rw [diagnostics, diagnostics]
  by_cases hflag : d.flag = []
  · have hmissing : ∀ tag : Text, (d.behind tag).structural schema.table tag
        = ([Rule.missingFlag.broken ⟨0, byteLength (tag ++ (d.behind []).text)⟩
          (missingFlagMessage tag)], none) := by
      intro tag
      rw [structural, behind_flag, if_pos hflag, missingFlag, lineLength, text_behind]
      rfl
    simp only [hmissing]
    apply List.Forall₂.cons .missingFlag .nil
  · have hslots : List.Forall₂ (Diagnostic.Translates tag tag' (d.behind []).text)
        (((d.behind tag).missingSpace? tag).toList ++ (d.behind tag).missingDashes?.toList)
        (((d.behind tag').missingSpace? tag').toList ++ (d.behind tag').missingDashes?.toList) :=
      List.rel_append (translates_missingSpace? tag tag' hflag)
        (translates_missingDashes? tag tag')
    cases hknown : (schema.table.resolve d.flag).isKnown with
    | false =>
      have hunknown : ∀ tag, (d.behind tag).structural schema.table tag = _ :=
        fun tag => structural_of_unknown hflag hknown
      simp only [hunknown, Option.bind_none, Option.toList_none, List.append_nil]
      apply List.rel_append hslots
      apply List.Forall₂.cons (translates_unknownFlag tag tag') .nil
    | true =>
      have hresolved : ∀ tag, (d.behind tag).structural schema.table tag = _ :=
        fun tag => structural_of_known hflag hknown
      simp only [hresolved, behind_flag, dashStyle_behind]
      apply List.rel_append
      · apply List.rel_append hslots
        apply translates_wrongDashes?
      · cases (schema.table.resolve d.flag).flagFor d.dashStyle with
        | none => apply List.Forall₂.nil
        | some f => apply translates_invalidValue? tag tag' hflag

end Directive

namespace Linter

theorem checkLine_append (l : Linter) (rest : Text) :
  l.checkLine (l.tag.text ++ rest)
    = (Directive.ofRest l.tag.text rest).diagnostics l.schema l.tag.text
  := by
  have hread : Directive.read l.tag.text (l.tag.text ++ rest)
      = some (Directive.ofRest l.tag.text rest) := by
    rw [Directive.read, dropPrefix?_eq_some_iff.mpr rfl]
    rfl
  rw [checkLine, hread]

/-- Changing the tag of a linter and of a line only translates the reports.  There are as many,
with the same rules in the same order.  The report of a missing flag is over the whole line, and
the span of any other is moved by the difference of the lengths of the tags.  The reports of a
missing flag and of a missing space name their own tag, and the words of any other report stay
the same. -/
theorem checkLine_translates (l : Linter) (tag' : Tag) (rest : Text) :
  List.Forall₂ (Diagnostic.Translates l.tag.text tag'.text rest)
    (l.checkLine (l.tag.text ++ rest))
    (({ l with tag := tag' } : Linter).checkLine (tag'.text ++ rest))
  := by
  have hrest : ((Directive.ofRest [] rest).behind []).text = rest := Directive.text_ofRest [] rest
  have htranslates := Directive.translates_diagnostics l.tag.text tag'.text
    (Directive.ofRest [] rest) l.schema
  rw [hrest] at htranslates
  rw [checkLine_append, checkLine_append { l with tag := tag' },
    Directive.ofRest_eq_behind l.tag.text, Directive.ofRest_eq_behind tag'.text]
  apply htranslates

/-- Behind a tag that is longer by one character of two bytes, the spans are moved by two
bytes. -/
example :
  let l : Linter := { schema := ⟨⟨[], [], []⟩, .empty⟩, tag := ⟨['#'], by decide⟩ }
  let l' : Linter := { l with tag := ⟨['#', 'é'], by decide⟩ }
  (l.checkLine "#x".toList).map (·.span) = [⟨1, 2⟩, ⟨1, 2⟩, ⟨1, 2⟩]
    ∧ (l'.checkLine "#éx".toList).map (·.span) = [⟨3, 4⟩, ⟨3, 4⟩, ⟨3, 4⟩]
  := by decide

end Linter

end DirectiveLint
