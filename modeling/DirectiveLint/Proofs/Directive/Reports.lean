import DirectiveLint.Check
import DirectiveLint.Proofs.Directive.Canonical

/-!
# What is reported on a directive

`Directive.Reports` has one case for each way in which the checks of a directive end: there
is no flag, the flag is not in the table, or it is.  `Directive.diagnostics_reports` says
that the checks end in one of them.  `Directive.diagnostics_eq_nil_iff` tells which
directives nothing is reported on.
-/

namespace DirectiveLint

theorem Resolution.isSome_flagFor (r : Resolution) (style : DashStyle) :
  (r.flagFor style).isSome = r.isKnown
  := by
  cases style <;> simp [flagFor, isKnown, Option.isSome_or, Bool.or_comm]

namespace Directive

variable {d : Directive} {schema : Schema} {tag : Text}

/-- The ways in which the checks of a directive can end, with the reports in their order. -/
inductive Reports (d : Directive) (schema : Schema) (tag : Text) : List Diagnostic → Prop where
  /-- There is no flag. -/
  | noFlag (h : d.flag = []) : Reports d schema tag [d.missingFlag tag]
  /-- The flag is not in the table. -/
  | unknown (h : d.flag ≠ []) (hknown : (schema.table.resolve d.flag).isKnown = false) :
    Reports d schema tag
      ((d.missingSpace? tag).toList ++ d.missingDashes?.toList ++ [d.unknownFlag])
  /-- The flag is in the table.  Wrong dashes are reported only if there are some. -/
  | known {f : Flag} (h : d.flag ≠ [])
      (hf : (schema.table.resolve d.flag).flagFor d.dashStyle = some f) :
    Reports d schema tag
      ((d.missingSpace? tag).toList
        ++ (d.missingDashes?.or (d.wrongDashes? (schema.table.resolve d.flag))).toList
        ++ (d.invalidValue? schema f).toList)

theorem missingSpace?_eq_none_iff :
  d.missingSpace? tag = none ↔ d.space ≠ []
  := by
  unfold missingSpace?
  split <;> simp_all

theorem missingDashes?_eq_none_iff :
  d.missingDashes? = none ↔ d.dashes ≠ []
  := by
  unfold missingDashes?
  split <;> simp_all

theorem invalidValue?_eq_none_iff {f : Flag} :
  d.invalidValue? schema f = none ↔ schema.mismatch? f.shape d.value = none
  := Option.map_eq_none_iff

/-- Dashes that are missing are not wrong as well. -/
theorem toList_missingDashes?_append (r : Resolution) :
  d.missingDashes?.toList ++ (d.wrongDashes? r).toList
    = (d.missingDashes?.or (d.wrongDashes? r)).toList
  := by
  by_cases h : d.dashes = []
  · have hwrong : d.wrongDashes? r = none := by
      unfold wrongDashes? dashStyle
      rw [h]
      rfl
    simp [hwrong]
  · rw [missingDashes?_eq_none_iff.mpr h]
    rfl

/-- The checks of a directive end in one of the listed ways. -/
theorem diagnostics_reports (d : Directive) (schema : Schema) (tag : Text) :
  d.Reports schema tag (d.diagnostics schema tag)
  := by
  unfold diagnostics structural
  by_cases h : d.flag = []
  · rw [if_pos h]
    apply Reports.noFlag h
  · simp only [if_neg h]
    cases hknown : (schema.table.resolve d.flag).isKnown with
    | false =>
      simp only [Bool.false_eq_true, if_false, Option.bind_none, Option.toList_none,
        List.append_nil]
      apply Reports.unknown h hknown
    | true =>
      have hsome := (schema.table.resolve d.flag).isSome_flagFor d.dashStyle
      rw [hknown] at hsome
      obtain ⟨f, hf⟩ := Option.isSome_iff_exists.mp hsome
      simp only [if_true, hf, Option.bind_some]
      rw [List.append_assoc (d.missingSpace? tag).toList, toList_missingDashes?_append]
      apply Reports.known h hf

/-! ### The severity of reports -/

theorem severity_missingSpace? :
  ∀ r ∈ d.missingSpace? tag, r.severity = .error
  := by
  unfold missingSpace?
  split
  · rintro r ⟨⟩
    rfl
  · nofun

theorem severity_missingDashes? :
  ∀ r ∈ d.missingDashes?, r.severity = .error
  := by
  unfold missingDashes?
  split
  · rintro r ⟨⟩
    rfl
  · nofun

theorem severity_wrongDashes? (resolution : Resolution) :
  ∀ r ∈ d.wrongDashes? resolution, r.severity = .error
  := by
  unfold wrongDashes?
  split
  · split
    · nofun
    · rintro r ⟨⟩
      rfl
  · split
    · nofun
    · rintro r ⟨⟩
      rfl
  · nofun

theorem severity_invalidValue? (f : Flag) :
  ∀ r ∈ d.invalidValue? schema f, r.severity = .error
  := by
  intro r hr
  obtain ⟨m, -, rfl⟩ := Option.map_eq_some_iff.mp hr
  rfl

/-- Every report on a directive is an error. -/
theorem severity_of_mem_diagnostics :
  ∀ r ∈ d.diagnostics schema tag, r.severity = .error
  := by
  have hreports := d.diagnostics_reports schema tag
  generalize d.diagnostics schema tag = reports at hreports ⊢
  intro r hr
  cases hreports with
  | noFlag h =>
    obtain rfl := List.mem_singleton.mp hr
    rfl
  | unknown h hknown =>
    simp only [List.mem_append, Option.mem_toList, List.mem_singleton] at hr
    rcases hr with (hr | hr) | rfl
    · apply severity_missingSpace? r hr
    · apply severity_missingDashes? r hr
    · rfl
  | known h hf =>
    simp only [List.mem_append, Option.mem_toList] at hr
    rcases hr with (hr | hr) | hr
    · apply severity_missingSpace? r hr
    · rcases Option.or_eq_some_iff.mp hr with hr | ⟨-, hr⟩
      · apply severity_missingDashes? r hr
      · apply severity_wrongDashes? _ r hr
    · apply severity_invalidValue? _ r hr

/-! ### Directives without reports -/

/-- Dashes are wrong only if the name is not one of the kind that goes with them. -/
theorem wrongDashes?_eq_none_iff {r : Resolution} :
  d.wrongDashes? r = none
    ↔ (d.dashStyle = .single → r.short.isSome = true)
      ∧ (d.dashStyle = .double → r.long.isSome = true)
  := by
  have hite : ∀ (b : Bool) (r : Diagnostic), (if b then none else some r) = none ↔ b = true := by
    intro b r
    cases b <;> simp
  unfold wrongDashes? Resolution.acceptsSingleDash Resolution.acceptsDoubleDash
  cases d.dashStyle with
  | none => simp only [reduceCtorEq, false_implies, and_self]
  | single => simp only [hite, reduceCtorEq, forall_const, false_implies, and_true]
  | double => simp only [hite, reduceCtorEq, forall_const, false_implies, true_and]

/-- The dashes of a directive fit one of the names of the flag that it names. -/
def Names (d : Directive) (table : FlagTable) (f : Flag) : Prop :=
  d.dashes = ['-', '-'] ∧ table.byLong.find? d.flag = some f
    ∨ d.dashes = ['-'] ∧ table.byShort.find? d.flag = some f

/-- No report on the dashes is made exactly if they fit the name. -/
theorem dashes_fit_iff {table : FlagTable} {f : Flag} (hd : d.Canonical) :
  d.missingDashes?.or (d.wrongDashes? (table.resolve d.flag)) = none
      ∧ (table.resolve d.flag).flagFor d.dashStyle = some f
    ↔ d.Names table f
  := by
  rw [Option.or_eq_none_iff, missingDashes?_eq_none_iff, wrongDashes?_eq_none_iff]
  rcases hd.dashes_eq with h | h | h
  · simp [Names, h]
  · have hstyle : d.dashStyle = .single := by rw [dashStyle, h]; rfl
    cases hs : table.byShort.find? d.flag <;>
      simp [Names, h, hstyle, hs, FlagTable.resolve, Resolution.flagFor]
  · have hstyle : d.dashStyle = .double := by rw [dashStyle, h]; rfl
    cases hs : table.byLong.find? d.flag <;>
      simp [Names, h, hstyle, hs, FlagTable.resolve, Resolution.flagFor]

/-- Nothing is reported on a directive exactly if a space and dashes that fit precede the
name of a flag of the table and the value has the shape that the flag asks for. -/
theorem diagnostics_eq_nil_iff (hd : d.Canonical) :
  d.diagnostics schema tag = []
    ↔ d.flag ≠ [] ∧ d.space = [' ']
      ∧ ∃ f, d.Names schema.table f ∧ schema.mismatch? f.shape d.value = none
  := by
  have hspace : d.space = [' '] ↔ d.missingSpace? tag = none := by
    rw [missingSpace?_eq_none_iff]
    rcases hd.space_eq with h | h <;> simp [h]
  simp only [hspace, ← dashes_fit_iff hd, ← invalidValue?_eq_none_iff]
  have hreports := d.diagnostics_reports schema tag
  generalize d.diagnostics schema tag = reports at hreports ⊢
  cases hreports with
  | noFlag h => simp [h]
  | unknown h hknown =>
    have hnone := (schema.table.resolve d.flag).isSome_flagFor d.dashStyle
    rw [hknown, Option.isSome_eq_false_iff, Option.isNone_iff_eq_none] at hnone
    simp [hnone]
  | known h hf => simp [h, hf, and_assoc]

end Directive

end DirectiveLint
