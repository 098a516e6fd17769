import DirectiveLint.Proofs.FlagTable.Scan
import DirectiveLint.Proofs.Linter.Order

/-!
# Flags looked up and flags on a line

A flag is found under a name as it is written exactly if a directive with that name resolves to
it and its dashes are not wrong (`Directive.find?_agrees_with_structural`).  The table looks at
the dashes with which the name starts, the directive at those that are read from the line, and
both come to the flag that `FlagTable.findBehind` gives.
-/

namespace DirectiveLint

namespace Directive

variable {d : Directive} {table : FlagTable} {tag dashes name : Text} {f : Flag}

/-- Dashes and a name behind a space are read as such, if the dashes are all that there are. -/
theorem read_dashes_append (tag : Text)
    (hdashes : dashes = ['-', '-'] ∨ (dashes = ['-'] ∨ dashes = []) ∧ name.head? ≠ some '-')
    (hname : ∀ c ∈ name, c ≠ '=' ∧ c ≠ ' ') :
  read tag (tag ++ ' ' :: (dashes ++ name)) = some ⟨tag, [' '], dashes, name, [], []⟩
  := by
  apply read_eq_some_iff.mpr
  refine ⟨rfl, ?_, ?_⟩
  · constructor
    · apply Or.inr rfl
    · intro h
      contradiction
    · rcases hdashes with h | ⟨h | h, -⟩
      · apply Or.inr (Or.inr h)
      · apply Or.inr (Or.inl h)
      · apply Or.inl h
    · intro hlt
      rcases hdashes with rfl | ⟨-, hhead⟩
      · contradiction
      · apply hhead
    · apply hname
    · apply Or.inl rfl
    · intro _
      rfl
  · simp [text]

theorem structural_of_known (hflag : d.flag ≠ [])
    (hknown : (table.resolve d.flag).isKnown = true) :
  d.structural table tag
    = ((d.missingSpace? tag).toList ++ d.missingDashes?.toList
        ++ (d.wrongDashes? (table.resolve d.flag)).toList,
      (table.resolve d.flag).flagFor d.dashStyle)
  := by
  rw [structural, if_neg hflag]
  apply if_pos hknown

theorem structural_of_unknown (hflag : d.flag ≠ [])
    (hknown : (table.resolve d.flag).isKnown = false) :
  d.structural table tag
    = ((d.missingSpace? tag).toList ++ d.missingDashes?.toList ++ [d.unknownFlag], none)
  := by
  rw [structural, if_neg hflag]
  apply if_neg
  rw [hknown]
  apply Bool.false_ne_true

/-- Among the reports on the slots, these two rules are broken by wrong dashes only. -/
theorem forall_rule_ne_wrongDashes_iff (hflag : d.flag ≠ []) (r : Resolution) :
  (∀ report ∈ (d.missingSpace? tag).toList ++ d.missingDashes?.toList
        ++ (d.wrongDashes? r).toList,
      report.rule ≠ .longFlagNeedsDoubleDash ∧ report.rule ≠ .shortFlagNeedsSingleDash)
    ↔ d.wrongDashes? r = none
  := by
  simp only [List.forall_mem_append, Option.mem_toList]
  constructor
  · rintro ⟨-, hreports⟩
    apply Option.eq_none_iff_forall_ne_some.mpr
    intro report hreport
    obtain ⟨hlong, hshort⟩ := hreports report hreport
    rcases (starts_wrongDashes? hflag r report hreport).1 with h | h
    · apply hlong h
    · apply hshort h
  · intro hnone
    rw [hnone]
    refine ⟨⟨?_, ?_⟩, nofun⟩
    · intro report hreport
      rw [(starts_missingSpace? hflag report hreport).1]
      decide
    · intro report hreport
      rw [(starts_missingDashes? hflag report hreport).1]
      decide

/-- A directive that names a flag resolves to it, with dashes that are not wrong, exactly if the
name stands for that flag behind these dashes. -/
theorem structural_eq_iff_findBehind (hflag : d.flag ≠ []) :
  (d.structural table tag).2 = some f
      ∧ (∀ report ∈ (d.structural table tag).1, report.rule ≠ .longFlagNeedsDoubleDash
        ∧ report.rule ≠ .shortFlagNeedsSingleDash)
    ↔ table.findBehind d.flag d.dashStyle = some f
  := by
  cases hknown : (table.resolve d.flag).isKnown with
  | false =>
    have hnone : table.byLong.find? d.flag = none ∧ table.byShort.find? d.flag = none := by
      simpa [Resolution.isKnown, FlagTable.resolve] using hknown
    have hbehind : table.findBehind d.flag d.dashStyle = none := by
      cases d.dashStyle <;>
        simp [hnone, FlagTable.findBehind, FlagTable.resolve, Resolution.flagFor]
    rw [structural_of_unknown hflag hknown, hbehind]
    simp only [reduceCtorEq, false_and]
  | true =>
    rw [structural_of_known hflag hknown, forall_rule_ne_wrongDashes_iff hflag,
      wrongDashes?_eq_none_iff]
    cases d.dashStyle with
    | none => simp [FlagTable.findBehind]
    | single =>
      cases hshort : table.byShort.find? d.flag <;>
        simp [hshort, FlagTable.findBehind, FlagTable.resolve, Resolution.flagFor]
    | double =>
      cases hlong : table.byLong.find? d.flag <;>
        simp [hlong, FlagTable.findBehind, FlagTable.resolve, Resolution.flagFor]

/-- A text without separators, written behind the tag and a space, is read as a directive.  A
flag is found under that text exactly if the directive resolves to it and its dashes are not
wrong. -/
theorem find?_agrees_with_structural {flags : List Flag} {t : FlagTable}
    (h : FlagTable.ofList flags = .ok t) (tag : Text) {written : Text}
    (hwritten : ∀ c ∈ written, c ≠ '=' ∧ c ≠ ' ') :
  ∃ d, read tag (tag ++ ' ' :: written) = some d
    ∧ ∀ f, t.find? written = some f
      ↔ (d.structural t tag).2 = some f
        ∧ ∀ report ∈ (d.structural t tag).1, report.rule ≠ .longFlagNeedsDoubleDash
          ∧ report.rule ≠ .shortFlagNeedsSingleDash
  := by
  obtain ⟨hsplit, hdashes⟩ := takeDashes_eq_iff.mp (Prod.eta (takeDashes written)).symm
  generalize (takeDashes written).1 = dashes, (takeDashes written).2 = name at hsplit hdashes
  subst hsplit
  have hname : ∀ c ∈ name, c ≠ '=' ∧ c ≠ ' ' :=
    fun c hc => hwritten c (List.mem_append_right dashes hc)
  refine ⟨_, read_dashes_append tag hdashes hname, ?_⟩
  intro f
  rw [t.find?_append hdashes]
  by_cases hflag : name = []
  · subst hflag
    have ht := FlagTable.holds_ofList h
    cases DashStyle.ofCount dashes.length <;>
      simp [ht.byLong.find?_nil, ht.byShort.find?_nil, structural, FlagTable.findBehind,
        FlagTable.resolve, Resolution.flagFor]
  · symm
    apply @structural_eq_iff_findBehind ⟨tag, [' '], dashes, name, [], []⟩
    apply hflag

/-- A name that is long for one flag and short for another stands for the latter behind one
dash, on a line as well. -/
theorem find?_agrees_with_structural_shared :
  let long : Flag := ⟨some ['x'], none, none, .empty⟩
  let short : Flag := ⟨none, some ['x'], none, .empty⟩
  let t : FlagTable := ⟨[long, short], [(['x'], long)], [(['x'], short)]⟩
  FlagTable.ofList [long, short] = .ok t ∧ (∀ c ∈ ['-', 'x'], c ≠ '=' ∧ c ≠ ' ')
    ∧ t.find? ['-', 'x'] = some short
    ∧ ∃ d, read ['#'] "# -x".toList = some d ∧ (d.structural t ['#']).2 = some short
  := by
  intro long short t
  have htable : FlagTable.ofList [long, short] = .ok t := rfl
  have hwritten : ∀ c ∈ ['-', 'x'], c ≠ '=' ∧ c ≠ ' ' := by simp
  obtain ⟨d, hd, hagree⟩ := find?_agrees_with_structural htable ['#'] hwritten
  exact ⟨htable, hwritten, rfl, d, hd, ((hagree short).mp rfl).1⟩

end Directive

end DirectiveLint
