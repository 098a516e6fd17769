import DirectiveLint.Proofs.Linter.Document
import DirectiveLint.Proofs.Linter.Lookup

/-!
# Names written in a document

A flag is reported as unknown exactly if a line of the document names one that is not in the
table (`Linter.forall_rule_checkDocument_ne_unknownFlag_iff`).  So the name of a flag of the
table is known where it is written, if it stands on the line as it is.  It does not if it holds
a line feed or ends in a carriage return, which a table does not refuse: then the line names
what is left of it (`Linter.written_name_known_iff`).
-/

namespace DirectiveLint

/-- Dashes and a name write a flag: two dashes go with its long name and one with its short
name. -/
def Flag.IsWritten (f : Flag) (dashes name : Text) : Prop :=
  dashes = ['-', '-'] ∧ f.long = some name ∨ dashes = ['-'] ∧ f.short = some name

/-- If a line names a flag, the list has one with that name. -/
def NamesFlagOf (flags : List Flag) (tag line : Text) : Prop :=
  ∀ d, Directive.read tag line = some d → d.flag ≠ [] → ∃ f ∈ flags, f.hasName d.flag = true

variable {flags : List Flag} {f : Flag} {dashes name : Text}

namespace Flag.IsWritten

variable {t : FlagTable}

theorem hasName (h : f.IsWritten dashes name) :
  f.hasName name = true
  := by
  rcases h with ⟨-, h⟩ | ⟨-, h⟩ <;> simp [Flag.hasName, h]

/-- A name that is written is not empty, does not start with a dash and holds no separator. -/
theorem isWritable (h : f.IsWritten dashes name) (ht : t.Holds flags) (hf : f ∈ flags) :
  IsWritable name
  := by
  apply isFlagName_iff.mp
  rcases h with ⟨-, h⟩ | ⟨-, h⟩
  · apply ht.byLong.isFlagName hf h
  · apply ht.byShort.isFlagName hf h

/-- The dashes end in one and hold no line feed. -/
theorem getLast?_dashes (h : f.IsWritten dashes name) :
  dashes.getLast? = some '-' ∧ '\n' ∉ dashes
  := by
  rcases h with ⟨rfl, -⟩ | ⟨rfl, -⟩ <;> decide

end Flag.IsWritten

/-- The directive that is read from the dashes and the start of a name. -/
theorem Directive.read_written_start (tag : Text) {start : Text} (h : f.IsWritten dashes name)
    (hname : IsWritable name) (hstart : start <+: name) :
  read tag (tag ++ ' ' :: (dashes ++ start)) = some ⟨tag, [' '], dashes, start, [], []⟩
  := by
  obtain ⟨-, hhead, hseparators⟩ := hname
  apply read_dashes_append tag
  · rcases h with ⟨hd, -⟩ | ⟨hd, -⟩
    · apply Or.inl hd
    · refine .inr ⟨.inl hd, ?_⟩
      obtain ⟨more, rfl⟩ := hstart
      cases start with
      | nil => nofun
      | cons c start => apply hhead
  · intro c hc
    apply hseparators c (hstart.subset hc)

namespace Directive

variable {d : Directive} {schema : Schema} {tag : Text}

/-- No flag is reported as unknown exactly if there is none or the table knows it. -/
theorem forall_rule_diagnostics_ne_unknownFlag_iff :
  (∀ r ∈ d.diagnostics schema tag, r.rule ≠ .unknownFlag)
    ↔ d.flag ≠ [] → (schema.table.resolve d.flag).isKnown = true
  := by
  constructor
  · intro h hflag
    rw [← Bool.not_eq_false]
    intro hunknown
    apply h d.unknownFlag ?_ rfl
    rw [diagnostics, structural_of_unknown hflag hunknown]
    simp
  · intro h r hr hrule
    have hreports := d.diagnostics_reports schema tag
    generalize d.diagnostics schema tag = reports at hreports hr
    cases hreports with
    | noFlag hflag =>
      obtain rfl := List.mem_singleton.mp hr
      contradiction
    | unknown hflag hunknown =>
      rw [h hflag] at hunknown
      contradiction
    | known hflag hf =>
      simp only [List.mem_append, Option.mem_toList] at hr
      rcases hr with (hr | hr) | hr
      · rw [(starts_missingSpace? hflag r hr).1] at hrule
        contradiction
      · rcases Option.or_eq_some_iff.mp hr with hr | ⟨-, hr⟩
        · rw [(starts_missingDashes? hflag r hr).1] at hrule
          contradiction
        · rcases (starts_wrongDashes? hflag _ r hr).1 with hwrong | hwrong
          · rw [hwrong] at hrule
            contradiction
          · rw [hwrong] at hrule
            contradiction
      · rw [(starts_invalidValue? hflag _ r hr).1] at hrule
        contradiction

end Directive

namespace Linter

variable {l : Linter}

theorem forall_rule_checkLine_ne_unknownFlag_iff (ht : l.schema.table.Holds flags)
    (line : Text) :
  (∀ r ∈ l.checkLine line, r.rule ≠ .unknownFlag) ↔ NamesFlagOf flags l.tag.text line
  := by
  unfold checkLine NamesFlagOf
  cases Directive.read l.tag.text line with
  | none => simp
  | some d =>
    simp only [Directive.forall_rule_diagnostics_ne_unknownFlag_iff,
      FlagTable.isKnown_resolve_iff ht, Option.some.injEq, forall_eq']

/-- No flag in a document is reported as unknown exactly if its lines name none but those of the
table. -/
theorem forall_rule_checkDocument_ne_unknownFlag_iff (ht : l.schema.table.Holds flags)
    (hvisible : l.tag.IsVisible) (text : Text) :
  (∀ finding ∈ l.checkDocument text, finding.diagnostic.rule ≠ .unknownFlag)
    ↔ ∀ line ∈ lines text, NamesFlagOf flags l.tag.text line
  := by
  simp only [← forall_rule_checkLine_ne_unknownFlag_iff ht]
  unfold checkDocument
  conv_rhs => rw [← List.zipIdx_map_fst 0 (lines text)]
  simp only [List.forall_mem_flatMap, List.forall_mem_map, checkNumbered_eq_map hvisible]

/-- The tag, the space and the dashes stay in front of the first line of a name. -/
theorem lines_written {tag : Text} (htag : ∀ c ∈ tag, Unicode.isBlank c = false)
    (h : f.IsWritten dashes name) (hname : name ≠ []) :
  lines (tag ++ ' ' :: (dashes ++ name)) = (lines name).modifyHead (tag ++ ' ' :: dashes ++ ·)
  := by
  obtain ⟨hlast, hline⟩ := h.getLast?_dashes
  rw [← List.cons_append, ← List.append_assoc]
  apply lines_append ?_ ?_ hname
  · rw [List.mem_append, List.mem_cons]
    rintro (hmem | hmem | hmem)
    · have hblank := htag '\n' hmem
      contradiction
    · contradiction
    · apply hline hmem
  · rw [List.getLast?_append, List.getLast?_cons, hlast]
    simp

/-- Where the name of a flag of the table is written, with the dashes that go with it, behind
the tag and a space, no flag is reported as unknown if the name holds no line feed and does not
end in a carriage return.  In general, none is reported exactly if what the name leaves on the
first line is nothing or a name of the table, and no line that the name goes on with names
another flag. -/
theorem written_name_known_iff (h : FlagTable.ofList flags = .ok l.schema.table)
    (htag : ∀ c ∈ l.tag.text, Unicode.isBlank c = false) (hf : f ∈ flags)
    (hwritten : f.IsWritten dashes name) :
  ('\n' ∉ name → name.getLast? ≠ some '\r' →
      ∀ finding ∈ l.checkDocument (l.tag.text ++ ' ' :: (dashes ++ name)),
        finding.diagnostic.rule ≠ .unknownFlag)
    ∧ ((∀ finding ∈ l.checkDocument (l.tag.text ++ ' ' :: (dashes ++ name)),
        finding.diagnostic.rule ≠ .unknownFlag)
      ↔ ∃ first rest, lines name = first :: rest
        ∧ (first ≠ [] → ∃ g ∈ flags, g.hasName first = true)
        ∧ ∀ line ∈ rest, NamesFlagOf flags l.tag.text line)
  := by
  have ht := FlagTable.holds_ofList h
  have hname := hwritten.isWritable ht hf
  have hvisible : l.tag.IsVisible := by
    obtain ⟨c, hc⟩ := List.exists_mem_of_ne_nil _ l.tag.text_ne
    exact ⟨c, hc, htag c hc⟩
  have hlines := lines_written htag hwritten hname.1
  obtain ⟨first, rest, hcons⟩ := List.exists_cons_of_ne_nil (lines_ne_nil hname.1)
  have hfirst : NamesFlagOf flags l.tag.text (l.tag.text ++ ' ' :: dashes ++ first)
      ↔ (first ≠ [] → ∃ g ∈ flags, g.hasName first = true) := by
    rw [NamesFlagOf, List.append_assoc, List.cons_append,
      Directive.read_written_start l.tag.text hwritten hname (prefix_of_lines_eq_cons hcons)]
    simp only [Option.some.injEq, forall_eq']
  have hiff : (∀ finding ∈ l.checkDocument (l.tag.text ++ ' ' :: (dashes ++ name)),
        finding.diagnostic.rule ≠ .unknownFlag)
      ↔ ∃ first rest, lines name = first :: rest
        ∧ (first ≠ [] → ∃ g ∈ flags, g.hasName first = true)
        ∧ ∀ line ∈ rest, NamesFlagOf flags l.tag.text line := by
    rw [forall_rule_checkDocument_ne_unknownFlag_iff ht hvisible, hlines, hcons,
      List.modifyHead_cons, List.forall_mem_cons, hfirst]
    constructor
    · intro hlines
      exact ⟨first, rest, rfl, hlines⟩
    · rintro ⟨_, _, hsame, hlines⟩
      obtain ⟨rfl, rfl⟩ := List.cons.inj hsame
      apply hlines
  refine ⟨?_, hiff⟩
  intro hline hlast
  rw [hiff]
  refine ⟨name, [], lines_eq_singleton hname.1 hline hlast, ?_, nofun⟩
  intro _
  exact ⟨f, hf, hwritten.hasName⟩

/-- What is left on the line of a name that ends in a carriage return is known if another flag
has it as a name. -/
theorem written_name_known_iff_return :
  let f : Flag := ⟨some ['a', '\r'], none, none, .empty⟩
  let g : Flag := ⟨none, some ['a'], none, .empty⟩
  let l : Linter :=
    { schema := ⟨⟨[f, g], [(['a', '\r'], f)], [(['a'], g)]⟩, .empty⟩ }
  FlagTable.ofList [f, g] = .ok l.schema.table
    ∧ (∀ c ∈ l.tag.text, Unicode.isBlank c = false) ∧ f.IsWritten ['-', '-'] ['a', '\r']
    ∧ ∀ finding ∈ l.checkDocument "#SBATCH --a\r".toList,
      finding.diagnostic.rule ≠ .unknownFlag
  := by
  intro f g l
  have htable : FlagTable.ofList [f, g] = .ok l.schema.table := rfl
  have hall : l.tag.text.all (!Unicode.isBlank ·) = true := by decide
  have htag : ∀ c ∈ l.tag.text, Unicode.isBlank c = false := by
    intro c hc
    simpa using List.all_eq_true.mp hall c hc
  have hwritten : f.IsWritten ['-', '-'] ['a', '\r'] := .inl ⟨rfl, rfl⟩
  refine ⟨htable, htag, hwritten, ?_⟩
  apply (written_name_known_iff htable htag List.mem_cons_self hwritten).2.mpr
  refine ⟨['a'], [], by decide, ?_, nofun⟩
  intro _
  exact ⟨g, List.mem_cons_of_mem f List.mem_cons_self, rfl⟩

/-- A name with a line feed is accepted, and what is left of it on the line is unknown. -/
theorem exists_unknown_written_name :
  let f : Flag := ⟨some ['a', '\n', 'b'], none, none, .empty⟩
  let l : Linter := { schema := ⟨⟨[f], [(['a', '\n', 'b'], f)], []⟩, .empty⟩ }
  FlagTable.ofList [f] = .ok l.schema.table ∧ f.IsWritten ['-', '-'] ['a', '\n', 'b']
    ∧ ∃ finding ∈ l.checkDocument "#SBATCH --a\nb".toList,
      finding.diagnostic.rule = .unknownFlag
  := by
  intro f l
  refine ⟨rfl, .inl ⟨rfl, rfl⟩, ?_⟩
  decide

end Linter

end DirectiveLint
