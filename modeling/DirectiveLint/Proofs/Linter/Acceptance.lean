import DirectiveLint.Linter
import DirectiveLint.Proofs.Directive.Reports
import DirectiveLint.Proofs.FlagTable.Lookup
import DirectiveLint.Proofs.ValueShape.Language

/-!
# The lines without reports

`WritesFlag flags tag line f value` says, apart from any reading, that a line is the tag, a
space, dashes, the name of a flag that goes with these dashes, and a value.  A line can be
written so in one way only, and nothing is reported on it exactly if it does not start with
the tag or if it writes a flag with a value of the language that the flag asks for
(`Linter.checkLine_eq_nil_iff`).
-/

namespace DirectiveLint

/-- The text behind the name of a flag and the value in it: nothing without a value, or a
separator followed by the value. -/
inductive ValuePart : Text → Text → Prop where
  | absent : ValuePart [] []
  | given {c : Char} (hc : c = '=' ∨ c = ' ') (value : Text) : ValuePart (c :: value) value

/-- A line writes a flag of a list with a value: the long name behind two dashes or the short
name behind one. -/
inductive WritesFlag (flags : List Flag) (tag : Text) : Text → Flag → Text → Prop where
  | long {f : Flag} {name rest value : Text} (hf : f ∈ flags) (hname : f.long = some name)
      (hrest : ValuePart rest value) :
    WritesFlag flags tag (tag ++ [' '] ++ ['-', '-'] ++ name ++ rest) f value
  | short {f : Flag} {name rest value : Text} (hf : f ∈ flags) (hname : f.short = some name)
      (hrest : ValuePart rest value) :
    WritesFlag flags tag (tag ++ [' '] ++ ['-'] ++ name ++ rest) f value

/-- The separator and the value of a canonical directive are the text behind the name. -/
theorem Directive.Canonical.valuePart {d : Directive} (h : d.Canonical) :
  ValuePart (d.separator ++ d.value) d.value
  := by
  rcases h.separator_eq with hs | hs | hs
  · rw [hs, h.value_eq hs]
    apply ValuePart.absent
  · rw [hs]
    apply ValuePart.given (.inl rfl)
  · rw [hs]
    apply ValuePart.given (.inr rfl)

/-- A name behind a space and dashes, with a value, is read slot by slot. -/
theorem read_written {tag dashes name rest value : Text} (hname : isFlagName name = true)
    (hdashes : dashes = ['-'] ∨ dashes = ['-', '-']) (hrest : ValuePart rest value) :
  ∃ d, Directive.read tag (tag ++ [' '] ++ dashes ++ name ++ rest) = some d
    ∧ d.space = [' '] ∧ d.dashes = dashes ∧ d.flag = name ∧ d.value = value
  := by
  obtain ⟨-, hdash, hseparators⟩ := isFlagName_iff.mp hname
  have hread : ∀ separator, (separator = [] ∨ separator = ['='] ∨ separator = [' ']) →
      (separator = [] → value = []) → rest = separator ++ value →
      Directive.read tag (tag ++ [' '] ++ dashes ++ name ++ rest)
        = some ⟨tag, [' '], dashes, name, separator, value⟩ := by
    rintro separator hseparator hvalue rfl
    apply Directive.read_eq_some_iff.mpr
    refine ⟨rfl, ?_, ?_⟩
    · constructor
      · apply Or.inr rfl
      · intro h
        contradiction
      · apply Or.inr hdashes
      · intro _
        apply hdash
      · apply hseparators
      · apply hseparator
      · apply hvalue
    · simp [Directive.text]
  cases hrest with
  | absent =>
    exact ⟨_, hread [] (.inl rfl) (fun _ => rfl) rfl, rfl, rfl, rfl, rfl⟩
  | @given c hc =>
    have hvalue : [c] = [] → value = [] := by
      intro h
      contradiction
    refine ⟨_, hread [c] ?_ hvalue rfl, rfl, rfl, rfl, rfl⟩
    rcases hc with rfl | rfl
    · apply Or.inr (Or.inl rfl)
    · apply Or.inr (Or.inr rfl)

/-- A line writes a flag with a value exactly if the directive read from it has a space and
names that flag, and that value. -/
theorem writesFlag_iff {table : FlagTable} {flags : List Flag} {tag line value : Text}
    {f : Flag} (h : table.Holds flags) :
  WritesFlag flags tag line f value
    ↔ ∃ d, Directive.read tag line = some d
      ∧ d.space = [' '] ∧ d.Names table f ∧ d.value = value
  := by
  constructor
  · rintro (⟨hf, hname, hrest⟩ | ⟨hf, hname, hrest⟩)
    · obtain ⟨d, hd, hspace, hdashes, rfl, hvalue⟩ :=
        read_written (h.byLong.isFlagName hf hname) (.inr rfl) hrest
      refine ⟨d, hd, hspace, .inl ⟨hdashes, ?_⟩, hvalue⟩
      apply h.byLong.find?_eq_some_iff.mpr ⟨hf, hname⟩
    · obtain ⟨d, hd, hspace, hdashes, rfl, hvalue⟩ :=
        read_written (h.byShort.isFlagName hf hname) (.inl rfl) hrest
      refine ⟨d, hd, hspace, .inr ⟨hdashes, ?_⟩, hvalue⟩
      apply h.byShort.find?_eq_some_iff.mpr ⟨hf, hname⟩
  · rintro ⟨d, hd, hspace, hnames, rfl⟩
    obtain ⟨rfl, hcanonical, rfl⟩ := Directive.read_eq_some_iff.mp hd
    unfold Directive.text
    rw [hspace, List.append_assoc _ d.separator]
    rcases hnames with ⟨hdashes, hname⟩ | ⟨hdashes, hname⟩
    · obtain ⟨hf, hlong⟩ := h.byLong.find?_eq_some_iff.mp hname
      rw [hdashes]
      apply WritesFlag.long hf hlong hcanonical.valuePart
    · obtain ⟨hf, hshort⟩ := h.byShort.find?_eq_some_iff.mp hname
      rw [hdashes]
      apply WritesFlag.short hf hshort hcanonical.valuePart

/-- The dashes and the name of a directive stand for one flag at most. -/
theorem Directive.Names.unique {d : Directive} {table : FlagTable} {f g : Flag}
    (hf : d.Names table f) (hg : d.Names table g) :
  f = g
  := by
  rcases hf with ⟨hd, hf⟩ | ⟨hd, hf⟩ <;> rcases hg with ⟨hd', hg⟩ | ⟨hd', hg⟩
  · apply Option.some.inj (hf.symm.trans hg)
  · rw [hd] at hd'
    contradiction
  · rw [hd] at hd'
    contradiction
  · apply Option.some.inj (hf.symm.trans hg)

/-- A named flag is not empty. -/
theorem Directive.Names.flag_ne_nil {d : Directive} {table : FlagTable} {flags : List Flag}
    {f : Flag} (h : d.Names table f) (ht : table.Holds flags) :
  d.flag ≠ []
  := by
  rcases h with ⟨-, h⟩ | ⟨-, h⟩
  · obtain ⟨hf, hname⟩ := ht.byLong.find?_eq_some_iff.mp h
    apply (isFlagName_iff.mp (ht.byLong.isFlagName hf hname)).1
  · obtain ⟨hf, hname⟩ := ht.byShort.find?_eq_some_iff.mp h
    apply (isFlagName_iff.mp (ht.byShort.isFlagName hf hname)).1

/-- A line can be written as a flag with a value in one way only. -/
theorem WritesFlag.unique {table : FlagTable} {flags : List Flag} {tag line value value' : Text}
    {f f' : Flag} (ht : table.Holds flags) (h : WritesFlag flags tag line f value)
    (h' : WritesFlag flags tag line f' value') :
  f = f' ∧ value = value'
  := by
  obtain ⟨d, hd, -, hf, rfl⟩ := (writesFlag_iff ht).mp h
  obtain ⟨d', hd', -, hf', rfl⟩ := (writesFlag_iff ht).mp h'
  obtain rfl := Option.some.inj (hd.symm.trans hd')
  exact ⟨hf.unique hf', rfl⟩

namespace Linter

/-- Nothing is reported on a line exactly if it does not start with the tag, or if it writes a
flag of the schema with a value of the language of its shape.  The line then stands for one
flag and one value only, also where the name is the long name of one flag and the short name
of another. -/
theorem checkLine_eq_nil_iff {l : Linter} {flags : List Flag} {registry : Registry}
    (h : Schema.ofFlags flags registry = .ok l.schema) (line : Text) :
  (l.checkLine line = []
      ↔ ¬ l.tag.text <+: line
        ∨ ∃ f value, WritesFlag flags l.tag.text line f value
          ∧ value ∈ f.shape.language registry.language)
    ∧ ∀ f value f' value', WritesFlag flags l.tag.text line f value →
      WritesFlag flags l.tag.text line f' value' → f = f' ∧ value = value'
  := by
  obtain ⟨ht, hregistry⟩ := Schema.holds_ofFlags h
  refine ⟨?_, fun f value f' value' => WritesFlag.unique ht⟩
  rw [← Directive.read_eq_none_iff]
  simp only [writesFlag_iff ht]
  have hvalue : ∀ (f : Flag) (value : Text), l.schema.mismatch? f.shape value = none
      ↔ value ∈ ValueShape.language registry.language f.shape := by
    intro f value
    rw [Schema.mismatch?, hregistry]
    apply ValueShape.mismatch?_eq_none_iff registry.accepts_iff_mem_language
  unfold checkLine
  cases hd : Directive.read l.tag.text line with
  | none => simp
  | some d =>
    have hcanonical := (Directive.read_eq_some_iff.mp hd).2.1
    rw [Directive.diagnostics_eq_nil_iff hcanonical]
    constructor
    · rintro ⟨-, hspace, f, hf, hmatch⟩
      refine .inr ⟨f, d.value, ⟨d, rfl, hspace, hf, rfl⟩, ?_⟩
      apply (hvalue f d.value).mp hmatch
    · rintro (hnone | ⟨f, value, ⟨d', hd', hspace, hf, rfl⟩, hmatch⟩)
      · contradiction
      · obtain rfl := Option.some.inj hd'
        refine ⟨hf.flag_ne_nil ht, hspace, f, hf, ?_⟩
        apply (hvalue f d.value).mpr hmatch

/-- A name that is long for one flag and short for another stands for the flag that goes with
the dashes. -/
theorem checkLine_eq_nil_iff_shared :
  let long : Flag := ⟨some ['x'], none, none, .literal ['1']⟩
  let short : Flag := ⟨none, some ['x'], none, .empty⟩
  let l : Linter := { schema := ⟨⟨[long, short], [(['x'], long)], [(['x'], short)]⟩, .empty⟩ }
  Schema.ofFlags [long, short] .empty = .ok l.schema
    ∧ l.checkLine "#SBATCH --x=1".toList = [] ∧ l.checkLine "#SBATCH -x=1".toList ≠ []
    ∧ ∀ f value, WritesFlag [long, short] l.tag.text "#SBATCH -x=1".toList f value → f = short
  := by
  intro long short l
  have h : Schema.ofFlags [long, short] .empty = .ok l.schema := rfl
  have hlong : WritesFlag [long, short] l.tag.text "#SBATCH --x=1".toList long ['1'] :=
    @WritesFlag.long _ _ long ['x'] ['=', '1'] ['1'] List.mem_cons_self rfl
      (.given (.inl rfl) ['1'])
  have hshort : WritesFlag [long, short] l.tag.text "#SBATCH -x=1".toList short ['1'] :=
    @WritesFlag.short _ _ short ['x'] ['=', '1'] ['1']
      (List.mem_cons_of_mem long List.mem_cons_self) rfl (.given (.inl rfl) ['1'])
  refine ⟨h, ?_, ?_, ?_⟩
  · apply (checkLine_eq_nil_iff h _).1.mpr (.inr ⟨long, ['1'], hlong, ?_⟩)
    rw [ValueShape.language]
    apply Set.mem_singleton
  · intro hnil
    rcases (checkLine_eq_nil_iff h _).1.mp hnil with hprefix | ⟨f, value, hf, hvalue⟩
    · apply hprefix ⟨" -x=1".toList, rfl⟩
    · obtain ⟨rfl, rfl⟩ := (checkLine_eq_nil_iff h _).2 f value short ['1'] hf hshort
      rw [ValueShape.language, Set.mem_singleton_iff] at hvalue
      contradiction
  · intro f value hf
    apply ((checkLine_eq_nil_iff h _).2 f value short ['1'] hf hshort).1

end Linter

end DirectiveLint
