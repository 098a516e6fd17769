import DirectiveLint.Proofs.FlagTable.Names
import DirectiveLint.Proofs.Validator.Table
import DirectiveLint.Proofs.ValueShape.Mentions

/-!
# Consistent tables

`Schema.Consistent` lists what two tables have to satisfy to make a schema, and
`Schema.FirstDefect` says which defect comes first where they do not: one pass goes over the
rules for validators, one over the records, one over the validators that the records name
and one over the names of the flags, and a pass is made only if the ones before it found
nothing.  `Schema.ofTables_accepts_consistent` says that a schema is made exactly from
consistent tables, and that otherwise the first defect is reported.
-/

namespace DirectiveLint

/-- A validator is in the table or is a builtin one. -/
def ValidatorTable.Knows (table : ValidatorTable) (name : Text) : Prop :=
  name ∈ table.keys ∨ ∃ kind : Builtin, kind.name = name

namespace FlagRecord

/-- The record denotes a flag: it has a name, and its values denote a shape. -/
def Readable (r : FlagRecord) : Prop :=
  (r.long.isSome = true ∨ r.short.isSome = true)
    ∧ ∃ shape, ValueShape.decode r.values = .ok shape

/-- Every validator that the values of the record name is known. -/
def NamesKnown (r : FlagRecord) (table : ValidatorTable) : Prop :=
  ∀ shape, ValueShape.decode r.values = .ok shape → ∀ name, shape.Mentions name →
    table.Knows name

/-- Why a record denotes no flag. -/
inductive Defect (r : FlagRecord) : SchemaError → Prop where
  | noName (hlong : r.long = none) (hshort : r.short = none) : Defect r .missingFlagName
  | values {label : Text} {defect : ShapeDefect} (hlabel : r.label? = some label)
      (h : ValueShape.decode r.values = .error defect) :
    Defect r (.invalidValueShape label defect)

variable {r : FlagRecord} {f : Flag} {e : SchemaError}

theorem isSome_label?_iff :
  r.label?.isSome = true ↔ r.long.isSome = true ∨ r.short.isSome = true
  := by
  unfold label?
  cases r.long <;> cases r.short <;> simp

theorem toFlag_eq_ok_iff :
  r.toFlag = .ok f
    ↔ (r.long.isSome = true ∨ r.short.isSome = true)
      ∧ ∃ shape, ValueShape.decode r.values = .ok shape
        ∧ (⟨r.long, r.short, r.description, shape⟩ : Flag) = f
  := by
  rw [← isSome_label?_iff]
  unfold toFlag
  cases r.label? <;> cases ValueShape.decode r.values <;> simp

theorem isOk_toFlag_iff :
  (∃ f, r.toFlag = .ok f) ↔ r.Readable
  := by
  simp only [toFlag_eq_ok_iff]
  constructor
  · rintro ⟨_, hname, shape, hshape, -⟩
    exact ⟨hname, shape, hshape⟩
  · rintro ⟨hname, shape, hshape⟩
    exact ⟨_, hname, shape, hshape, rfl⟩

theorem toFlag_eq_error_iff :
  r.toFlag = .error e ↔ r.Defect e
  := by
  constructor
  · intro h
    unfold toFlag at h
    split at h
    · next hlabel =>
      obtain rfl := Except.error.inj h
      have hnone : ¬ (r.long.isSome = true ∨ r.short.isSome = true) := by
        rw [← isSome_label?_iff, hlabel]
        simp
      rw [not_or] at hnone
      apply Defect.noName
      · simpa using hnone.1
      · simpa using hnone.2
    · next label hlabel =>
      split at h
      · next defect hdefect =>
        obtain rfl := Except.error.inj h
        apply Defect.values hlabel hdefect
      · contradiction
  · intro h
    cases h with
    | noName hlong hshort => simp [toFlag, label?, hlong, hshort]
    | values hlabel h => simp [toFlag, hlabel, h]

/-- Defects of a record and of the flag that it denotes are reported under the same name. -/
theorem label?_of_toFlag (h : r.toFlag = .ok f) :
  r.label? = some f.canonicalName
  := by
  obtain ⟨hname, shape, -, rfl⟩ := toFlag_eq_ok_iff.mp h
  unfold label? Flag.canonicalName
  cases hl : r.long <;> cases hs : r.short <;> simp_all

end FlagRecord

namespace Schema

variable {registry : Registry} {flags : List Flag} {f : Flag} {e : SchemaError}

/-- A flag has an unknown validator if not all of its validators are known; the leftmost one
of them is reported. -/
theorem unknownValidator?_eq_some_iff :
  unknownValidator? registry f = some e
    ↔ ∃ known name rest, f.shape.validatorNames = known ++ name :: rest
      ∧ (∀ n ∈ known, registry.contains n = true) ∧ registry.contains name = false
      ∧ .unknownValidator f.canonicalName name = e
  := by
  unfold unknownValidator?
  rw [Option.map_eq_some_iff]
  constructor
  · rintro ⟨name, hname, rfl⟩
    obtain ⟨hunknown, known, rest, hsplit, hknown⟩ := List.find?_eq_some_iff_append.mp hname
    refine ⟨known, name, rest, hsplit, ?_, ?_, rfl⟩
    · simpa using hknown
    · simpa using hunknown
  · rintro ⟨known, name, rest, hsplit, hknown, hunknown, rfl⟩
    refine ⟨name, List.find?_eq_some_iff_append.mpr ⟨?_, known, rest, hsplit, ?_⟩, rfl⟩
    · simpa using hunknown
    · simpa using hknown

theorem unknownValidator?_eq_none_iff :
  unknownValidator? registry f = none
    ↔ ∀ name, f.shape.Mentions name → registry.contains name = true
  := by
  simp [unknownValidator?, List.find?_eq_none, ValueShape.mem_validatorNames_iff]

theorem isOk_ofFlags_iff :
  (∃ s, ofFlags flags registry = .ok s)
    ↔ (∀ f ∈ flags, ∀ name, f.shape.Mentions name → registry.contains name = true)
      ∧ ∃ t, FlagTable.ofList flags = .ok t
  := by
  simp only [← unknownValidator?_eq_none_iff, ← List.findSome?_eq_none_iff]
  unfold ofFlags
  cases flags.findSome? (unknownValidator? registry) <;> cases FlagTable.ofList flags <;>
    simp [Except.map]

theorem ofFlags_eq_error_iff :
  ofFlags flags registry = .error e
    ↔ (∃ before f after, flags = before ++ f :: after
        ∧ (∀ b ∈ before, ∀ name, b.shape.Mentions name → registry.contains name = true)
        ∧ unknownValidator? registry f = some e)
      ∨ (∀ f ∈ flags, ∀ name, f.shape.Mentions name → registry.contains name = true)
        ∧ FlagTable.ofList flags = .error e
  := by
  simp only [← unknownValidator?_eq_none_iff]
  rw [← List.findSome?_eq_none_iff]
  have hsome : (∃ before f after, flags = before ++ f :: after
        ∧ (∀ b ∈ before, unknownValidator? registry b = none)
        ∧ unknownValidator? registry f = some e)
      ↔ flags.findSome? (unknownValidator? registry) = some e := by
    rw [List.findSome?_eq_some_iff]
    simp only [and_comm]
  rw [hsome]
  unfold ofFlags
  cases flags.findSome? (unknownValidator? registry) <;> cases FlagTable.ofList flags <;>
    simp [Except.map]

/-! ### The two tables -/

/-- What the records of flags and the rules for validators have to satisfy to make a schema. -/
structure Consistent (records : List FlagRecord) (table : ValidatorTable) : Prop where
  /-- Every rule gives a validator. -/
  sound : ∀ rule ∈ table, rule.2.Sound
  /-- Every record denotes a flag. -/
  readable : ∀ r ∈ records, r.Readable
  /-- Every validator that a record names is known. -/
  known : ∀ r ∈ records, r.NamesKnown table
  /-- The names can be written, and those of each kind are distinct. -/
  wellNamed : WellNamed (records.filterMap FlagRecord.long) (records.filterMap FlagRecord.short)

/-- The first unknown validator, in the order of the records and from left to right in the
shape of each. -/
inductive FirstUnknown (records : List FlagRecord) (table : ValidatorTable) :
    SchemaError → Prop where
  | intro {before after : List FlagRecord} {r : FlagRecord} {shape : ValueShape}
      {known rest : List Text} {name label : Text} (hrecords : records = before ++ r :: after)
      (hbefore : ∀ b ∈ before, b.NamesKnown table)
      (hshape : ValueShape.decode r.values = .ok shape)
      (hnames : shape.validatorNames = known ++ name :: rest)
      (hknown : ∀ n ∈ known, table.Knows n) (hunknown : ¬ table.Knows name)
      (hlabel : r.label? = some label) :
    FirstUnknown records table (.unknownValidator label name)

/-- The first name that does not fit to the names before it, in the order of the records and
the long name of each before the short one. -/
inductive FirstMisnamed (records : List FlagRecord) : SchemaError → Prop where
  | long {before after : List FlagRecord} {r : FlagRecord} {name : Text} {e : SchemaError}
      (hrecords : records = before ++ r :: after)
      (hbefore : WellNamed (before.filterMap FlagRecord.long)
        (before.filterMap FlagRecord.short))
      (hname : r.long = some name)
      (hdefect : NameDefect .duplicateLongName (before.filterMap FlagRecord.long) name e) :
    FirstMisnamed records e
  | short {before after : List FlagRecord} {r : FlagRecord} {name : Text} {e : SchemaError}
      (hrecords : records = before ++ r :: after)
      (hbefore : WellNamed (before.filterMap FlagRecord.long)
        (before.filterMap FlagRecord.short))
      (hlong : ∀ n ∈ r.long, IsWritable n ∧ n ∉ before.filterMap FlagRecord.long)
      (hname : r.short = some name)
      (hdefect : NameDefect .duplicateShortName (before.filterMap FlagRecord.short) name e) :
    FirstMisnamed records e

/-- The first defect of two tables.  Each of the four passes over them is made only if the
passes before it found nothing. -/
inductive FirstDefect (records : List FlagRecord) (table : ValidatorTable) :
    SchemaError → Prop where
  /-- The unsound rule with the least name. -/
  | rule {name : Text} {spec : ValidatorSpec} {e : SchemaError} (hmem : (name, spec) ∈ table)
      (hbefore : ∀ rule ∈ table, rule.1 < name → rule.2.Sound) (hdefect : spec.Defect name e) :
    FirstDefect records table e
  /-- The first record that denotes no flag. -/
  | record {before after : List FlagRecord} {r : FlagRecord} {e : SchemaError}
      (hsound : ∀ rule ∈ table, rule.2.Sound) (hrecords : records = before ++ r :: after)
      (hbefore : ∀ b ∈ before, b.Readable) (hdefect : r.Defect e) :
    FirstDefect records table e
  /-- The first unknown validator. -/
  | unknown {e : SchemaError} (hsound : ∀ rule ∈ table, rule.2.Sound)
      (hreadable : ∀ r ∈ records, r.Readable) (hdefect : FirstUnknown records table e) :
    FirstDefect records table e
  /-- The first name that does not fit. -/
  | misnamed {e : SchemaError} (hsound : ∀ rule ∈ table, rule.2.Sound)
      (hreadable : ∀ r ∈ records, r.Readable) (hknown : ∀ r ∈ records, r.NamesKnown table)
      (hdefect : FirstMisnamed records e) :
    FirstDefect records table e

variable {records : List FlagRecord} {table : ValidatorTable}

/-- A registry that knows the validators of a table knows those of the flags exactly if the
table knows those of the records. -/
theorem contains_iff_namesKnown
    (hregistry : ∀ name, registry.contains name = true ↔ table.Knows name)
    (hflags : records.mapM FlagRecord.toFlag = .ok flags) :
  (∀ f ∈ flags, ∀ name, f.shape.Mentions name → registry.contains name = true)
    ↔ ∀ r ∈ records, r.NamesKnown table
  := by
  simp only [hregistry, mem_iff_of_mapM hflags]
  constructor
  · intro h r hr shape hshape
    obtain ⟨bs, hbs⟩ := isOk_mapM_iff.mp ⟨flags, hflags⟩ r hr
    obtain ⟨hname, -⟩ := FlagRecord.toFlag_eq_ok_iff.mp hbs
    apply h ⟨r.long, r.short, r.description, shape⟩
    exact ⟨r, hr, FlagRecord.toFlag_eq_ok_iff.mpr ⟨hname, shape, hshape, rfl⟩⟩
  · rintro h f ⟨r, hr, hf⟩
    obtain ⟨-, shape, hshape, rfl⟩ := FlagRecord.toFlag_eq_ok_iff.mp hf
    apply h r hr shape hshape

theorem filterMap_long (hflags : records.mapM FlagRecord.toFlag = .ok flags) :
  flags.filterMap Flag.long = records.filterMap FlagRecord.long
  := by
  apply filterMap_of_mapM ?_ hflags
  intro r f hf
  obtain ⟨-, shape, -, rfl⟩ := FlagRecord.toFlag_eq_ok_iff.mp hf
  rfl

theorem filterMap_short (hflags : records.mapM FlagRecord.toFlag = .ok flags) :
  flags.filterMap Flag.short = records.filterMap FlagRecord.short
  := by
  apply filterMap_of_mapM ?_ hflags
  intro r f hf
  obtain ⟨-, shape, -, rfl⟩ := FlagRecord.toFlag_eq_ok_iff.mp hf
  rfl

/-- Flags that are denoted by records have names. -/
theorem isSome_of_mapM_toFlag (hflags : records.mapM FlagRecord.toFlag = .ok flags) :
  ∀ f ∈ flags, f.long.isSome = true ∨ f.short.isSome = true
  := by
  intro f hf
  obtain ⟨r, -, hr⟩ := (mem_iff_of_mapM hflags).mp hf
  obtain ⟨hname, shape, -, rfl⟩ := FlagRecord.toFlag_eq_ok_iff.mp hr
  apply hname

/-- The pass over the validators finds the first unknown one. -/
theorem firstUnknown_iff
    (hregistry : ∀ name, registry.contains name = true ↔ table.Knows name)
    (hflags : records.mapM FlagRecord.toFlag = .ok flags) :
  (∃ before f after, flags = before ++ f :: after
      ∧ (∀ b ∈ before, ∀ name, b.shape.Mentions name → registry.contains name = true)
      ∧ unknownValidator? registry f = some e)
    ↔ FirstUnknown records table e
  := by
  have hnot : ∀ name, registry.contains name = false ↔ ¬ table.Knows name := by
    intro name
    rw [← hregistry, Bool.not_eq_true]
  rw [exists_append_cons_iff_of_mapM hflags]
  constructor
  · rintro ⟨before, r, after, rfl, cs, f, hbefore, hf, hcs, hfirst⟩
    obtain ⟨known, name, rest, hnames, hknown, hunknown, rfl⟩ :=
      unknownValidator?_eq_some_iff.mp hfirst
    obtain ⟨-, shape, hshape, rfl⟩ := FlagRecord.toFlag_eq_ok_iff.mp hf
    apply FirstUnknown.intro rfl ((contains_iff_namesKnown hregistry hbefore).mp hcs) hshape
      hnames
    · intro n hn
      rw [← hregistry]
      apply hknown n hn
    · apply (hnot name).mp hunknown
    · apply FlagRecord.label?_of_toFlag hf
  · intro h
    cases h with
    | @intro before after r shape known rest name label hrecords hbefore hshape hnames hknown
        hunknown hlabel =>
      subst hrecords
      obtain ⟨cs, f, -, -, hcs, hf, -⟩ := mapM_append_cons_eq_ok_iff.mp hflags
      have hcontains := (contains_iff_namesKnown hregistry hcs).mpr hbefore
      refine ⟨before, r, after, rfl, cs, f, hcs, hf, hcontains, ?_⟩
      obtain rfl := Option.some.inj (hlabel.symm.trans (FlagRecord.label?_of_toFlag hf))
      obtain ⟨-, shape', hshape', rfl⟩ := FlagRecord.toFlag_eq_ok_iff.mp hf
      obtain rfl := Except.ok.inj (hshape.symm.trans hshape')
      apply unknownValidator?_eq_some_iff.mpr
      refine ⟨known, name, rest, hnames, ?_, (hnot name).mpr hunknown, rfl⟩
      intro n hn
      apply (hregistry n).mpr (hknown n hn)

/-- The defect of the flags that records denote, in terms of the records. -/
theorem ofList_eq_error_iff_of_mapM (hflags : records.mapM FlagRecord.toFlag = .ok flags) :
  FlagTable.ofList flags = .error e
    ↔ ∃ before r after, records = before ++ r :: after
      ∧ WellNamed (before.filterMap FlagRecord.long) (before.filterMap FlagRecord.short)
      ∧ ((∃ n, r.long = some n
          ∧ NameDefect .duplicateLongName (before.filterMap FlagRecord.long) n e)
        ∨ (∀ n ∈ r.long, IsWritable n ∧ n ∉ before.filterMap FlagRecord.long)
          ∧ ∃ n, r.short = some n
            ∧ NameDefect .duplicateShortName (before.filterMap FlagRecord.short) n e)
  := by
  rw [FlagTable.ofList_eq_error_iff (isSome_of_mapM_toFlag hflags),
    exists_append_cons_iff_of_mapM hflags]
  constructor
  · rintro ⟨before, r, after, hsplit, cs, f, hcs, hf, hdefect⟩
    obtain ⟨-, shape, -, rfl⟩ := FlagRecord.toFlag_eq_ok_iff.mp hf
    rw [filterMap_long hcs, filterMap_short hcs] at hdefect
    exact ⟨before, r, after, hsplit, hdefect⟩
  · rintro ⟨before, r, after, rfl, hdefect⟩
    obtain ⟨cs, f, -, -, hcs, hf, -⟩ := mapM_append_cons_eq_ok_iff.mp hflags
    refine ⟨before, r, after, rfl, cs, f, hcs, hf, ?_⟩
    obtain ⟨-, shape, -, rfl⟩ := FlagRecord.toFlag_eq_ok_iff.mp hf
    rw [filterMap_long hcs, filterMap_short hcs]
    exact hdefect

/-- The pass over the names finds the first one that does not fit. -/
theorem firstMisnamed_iff (hflags : records.mapM FlagRecord.toFlag = .ok flags) :
  FlagTable.ofList flags = .error e ↔ FirstMisnamed records e
  := by
  rw [ofList_eq_error_iff_of_mapM hflags]
  constructor
  · rintro ⟨before, r, after, hsplit, hwell, ⟨n, hn, hdefect⟩ | ⟨hlong, n, hn, hdefect⟩⟩
    · apply FirstMisnamed.long hsplit hwell hn hdefect
    · apply FirstMisnamed.short hsplit hwell hlong hn hdefect
  · rintro (⟨hsplit, hwell, hn, hdefect⟩ | ⟨hsplit, hwell, hlong, hn, hdefect⟩)
    · exact ⟨_, _, _, hsplit, hwell, .inl ⟨_, hn, hdefect⟩⟩
    · exact ⟨_, _, _, hsplit, hwell, .inr ⟨hlong, _, hn, hdefect⟩⟩

/-- The records all denote flags exactly if the pass over them finds nothing. -/
theorem isOk_mapM_toFlag_iff :
  (∃ flags, records.mapM FlagRecord.toFlag = .ok flags) ↔ ∀ r ∈ records, r.Readable
  := by
  rw [isOk_mapM_iff]
  simp only [FlagRecord.isOk_toFlag_iff]

/-- If the passes over the rules and the records find nothing, the other two passes decide. -/
theorem exists_ofTables_eq_ofFlags (hsound : ∀ rule ∈ table, rule.2.Sound)
    (hreadable : ∀ r ∈ records, r.Readable) :
  ∃ registry flags, (∀ name, registry.contains name = true ↔ table.Knows name)
    ∧ records.mapM FlagRecord.toFlag = .ok flags
    ∧ ofTables records table = ofFlags flags registry
  := by
  obtain ⟨registry, hregistry⟩ := Registry.isOk_ofTable_iff.mpr hsound
  obtain ⟨flags, hflags⟩ := isOk_mapM_toFlag_iff.mpr hreadable
  refine ⟨registry, flags, fun _ => Registry.contains_ofTable hregistry, hflags, ?_⟩
  rw [ofTables, hregistry, hflags]
  rfl

/-- Exactly consistent tables make a schema. -/
theorem isOk_ofTables_iff :
  (∃ s, ofTables records table = .ok s) ↔ Consistent records table
  := by
  constructor
  · rintro ⟨s, h⟩
    obtain ⟨registry, hregistry, h⟩ := bind_eq_ok_iff.mp h
    obtain ⟨flags, hflags, h⟩ := bind_eq_ok_iff.mp h
    obtain ⟨hcontains, ht⟩ := isOk_ofFlags_iff.mp ⟨s, h⟩
    constructor
    · apply Registry.isOk_ofTable_iff.mp ⟨registry, hregistry⟩
    · apply isOk_mapM_toFlag_iff.mp ⟨flags, hflags⟩
    · apply (contains_iff_namesKnown (fun _ => Registry.contains_ofTable hregistry) hflags).mp
      apply hcontains
    · rw [← filterMap_long hflags, ← filterMap_short hflags]
      apply (FlagTable.isOk_ofList_iff (isSome_of_mapM_toFlag hflags)).mp ht
  · rintro ⟨hsound, hreadable, hknown, hwell⟩
    obtain ⟨registry, flags, hknows, hflags, hrest⟩ :=
      exists_ofTables_eq_ofFlags hsound hreadable
    rw [hrest, isOk_ofFlags_iff]
    constructor
    · apply (contains_iff_namesKnown hknows hflags).mpr hknown
    · apply (FlagTable.isOk_ofList_iff (isSome_of_mapM_toFlag hflags)).mpr
      rw [filterMap_long hflags, filterMap_short hflags]
      exact hwell

/-- What is reported of two tables is their first defect. -/
theorem ofTables_eq_error_iff (h : table.Ascending) :
  ofTables records table = .error e ↔ FirstDefect records table e
  := by
  constructor
  · intro herror
    rcases bind_eq_error_iff.mp herror with hrules | ⟨registry, hregistry, hrest⟩
    · obtain ⟨name, spec, hmem, hdefect, hbefore⟩ := (Registry.ofTable_eq_error_iff h).mp hrules
      apply FirstDefect.rule hmem hbefore hdefect
    · have hsound := Registry.isOk_ofTable_iff.mp ⟨registry, hregistry⟩
      rcases bind_eq_error_iff.mp hrest with hrecords | ⟨flags, hflags, hschema⟩
      · obtain ⟨before, r, after, hsplit, hbefore, hdefect⟩ := mapM_eq_error_iff.mp hrecords
        apply FirstDefect.record hsound hsplit
        · simpa only [FlagRecord.isOk_toFlag_iff] using hbefore
        · apply FlagRecord.toFlag_eq_error_iff.mp hdefect
      · have hreadable := isOk_mapM_toFlag_iff.mp ⟨flags, hflags⟩
        have hknows : ∀ name, registry.contains name = true ↔ table.Knows name :=
          fun _ => Registry.contains_ofTable hregistry
        rcases ofFlags_eq_error_iff.mp hschema with hunknown | ⟨hcontains, hnames⟩
        · apply FirstDefect.unknown hsound hreadable
          apply (firstUnknown_iff hknows hflags).mp hunknown
        · apply FirstDefect.misnamed hsound hreadable
          · apply (contains_iff_namesKnown hknows hflags).mp hcontains
          · apply (firstMisnamed_iff hflags).mp hnames
  · intro hdefect
    cases hdefect with
    | rule hmem hbefore hdefect =>
      apply bind_eq_error_iff.mpr (.inl ?_)
      apply (Registry.ofTable_eq_error_iff h).mpr ⟨_, _, hmem, hdefect, hbefore⟩
    | record hsound hsplit hbefore hdefect =>
      obtain ⟨registry, hregistry⟩ := Registry.isOk_ofTable_iff.mpr hsound
      apply bind_eq_error_iff.mpr (.inr ⟨registry, hregistry, ?_⟩)
      apply bind_eq_error_iff.mpr (.inl ?_)
      apply mapM_eq_error_iff.mpr
      refine ⟨_, _, _, hsplit, ?_, FlagRecord.toFlag_eq_error_iff.mpr hdefect⟩
      simpa only [FlagRecord.isOk_toFlag_iff] using hbefore
    | unknown hsound hreadable hdefect =>
      obtain ⟨registry, flags, hknows, hflags, hrest⟩ :=
        exists_ofTables_eq_ofFlags hsound hreadable
      rw [hrest, ofFlags_eq_error_iff]
      left
      apply (firstUnknown_iff hknows hflags).mpr hdefect
    | misnamed hsound hreadable hknown hdefect =>
      obtain ⟨registry, flags, hknows, hflags, hrest⟩ :=
        exists_ofTables_eq_ofFlags hsound hreadable
      rw [hrest, ofFlags_eq_error_iff]
      right
      constructor
      · apply (contains_iff_namesKnown hknows hflags).mpr hknown
      · apply (firstMisnamed_iff hflags).mpr hdefect

/-- Two tables make a schema exactly if they are consistent, and otherwise their first defect
is reported. -/
theorem ofTables_accepts_consistent (records : List FlagRecord) {table : ValidatorTable}
    (h : table.Ascending) :
  ((∃ s, ofTables records table = .ok s) ↔ Consistent records table)
    ∧ ∀ e, ofTables records table = .error e ↔ FirstDefect records table e
  := by
  refine ⟨isOk_ofTables_iff, ?_⟩
  intro e
  apply ofTables_eq_error_iff h

/-- The rule with the lesser name is reported although the other one was given first, and
although a record has no name. -/
theorem ofTables_accepts_consistent_unsorted :
  let rules : List (Text × ValidatorSpec) :=
    [(['b'], .rule ⟨none, some ['x'], none⟩), (['a'], .rule ⟨none, none, none⟩)]
  let table : ValidatorTable := .ofList rules
  let records : List FlagRecord := [⟨none, none, none, .null⟩]
  table.Ascending ∧ ¬ (∃ s, ofTables records table = .ok s)
    ∧ ofTables records table = .error (.invalidValidatorRule ['a'])
  := by
  intro rules table records
  have hascending : table.Ascending := TextMap.ascending_ofList rules
  obtain ⟨haccepts, hreports⟩ := ofTables_accepts_consistent records hascending
  refine ⟨hascending, ?_, (hreports _).mpr ?_⟩
  · rw [haccepts]
    rintro ⟨-, hreadable, -, -⟩
    obtain ⟨h | h, -⟩ := hreadable _ List.mem_cons_self <;> cases h
  · apply FirstDefect.rule List.mem_cons_self ?_ .neither
    intro rule hrule hlt
    obtain rfl | rfl : rule = (['a'], .rule ⟨none, none, none⟩)
        ∨ rule = (['b'], .rule ⟨none, some ['x'], none⟩) := by
      simpa using List.mem_cons.mp hrule
    · cases List.lt_irrefl _ hlt
    · contradiction

end Schema

end DirectiveLint
