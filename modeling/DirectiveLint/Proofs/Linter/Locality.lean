import DirectiveLint.Linter
import DirectiveLint.Proofs.FlagTable.Lookup
import DirectiveLint.Proofs.ValueShape.Mentions

/-!
# Lines depend on the flag that they name

The reports on a line depend on no more of the schema than the flag that the line names: what
the name stands for as a long and as a short name, and the validators that the flag which is
meant mentions (`Linter.checkLine_depends_on_named_flag`).  Other flags and other validators
can be added, removed or changed without a difference.
-/

namespace DirectiveLint

/-- The validator under a name accepts the same texts in both registries and is called by the
same words. -/
structure Registry.AgreeOn (r r' : Registry) (name : Text) : Prop where
  /-- The same texts are accepted. -/
  accepts_eq : ∀ text, r.accepts name text = r'.accepts name text
  /-- The words are the same. -/
  description_eq : r.description name = r'.description name

/-- The same registration makes registries agree, whatever else is registered. -/
theorem Registry.agreeOn_of_find?_eq {r r' : Registry} {name : Text}
    (h : r.entries.find? name = r'.entries.find? name) :
  r.AgreeOn r' name
  := by
  constructor
  · intro text
    rw [accepts, accepts, find?, find?, h]
  · rw [description, description, h]

namespace Schema

variable {s s' : Schema} {f : Flag}

/-- The schemas agree on the validators that the shape of a flag mentions. -/
def AgreeOnShape (s s' : Schema) (f : Flag) : Prop :=
  ∀ name, f.shape.Mentions name → s.registry.AgreeOn s'.registry name

theorem mismatch?_congr (h : s.AgreeOnShape s' f) (t : Text) :
  s.mismatch? f.shape t = s'.mismatch? f.shape t
  := by
  apply ValueShape.mismatch?_congr
  intro name hname
  apply (h name hname).accepts_eq

theorem expected_congr (h : s.AgreeOnShape s' f) :
  s.expected f.shape = s'.expected f.shape
  := by
  apply ValueShape.describeWith_congr
  intro name hname
  apply (h name hname).description_eq

end Schema

namespace Directive

variable {d : Directive} {schema schema' : Schema} {table table' : FlagTable} {tag : Text}
  {f : Flag}

/-- The schemas agree on the flag that a directive names: its name stands for the same flags,
and the validators that the meant one mentions are the same. -/
structure SameFlag (d : Directive) (schema schema' : Schema) : Prop where
  /-- The name stands for the same flag as a long name. -/
  long_eq : schema.table.byLong.find? d.flag = schema'.table.byLong.find? d.flag
  /-- The name stands for the same flag as a short name. -/
  short_eq : schema.table.byShort.find? d.flag = schema'.table.byShort.find? d.flag
  /-- The validators for its values are the same. -/
  agreeOnShape : ∀ f, (schema.table.resolve d.flag).flagFor d.dashStyle = some f →
    schema.AgreeOnShape schema' f

/-- The slots before the value are judged by what the name stands for. -/
theorem structural_congr (h : table.resolve d.flag = table'.resolve d.flag) :
  d.structural table tag = d.structural table' tag
  := by
  rw [structural, structural, h]

/-- The flag whose value is judged is the one that is meant. -/
theorem flagFor_of_structural (h : (d.structural table tag).2 = some f) :
  (table.resolve d.flag).flagFor d.dashStyle = some f
  := by
  unfold structural at h
  split at h
  · contradiction
  · dsimp only at h
    split at h
    · apply h
    · contradiction

theorem invalidValue?_congr (h : schema.AgreeOnShape schema' f) :
  d.invalidValue? schema f = d.invalidValue? schema' f
  := by
  rw [invalidValue?, invalidValue?, Schema.mismatch?_congr h, Schema.expected_congr h]

/-- The reports on a directive depend on the flag that it names only. -/
theorem SameFlag.diagnostics_eq (h : d.SameFlag schema schema') :
  d.diagnostics schema tag = d.diagnostics schema' tag
  := by
  have hresolve : schema.table.resolve d.flag = schema'.table.resolve d.flag := by
    rw [FlagTable.resolve, FlagTable.resolve, h.long_eq, h.short_eq]
  have hvalue : (d.structural schema.table tag).2.bind (d.invalidValue? schema)
      = (d.structural schema.table tag).2.bind (d.invalidValue? schema') := by
    cases hf : (d.structural schema.table tag).2 with
    | none => rfl
    | some f =>
      apply invalidValue?_congr
      apply h.agreeOnShape f
      apply flagFor_of_structural hf
  unfold diagnostics
  dsimp only
  rw [hvalue, structural_congr hresolve]

end Directive

/-- A name stands for the same flag if both lists of flags have the same flags with it. -/
theorem HoldsNames.find?_congr {m m' : TextMap Flag} {key : Flag → Option Text}
    {flags flags' : List Flag} {name : Text} (hm : HoldsNames m key flags)
    (hm' : HoldsNames m' key flags')
    (h : ∀ f, key f = some name → (f ∈ flags ↔ f ∈ flags')) :
  m.find? name = m'.find? name
  := by
  ext f
  rw [hm.find?_eq_some_iff, hm'.find?_eq_some_iff]
  apply and_congr_left
  apply h

namespace Linter

theorem checkLine_congr {l l' : Linter} {line : Text} (htag : l.tag = l'.tag)
    (h : ∀ d, Directive.read l.tag.text line = some d → d.SameFlag l.schema l'.schema) :
  l.checkLine line = l'.checkLine line
  := by
  unfold checkLine
  rw [← htag]
  cases hd : Directive.read l.tag.text line with
  | none => rfl
  | some d => apply (h d hd).diagnostics_eq

/-- The reports on a line depend on nothing but the flag that it names.  Two linters with one
tag report the same if their schemas agree on that flag.  So it makes no difference which
flags without that name there are, nor which validators that are not mentioned. -/
theorem checkLine_depends_on_named_flag (l l' : Linter) (line : Text) (htag : l.tag = l'.tag) :
  ((∀ d, Directive.read l.tag.text line = some d → d.SameFlag l.schema l'.schema) →
      l.checkLine line = l'.checkLine line)
    ∧ ∀ flags flags' registry registry', Schema.ofFlags flags registry = .ok l.schema →
      Schema.ofFlags flags' registry' = .ok l'.schema →
      (∀ d, Directive.read l.tag.text line = some d →
        (∀ f : Flag, f.hasName d.flag = true → (f ∈ flags ↔ f ∈ flags'))
          ∧ ∀ f, (l.schema.table.resolve d.flag).flagFor d.dashStyle = some f →
            ∀ name, f.shape.Mentions name →
              registry.entries.find? name = registry'.entries.find? name) →
      l.checkLine line = l'.checkLine line
  := by
  refine ⟨checkLine_congr htag, ?_⟩
  intro flags flags' registry registry' hl hl' h
  obtain ⟨ht, rfl⟩ := Schema.holds_ofFlags hl
  obtain ⟨ht', rfl⟩ := Schema.holds_ofFlags hl'
  apply checkLine_congr htag
  intro d hd
  obtain ⟨hflags, hregistry⟩ := h d hd
  constructor
  · apply ht.byLong.find?_congr ht'.byLong
    intro f hf
    apply hflags
    simp [Flag.hasName, hf]
  · apply ht.byShort.find?_congr ht'.byShort
    intro f hf
    apply hflags
    simp [Flag.hasName, hf]
  · intro f hf name hname
    apply Registry.agreeOn_of_find?_eq
    apply hregistry f hf name hname

/-- One more flag and one more validator make no difference to a line on which the value is
found invalid, with the description of its validator in the message. -/
theorem checkLine_depends_on_named_flag_invalid :
  let never : Registration := ⟨.custom fun _ => false, some ['w', 'o', 'r', 'd', 's']⟩
  let named : Flag := ⟨some ['x'], none, none, .list (.validator ['v']) ','⟩
  let other : Flag := ⟨some ['y'], some ['z'], none, .validator ['u']⟩
  let l : Linter := { schema := ⟨⟨[named], [(['x'], named)], []⟩, ⟨[(['v'], never)]⟩⟩ }
  let l' : Linter :=
    { schema :=
        ⟨⟨[other, named], [(['x'], named), (['y'], other)], [(['z'], other)]⟩,
          ⟨[(['u'], never), (['v'], never)]⟩⟩ }
  l.tag = l'.tag ∧ Schema.ofFlags [named] l.schema.registry = .ok l.schema
    ∧ Schema.ofFlags [other, named] l'.schema.registry = .ok l'.schema
    ∧ l.checkLine "#SBATCH --x=1".toList ≠ []
    ∧ l.checkLine "#SBATCH --x=1".toList = l'.checkLine "#SBATCH --x=1".toList
  := by
  intro never named other l l'
  refine ⟨rfl, rfl, rfl, List.cons_ne_nil _ _, ?_⟩
  obtain ⟨-, hregistries⟩ := checkLine_depends_on_named_flag l l' "#SBATCH --x=1".toList rfl
  apply hregistries [named] [other, named] l.schema.registry l'.schema.registry rfl rfl
  intro d hd
  have hread : Directive.read l.tag.text "#SBATCH --x=1".toList
      = some ⟨l.tag.text, [' '], ['-', '-'], ['x'], ['='], ['1']⟩ := rfl
  rw [hread] at hd
  obtain rfl := Option.some.inj hd
  constructor
  · intro f hf
    have hother : f ≠ other := by
      rintro rfl
      contradiction
    simp [hother]
  · intro f hf name hname
    obtain rfl := Option.some.inj hf
    rcases hname with _ | ⟨⟨⟩⟩
    rfl

end Linter

end DirectiveLint
