import DirectiveLint.Proofs.FlagTable.Scan
import DirectiveLint.Proofs.Linter.Locality
import DirectiveLint.Proofs.Schema.Consistency

/-!
# The order of the flags

The flags of a table may come in any order.  Whether a schema can be built from them depends on
their names and their validators, not on their order (`Schema.isOk_ofFlags_perm`), and what a
name stands for depends on the flags that there are.  So the order makes no difference to the
findings in a document (`Linter.checkDocument_of_perm`).
-/

namespace DirectiveLint

variable {flags flags' : List Flag}

/-- Names that are well formed and distinct are so in any order. -/
theorem WellNamed.perm {longs longs' shorts shorts' : List Text} (h : WellNamed longs shorts)
    (hlong : longs.Perm longs') (hshort : shorts.Perm shorts') :
  WellNamed longs' shorts'
  := by
  constructor
  · intro name hname
    apply h.writable_long name (hlong.mem_iff.mpr hname)
  · intro name hname
    apply h.writable_short name (hshort.mem_iff.mpr hname)
  · apply hlong.nodup_iff.mp h.nodup_long
  · apply hshort.nodup_iff.mp h.nodup_short

theorem FlagTable.isOk_ofList_of_perm (h : flags.Perm flags') {t : FlagTable}
    (ht : ofList flags = .ok t) :
  ∃ t', ofList flags' = .ok t'
  := by
  have hnamed : ∀ f ∈ flags', f.long.isSome = true ∨ f.short.isSome = true :=
    fun f hf => isSome_of_ofList ht f (h.mem_iff.mpr hf)
  apply (isOk_ofList_iff hnamed).mpr
  apply (wellNamed_of_ofList ht).perm
  · apply h.filterMap
  · apply h.filterMap

namespace Schema

theorem isOk_ofFlags_of_perm (h : flags.Perm flags') {registry : Registry}
    (hs : ∃ s, ofFlags flags registry = .ok s) :
  ∃ s, ofFlags flags' registry = .ok s
  := by
  obtain ⟨hknown, t, ht⟩ := isOk_ofFlags_iff.mp hs
  apply isOk_ofFlags_iff.mpr ⟨?_, FlagTable.isOk_ofList_of_perm h ht⟩
  intro f hf
  apply hknown f (h.mem_iff.mpr hf)

/-- Whether flags make a schema does not depend on their order. -/
theorem isOk_ofFlags_perm (h : flags.Perm flags') (registry : Registry) :
  (∃ s, ofFlags flags registry = .ok s) ↔ ∃ s, ofFlags flags' registry = .ok s
  := by
  constructor
  · apply isOk_ofFlags_of_perm h
  · apply isOk_ofFlags_of_perm h.symm

end Schema

/-- Schemas with the same flags, in whatever order, and the same registry agree on the flag
that a directive names. -/
theorem Directive.SameFlag.of_mem_iff {schema schema' : Schema}
    (ht : schema.table.Holds flags) (ht' : schema'.table.Holds flags')
    (hflags : ∀ f, f ∈ flags ↔ f ∈ flags') (hregistry : schema.registry = schema'.registry)
    (d : Directive) :
  d.SameFlag schema schema'
  := by
  constructor
  · apply ht.byLong.find?_congr ht'.byLong
    intro f _
    apply hflags
  · apply ht.byShort.find?_congr ht'.byShort
    intro f _
    apply hflags
  · intro f _ name _
    apply Registry.agreeOn_of_find?_eq
    rw [hregistry]

namespace Linter

/-- Linters that report the same on every line find the same in every document. -/
theorem checkDocument_congr {l l' : Linter} (h : ∀ line, l.checkLine line = l'.checkLine line)
    (text : Text) :
  l.checkDocument text = l'.checkDocument text
  := by
  have hnumbered : ∀ line number, l.checkNumbered line number = l'.checkNumbered line number := by
    intro line number
    rw [checkNumbered, checkNumbered, h]
  rw [checkDocument, checkDocument]
  simp only [hnumbered]

/-- The order of the flags does not matter.  Either both of two permuted lists of flags make a
schema with a registry or neither does, and linters with one tag over the two schemas find the
same in every document. -/
theorem checkDocument_of_perm (h : flags.Perm flags') (registry : Registry) :
  ((∃ s, Schema.ofFlags flags registry = .ok s) ↔ ∃ s, Schema.ofFlags flags' registry = .ok s)
    ∧ ∀ l l' : Linter, Schema.ofFlags flags registry = .ok l.schema →
      Schema.ofFlags flags' registry = .ok l'.schema → l.tag = l'.tag →
      ∀ text, l.checkDocument text = l'.checkDocument text
  := by
  refine ⟨Schema.isOk_ofFlags_perm h registry, ?_⟩
  intro l l' hl hl' htag
  obtain ⟨ht, hregistry⟩ := Schema.holds_ofFlags hl
  obtain ⟨ht', hregistry'⟩ := Schema.holds_ofFlags hl'
  apply checkDocument_congr
  intro line
  apply checkLine_congr htag
  intro d _
  apply Directive.SameFlag.of_mem_iff ht ht' (fun f => h.mem_iff)
  rw [hregistry, hregistry']

/-- Flags that share a name, as a long one and as a short one, are told apart in both orders. -/
theorem checkDocument_of_perm_shared :
  let long : Flag := ⟨some ['x'], none, none, .empty⟩
  let short : Flag := ⟨some ['y'], some ['x'], none, .literal ['1']⟩
  let l : Linter :=
    { schema := ⟨⟨[long, short], [(['x'], long), (['y'], short)], [(['x'], short)]⟩, .empty⟩ }
  let l' : Linter :=
    { schema := ⟨⟨[short, long], [(['x'], long), (['y'], short)], [(['x'], short)]⟩, .empty⟩ }
  [long, short].Perm [short, long]
    ∧ Schema.ofFlags [long, short] .empty = .ok l.schema
    ∧ Schema.ofFlags [short, long] .empty = .ok l'.schema ∧ l.tag = l'.tag
    ∧ (∃ s, Schema.ofFlags [short, long] .empty = .ok s)
    ∧ l.checkDocument "#SBATCH --x=1\n#SBATCH -x 2\n".toList
      = l'.checkDocument "#SBATCH --x=1\n#SBATCH -x 2\n".toList
    ∧ (l.checkDocument "#SBATCH --x=1\n#SBATCH -x 2\n".toList).length = 2
  := by
  intro long short l l'
  have hperm : [long, short].Perm [short, long] := List.Perm.swap short long []
  obtain ⟨hbuilt, hfindings⟩ := checkDocument_of_perm hperm .empty
  refine ⟨hperm, rfl, rfl, rfl, hbuilt.mp ⟨l.schema, rfl⟩, ?_, ?_⟩
  · apply hfindings l l' rfl rfl rfl
  · decide

end Linter

end DirectiveLint
