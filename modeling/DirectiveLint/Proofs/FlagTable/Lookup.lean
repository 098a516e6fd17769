import DirectiveLint.Proofs.Steps
import DirectiveLint.Schema
import Mathlib.Tactic.Use

/-!
# Looking flags up

`FlagTable.Holds t flags` is the invariant of the table built from a list of flags: each map
gives under a name the flag of the list that has it, and every name can be written on a
directive line.  Adding a flag keeps the invariant (`FlagTable.Holds.add`), so the table of a
list holds it (`FlagTable.holds_ofList`), and so does that of a schema
(`Schema.holds_ofFlags`).
-/

namespace DirectiveLint

theorem isFlagName_iff {name : Text} :
  isFlagName name = true ↔ name ≠ [] ∧ name.head? ≠ some '-' ∧ ∀ c ∈ name, c ≠ '=' ∧ c ≠ ' '
  := by
  simp [isFlagName, isSeparator, and_assoc]

/-- A map gives under each name the flag of the list that has it among the names of one
kind, and these names can be written on a directive line. -/
structure HoldsNames (m : TextMap Flag) (key : Flag → Option Text) (flags : List Flag) :
    Prop where
  /-- The map gives the flag with a name. -/
  find?_eq_some_iff : ∀ {name f}, m.find? name = some f ↔ f ∈ flags ∧ key f = some name
  /-- The names can be written. -/
  isFlagName : ∀ {name f}, f ∈ flags → key f = some name → isFlagName name = true

/-- The table holds the flags of a list. -/
structure FlagTable.Holds (t : FlagTable) (flags : List Flag) : Prop where
  /-- The flags are those of the list, in its order. -/
  flags_eq : t.flags = flags
  /-- The map of the long names. -/
  byLong : HoldsNames t.byLong Flag.long flags
  /-- The map of the short names. -/
  byShort : HoldsNames t.byShort Flag.short flags

namespace FlagTable

theorem addName_eq_ok_iff {m m' : TextMap Flag} {name : Option Text} {f : Flag}
    {duplicate : Text → SchemaError} :
  addName m name f duplicate = .ok m'
    ↔ (∀ n ∈ name, isFlagName n = true ∧ m.find? n = none)
      ∧ name.elim m (m.insert · f) = m'
  := by
  cases name with
  | none => simp [addName]
  | some n =>
    rw [addName]
    split
    · next h => simp_all
    · split
      · next h h' => simp_all [TextMap.contains, Option.isSome_iff_ne_none]
      · next h h' => simp_all [TextMap.contains]

/-- After a flag was put under its name, the map also gives that flag under that name. -/
theorem find?_of_addName {m m' : TextMap Flag} {name : Option Text} {f : Flag}
    {duplicate : Text → SchemaError} (h : addName m name f duplicate = .ok m') {n : Text}
    {g : Flag} :
  m'.find? n = some g ↔ m.find? n = some g ∨ name = some n ∧ f = g
  := by
  obtain ⟨hname, rfl⟩ := addName_eq_ok_iff.mp h
  cases name with
  | none => simp
  | some k =>
    by_cases hk : n = k
    · subst hk
      simp [(hname n rfl).2]
    · simp [TextMap.find?_insert_of_ne m f hk, Ne.symm hk]

theorem add_eq_ok_iff {t t' : FlagTable} {f : Flag} :
  t.add f = .ok t'
    ↔ (f.long.isSome = true ∨ f.short.isSome = true)
      ∧ ∃ byLong, addName t.byLong f.long f .duplicateLongName = .ok byLong
        ∧ ∃ byShort, addName t.byShort f.short f .duplicateShortName = .ok byShort
          ∧ (⟨t.flags ++ [f], byLong, byShort⟩ : FlagTable) = t'
  := by
  rw [add]
  split
  · next h =>
    simp_all
  · next h =>
    have hnamed : f.long.isSome = true ∨ f.short.isSome = true := by
      cases hl : f.long <;> cases hs : f.short <;> simp_all
    simp only [bind_eq_ok_iff, Except.ok.injEq, hnamed, true_and]

end FlagTable

/-- A map keeps its invariant when a flag is put under its name. -/
theorem HoldsNames.addName {m m' : TextMap Flag} {key : Flag → Option Text} {flags : List Flag}
    {f : Flag} {duplicate : Text → SchemaError} (h : HoldsNames m key flags)
    (ha : FlagTable.addName m (key f) f duplicate = .ok m') :
  HoldsNames m' key (flags ++ [f])
  := by
  constructor
  · intro name g
    rw [FlagTable.find?_of_addName ha, h.find?_eq_some_iff, List.mem_append,
      List.mem_singleton]
    constructor
    · rintro (⟨hg, hk⟩ | ⟨hk, rfl⟩)
      · exact ⟨.inl hg, hk⟩
      · exact ⟨.inr rfl, hk⟩
    · rintro ⟨hg | rfl, hk⟩
      · apply Or.inl ⟨hg, hk⟩
      · apply Or.inr ⟨hk, rfl⟩
  · intro name g hg hk
    rcases List.mem_append.mp hg with hg | hg
    · apply h.isFlagName hg hk
    · obtain rfl := List.mem_singleton.mp hg
      apply ((FlagTable.addName_eq_ok_iff.mp ha).1 name hk).1

namespace FlagTable

theorem holds_empty :
  empty.Holds []
  := by
  refine ⟨rfl, ?_, ?_⟩
  · constructor <;> simp [empty, TextMap.find?]
  · constructor <;> simp [empty, TextMap.find?]

/-- Adding a flag keeps the invariant. -/
theorem Holds.add {t t' : FlagTable} {flags : List Flag} {f : Flag} (h : t.Holds flags)
    (ha : t.add f = .ok t') :
  t'.Holds (flags ++ [f])
  := by
  obtain ⟨-, byLong, hlong, byShort, hshort, rfl⟩ := add_eq_ok_iff.mp ha
  constructor
  · rw [h.flags_eq]
  · apply h.byLong.addName hlong
  · apply h.byShort.addName hshort

/-- Adding flags one after the other keeps the invariant. -/
theorem Holds.foldlM_add {t t' : FlagTable} {flags more : List Flag} (h : t.Holds flags)
    (ha : more.foldlM FlagTable.add t = .ok t') :
  t'.Holds (flags ++ more)
  := by
  induction more generalizing t flags with
  | nil =>
    rw [List.foldlM_nil] at ha
    cases ha
    rw [List.append_nil]
    apply h
  | cons f more ih =>
    rw [List.foldlM_cons] at ha
    obtain ⟨u, hf, hmore⟩ := bind_eq_ok_iff.mp ha
    have hu := ih (h.add hf) hmore
    rw [List.append_assoc, List.singleton_append] at hu
    apply hu

theorem holds_ofList {flags : List Flag} {t : FlagTable} (h : ofList flags = .ok t) :
  t.Holds flags
  := by
  apply holds_empty.foldlM_add h

end FlagTable

theorem Schema.holds_ofFlags {flags : List Flag} {registry : Registry} {s : Schema}
    (h : ofFlags flags registry = .ok s) :
  s.table.Holds flags ∧ s.registry = registry
  := by
  unfold ofFlags at h
  split at h
  · contradiction
  · cases ht : FlagTable.ofList flags with
    | error defect =>
      rw [ht] at h
      contradiction
    | ok t =>
      rw [ht] at h
      cases h
      exact ⟨FlagTable.holds_ofList ht, rfl⟩

end DirectiveLint
