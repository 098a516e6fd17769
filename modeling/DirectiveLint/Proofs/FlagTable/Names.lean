import DirectiveLint.Proofs.FlagTable.Lookup
import Mathlib.Data.List.Induction

/-!
# The names of flags

A table of flags can be built exactly if the names can be written on a directive line, no two
long names are the same and no two short names are (`FlagTable.isOk_ofList_iff`).  Otherwise
the defect is that of the first name, flag by flag and the long name before the short one,
that cannot be written or that occurred before (`FlagTable.ofList_eq_error_iff`).
-/

namespace DirectiveLint

/-- A name that can be written on a directive line: it is not empty, does not start with a
dash and holds no separator. -/
def IsWritable (name : Text) : Prop :=
  name ≠ [] ∧ name.head? ≠ some '-' ∧ ∀ c ∈ name, c ≠ '=' ∧ c ≠ ' '

/-- The long and the short names can be written, and the names of each kind are distinct. -/
structure WellNamed (longs shorts : List Text) : Prop where
  /-- The long names can be written. -/
  writable_long : ∀ name ∈ longs, IsWritable name
  /-- The short names can be written. -/
  writable_short : ∀ name ∈ shorts, IsWritable name
  /-- No two long names are the same. -/
  nodup_long : longs.Nodup
  /-- No two short names are the same. -/
  nodup_short : shorts.Nodup

/-- What is wrong with a name, where some names of its kind are taken. -/
inductive NameDefect (duplicate : Text → SchemaError) (taken : List Text) (name : Text) :
    SchemaError → Prop where
  | notWritable (h : ¬ IsWritable name) :
    NameDefect duplicate taken name (.invalidFlagName name)
  | taken (h : IsWritable name) (htaken : name ∈ taken) :
    NameDefect duplicate taken name (duplicate name)

/-- The names of one more flag fit to those of the flags before it. -/
theorem wellNamed_append_iff {longs shorts : List Text} {long short : Option Text} :
  WellNamed (longs ++ long.toList) (shorts ++ short.toList)
    ↔ WellNamed longs shorts
      ∧ (∀ name ∈ long, IsWritable name ∧ name ∉ longs)
      ∧ ∀ name ∈ short, IsWritable name ∧ name ∉ shorts
  := by
  have hnodup : ∀ (names : List Text) (o : Option Text),
      (names ++ o.toList).Nodup ↔ names.Nodup ∧ ∀ name ∈ o, name ∉ names := by
    intro names o
    cases o with
    | none => simp
    | some name => simp [List.nodup_append, List.forall_mem_ne']
  constructor
  · rintro ⟨hlong, hshort, hlongs, hshorts⟩
    rw [List.forall_mem_append] at hlong hshort
    obtain ⟨hlongs, htaken⟩ := (hnodup longs long).mp hlongs
    obtain ⟨hshorts, htaken'⟩ := (hnodup shorts short).mp hshorts
    refine ⟨⟨hlong.1, hshort.1, hlongs, hshorts⟩, ?_, ?_⟩
    · intro name hname
      exact ⟨hlong.2 name (Option.mem_toList.mpr hname), htaken name hname⟩
    · intro name hname
      exact ⟨hshort.2 name (Option.mem_toList.mpr hname), htaken' name hname⟩
  · rintro ⟨⟨hlong, hshort, hlongs, hshorts⟩, hlong', hshort'⟩
    constructor
    · rw [List.forall_mem_append]
      exact ⟨hlong, fun name hname => (hlong' name (Option.mem_toList.mp hname)).1⟩
    · rw [List.forall_mem_append]
      exact ⟨hshort, fun name hname => (hshort' name (Option.mem_toList.mp hname)).1⟩
    · apply (hnodup longs long).mpr ⟨hlongs, fun name hname => (hlong' name hname).2⟩
    · apply (hnodup shorts short).mpr ⟨hshorts, fun name hname => (hshort' name hname).2⟩

variable {m : TextMap Flag} {key : Flag → Option Text} {flags : List Flag} {f : Flag}
  {duplicate : Text → SchemaError} {e : SchemaError}

/-- The names that are taken in a map are those of its flags. -/
theorem HoldsNames.find?_eq_none_iff (h : HoldsNames m key flags) {name : Text} :
  m.find? name = none ↔ name ∉ flags.filterMap key
  := by
  rw [Option.eq_none_iff_forall_ne_some, List.mem_filterMap, not_exists]
  simp only [ne_eq, h.find?_eq_some_iff]

namespace FlagTable

theorem isOk_addName_iff (h : HoldsNames m key flags) {name : Option Text} :
  (∃ m', addName m name f duplicate = .ok m')
    ↔ ∀ n ∈ name, IsWritable n ∧ n ∉ flags.filterMap key
  := by
  simp only [addName_eq_ok_iff, isFlagName_iff, h.find?_eq_none_iff, exists_and_left,
    exists_eq', and_true]
  rfl

theorem addName_eq_error_iff (h : HoldsNames m key flags) {name : Option Text} :
  addName m name f duplicate = .error e
    ↔ ∃ n, name = some n ∧ NameDefect duplicate (flags.filterMap key) n e
  := by
  cases name with
  | none => simp [addName]
  | some n =>
    have hwritable : isFlagName n = true ↔ IsWritable n := isFlagName_iff
    have hnotWritable : isFlagName n = false ↔ ¬ IsWritable n := by
      rw [← hwritable, Bool.not_eq_true]
    have htaken : m.contains n = true ↔ n ∈ flags.filterMap key := by
      rw [TextMap.contains, Option.isSome_iff_exists, List.mem_filterMap]
      simp only [h.find?_eq_some_iff]
    simp only [Option.some.injEq, exists_eq_left']
    rw [addName]
    constructor
    · intro herror
      split at herror
      · next hname =>
        obtain rfl := Except.error.inj herror
        apply NameDefect.notWritable
        rw [← hnotWritable, ← Bool.not_eq_true']
        apply hname
      · next hname =>
        split at herror
        · next hcontains =>
          obtain rfl := Except.error.inj herror
          apply NameDefect.taken
          · rw [← hwritable]
            simpa using hname
          · apply htaken.mp hcontains
        · contradiction
    · intro hdefect
      cases hdefect with
      | notWritable hname => simp [hnotWritable.mpr hname]
      | taken hname hmem => simp [hwritable.mpr hname, htaken.mpr hmem]

variable {t : FlagTable}

/-- A flag with a name can be added if its names fit to those in the table. -/
theorem isOk_add_iff (h : t.Holds flags) (hnamed : f.long.isSome = true ∨ f.short.isSome = true) :
  (∃ t', t.add f = .ok t')
    ↔ (∀ n ∈ f.long, IsWritable n ∧ n ∉ flags.filterMap Flag.long)
      ∧ ∀ n ∈ f.short, IsWritable n ∧ n ∉ flags.filterMap Flag.short
  := by
  rw [← @isOk_addName_iff _ _ _ f .duplicateLongName h.byLong,
    ← @isOk_addName_iff _ _ _ f .duplicateShortName h.byShort]
  simp only [add_eq_ok_iff, hnamed, true_and]
  constructor
  · rintro ⟨_, byLong, hlong, byShort, hshort, -⟩
    exact ⟨⟨byLong, hlong⟩, byShort, hshort⟩
  · rintro ⟨⟨byLong, hlong⟩, byShort, hshort⟩
    exact ⟨_, byLong, hlong, byShort, hshort, rfl⟩

/-- The long name of a flag is looked at before the short one. -/
theorem add_eq_error_iff (h : t.Holds flags)
    (hnamed : f.long.isSome = true ∨ f.short.isSome = true) :
  t.add f = .error e
    ↔ (∃ n, f.long = some n ∧ NameDefect .duplicateLongName (flags.filterMap Flag.long) n e)
      ∨ (∀ n ∈ f.long, IsWritable n ∧ n ∉ flags.filterMap Flag.long)
        ∧ ∃ n, f.short = some n
          ∧ NameDefect .duplicateShortName (flags.filterMap Flag.short) n e
  := by
  have hlabel : (f.long.isNone && f.short.isNone) = false := by
    cases hl : f.long <;> cases hs : f.short <;> simp_all
  rw [add, if_neg (by simp [hlabel]), bind_eq_error_iff,
    ← @isOk_addName_iff _ _ _ f .duplicateLongName h.byLong, addName_eq_error_iff h.byLong]
  simp only [bind_eq_error_iff, reduceCtorEq, and_false, exists_false, or_false,
    addName_eq_error_iff h.byShort, exists_and_right]

/-- A table of flags can be built exactly if their names are well formed and distinct. -/
theorem isOk_ofList_iff (hnamed : ∀ f ∈ flags, f.long.isSome = true ∨ f.short.isSome = true) :
  (∃ t, ofList flags = .ok t)
    ↔ WellNamed (flags.filterMap Flag.long) (flags.filterMap Flag.short)
  := by
  -- The flags are added at the end, so the induction goes from the end as well.
  induction flags using List.reverseRecOn with
  | nil =>
    apply iff_of_true ⟨empty, rfl⟩
    constructor <;> simp
  | append_singleton flags f ih =>
    rw [List.forall_mem_append] at hnamed
    obtain ⟨hflags, hf⟩ := hnamed
    have hlast := hf f List.mem_cons_self
    have hfilter : ∀ key : Flag → Option Text,
        (flags ++ [f]).filterMap key = flags.filterMap key ++ (key f).toList := by
      intro key
      rw [List.filterMap_append]
      cases h : key f <;> simp [h]
    rw [hfilter, hfilter, wellNamed_append_iff, ← ih hflags]
    unfold ofList
    simp only [List.foldlM_append, List.foldlM_cons, List.foldlM_nil, bind_pure]
    constructor
    · rintro ⟨t', h⟩
      obtain ⟨t, ht, hadd⟩ := bind_eq_ok_iff.mp h
      exact ⟨⟨t, ht⟩, (isOk_add_iff (holds_ofList ht) hlast).mp ⟨t', hadd⟩⟩
    · rintro ⟨⟨t, ht⟩, hfits⟩
      obtain ⟨t', hadd⟩ := (isOk_add_iff (holds_ofList ht) hlast).mpr hfits
      exact ⟨t', bind_eq_ok_iff.mpr ⟨t, ht, hadd⟩⟩

/-- The defect of a list of flags is that of the first name that does not fit to the names
before it. -/
theorem ofList_eq_error_iff
    (hnamed : ∀ f ∈ flags, f.long.isSome = true ∨ f.short.isSome = true) :
  ofList flags = .error e
    ↔ ∃ before f after, flags = before ++ f :: after
      ∧ WellNamed (before.filterMap Flag.long) (before.filterMap Flag.short)
      ∧ ((∃ n, f.long = some n
          ∧ NameDefect .duplicateLongName (before.filterMap Flag.long) n e)
        ∨ (∀ n ∈ f.long, IsWritable n ∧ n ∉ before.filterMap Flag.long)
          ∧ ∃ n, f.short = some n
            ∧ NameDefect .duplicateShortName (before.filterMap Flag.short) n e)
  := by
  unfold ofList
  rw [foldlM_eq_error_iff]
  constructor
  · rintro ⟨before, f, after, t, rfl, ht, hadd⟩
    rw [List.forall_mem_append, List.forall_mem_cons] at hnamed
    obtain ⟨hbefore, hf, -⟩ := hnamed
    refine ⟨before, f, after, rfl, (isOk_ofList_iff hbefore).mp ⟨t, ht⟩, ?_⟩
    apply (add_eq_error_iff (holds_ofList ht) hf).mp hadd
  · rintro ⟨before, f, after, rfl, hwell, hdefect⟩
    rw [List.forall_mem_append, List.forall_mem_cons] at hnamed
    obtain ⟨hbefore, hf, -⟩ := hnamed
    obtain ⟨t, ht⟩ := (isOk_ofList_iff hbefore).mpr hwell
    refine ⟨before, f, after, t, rfl, ht, ?_⟩
    apply (add_eq_error_iff (holds_ofList ht) hf).mpr hdefect

end FlagTable

end DirectiveLint
