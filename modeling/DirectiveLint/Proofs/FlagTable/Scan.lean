import DirectiveLint.Proofs.FlagTable.Names
import Mathlib.Data.List.Nodup

/-!
# Look-up and scan

A table of flags answers as a scan of the list that it was built from: the flag under a name is
the only one of the list that has it, whichever map is asked, and every flag is found under the
name by which it is called (`FlagTable.resolve_agrees_with_scan`).
-/

namespace DirectiveLint

variable {m : TextMap Flag} {key : Flag → Option Text} {flags : List Flag} {f : Flag}
  {t : FlagTable} {name : Text}

/-- If no two flags have a name in common, the flag that a map gives under a name is the only
one that has it. -/
theorem HoldsNames.toList_find? (h : HoldsNames m key flags)
    (hnodup : (flags.filterMap key).Nodup) (name : Text) :
  (m.find? name).toList = flags.filter fun f => key f = some name
  := by
  symm
  cases hf : m.find? name with
  | none =>
    apply List.filter_eq_nil_iff.mpr
    intro f hmem
    rw [decide_eq_true_iff]
    intro hname
    rw [h.find?_eq_some_iff.mpr ⟨hmem, hname⟩] at hf
    contradiction
  | some f =>
    obtain ⟨hmem, hname⟩ := h.find?_eq_some_iff.mp hf
    obtain ⟨before, after, rfl⟩ := List.append_of_mem hmem
    rw [List.filterMap_append, List.filterMap_cons_some hname, List.nodup_middle,
      List.nodup_cons, ← List.filterMap_append] at hnodup
    have hothers : ∀ g ∈ before ++ after, key g ≠ some name := by
      intro g hg hname'
      apply hnodup.1
      apply List.mem_filterMap.mpr ⟨g, hg, hname'⟩
    rw [List.forall_mem_append] at hothers
    have hbefore : before.filter (fun g => key g = some name) = [] := by
      simpa using hothers.1
    have hafter : after.filter (fun g => key g = some name) = [] := by
      simpa using hothers.2
    rw [List.filter_append, hbefore, List.filter_cons_of_pos (by simpa using hname), hafter]
    rfl

/-- No flag has an empty name. -/
theorem HoldsNames.find?_nil (h : HoldsNames m key flags) :
  m.find? [] = none
  := by
  apply Option.eq_none_iff_forall_ne_some.mpr
  intro f hf
  obtain ⟨hmem, hname⟩ := h.find?_eq_some_iff.mp hf
  apply (isFlagName_iff.mp (h.isFlagName hmem hname)).1 rfl

namespace FlagTable

/-- Every flag of a table has a name. -/
theorem isSome_of_ofList (h : ofList flags = .ok t) :
  ∀ f ∈ flags, f.long.isSome = true ∨ f.short.isSome = true
  := by
  induction flags using List.reverseRecOn generalizing t with
  | nil => nofun
  | append_singleton flags f ih =>
    unfold ofList at h ih
    rw [List.foldlM_append] at h
    obtain ⟨u, hflags, hf⟩ := bind_eq_ok_iff.mp h
    rw [List.foldlM_cons] at hf
    obtain ⟨v, hadd, -⟩ := bind_eq_ok_iff.mp hf
    rw [List.forall_mem_append, List.forall_mem_singleton]
    exact ⟨ih hflags, (add_eq_ok_iff.mp hadd).1⟩

theorem wellNamed_of_ofList (h : ofList flags = .ok t) :
  WellNamed (flags.filterMap Flag.long) (flags.filterMap Flag.short)
  := (isOk_ofList_iff (isSome_of_ofList h)).mp ⟨t, h⟩

/-- A name stands for the flags that have it. -/
theorem resolve_eq_some_iff_hasName (h : t.Holds flags) :
  (t.resolve name).long = some f ∨ (t.resolve name).short = some f
    ↔ f ∈ flags ∧ f.hasName name = true
  := by
  simp only [resolve, h.byLong.find?_eq_some_iff, h.byShort.find?_eq_some_iff, ← and_or_left,
    Flag.hasName, Bool.or_eq_true, beq_iff_eq]

theorem isKnown_resolve_iff (h : t.Holds flags) :
  (t.resolve name).isKnown = true ↔ ∃ f ∈ flags, f.hasName name = true
  := by
  simp only [Resolution.isKnown, Bool.or_eq_true, Option.isSome_iff_exists, ← exists_or,
    resolve_eq_some_iff_hasName h]

/-! ### Names as they are written -/

/-- The flag with a name of the kind that goes with some dashes; a name without dashes may be
of either kind. -/
def findBehind (t : FlagTable) (name : Text) : DashStyle → Option Flag
  | .single => t.byShort.find? name
  | .double => t.byLong.find? name
  | .none => (t.resolve name).flagFor .none

/-- A written name is looked up behind its dashes, of which two at most are cut off. -/
theorem find?_append (t : FlagTable) {dashes : Text}
    (h : dashes = ['-', '-'] ∨ (dashes = ['-'] ∨ dashes = []) ∧ name.head? ≠ some '-') :
  t.find? (dashes ++ name) = t.findBehind name (.ofCount dashes.length)
  := by
  rcases h with rfl | ⟨rfl | rfl, hname⟩
  · rfl
  · cases name with
    | nil => rfl
    | cons c name =>
      have hc : c ≠ '-' := fun hc => hname (congrArg some hc)
      simp [find?, findBehind, DashStyle.ofCount, hc]
  · cases name with
    | nil => rfl
    | cons c name =>
      have hc : c ≠ '-' := fun hc => hname (congrArg some hc)
      simp [find?, findBehind, DashStyle.ofCount, hc]

/-- A flag is found under the name by which it is called. -/
theorem find?_canonicalName (h : ofList flags = .ok t) (hf : f ∈ flags) :
  t.find? f.canonicalName = some f
  := by
  have ht := holds_ofList h
  unfold Flag.canonicalName
  cases hlong : f.long with
  | some name =>
    apply (t.find?_append (.inl rfl)).trans
    apply ht.byLong.find?_eq_some_iff.mpr ⟨hf, hlong⟩
  | none =>
    cases hshort : f.short with
    | some name =>
      have hname := isFlagName_iff.mp (ht.byShort.isFlagName hf hshort)
      apply (t.find?_append (.inr ⟨.inl rfl, hname.2.1⟩)).trans
      apply ht.byShort.find?_eq_some_iff.mpr ⟨hf, hshort⟩
    | none =>
      have hnamed := isSome_of_ofList h f hf
      rw [hlong, hshort] at hnamed
      simp at hnamed

/-- A table of flags answers as a scan of the list that it was built from.  It holds the flags
in their order.  A name stands for the only flag that has it as a long name and for the only one
that has it as a short name, and so for the flags that have it.  Each flag is found under the
name by which it is called. -/
theorem resolve_agrees_with_scan (h : ofList flags = .ok t) :
  t.flags = flags
    ∧ (∀ name, (t.resolve name).long.toList = (flags.filter fun f => f.long = some name)
      ∧ (t.resolve name).short.toList = (flags.filter fun f => f.short = some name)
      ∧ ∀ f, (t.resolve name).long = some f ∨ (t.resolve name).short = some f
        ↔ f ∈ flags ∧ f.hasName name = true)
    ∧ ∀ f ∈ flags, t.find? f.canonicalName = some f
  := by
  have ht := holds_ofList h
  have hnames := wellNamed_of_ofList h
  refine ⟨ht.flags_eq, ?_, fun f => find?_canonicalName h⟩
  intro name
  exact ⟨ht.byLong.toList_find? hnames.nodup_long name,
    ht.byShort.toList_find? hnames.nodup_short name, fun f => resolve_eq_some_iff_hasName ht⟩

/-- A name that is long for one flag and short for another stands for both. -/
theorem resolve_agrees_with_scan_shared :
  let long : Flag := ⟨some ['x'], none, none, .empty⟩
  let both : Flag := ⟨some ['y'], some ['x'], none, .empty⟩
  ∃ t, ofList [long, both] = .ok t ∧ (t.resolve ['x']).long.toList = [long]
    ∧ (t.resolve ['x']).short.toList = [both] ∧ t.find? "--x".toList = some long
    ∧ t.find? "--y".toList = some both
  := by
  intro long both
  refine ⟨⟨[long, both], [(['x'], long), (['y'], both)], [(['x'], both)]⟩, rfl, ?_⟩
  obtain ⟨-, hscan, hfind⟩ := @resolve_agrees_with_scan [long, both] _ rfl
  obtain ⟨hlong, hshort, -⟩ := hscan ['x']
  exact ⟨hlong, hshort, hfind long List.mem_cons_self,
    hfind both (List.mem_cons_of_mem long List.mem_cons_self)⟩

end FlagTable

end DirectiveLint
