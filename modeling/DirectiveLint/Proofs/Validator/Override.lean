import DirectiveLint.Proofs.Validator.History
import Mathlib.Tactic.Use

/-!
# What a table does to the builtin validators

A table adds its validators to the builtin ones, rule by rule.  `Registry.find?_entries_addSpec`
says what one rule does to each name.  As the names of a table are distinct, no rule touches
what another one has registered, so the registry of a table holds under each name of the table
what its own rule gives, and under any other name the builtin kind with that name
(`Registry.ofTable_overrides_builtins`).
-/

namespace DirectiveLint

/-- A rule gives one validator at most. -/
theorem ValidatorSpec.Gives.unique {spec : ValidatorSpec} {v v' : Validator} (h : spec.Gives v)
    (h' : spec.Gives v') :
  v = v'
  := by
  have hv := (@toValidator_eq_ok_iff [] spec v).mpr h
  rw [toValidator_eq_ok_iff.mpr h'] at hv
  apply (Except.ok.inj hv).symm

namespace Registry

variable {r r' : Registry} {name : Text} {spec : ValidatorSpec} {table : ValidatorTable}

/-- A rule puts its validator under its name, described in its own words or not at all, and
leaves all other names alone. -/
theorem find?_entries_addSpec (h : r.addSpec name spec = .ok r') :
  ∃ v, spec.Gives v ∧ ∀ other, r'.entries.find? other
    = if other = name then some ⟨v, spec.description?⟩ else r.entries.find? other
  := by
  obtain ⟨v, hv, rfl⟩ := addSpec_eq_ok_iff.mp h
  use v, ValidatorSpec.toValidator_eq_ok_iff.mp hv
  intro other
  cases spec.description? with
  | none => apply find?_entries_register
  | some description =>
    rw [Option.elim_some, find?_entries_describe, find?_entries_register,
      Operation.described?]
    split
    · rfl
    · simp

/-- After the rules of a table, the names of the table hold what their own rules give, and all
other names hold what they held before. -/
theorem find?_entries_foldlM_addSpec (hkeys : table.keys.Nodup)
    (h : List.foldlM (fun r rule => addSpec r rule.1 rule.2) r table = .ok r') :
  (∀ name spec, (name, spec) ∈ table →
      ∃ v, spec.Gives v ∧ r'.entries.find? name = some ⟨v, spec.description?⟩)
    ∧ ∀ name, name ∉ table.keys → r'.entries.find? name = r.entries.find? name
  := by
  induction table generalizing r with
  | nil =>
    obtain rfl := Except.ok.inj h
    exact ⟨nofun, fun _ _ => rfl⟩
  | cons rule table ih =>
    obtain ⟨key, first⟩ := rule
    rw [List.foldlM_cons] at h
    obtain ⟨s, hs, hmore⟩ := bind_eq_ok_iff.mp h
    obtain ⟨hkey, htable⟩ := List.nodup_cons.mp hkeys
    obtain ⟨v, hv, hfind⟩ := find?_entries_addSpec hs
    obtain ⟨hin, hout⟩ := ih htable hmore
    constructor
    · intro name spec hmem
      rcases List.mem_cons.mp hmem with heq | hmem
      · obtain ⟨rfl, rfl⟩ := Prod.mk.inj heq
        use v, hv
        -- The rules behind the first one have other names, so they leave its validator there.
        rw [hout name hkey, hfind, if_pos rfl]
      · apply hin name spec hmem
    · intro name hname
      obtain ⟨hne, hrest⟩ := not_or.mp (mt List.mem_cons.mpr hname)
      rw [hout name hrest, hfind, if_neg hne]

theorem find?_of_entries {v : Validator} {description : Option Text}
    (h : r.entries.find? name = some ⟨v, description⟩) :
  r.find? name = some v ∧ r.description name = description.getD (v.wording name)
  := by
  constructor
  · rw [find?, h]
    rfl
  · rw [description_eq_elim, h]
    rfl

/-- Under the name of a builtin kind, the builtin validators hold that kind, which nobody has
described. -/
theorem find?_entries_builtins (kind : Builtin) :
  builtins.entries.find? kind.name = some ⟨.builtin kind, none⟩
  := by
  have hfind : builtins.find? kind.name = some (.builtin kind) := by
    rw [find?_builtins, Builtin.ofName?_name]
    rfl
  obtain ⟨⟨v, description⟩, he, rfl⟩ := Option.map_eq_some_iff.mp hfind
  obtain rfl : description = none := IsStart.builtins.description_eq_none he
  apply he

/-- The registry of a table extends and overrides the builtin validators name by name.  It has
the names of the table and those of the builtin kinds.  Under a name of the table is the
validator that the rule for it gives, described by the words of the rule if it has some, or
else by those of the kind if the validator is a builtin one, or else by the name.  A builtin
kind that the table does not redefine stays as it was.  A rule that names a builtin kind gives
that kind, even if the table redefines the name. -/
theorem ofTable_overrides_builtins (htable : table.Ascending) (h : ofTable table = .ok r) :
  (∀ name, name ∈ r.names ↔ name ∈ table.keys ∨ ∃ kind : Builtin, kind.name = name)
    ∧ (∀ name spec, (name, spec) ∈ table → ∃ v, spec.Gives v ∧ r.find? name = some v
      ∧ r.description name = spec.description?.getD (v.wording name))
    ∧ (∀ kind : Builtin, kind.name ∉ table.keys → r.find? kind.name = some (.builtin kind)
      ∧ r.description kind.name = kind.description)
    ∧ ∀ name (kind : Builtin) description,
      (name, .rule ⟨none, some kind.name, description⟩) ∈ table →
      ∀ t, r.accepts name t = kind.accepts t
  := by
  obtain ⟨hin, hout⟩ := find?_entries_foldlM_addSpec htable.nodup_keys h
  refine ⟨?_, ?_, ?_, ?_⟩
  · intro name
    rw [names, ← TextMap.contains_iff_mem_keys]
    apply contains_ofTable h
  · intro name spec hmem
    obtain ⟨v, hv, hfind⟩ := hin name spec hmem
    exact ⟨v, hv, find?_of_entries hfind⟩
  · intro kind hkind
    have hfind : r.entries.find? kind.name = some ⟨.builtin kind, none⟩ := by
      rw [hout _ hkind, find?_entries_builtins]
    apply find?_of_entries hfind
  · intro name kind description hmem t
    obtain ⟨v, hv, hfind⟩ := hin name _ hmem
    obtain rfl := hv.unique (.builtin kind)
    rw [accepts, (find?_of_entries hfind).1]
    rfl

/-- A table gives the name of one builtin kind to another.  The rules that name the first kind,
one before and one behind that name, still mean the kind and not what the table has made of its
name.  A pattern without words is called by its name. -/
theorem ofTable_overrides_builtins_aliased :
  let plain : ValidatorSpec := .rule ⟨none, some Builtin.duration.name, none⟩
  let other : ValidatorSpec := .rule ⟨none, some Builtin.string.name, some "words".toList⟩
  let table : ValidatorTable :=
    [(['a'], plain), (Builtin.duration.name, other), (['v'], .pattern "a+".toList), (['z'], plain)]
  table.Ascending ∧ ∃ r, ofTable table = .ok r
    ∧ (∀ t, r.accepts ['a'] t = Builtin.duration.accepts t)
    ∧ (∀ t, r.accepts ['z'] t = Builtin.duration.accepts t)
    ∧ (∀ t, r.accepts Builtin.duration.name t = Builtin.string.accepts t)
    ∧ r.description Builtin.duration.name = "words".toList
    ∧ r.description ['v'] = ['v'] ∧ r.find? Builtin.delay.name = some (.builtin .delay)
    ∧ ['v'] ∈ r.names
  := by
  intro plain other table
  have htable : table.Ascending := by
    apply TextMap.ascending_iff_keys.mpr
    decide
  obtain ⟨p, hp⟩ : ∃ p, Pattern.ofWritten? "a+".toList = some p := by
    apply Option.isSome_iff_exists.mp
    decide +kernel
  have hsound : ∀ rule ∈ table, rule.2.Sound := by
    simp only [table, List.forall_mem_cons]
    exact ⟨.builtin _, .builtin _, .bare hp, .builtin _, nofun⟩
  have ha : (['a'], plain) ∈ table := by simp [table]
  have hz : (['z'], plain) ∈ table := by simp [table]
  have hother : (Builtin.duration.name, other) ∈ table := by simp [table]
  have hpattern : (['v'], ValidatorSpec.pattern "a+".toList) ∈ table := by simp [table]
  obtain ⟨r, hr⟩ := isOk_ofTable_iff.mpr hsound
  obtain ⟨hnames, hin, hout, hkind⟩ := ofTable_overrides_builtins htable hr
  obtain ⟨v, -, -, hwords⟩ := hin _ _ hother
  obtain ⟨_, ⟨-⟩, -, hname⟩ := hin _ _ hpattern
  refine ⟨htable, r, hr, hkind _ .duration _ ha, hkind _ .duration _ hz,
    hkind _ .string _ hother, hwords, hname, (hout .delay (by decide)).1, ?_⟩
  apply (hnames ['v']).mpr (.inl ?_)
  decide

end Registry

end DirectiveLint
