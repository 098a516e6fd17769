import DirectiveLint.Proofs.Steps
import DirectiveLint.Proofs.Text.Order
import DirectiveLint.Validator.Table

/-!
# The validators of a table

`ValidatorSpec.Sound` says which rules give a validator, `ValidatorSpec.Gives` which one, and
`ValidatorSpec.Defect` what is wrong with any other rule; all go by what is written in the
rule.  A table makes a registry exactly if all its rules are sound
(`Registry.isOk_ofTable_iff`), the defect that is reported is the one of the rule with the least
name among the unsound ones (`Registry.ofTable_eq_error_iff`), and the registry knows the names
of the table and those of the builtin kinds (`Registry.contains_ofTable`).
-/

namespace DirectiveLint

namespace ValidatorSpec

/-- The rule gives a validator: it is a pattern that can be read, or it has one of such a
pattern and the name of a builtin kind, and not the other. -/
inductive Sound : ValidatorSpec → Prop where
  | bare {written : Text} {p : Pattern} (h : Pattern.ofWritten? written = some p) :
    Sound (.pattern written)
  | pattern {written : Text} {p : Pattern} {description : Option Text}
      (h : Pattern.ofWritten? written = some p) :
    Sound (.rule ⟨some written, none, description⟩)
  | builtin (kind : Builtin) {description : Option Text} :
    Sound (.rule ⟨none, some kind.name, description⟩)

/-- The validator that a rule gives: that of its pattern, or the builtin kind that it names. -/
inductive Gives : ValidatorSpec → Validator → Prop where
  | bare {written : Text} {p : Pattern} (h : Pattern.ofWritten? written = some p) :
    Gives (.pattern written) (.pattern p)
  | pattern {written : Text} {p : Pattern} {description : Option Text}
      (h : Pattern.ofWritten? written = some p) :
    Gives (.rule ⟨some written, none, description⟩) (.pattern p)
  | builtin (kind : Builtin) {description : Option Text} :
    Gives (.rule ⟨none, some kind.name, description⟩) (.builtin kind)

/-- What is wrong with the rule for a name. -/
inductive Defect (name : Text) : ValidatorSpec → SchemaError → Prop where
  | bare {written : Text} (h : Pattern.ofWritten? written = none) :
    Defect name (.pattern written) (.invalidPattern name)
  | pattern {written : Text} {description : Option Text}
      (h : Pattern.ofWritten? written = none) :
    Defect name (.rule ⟨some written, none, description⟩) (.invalidPattern name)
  | builtin {kind : Text} {description : Option Text} (h : ∀ k : Builtin, k.name ≠ kind) :
    Defect name (.rule ⟨none, some kind, description⟩) (.unknownBuiltin name kind)
  | both {written kind : Text} {description : Option Text} :
    Defect name (.rule ⟨some written, some kind, description⟩) (.invalidValidatorRule name)
  | neither {description : Option Text} :
    Defect name (.rule ⟨none, none, description⟩) (.invalidValidatorRule name)

end ValidatorSpec

namespace Builtin

theorem mem_all (kind : Builtin) :
  kind ∈ all
  := by
  cases kind <;> decide

theorem ofName?_name (kind : Builtin) :
  ofName? kind.name = some kind
  := by
  cases kind <;> decide

theorem ofName?_eq_none_iff {name : Text} :
  ofName? name = none ↔ ∀ kind : Builtin, kind.name ≠ name
  := by
  unfold ofName?
  simp [List.find?_eq_none, mem_all]

theorem name_of_ofName? {name : Text} {kind : Builtin} (h : ofName? name = some kind) :
  kind.name = name
  := by
  simpa using List.find?_some h

end Builtin

theorem Validator.ofPattern_eq_ok_iff {name written : Text} {v : Validator} :
  ofPattern name written = .ok v ↔ ∃ p, Pattern.ofWritten? written = some p ∧ .pattern p = v
  := by
  unfold ofPattern
  cases Pattern.ofWritten? written <;> simp

theorem Validator.ofPattern_eq_error_iff {name written : Text} {e : SchemaError} :
  ofPattern name written = .error e
    ↔ Pattern.ofWritten? written = none ∧ .invalidPattern name = e
  := by
  unfold ofPattern
  cases Pattern.ofWritten? written <;> simp

namespace ValidatorSpec

variable {name : Text} {spec : ValidatorSpec} {e : SchemaError}

theorem toValidator_eq_ok_iff {v : Validator} :
  spec.toValidator name = .ok v ↔ spec.Gives v
  := by
  constructor
  · intro h
    unfold toValidator at h
    split at h
    · obtain ⟨p, hp, rfl⟩ := Validator.ofPattern_eq_ok_iff.mp h
      apply Gives.bare hp
    · obtain ⟨p, hp, rfl⟩ := Validator.ofPattern_eq_ok_iff.mp h
      apply Gives.pattern hp
    · split at h
      · next hkind =>
        obtain rfl := Except.ok.inj h
        rw [← Builtin.name_of_ofName? hkind]
        apply Gives.builtin
      · contradiction
    · contradiction
  · intro h
    cases h with
    | bare h => apply Validator.ofPattern_eq_ok_iff.mpr ⟨_, h, rfl⟩
    | pattern h => apply Validator.ofPattern_eq_ok_iff.mpr ⟨_, h, rfl⟩
    | builtin kind => simp [toValidator, Builtin.ofName?_name]

/-- Exactly the sound rules give a validator. -/
theorem exists_gives_iff :
  (∃ v, spec.Gives v) ↔ spec.Sound
  := by
  constructor
  · rintro ⟨v, h⟩
    cases h with
    | bare h => apply Sound.bare h
    | pattern h => apply Sound.pattern h
    | builtin kind => apply Sound.builtin
  · intro h
    cases h with
    | bare h => exact ⟨_, .bare h⟩
    | pattern h => exact ⟨_, .pattern h⟩
    | builtin kind => exact ⟨_, .builtin kind⟩

theorem isOk_toValidator_iff :
  (∃ v, spec.toValidator name = .ok v) ↔ spec.Sound
  := by
  simp only [toValidator_eq_ok_iff, exists_gives_iff]

theorem toValidator_eq_error_iff :
  spec.toValidator name = .error e ↔ spec.Defect name e
  := by
  constructor
  · intro h
    unfold toValidator at h
    split at h
    · obtain ⟨hp, rfl⟩ := Validator.ofPattern_eq_error_iff.mp h
      apply Defect.bare hp
    · obtain ⟨hp, rfl⟩ := Validator.ofPattern_eq_error_iff.mp h
      apply Defect.pattern hp
    · split at h
      · contradiction
      · next hkind =>
        obtain rfl := Except.error.inj h
        apply Defect.builtin (Builtin.ofName?_eq_none_iff.mp hkind)
    · next r hpattern hbuiltin =>
      obtain rfl := Except.error.inj h
      obtain ⟨written, kind, description⟩ := r
      cases written with
      | none =>
        cases kind with
        | none => apply Defect.neither
        | some kind => cases hbuiltin kind description rfl
      | some written =>
        cases kind with
        | none => cases hpattern written description rfl
        | some kind => apply Defect.both
  · intro h
    cases h with
    | bare h => exact Validator.ofPattern_eq_error_iff.mpr ⟨h, rfl⟩
    | pattern h => exact Validator.ofPattern_eq_error_iff.mpr ⟨h, rfl⟩
    | builtin h => simp [toValidator, Builtin.ofName?_eq_none_iff.mpr h]
    | both => rfl
    | neither => rfl

end ValidatorSpec

namespace Registry

variable {r r' : Registry} {name : Text} {spec : ValidatorSpec} {table : ValidatorTable}
  {e : SchemaError}

theorem contains_register (v : Validator) {other : Text} :
  (r.register name v).contains other = true ↔ other = name ∨ r.contains other = true
  := by
  unfold contains register
  rw [TextMap.contains_iff_mem_keys, TextMap.contains_iff_mem_keys, TextMap.mem_keys_insert]

theorem contains_describe (description : Text) {other : Text} :
  (r.describe name description).contains other = r.contains other
  := by
  rw [Bool.eq_iff_iff]
  unfold contains describe
  rw [TextMap.contains_iff_mem_keys, TextMap.contains_iff_mem_keys, TextMap.keys_modify]

/-- The builtin validators are registered under the names of their kinds. -/
theorem contains_builtins {name : Text} :
  builtins.contains name = true ↔ ∃ kind : Builtin, kind.name = name
  := by
  have hfold : ∀ (kinds : List Builtin) (r : Registry),
      (kinds.foldl (fun r kind => r.register kind.name (.builtin kind)) r).contains name = true
        ↔ r.contains name = true ∨ ∃ kind ∈ kinds, kind.name = name := by
    intro kinds
    induction kinds with
    | nil => simp
    | cons kind kinds ih =>
      intro r
      simp only [List.foldl_cons, ih, contains_register, List.mem_cons, exists_eq_or_imp]
      rw [@eq_comm _ name, or_assoc, or_left_comm]
  unfold builtins
  rw [hfold]
  simp [empty, contains, TextMap.contains, TextMap.find?, Builtin.mem_all]

theorem addSpec_eq_ok_iff :
  r.addSpec name spec = .ok r'
    ↔ ∃ v, spec.toValidator name = .ok v
      ∧ spec.description?.elim (r.register name v) ((r.register name v).describe name) = r'
  := by
  unfold addSpec
  cases spec.toValidator name with
  | error defect => simp
  | ok v => cases spec.description? <;> simp

theorem addSpec_eq_error_iff :
  r.addSpec name spec = .error e ↔ spec.Defect name e
  := by
  rw [← ValidatorSpec.toValidator_eq_error_iff]
  unfold addSpec
  cases spec.toValidator name with
  | error defect => simp
  | ok v => cases spec.description? <;> simp

theorem contains_addSpec (h : r.addSpec name spec = .ok r') {other : Text} :
  r'.contains other = true ↔ other = name ∨ r.contains other = true
  := by
  obtain ⟨v, -, rfl⟩ := addSpec_eq_ok_iff.mp h
  cases spec.description? with
  | none => apply contains_register
  | some description =>
    rw [Option.elim_some, contains_describe]
    apply contains_register

/-- A table makes a registry exactly if its rules are sound. -/
theorem isOk_ofTable_iff :
  (∃ r, ofTable table = .ok r) ↔ ∀ rule ∈ table, rule.2.Sound
  := by
  apply isOk_foldlM_iff
  rintro r ⟨name, spec⟩
  rw [← @ValidatorSpec.isOk_toValidator_iff name]
  simp only [addSpec_eq_ok_iff]
  constructor
  · rintro ⟨_, v, hv, -⟩
    exact ⟨v, hv⟩
  · rintro ⟨v, hv⟩
    exact ⟨_, v, hv, rfl⟩

/-- The defect of a table is that of its first unsound rule in the order of the names. -/
theorem ofTable_eq_error_iff (h : table.Ascending) :
  ofTable table = .error e
    ↔ ∃ name spec, (name, spec) ∈ table ∧ spec.Defect name e
      ∧ ∀ rule ∈ table, rule.1 < name → rule.2.Sound
  := by
  unfold ofTable
  rw [foldlM_eq_error_iff]
  constructor
  · rintro ⟨before, ⟨name, spec⟩, after, r, rfl, hbefore, hdefect⟩
    refine ⟨name, spec, List.mem_append_right before List.mem_cons_self, ?_, ?_⟩
    · apply addSpec_eq_error_iff.mp hdefect
    · intro rule hrule hlt
      rcases List.mem_append.mp hrule with hrule | hrule
      · apply isOk_ofTable_iff.mp ⟨r, hbefore⟩ rule hrule
      · obtain ⟨-, hafter, -⟩ := List.pairwise_append.mp h
        rcases List.mem_cons.mp hrule with rfl | hrule
        · cases List.lt_irrefl _ hlt
        · have hgt := (List.pairwise_cons.mp hafter).1 rule hrule
          cases List.lt_irrefl _ (List.lt_trans hlt hgt)
  · rintro ⟨name, spec, hmem, hdefect, hsound⟩
    obtain ⟨before, after, rfl⟩ := List.append_of_mem hmem
    obtain ⟨-, -, hless⟩ := List.pairwise_append.mp h
    have hbefore : ∀ rule ∈ before, rule.2.Sound := by
      intro rule hrule
      apply hsound rule (List.mem_append_left _ hrule)
      apply hless rule hrule (name, spec) List.mem_cons_self
    obtain ⟨r, hr⟩ := isOk_ofTable_iff.mpr hbefore
    exact ⟨before, (name, spec), after, r, rfl, hr, addSpec_eq_error_iff.mpr hdefect⟩

/-- The registry of a table knows the names of the table and of the builtin kinds. -/
theorem contains_ofTable (h : ofTable table = .ok r) {name : Text} :
  r.contains name = true ↔ name ∈ table.keys ∨ ∃ kind : Builtin, kind.name = name
  := by
  have hfold : ∀ (table : ValidatorTable) (r r' : Registry),
      List.foldlM (fun r rule => addSpec r rule.1 rule.2) r table = .ok r' →
        (r'.contains name = true ↔ name ∈ table.keys ∨ r.contains name = true) := by
    intro table
    induction table with
    | nil =>
      intro r r' h
      obtain rfl := Except.ok.inj h
      simp [TextMap.keys]
    | cons rule table ih =>
      intro r r' h
      rw [List.foldlM_cons] at h
      obtain ⟨s, hs, hr'⟩ := bind_eq_ok_iff.mp h
      rw [ih s r' hr', contains_addSpec hs, TextMap.keys, TextMap.keys, List.map_cons,
        List.mem_cons, or_left_comm, or_assoc]
  rw [← contains_builtins]
  apply hfold table builtins r h

end Registry

end DirectiveLint
