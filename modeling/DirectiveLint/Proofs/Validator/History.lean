import DirectiveLint.Proofs.Validator.Table
import Mathlib.Data.List.DropRight

/-!
# What a registry holds after some operations

A registry is changed by registering validators and by describing them.
`Operation.find?_apply` says what an operation does to each name.  After any operations, a
registry holds under every name the validator that was registered last, with the words that
were put to it since (`Registry.find?_entries_run`), and its names ascend
(`Registry.ascending_run`).  An operation that fails changes nothing.
-/

namespace DirectiveLint

/-- The words for a validator that nobody has described: those of its builtin kind, or else
its name. -/
def Validator.wording (name : Text) : Validator → Text
  | builtin kind => kind.description
  | _ => name

namespace Registry

variable {r : Registry} {name : Text}

/-- Something that is done to a registry. -/
inductive Operation where
  /-- A validator is put under a name. -/
  | register (name : Text) (v : Validator)
  /-- The validator of a written pattern is put under a name. -/
  | registerPattern (name written : Text)
  /-- The texts that a host wants are put under a name. -/
  | registerCustom (name : Text) (accepts : Text → Bool)
  /-- A name is described in words. -/
  | describe (name description : Text)

namespace Operation

/-- The registry after an operation; one that fails leaves it as it was. -/
def apply (r : Registry) : Operation → Registry
  | register name v => r.register name v
  | registerPattern name written =>
    match r.registerPattern name written with
    | .ok r => r
    | .error _ => r
  | registerCustom name accepts => r.register name (.custom accepts)
  | describe name description => r.describe name description

/-- The validator that the operation puts under a name, if it puts one there. -/
def registered? (name : Text) : Operation → Option Validator
  | register n v => if name = n then some v else none
  | registerPattern n written =>
    if name = n then (Pattern.ofWritten? written).map .pattern else none
  | registerCustom n accepts => if name = n then some (.custom accepts) else none
  | describe _ _ => none

/-- The words that the operation has for a name. -/
def described? (name : Text) : Operation → Option Text
  | describe n description => if name = n then some description else none
  | _ => none

end Operation

/-! ### One operation -/

theorem find?_entries_register (n : Text) (v : Validator) :
  (r.register n v).entries.find? name = if name = n then some ⟨v, none⟩ else r.entries.find? name
  := by
  unfold register
  split
  · next h => rw [h, TextMap.find?_insert_self]
  · next h => rw [TextMap.find?_insert_of_ne _ _ h]

theorem find?_entries_describe (n description : Text) :
  (r.describe n description).entries.find? name
    = (r.entries.find? name).map fun e =>
      { e with
        description := ((Operation.describe n description).described? name).or e.description }
  := by
  rw [describe, TextMap.find?_modify, Operation.described?]
  split
  · rfl
  · simp

theorem registerPattern_of_eq_none {written : Text} (h : Pattern.ofWritten? written = none) :
  r.registerPattern name written = .error (.invalidPattern name)
  := by
  rw [registerPattern, Validator.ofPattern, h]
  rfl

/-- A pattern that cannot be read leaves a registry as it was. -/
theorem Operation.apply_registerPattern_of_eq_none {written : Text}
    (h : Pattern.ofWritten? written = none) :
  (registerPattern name written).apply r = r
  := by
  rw [apply, registerPattern_of_eq_none h]

theorem Operation.apply_registerPattern_of_eq_some {written : Text} {p : Pattern}
    (h : Pattern.ofWritten? written = some p) :
  (registerPattern name written).apply r = r.register name (.pattern p)
  := by
  rw [apply, Registry.registerPattern, Validator.ofPattern, h]
  rfl

/-- The words for a name that is not registered are lost. -/
theorem describe_of_contains_eq_false (h : r.contains name = false) (description : Text) :
  r.describe name description = r
  := by
  rw [describe, TextMap.modify_of_contains_eq_false _ h]

/-- An operation that registers a name forgets what was there, and any other one adds its
words to it. -/
theorem Operation.find?_apply (o : Operation) :
  (o.apply r).entries.find? name
    = match o.registered? name with
      | some v => some ⟨v, none⟩
      | none => (r.entries.find? name).map fun e =>
        { e with description := (o.described? name).or e.description }
  := by
  cases o with
  | register n v =>
    rw [apply, find?_entries_register, registered?]
    split
    · rfl
    · simp [described?]
  | registerPattern n written =>
    cases h : Pattern.ofWritten? written with
    | none =>
      rw [apply_registerPattern_of_eq_none h, registered?, h]
      simp [described?]
    | some p =>
      rw [apply_registerPattern_of_eq_some h, find?_entries_register, registered?, h]
      split
      · rfl
      · simp [described?]
  | registerCustom n accepts =>
    rw [apply, find?_entries_register, registered?]
    split
    · rfl
    · simp [described?]
  | describe n description => apply find?_entries_describe

theorem Operation.ascending_apply (o : Operation) (h : r.entries.Ascending) :
  (o.apply r).entries.Ascending
  := by
  cases o with
  | register n v => apply h.insert
  | registerPattern n written =>
    cases hwritten : Pattern.ofWritten? written with
    | none =>
      rw [apply_registerPattern_of_eq_none hwritten]
      apply h
    | some p =>
      rw [apply_registerPattern_of_eq_some hwritten]
      apply h.insert
  | registerCustom n accepts => apply h.insert
  | describe n description =>
    apply TextMap.Ascending.modify h fun e => { e with description := some description }

/-! ### Several operations -/

/-- The registry after some operations. -/
def run (start : Registry) (ops : List Operation) : Registry := ops.foldl Operation.apply start

/-- The validator that some operations have registered last under a name. -/
def lastRegistered? (name : Text) (ops : List Operation) : Option Validator :=
  (ops.filterMap (·.registered? name)).getLast?

/-- The operations behind the last one that registers a validator under a name. -/
def sinceRegistered (name : Text) (ops : List Operation) : List Operation :=
  ops.rtakeWhile fun o => (o.registered? name).isNone

/-- The words that some operations have put last to the validator under a name. -/
def lastDescribed? (name : Text) (ops : List Operation) : Option Text :=
  ((sinceRegistered name ops).filterMap (·.described? name)).getLast?

theorem run_concat (start : Registry) (ops : List Operation) (o : Operation) :
  run start (ops ++ [o]) = o.apply (run start ops)
  := List.foldl_concat ..

/-- After operations, a registry holds under a name the validator that they have registered
last, or else the one that was there, with the words that they have put to it since. -/
theorem find?_entries_run {start : Registry}
    (hstart : ∀ e, start.entries.find? name = some e → e.description = none)
    (ops : List Operation) :
  (run start ops).entries.find? name
    = ((lastRegistered? name ops).or (start.find? name)).map (⟨·, lastDescribed? name ops⟩)
  := by
  induction ops using List.reverseRecOn with
  | nil =>
    change start.entries.find? name = ((start.entries.find? name).map _).map _
    cases h : start.entries.find? name with
    | none => rfl
    | some e =>
      obtain ⟨v, description⟩ := e
      obtain rfl : description = none := hstart _ h
      rfl
  | append_singleton ops o ih =>
    rw [run_concat, o.find?_apply, ih]
    cases h : o.registered? name with
    | some v =>
      have hlast : lastRegistered? name (ops ++ [o]) = some v := by
        simp [lastRegistered?, h]
      have hwords : lastDescribed? name (ops ++ [o]) = none := by
        rw [lastDescribed?, sinceRegistered, List.rtakeWhile_concat_neg _ _ _ (by simp [h])]
        rfl
      rw [hlast, hwords]
      rfl
    | none =>
      have hlast : lastRegistered? name (ops ++ [o]) = lastRegistered? name ops := by
        simp [lastRegistered?, h]
      have hwords : lastDescribed? name (ops ++ [o])
          = (o.described? name).or (lastDescribed? name ops) := by
        rw [lastDescribed?, sinceRegistered, List.rtakeWhile_concat_pos _ _ _ (by simp [h]),
          List.filterMap_append, List.getLast?_append]
        cases hd : o.described? name <;> simp [hd, lastDescribed?, sinceRegistered]
      rw [hlast, hwords, Option.map_map]
      rfl

theorem ascending_run {start : Registry} (hstart : start.entries.Ascending)
    (ops : List Operation) :
  (run start ops).entries.Ascending
  := by
  induction ops using List.reverseRecOn with
  | nil => apply hstart
  | append_singleton ops o ih =>
    rw [run_concat]
    apply o.ascending_apply ih

/-! ### Registries that are not described -/

/-- A registry that operations start from: the builtin kinds under their own names, or none. -/
inductive IsStart : Registry → Prop where
  | builtins : IsStart builtins
  | empty : IsStart empty

theorem builtins_eq_run :
  builtins = run empty (Builtin.all.map fun kind => .register kind.name (.builtin kind))
  := by
  rw [run, List.foldl_map]
  rfl

/-- The builtin kinds are registered under their own names and nothing else is. -/
theorem find?_builtins :
  builtins.find? name = (Builtin.ofName? name).map .builtin
  := by
  cases h : Builtin.ofName? name with
  | none =>
    have hcontains : ¬ builtins.contains name = true := by
      rw [contains_builtins, not_exists]
      apply Builtin.ofName?_eq_none_iff.mp h
    simpa [contains, TextMap.contains, find?] using hcontains
  | some kind =>
    rw [← Builtin.name_of_ofName? h]
    cases kind <;> rfl

theorem IsStart.ascending {start : Registry} (h : start.IsStart) :
  start.entries.Ascending
  := by
  cases h with
  | builtins =>
    rw [builtins_eq_run]
    apply ascending_run List.Pairwise.nil
  | empty => apply List.Pairwise.nil

theorem IsStart.description_eq_none {start : Registry} (h : start.IsStart) {e : Registration}
    (he : start.entries.find? name = some e) :
  e.description = none
  := by
  cases h with
  | builtins =>
    have hempty : ∀ e, Registry.empty.entries.find? name = some e → e.description = none :=
      fun e he => nomatch he
    rw [builtins_eq_run, find?_entries_run hempty] at he
    obtain ⟨v, -, rfl⟩ := Option.map_eq_some_iff.mp he
    dsimp only
    have hwords : ∀ o ∈ Builtin.all.map fun kind => Operation.register kind.name (.builtin kind),
        o.described? name = none := by
      intro o ho
      obtain ⟨kind, -, rfl⟩ := List.mem_map.mp ho
      rfl
    rw [lastDescribed?, List.getLast?_eq_none_iff, List.filterMap_eq_nil_iff]
    intro o ho
    apply hwords o
    apply (List.rtakeWhile_suffix _ _).subset ho
  | empty => contradiction

theorem description_eq_elim :
  r.description name
    = (r.entries.find? name).elim name fun e => e.description.getD (e.validator.wording name)
  := by
  unfold description
  cases r.entries.find? name with
  | none => rfl
  | some e =>
    obtain ⟨v, _ | description⟩ := e
    · cases v <;> rfl
    · rfl

theorem mem_names_iff :
  name ∈ r.names ↔ (r.find? name).isSome = true
  := by
  rw [names, ← TextMap.contains_iff_mem_keys, TextMap.contains, find?, Option.isSome_map]

/-- After any operations on the builtin kinds or on no validators, a registry holds under
every name the validator that was registered last under it, or else the one from the start.
The words for a name are the last that were put to it since then, or else those of the
validator, and a name that is not registered stands for itself.  A pattern that cannot be
read and words for a name that is not registered change nothing in any registry.  The names
ascend, are those under which there is a validator, and are counted by the size. -/
theorem run_last_write_wins {start : Registry} (hstart : start.IsStart)
    (ops : List Operation) :
  (∀ name, (run start ops).find? name = (lastRegistered? name ops).or (start.find? name))
    ∧ (∀ name, builtins.find? name = (Builtin.ofName? name).map .builtin
      ∧ empty.find? name = none)
    ∧ (∀ name, (run start ops).description name
      = ((run start ops).find? name).elim name fun v =>
        (lastDescribed? name ops).getD (v.wording name))
    ∧ (∀ (r : Registry) name written, Pattern.ofWritten? written = none →
      r.registerPattern name written = .error (.invalidPattern name)
        ∧ (Operation.registerPattern name written).apply r = r)
    ∧ (∀ (r : Registry) name description, r.contains name = false →
      (Operation.describe name description).apply r = r)
    ∧ (run start ops).names.Pairwise (· < ·)
    ∧ (∀ name, name ∈ (run start ops).names
      ↔ ((lastRegistered? name ops).or (start.find? name)).isSome = true)
    ∧ (run start ops).names.length = (run start ops).size
  := by
  have hentries : ∀ name, (run start ops).entries.find? name
      = ((lastRegistered? name ops).or (start.find? name)).map (⟨·, lastDescribed? name ops⟩) := by
    intro name
    apply find?_entries_run
    intro e he
    apply hstart.description_eq_none he
  have hfind : ∀ name,
      (run start ops).find? name = (lastRegistered? name ops).or (start.find? name) := by
    intro name
    rw [find?, hentries, Option.map_map]
    apply Option.map_id'
  refine ⟨hfind, ?_, ?_, ?_, ?_, ?_, ?_, ?_⟩
  · intro name
    exact ⟨find?_builtins, rfl⟩
  · intro name
    rw [description_eq_elim, hfind, hentries]
    cases (lastRegistered? name ops).or (start.find? name) <;> rfl
  · intro r name written h
    exact ⟨registerPattern_of_eq_none h, Operation.apply_registerPattern_of_eq_none h⟩
  · intro r name description h
    apply describe_of_contains_eq_false h
  · apply TextMap.ascending_iff_keys.mp
    apply ascending_run hstart.ascending
  · intro name
    rw [mem_names_iff, hfind]
  · apply List.length_map

/-- Words that come before their validator are lost, a pattern that cannot be read leaves the
words that are there, and a new validator under the name of a builtin kind takes over its
own words. -/
theorem run_last_write_wins_again :
  let ops : List Operation :=
    [.describe "word".toList "lost".toList, .registerPattern "word".toList "a+".toList,
      .describe "word".toList "some letters".toList, .registerPattern "word".toList "[".toList,
      .register "delay".toList (.builtin .string)]
  builtins.IsStart
    ∧ Pattern.ofWritten? "[".toList = none
    ∧ empty.contains "word".toList = false
    ∧ (run builtins ops).description "word".toList = "some letters".toList
    ∧ (run builtins ops).description "delay".toList = Builtin.string.description
    ∧ "word".toList ∈ (run builtins ops).names
    ∧ (Operation.registerPattern "word".toList "[".toList).apply builtins = builtins
    ∧ (Operation.describe "word".toList "lost".toList).apply empty = empty
  := by
  intro ops
  have hunread : Pattern.ofWritten? "[".toList = none := by decide +kernel
  obtain ⟨hfind, -, hwords, hpattern, hdescribe, -, hnames, -⟩ :=
    run_last_write_wins .builtins ops
  refine ⟨.builtins, hunread, rfl, ?_, ?_, ?_, ?_, ?_⟩
  · rw [hwords, hfind]
    rfl
  · rw [hwords, hfind]
    rfl
  · rw [hnames]
    rfl
  · exact (hpattern builtins _ _ hunread).2
  · apply hdescribe
    rfl

end Registry

end DirectiveLint
