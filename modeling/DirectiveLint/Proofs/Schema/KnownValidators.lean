import DirectiveLint.Proofs.Schema.Consistency

/-!
# Schemas know the validators that they meet

`ValueShape.mismatchM` checks a text as `ValueShape.mismatch?` does, but looks validators up in
a monad, so that a look-up can fail.  If the validators that a shape mentions are looked up
without an effect, the check has none either and comes to the same result
(`ValueShape.mismatchM_eq_pure`).  A schema that was built knows all validators that its flags
mention, so no look-up fails while a value is checked, and it does not matter what an unknown
validator would accept (`Schema.meets_known_validators`).
-/

namespace DirectiveLint

/-! ### Checks that look validators up -/

namespace ValueShape

section LookUps

variable {m : Type → Type} [Monad m]

/-- The first element of a list that does not have its shape, counted from an index; the
elements behind it are not looked at. -/
def firstMismatchM (element : Text → m (Option Mismatch)) :
    Nat → List Text → m (Option Mismatch)
  | _, [] => pure none
  | index, t :: ts => do
    match ← element t with
    | some cause => pure (some (.element index t cause))
    | none => firstMismatchM element (index + 1) ts

mutual

/-- Why a text does not have a shape, where `accepts` looks up which texts a named validator
accepts. -/
def mismatchM (accepts : Text → Text → m Bool) : ValueShape → Text → m (Option Mismatch)
  | literal expected, t => pure (if t = expected then none else some (.literal expected))
  | validator name, t => do
    let accepted ← accepts name t
    pure (if accepted then none else some (.validator name))
  | empty, t => pure (if t = [] then none else some .unexpectedValue)
  | list element delimiter, t => do
    if t = [] then
      let mismatch ← mismatchM accepts element []
      pure (mismatch.map fun _ => .emptyList)
    else firstMismatchM (mismatchM accepts element) 0 (pieces delimiter t)
  | oneOf shapes, t => do
    let count ← matchCountM accepts shapes t
    pure (match count with
      | 0 => some .noAlternative
      | 1 => none
      | n => some (.ambiguous n))
  | anyOf shapes, t => do
    let count ← matchCountM accepts shapes t
    pure (match count with
      | 0 => some .noAlternative
      | _ => none)

/-- The number of the shapes that a text has; each of them is looked at. -/
def matchCountM (accepts : Text → Text → m Bool) : List ValueShape → Text → m Nat
  | [], _ => pure 0
  | s :: ss, t => do
    let mismatch ← mismatchM accepts s t
    let count ← matchCountM accepts ss t
    pure ((if mismatch.isNone then 1 else 0) + count)

end

variable [LawfulMonad m]

theorem firstMismatchM_eq_pure {element : Text → m (Option Mismatch)}
    {element' : Text → Option Mismatch} (h : ∀ t, element t = pure (element' t)) (index : Nat)
    (ts : List Text) :
  firstMismatchM element index ts = pure (firstMismatch? element' index ts)
  := by
  induction ts generalizing index with
  | nil => rfl
  | cons t ts ih =>
    rw [firstMismatchM, firstMismatch?, h, pure_bind]
    cases element' t with
    | some cause => rfl
    | none => apply ih

theorem matchCountM_eq_pure {accepts : Text → Text → m Bool} {accepts' : Text → Text → Bool}
    {shapes : List ValueShape} {t : Text}
    (h : ∀ s ∈ shapes, s.mismatchM accepts t = pure (s.mismatch? accepts' t)) :
  matchCountM accepts shapes t = pure (matchCount accepts' shapes t)
  := by
  induction shapes with
  | nil => rfl
  | cons s ss ih =>
    obtain ⟨hs, hss⟩ := List.forall_mem_cons.mp h
    rw [matchCountM, matchCount, hs, pure_bind, ih hss, pure_bind]

/-- If looking up the mentioned validators has no effect, the check has none and finds what
the check without look-ups finds. -/
theorem mismatchM_eq_pure {accepts : Text → Text → m Bool} {accepts' : Text → Text → Bool}
    {s : ValueShape}
    (h : ∀ name, s.Mentions name → ∀ t, accepts name t = pure (accepts' name t)) (t : Text) :
  s.mismatchM accepts t = pure (s.mismatch? accepts' t)
  := by
  induction s generalizing t with
  | literal expected => rw [mismatchM, mismatch?]
  | validator name => rw [mismatchM, mismatch?, h name .validator, pure_bind]
  | empty => rw [mismatchM, mismatch?]
  | list element d ih =>
    have helement : ∀ u, element.mismatchM accepts u = pure (element.mismatch? accepts' u) := by
      apply ih
      intro name hname
      apply h name (.list hname)
    rw [mismatchM, mismatch?]
    split
    · rw [helement, pure_bind]
    · apply firstMismatchM_eq_pure helement
  | oneOf shapes ih =>
    have hcount : matchCountM accepts shapes t = pure (matchCount accepts' shapes t) := by
      apply matchCountM_eq_pure
      intro s hs
      apply ih s hs
      intro name hname
      apply h name (.oneOf hs hname)
    rw [mismatchM, mismatch?, hcount]
    apply pure_bind
  | anyOf shapes ih =>
    have hcount : matchCountM accepts shapes t = pure (matchCount accepts' shapes t) := by
      apply matchCountM_eq_pure
      intro s hs
      apply ih s hs
      intro name hname
      apply h name (.anyOf hs hname)
    rw [mismatchM, mismatch?, hcount]
    apply pure_bind

end LookUps

end ValueShape

/-! ### Known and unknown names -/

namespace Registry

variable {r : Registry} {name : Text}

/-- A text is accepted by the validator under a name, or by `unknown` if there is none. -/
def acceptsOr (r : Registry) (unknown : Text → Text → Bool) (name text : Text) : Bool :=
  ((r.find? name).map (·.accepts text)).getD (unknown name text)

/-- Whether a text is accepted by the validator under a name; looking an unknown name up
fails. -/
def lookUp (r : Registry) (name text : Text) : Except Text Bool :=
  match r.find? name with
  | some v => .ok (v.accepts text)
  | none => .error name

theorem exists_find?_of_contains (h : r.contains name = true) :
  ∃ v, r.find? name = some v
  := by
  obtain ⟨e, he⟩ := Option.isSome_iff_exists.mp h
  use e.validator
  rw [find?, he]
  rfl

theorem acceptsOr_of_contains (h : r.contains name = true) (unknown : Text → Text → Bool)
    (text : Text) :
  r.acceptsOr unknown name text = r.accepts name text
  := by
  obtain ⟨v, hv⟩ := exists_find?_of_contains h
  rw [acceptsOr, accepts, hv]
  rfl

theorem lookUp_of_contains (h : r.contains name = true) (text : Text) :
  r.lookUp name text = .ok (r.accepts name text)
  := by
  obtain ⟨v, hv⟩ := exists_find?_of_contains h
  rw [lookUp, accepts, hv]
  rfl

end Registry

/-! ### Schemas that were built -/

namespace Schema

variable {s : Schema} {f : Flag}

/-- The schema was built, from flags and a registry or from two tables. -/
inductive Built (s : Schema) : Prop where
  | ofFlags {flags : List Flag} {registry : Registry} (h : ofFlags flags registry = .ok s)
  | ofTables {records : List FlagRecord} {table : ValidatorTable}
      (h : ofTables records table = .ok s)

/-- To build a schema from two tables is to build it from the flags and the registry that they
denote. -/
theorem Built.exists_ofFlags (h : s.Built) :
  ∃ flags registry, Schema.ofFlags flags registry = .ok s
  := by
  cases h with
  | ofFlags h => exact ⟨_, _, h⟩
  | ofTables h =>
    obtain ⟨registry, -, h⟩ := bind_eq_ok_iff.mp h
    obtain ⟨flags, -, h⟩ := bind_eq_ok_iff.mp h
    exact ⟨flags, registry, h⟩

/-- The registry of a schema that was built knows the validators that its flags mention. -/
theorem Built.contains_of_mentions (h : s.Built) (hf : f ∈ s.table.flags) {name : Text}
    (hname : f.shape.Mentions name) :
  s.registry.contains name = true
  := by
  obtain ⟨flags, registry, hs⟩ := h.exists_ofFlags
  obtain ⟨ht, rfl⟩ := holds_ofFlags hs
  rw [ht.flags_eq] at hf
  apply (isOk_ofFlags_iff.mp ⟨s, hs⟩).1 f hf name hname

/-- While a text is checked against the shape of a flag of a schema that was built, every
validator that is looked up is found.  So the result is the same whatever an unknown validator
is taken to accept, be it nothing or everything, and no look-up fails. -/
theorem meets_known_validators (h : s.Built) (hf : f ∈ s.table.flags) (t : Text) :
  (∀ unknown : Text → Text → Bool,
      f.shape.mismatch? (s.registry.acceptsOr unknown) t = s.mismatch? f.shape t)
    ∧ f.shape.mismatchM s.registry.lookUp t = .ok (s.mismatch? f.shape t)
  := by
  constructor
  · intro unknown
    apply ValueShape.mismatch?_congr
    intro name hname
    apply Registry.acceptsOr_of_contains (h.contains_of_mentions hf hname)
  · apply ValueShape.mismatchM_eq_pure
    intro name hname
    apply Registry.lookUp_of_contains (h.contains_of_mentions hf hname)

/-- Both validators of a shape are known, two levels below its root, and the text that both
accept is found ambiguous.  Looking up a third one would fail. -/
theorem meets_known_validators_nested :
  let digits : Registration := ⟨.custom fun t => t.all Char.isDigit, none⟩
  let short : Registration := ⟨.custom fun t => t.length < 3, none⟩
  let element : ValueShape :=
    .oneOf [.validator ['v'], .list (.anyOf [.validator ['w'], .empty]) '-']
  let f : Flag := ⟨some ['x'], none, none, .list element ','⟩
  let s : Schema := ⟨⟨[f], [(['x'], f)], []⟩, ⟨[(['v'], digits), (['w'], short)]⟩⟩
  s.Built ∧ f ∈ s.table.flags
    ∧ f.shape.mismatch? (s.registry.acceptsOr fun _ _ => true) "123,-,12".toList
      = some (.element 2 ['1', '2'] (.ambiguous 2))
    ∧ f.shape.mismatchM s.registry.lookUp "123,-,12".toList
      = .ok (some (.element 2 ['1', '2'] (.ambiguous 2)))
    ∧ (ValueShape.validator ['u']).mismatchM s.registry.lookUp [] = .error ['u']
  := by
  intro digits short element f s
  have hs : s.Built := @Built.ofFlags s [f] s.registry rfl
  have hf : f ∈ s.table.flags := List.mem_cons_self
  have hmismatch : s.mismatch? f.shape "123,-,12".toList
      = some (.element 2 ['1', '2'] (.ambiguous 2)) := by decide
  obtain ⟨hunknown, hlookUp⟩ := meets_known_validators hs hf "123,-,12".toList
  refine ⟨hs, hf, ?_, ?_, rfl⟩
  · rw [hunknown, hmismatch]
  · rw [hlookUp, hmismatch]

end Schema

end DirectiveLint
