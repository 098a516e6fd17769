import DirectiveLint.Flag.Record
import DirectiveLint.Proofs.Json.Ordered
import DirectiveLint.Proofs.Steps
import DirectiveLint.Proofs.ValueShape.Language
import Mathlib.Data.List.Forall2

/-!
# The grammar of encoded shapes

`ValueShape.Denotes` says which values denote which shapes, by what is written in the value
and without reference to the decoder.  A bare string means one thing where a value or an
element is expected and another among alternatives, so the place of a value is part of it.
The decoder accepts exactly the values that denote a shape (`ValueShape.decodeAt_eq_ok_iff`),
and the encoding of a shape with alternatives in all its choices denotes that shape in every
place (`ValueShape.denotes_encode`).
-/

namespace DirectiveLint

namespace ValueShape

/-- Where an encoded shape stands. -/
inductive Position where
  /-- In the place of a value, or of an element of a list. -/
  | slot
  /-- Among alternatives. -/
  | alternative
  deriving DecidableEq, Repr

/-- The members of a list give its delimiter, or else it is the default one. -/
inductive NamesDelimiter (members : List (Text × Json)) : Char → Prop where
  | given {d : Char} (h : TextMap.find? members delimiterKey = some (.string [d])) :
    NamesDelimiter members d
  | missing (h : TextMap.find? members delimiterKey = none) :
    NamesDelimiter members defaultDelimiter

/-- A value denotes a shape at a position. -/
inductive Denotes : Position → Json → ValueShape → Prop where
  | null {p : Position} : Denotes p .null empty
  | bareValidator (name : Text) : Denotes .slot (.string name) (validator name)
  | bareLiteral (t : Text) : Denotes .alternative (.string t) (literal t)
  | literal {p : Position} (t : Text) :
    Denotes p (.object [(literalKey, .string t)]) (literal t)
  | validator {p : Position} (name : Text) :
    Denotes p (.object [(validatorKey, .string name)]) (validator name)
  | list {p : Position} {members : List (Text × Json)} {v : Json} {element : ValueShape}
      {d : Char} (hlist : TextMap.find? members listKey = some v)
      (hkeys : ∀ m ∈ members, m.1 = listKey ∨ m.1 = delimiterKey)
      (hdelimiter : NamesDelimiter members d) (h : Denotes .slot v element) :
    Denotes p (.object members) (list element d)
  | oneOf {p : Position} {items : List Json} {shapes : List ValueShape} (hne : items ≠ [])
      (h : List.Forall₂ (Denotes .alternative) items shapes) :
    Denotes p (.object [(oneOfKey, .array items)]) (oneOf shapes)
  | anyOf {p : Position} {items : List Json} {shapes : List ValueShape} (hne : items ≠ [])
      (h : List.Forall₂ (Denotes .alternative) items shapes) :
    Denotes p (.object [(anyOfKey, .array items)]) (anyOf shapes)

/-- All choices in the shape are between some alternatives. -/
inductive HasAlternatives : ValueShape → Prop where
  | literal (t : Text) : HasAlternatives (literal t)
  | validator (name : Text) : HasAlternatives (validator name)
  | empty : HasAlternatives empty
  | list {element : ValueShape} (d : Char) (h : HasAlternatives element) :
    HasAlternatives (list element d)
  | oneOf {shapes : List ValueShape} (hne : shapes ≠ []) (h : ∀ s ∈ shapes, HasAlternatives s) :
    HasAlternatives (oneOf shapes)
  | anyOf {shapes : List ValueShape} (hne : shapes ≠ []) (h : ∀ s ∈ shapes, HasAlternatives s) :
    HasAlternatives (anyOf shapes)

/-! ### One step of the decoder -/

/-- The shape that a value denotes at a position. -/
def decodeAt : Position → Json → Except ShapeDefect ValueShape
  | .alternative, .string t => .ok (.literal t)
  | _, v => decode v

/-- What the decoder does with the outermost part of a value that it accepts. -/
inductive Decodes : Json → ValueShape → Prop where
  | null : Decodes .null empty
  | bare (name : Text) : Decodes (.string name) (validator name)
  | literal (t : Text) : Decodes (.object [(literalKey, .string t)]) (literal t)
  | validator (name : Text) : Decodes (.object [(validatorKey, .string name)]) (validator name)
  | list {v : Json} {element : ValueShape} (h : decodeAt .slot v = .ok element) :
    Decodes (.object [(listKey, v)]) (list element defaultDelimiter)
  | listBy {v : Json} {element : ValueShape} (d : Char) (h : decodeAt .slot v = .ok element) :
    Decodes (.object [(delimiterKey, .string [d]), (listKey, v)]) (list element d)
  | oneOf {items : List Json} {shapes : List ValueShape} (hne : items ≠ [])
      (h : decodeItems items = .ok shapes) :
    Decodes (.object [(oneOfKey, .array items)]) (oneOf shapes)
  | anyOf {items : List Json} {shapes : List ValueShape} (hne : items ≠ [])
      (h : decodeItems items = .ok shapes) :
    Decodes (.object [(anyOfKey, .array items)]) (anyOf shapes)

theorem map_eq_ok_iff {ε α β : Type} {x : Except ε α} {f : α → β} {b : β} :
  x.map f = .ok b ↔ ∃ a, x = .ok a ∧ f a = b
  := by
  cases x <;> simp [Except.map]

theorem decodeDelimiter_eq_ok_iff {v : Json} {d : Char} :
  decodeDelimiter v = .ok d ↔ v = .string [d]
  := by
  unfold decodeDelimiter
  split <;> simp_all

theorem decodeAlternatives_eq_ok_iff {key : Text} {v : Json} {shapes : List ValueShape} :
  decodeAlternatives key v = .ok shapes
    ↔ ∃ items, v = .array items ∧ items ≠ [] ∧ decodeItems items = .ok shapes
  := by
  unfold decodeAlternatives
  split <;> simp_all

variable {key key' : Text} {v v' : Json} {s : ValueShape}

/-- An object with one member denotes a shape of the kind that its key names. -/
theorem Decodes.of_member (h : decode (.object [(key, v)]) = .ok s) :
  Decodes (.object [(key, v)]) s
  := by
  unfold decode at h
  split at h
  · next hkey =>
    obtain ⟨element, helement, rfl⟩ := map_eq_ok_iff.mp h
    subst hkey
    apply Decodes.list helement
  split at h
  · next hkey =>
    subst hkey
    split at h
    · obtain rfl := Except.ok.inj h
      apply Decodes.literal
    · contradiction
  split at h
  · next hkey =>
    subst hkey
    split at h
    · obtain rfl := Except.ok.inj h
      apply Decodes.validator
    · contradiction
  split at h
  · next hkey =>
    obtain ⟨shapes, hshapes, rfl⟩ := map_eq_ok_iff.mp h
    obtain ⟨items, rfl, hne, hitems⟩ := decodeAlternatives_eq_ok_iff.mp hshapes
    subst hkey
    apply Decodes.oneOf hne hitems
  split at h
  · next hkey =>
    obtain ⟨shapes, hshapes, rfl⟩ := map_eq_ok_iff.mp h
    obtain ⟨items, rfl, hne, hitems⟩ := decodeAlternatives_eq_ok_iff.mp hshapes
    subst hkey
    apply Decodes.anyOf hne hitems
  · contradiction

/-- An object with two members denotes a list with its delimiter. -/
theorem Decodes.of_members (h : decode (.object [(key, v), (key', v')]) = .ok s) :
  Decodes (.object [(key, v), (key', v')]) s
  := by
  rw [decode] at h
  split at h
  · next hkeys =>
    obtain ⟨rfl, rfl⟩ := hkeys
    split at h
    · next d hd =>
      obtain ⟨element, helement, rfl⟩ := map_eq_ok_iff.mp h
      obtain rfl := decodeDelimiter_eq_ok_iff.mp hd
      apply Decodes.listBy d helement
    · contradiction
  · contradiction

theorem decode_eq_ok_iff_decodes :
  decode v = .ok s ↔ Decodes v s
  := by
  constructor
  · intro h
    cases v with
    | null =>
      obtain rfl := Except.ok.inj h
      apply Decodes.null
    | bool b => contradiction
    | number n => contradiction
    | string name =>
      obtain rfl := Except.ok.inj h
      apply Decodes.bare
    | array items => contradiction
    | object members =>
      match members with
      | [] => contradiction
      | [m] => apply Decodes.of_member h
      | [m, m'] => apply Decodes.of_members h
      | _ :: _ :: _ :: _ => contradiction
  · intro h
    cases h with
    | null => rfl
    | bare name => rfl
    | literal t => rfl
    | validator name => rfl
    | list h => apply map_eq_ok_iff.mpr ⟨_, h, rfl⟩
    | listBy d h => apply map_eq_ok_iff.mpr ⟨_, h, rfl⟩
    | oneOf hne h =>
      apply map_eq_ok_iff.mpr ⟨_, decodeAlternatives_eq_ok_iff.mpr ⟨_, rfl, hne, h⟩, rfl⟩
    | anyOf hne h =>
      apply map_eq_ok_iff.mpr ⟨_, decodeAlternatives_eq_ok_iff.mpr ⟨_, rfl, hne, h⟩, rfl⟩

/-! ### The decoder and the grammar -/

theorem decodeItems_cons (vs : List Json) :
  decodeItems (v :: vs)
    = decodeAt .alternative v >>= fun s => decodeItems vs >>= fun ss => .ok (s :: ss)
  := by
  cases v <;> rfl

theorem decodeItems_eq_ok_iff {items : List Json} {shapes : List ValueShape} :
  decodeItems items = .ok shapes
    ↔ List.Forall₂ (fun v s => decodeAt .alternative v = .ok s) items shapes
  := by
  induction items generalizing shapes with
  | nil =>
    rw [decodeItems, List.forall₂_nil_left_iff, Except.ok.injEq, eq_comm]
  | cons v vs ih =>
    rw [decodeItems_cons, List.forall₂_cons_left_iff, bind_eq_ok_iff]
    simp only [bind_eq_ok_iff, ih, Except.ok.injEq]
    constructor
    · rintro ⟨s, hs, ss, hss, rfl⟩
      exact ⟨s, ss, hs, hss, rfl⟩
    · rintro ⟨s, ss, hs, hss, rfl⟩
      exact ⟨s, hs, ss, hss, rfl⟩

/-- At a position the decoder takes a bare string among alternatives as it is, and makes a
step otherwise. -/
theorem decodeAt_eq_ok_iff_decodes {p : Position} :
  decodeAt p v = .ok s
    ↔ (p = .alternative ∧ ∃ t, v = .string t ∧ s = .literal t)
      ∨ (p = .slot ∨ ∀ t, v ≠ .string t) ∧ Decodes v s
  := by
  rw [← decode_eq_ok_iff_decodes]
  unfold decodeAt
  split
  · simp [eq_comm]
  · next h =>
    cases p with
    | slot => simp
    | alternative =>
      have hv : ∀ t, v ≠ .string t := by
        rintro t rfl
        apply h t rfl rfl
      simp [hv]

/-- No key of a list comes behind the one of its elements. -/
theorem eq_nil_of_listKey_lt {members : List (Text × Json)}
    (hkeys : ∀ m ∈ members, m.1 = listKey ∨ m.1 = delimiterKey)
    (hlt : ∀ m ∈ members, listKey < m.1) :
  members = []
  := by
  apply List.eq_nil_iff_forall_not_mem.mpr
  intro m hm
  have h := hlt m hm
  rcases hkeys m hm with hkey | hkey
  · rw [hkey] at h
    exact absurd h (by decide)
  · rw [hkey] at h
    exact absurd h (by decide)

/-- The members of a list are its elements and, in front of them, its delimiter if it is
given. -/
theorem members_eq_of_list {members : List (Text × Json)} {d : Char}
    (hordered : TextMap.Ascending members) (hlist : TextMap.find? members listKey = some v)
    (hkeys : ∀ m ∈ members, m.1 = listKey ∨ m.1 = delimiterKey)
    (hdelimiter : NamesDelimiter members d) :
  (members = [(listKey, v)] ∧ d = defaultDelimiter)
    ∨ members = [(delimiterKey, .string [d]), (listKey, v)]
  := by
  cases members with
  | nil => contradiction
  | cons m rest =>
    obtain ⟨key, w⟩ := m
    obtain ⟨hlt, hrest⟩ := List.pairwise_cons.mp hordered
    rw [List.forall_mem_cons] at hkeys
    obtain ⟨hkey, hkeys⟩ := hkeys
    rcases hkey with rfl | rfl
    · obtain rfl := eq_nil_of_listKey_lt hkeys hlt
      obtain rfl := Option.some.inj hlist
      left
      cases hdelimiter with
      | given h => contradiction
      | missing h => exact ⟨rfl, rfl⟩
    · right
      cases rest with
      | nil => contradiction
      | cons m' rest =>
        obtain ⟨key', w'⟩ := m'
        obtain ⟨hlt', -⟩ := List.pairwise_cons.mp hrest
        rw [List.forall_mem_cons] at hkeys
        obtain ⟨hkey', hkeys⟩ := hkeys
        rcases hkey' with rfl | rfl
        · obtain rfl := eq_nil_of_listKey_lt hkeys hlt'
          obtain rfl := Option.some.inj hlist
          cases hdelimiter with
          | given h =>
            obtain rfl := Option.some.inj h
            rfl
          | missing h => contradiction
        · have hsame : delimiterKey < delimiterKey := hlt _ List.mem_cons_self
          exact absurd hsame (by decide)

/-- If the decoder decides what denotes each of some shapes, it does so for the items of an
array. -/
theorem decodeItems_eq_ok_iff_denotes {items : List Json} {shapes : List ValueShape}
    (ih : ∀ s ∈ shapes, ∀ {v : Json} {p : Position}, v.Ordered →
      (decodeAt p v = .ok s ↔ Denotes p v s))
    (hitems : (Json.array items).Ordered) :
  decodeItems items = .ok shapes ↔ List.Forall₂ (Denotes .alternative) items shapes
  := by
  rw [decodeItems_eq_ok_iff]
  apply forall₂_congr_of_mem
  intro v hv s hs
  apply ih s hs (hitems.item hv)

/-- The decoder takes a value for a shape exactly if the value denotes the shape. -/
theorem decodeAt_eq_ok_iff {p : Position} (hv : v.Ordered) :
  decodeAt p v = .ok s ↔ Denotes p v s
  := by
  induction s generalizing p v with
  | literal t =>
    rw [decodeAt_eq_ok_iff_decodes]
    constructor
    · rintro (⟨rfl, u, rfl, ⟨⟩⟩ | ⟨-, h⟩)
      · apply Denotes.bareLiteral
      · cases h with
        | literal => apply Denotes.literal
    · intro h
      cases h with
      | bareLiteral => exact .inl ⟨rfl, t, rfl, rfl⟩
      | literal => exact .inr ⟨.inr nofun, .literal t⟩
  | validator name =>
    rw [decodeAt_eq_ok_iff_decodes]
    constructor
    · rintro (⟨-, u, -, ⟨⟩⟩ | ⟨hp, h⟩)
      cases h with
      | bare =>
        obtain rfl : p = .slot := hp.resolve_right fun hne => hne name rfl
        apply Denotes.bareValidator
      | validator => apply Denotes.validator
    · intro h
      cases h with
      | bareValidator => exact .inr ⟨.inl rfl, .bare name⟩
      | validator => exact .inr ⟨.inr nofun, .validator name⟩
  | empty =>
    rw [decodeAt_eq_ok_iff_decodes]
    constructor
    · rintro (⟨-, u, -, ⟨⟩⟩ | ⟨-, ⟨⟩⟩)
      apply Denotes.null
    · rintro ⟨⟩
      exact .inr ⟨.inr nofun, .null⟩
  | list element d ih =>
    rw [decodeAt_eq_ok_iff_decodes]
    constructor
    · rintro (⟨-, u, -, ⟨⟩⟩ | ⟨-, h⟩)
      cases h with
      | list h =>
        apply Denotes.list rfl (by simp) (.missing rfl)
        apply (ih (hv.member (.head _))).mp h
      | listBy _ h =>
        apply Denotes.list rfl (by simp) (.given rfl)
        apply (ih (hv.member (.tail _ (.head _)))).mp h
    · intro h
      cases h with
      | list hlist hkeys hdelimiter h =>
        refine .inr ⟨.inr nofun, ?_⟩
        rcases members_eq_of_list hv.ascending hlist hkeys hdelimiter with ⟨rfl, rfl⟩ | rfl
        · apply Decodes.list
          apply (ih (hv.member (.head _))).mpr h
        · apply Decodes.listBy
          apply (ih (hv.member (.tail _ (.head _)))).mpr h
  | oneOf shapes ih =>
    rw [decodeAt_eq_ok_iff_decodes]
    constructor
    · rintro (⟨-, u, -, ⟨⟩⟩ | ⟨-, h⟩)
      cases h with
      | oneOf hne h =>
        apply Denotes.oneOf hne
        apply (decodeItems_eq_ok_iff_denotes ih (hv.member (.head _))).mp h
    · intro h
      cases h with
      | oneOf hne h =>
        refine .inr ⟨.inr nofun, .oneOf hne ?_⟩
        apply (decodeItems_eq_ok_iff_denotes ih (hv.member (.head _))).mpr h
  | anyOf shapes ih =>
    rw [decodeAt_eq_ok_iff_decodes]
    constructor
    · rintro (⟨-, u, -, ⟨⟩⟩ | ⟨-, h⟩)
      cases h with
      | anyOf hne h =>
        apply Denotes.anyOf hne
        apply (decodeItems_eq_ok_iff_denotes ih (hv.member (.head _))).mp h
    · intro h
      cases h with
      | anyOf hne h =>
        refine .inr ⟨.inr nofun, .anyOf hne ?_⟩
        apply (decodeItems_eq_ok_iff_denotes ih (hv.member (.head _))).mpr h

/-! ### The encoding of a shape -/

theorem encodeAll_eq_map (shapes : List ValueShape) :
  encodeAll shapes = shapes.map encode
  := by
  induction shapes with
  | nil => rfl
  | cons s ss ih =>
    rw [List.map_cons, ← ih]
    rfl

theorem ordered_object_singleton (hv : v.Ordered) :
  (Json.object [(key, v)]).Ordered
  := by
  apply Json.Ordered.object (List.pairwise_singleton _ _)
  rw [List.forall_mem_singleton]
  apply hv

/-- The encoding of a shape is a value. -/
theorem ordered_encode (s : ValueShape) :
  s.encode.Ordered
  := by
  induction s with
  | literal t => apply ordered_object_singleton (.string t)
  | validator name => apply ordered_object_singleton (.string name)
  | empty => apply Json.Ordered.null
  | list element d ih =>
    have hlt : delimiterKey < listKey := by decide
    apply Json.Ordered.object
    · apply List.pairwise_pair.mpr
      apply hlt
    · rw [List.forall_mem_cons, List.forall_mem_singleton]
      exact ⟨.string _, ih⟩
  | oneOf shapes ih =>
    apply ordered_object_singleton
    rw [encodeAll_eq_map]
    apply Json.Ordered.array
    rw [List.forall_mem_map]
    exact ih
  | anyOf shapes ih =>
    apply ordered_object_singleton
    rw [encodeAll_eq_map]
    apply Json.Ordered.array
    rw [List.forall_mem_map]
    exact ih

/-- The encoding names the kind of a shape, so it denotes the shape at every position. -/
theorem denotes_encode (h : s.HasAlternatives) (p : Position) :
  Denotes p s.encode s
  := by
  induction s generalizing p with
  | literal t => apply Denotes.literal
  | validator name => apply Denotes.validator
  | empty => apply Denotes.null
  | list element d ih =>
    cases h with
    | list _ h =>
      apply Denotes.list rfl (by simp) (.given rfl)
      apply ih h
  | oneOf shapes ih =>
    cases h with
    | oneOf hne h =>
      rw [encode, encodeAll_eq_map]
      apply Denotes.oneOf (mt List.map_eq_nil_iff.mp hne)
      rw [List.forall₂_map_left_iff, List.forall₂_same]
      intro s hs
      apply ih s hs (h s hs)
  | anyOf shapes ih =>
    cases h with
    | anyOf hne h =>
      rw [encode, encodeAll_eq_map]
      apply Denotes.anyOf (mt List.map_eq_nil_iff.mp hne)
      rw [List.forall₂_map_left_iff, List.forall₂_same]
      intro s hs
      apply ih s hs (h s hs)

/-- The choices that a value denotes are between some alternatives. -/
theorem Denotes.hasAlternatives {p : Position} (h : Denotes p v s) :
  s.HasAlternatives
  := by
  induction s generalizing p v with
  | literal t => apply HasAlternatives.literal
  | validator name => apply HasAlternatives.validator
  | empty => apply HasAlternatives.empty
  | list element d ih =>
    cases h with
    | list _ _ _ h => apply HasAlternatives.list d (ih h)
  | oneOf shapes ih =>
    cases h with
    | oneOf hne h =>
      apply HasAlternatives.oneOf
      · rintro rfl
        apply hne (List.forall₂_nil_right_iff.mp h)
      · intro s hs
        obtain ⟨w, -, hw⟩ := exists_of_mem_forall₂ h.flip hs
        apply ih s hs hw
  | anyOf shapes ih =>
    cases h with
    | anyOf hne h =>
      apply HasAlternatives.anyOf
      · rintro rfl
        apply hne (List.forall₂_nil_right_iff.mp h)
      · intro s hs
        obtain ⟨w, -, hw⟩ := exists_of_mem_forall₂ h.flip hs
        apply ih s hs hw

end ValueShape

/-! ### Records -/

namespace FlagRecord

open ValueShape (Denotes HasAlternatives)

variable {r : FlagRecord} {label : Text}

theorem label?_eq_or :
  r.label? = (r.long.map Flag.writeLong).or (r.short.map Flag.writeShort)
  := by
  obtain ⟨long, short, description, values⟩ := r
  cases long <;> cases short <;> rfl

theorem ordered_of_ofFields {long short description values : Option Json.Document}
    (h : ofFields long short description values = some r) :
  r.values.Ordered
  := by
  simp only [ofFields, Option.bind_eq_bind, Option.bind_eq_some_iff] at h
  obtain ⟨_, -, _, -, _, -, v, hv, h⟩ := h
  obtain rfl := Option.some.inj h
  apply Json.Document.ordered_of_value? hv

theorem ordered_of_ofDocument {d : Json.Document} (h : ofDocument d = some r) :
  r.values.Ordered
  := by
  unfold ofDocument at h
  split at h
  · simp only [Option.bind_eq_bind, Option.bind_eq_some_iff] at h
    obtain ⟨_, -, _, -, _, -, _, -, _, -, h⟩ := h
    apply ordered_of_ofFields h
  · split at h
    · apply ordered_of_ofFields h
    · contradiction
  · contradiction

/-- The values of all records that are read are ordered. -/
theorem ordered_of_readTable? {t : Text} {records : List FlagRecord}
    (h : readTable? t = some records) (hr : r ∈ records) :
  r.values.Ordered
  := by
  unfold readTable? at h
  split at h
  · obtain ⟨d, -, hd⟩ := exists_of_mem_mapM h hr
    apply ordered_of_ofDocument hd
  · contradiction

/-- A record with a name denotes a flag exactly if its values denote a shape. -/
theorem toFlag_eq_ok_iff_denotes (hlabel : r.label? = some label) (hvalues : r.values.Ordered)
    {f : Flag} :
  r.toFlag = .ok f
    ↔ ∃ s, Denotes .slot r.values s ∧ f = ⟨r.long, r.short, r.description, s⟩
  := by
  simp only [← ValueShape.decodeAt_eq_ok_iff hvalues]
  change _ ↔ ∃ s, ValueShape.decode r.values = .ok s ∧ _
  unfold toFlag
  rw [hlabel]
  cases ValueShape.decode r.values <;> simp [eq_comm]

theorem toFlag_eq_error_iff_of_label (hlabel : r.label? = some label) {e : SchemaError} :
  r.toFlag = .error e
    ↔ ∃ defect, ValueShape.decode r.values = .error defect ∧ .invalidValueShape label defect = e
  := by
  unfold toFlag
  rw [hlabel]
  cases ValueShape.decode r.values <;> simp

/-- The encoding of a shape with alternatives in all its choices denotes this shape at every
position, so a record with it denotes a flag with the shape.  A record denotes a flag exactly
if its values denote a shape, and there are alternatives in all choices of the shape; any
other record has a defect, which is reported under its long name or else under its short
one. -/
theorem toFlag_decodes_grammar
    (hlabel : (r.long.map Flag.writeLong).or (r.short.map Flag.writeShort) = some label)
    (hvalues : r.values.Ordered) :
  (∀ s : ValueShape, s.HasAlternatives →
      { r with values := s.encode }.toFlag = .ok ⟨r.long, r.short, r.description, s⟩
        ∧ ∀ p, Denotes p s.encode s)
    ∧ (∀ f, r.toFlag = .ok f
      ↔ ∃ s, Denotes .slot r.values s ∧ f = ⟨r.long, r.short, r.description, s⟩)
    ∧ (∀ f, r.toFlag = .ok f → f.shape.HasAlternatives)
    ∧ ((¬ ∃ s, Denotes .slot r.values s)
      ↔ ∃ defect, r.toFlag = .error (.invalidValueShape label defect))
  := by
  rw [← label?_eq_or] at hlabel
  refine ⟨?_, ?_, ?_, ?_⟩
  · intro s hs
    have hencoded : label? { r with values := s.encode } = some label := hlabel
    refine ⟨?_, ValueShape.denotes_encode hs⟩
    apply (toFlag_eq_ok_iff_denotes hencoded (ValueShape.ordered_encode s)).mpr
    exact ⟨s, ValueShape.denotes_encode hs _, rfl⟩
  · intro f
    apply toFlag_eq_ok_iff_denotes hlabel hvalues
  · intro f hf
    obtain ⟨s, hs, rfl⟩ := (toFlag_eq_ok_iff_denotes hlabel hvalues).mp hf
    apply hs.hasAlternatives
  · simp only [← ValueShape.decodeAt_eq_ok_iff hvalues, toFlag_eq_error_iff_of_label hlabel]
    change (¬ ∃ s, ValueShape.decode r.values = .ok s) ↔ _
    cases ValueShape.decode r.values <;> simp

/-- A bare string is a literal among alternatives, also within a list, and a choice without
alternatives is a defect there. -/
theorem toFlag_decodes_grammar_list :
  let list (items : List Json) : Json :=
    .object [(ValueShape.delimiterKey, .string [':']),
      (ValueShape.listKey, .object [(ValueShape.anyOfKey, .array items)])]
  let start : FlagRecord := ⟨none, some "s".toList, none, list [.string "now".toList, .null]⟩
  let never : FlagRecord := ⟨some "never".toList, some "n".toList, none, list []⟩
  start.values.Ordered ∧ never.values.Ordered
    ∧ start.toFlag
      = .ok ⟨none, some "s".toList, none, .list (.anyOf [.literal "now".toList, .empty]) ':'⟩
    ∧ never.toFlag
      = .error (.invalidValueShape "--never".toList (.emptyArray ValueShape.anyOfKey))
    ∧ ¬ ∃ s, Denotes .slot never.values s
  := by
  intro list start never
  have hordered : ∀ items, (∀ v ∈ items, Json.Ordered v) → (list items).Ordered := by
    intro items hitems
    have hlt : ValueShape.delimiterKey < ValueShape.listKey := by decide
    apply Json.Ordered.object
    · apply List.pairwise_pair.mpr
      apply hlt
    · rw [List.forall_mem_cons, List.forall_mem_singleton]
      exact ⟨.string _, ValueShape.ordered_object_singleton (.array hitems)⟩
  have hstart : start.values.Ordered := by
    apply hordered
    rw [List.forall_mem_cons, List.forall_mem_singleton]
    exact ⟨.string _, .null⟩
  have hnever : never.values.Ordered := by
    apply hordered
    apply List.forall_mem_nil
  obtain ⟨-, hread, -, -⟩ := @toFlag_decodes_grammar start "-s".toList rfl hstart
  obtain ⟨-, -, -, hdefect⟩ := @toFlag_decodes_grammar never "--never".toList rfl hnever
  refine ⟨hstart, hnever, ?_, rfl, hdefect.mpr ⟨_, rfl⟩⟩
  rw [hread]
  refine ⟨_, ?_, rfl⟩
  apply Denotes.list rfl _ (.given rfl)
  · apply Denotes.anyOf (List.cons_ne_nil _ _)
    exact .cons (.bareLiteral _) (.cons .null .nil)
  · simp

end FlagRecord

end DirectiveLint
