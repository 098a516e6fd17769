import DirectiveLint.Json.Document
import DirectiveLint.Proofs.Text.Order

/-!
# Values with ordered keys

`Json.Ordered` says that the members of every object in a value stand in ascending order of
their keys, so that there is one member for a key.  All values that are read from a document
are ordered (`Json.Document.ordered_of_value?`).  Proofs about values go by `Json.ind`, where
the hypothesis holds for all items and all members.
-/

namespace DirectiveLint

namespace Json

/-- Induction on values, where the hypothesis holds for all items and all members. -/
@[elab_as_elim, induction_eliminator]
theorem ind {motive : Json → Prop}
    (null : motive null)
    (bool : ∀ b, motive (bool b))
    (number : ∀ n, motive (number n))
    (string : ∀ t, motive (string t))
    (array : ∀ items, (∀ v ∈ items, motive v) → motive (array items))
    (object : ∀ members, (∀ m ∈ members, motive m.2) → motive (object members)) :
    ∀ v, motive v :=
  @Json.rec motive (fun items => ∀ v ∈ items, motive v) (fun members => ∀ m ∈ members, motive m.2)
    (fun m => motive m.2) null bool number string array object
    (fun _ h => nomatch h)
    (fun _ _ hv hvs => List.forall_mem_cons.mpr ⟨hv, hvs⟩)
    (fun _ h => nomatch h)
    (fun _ _ hm hms => List.forall_mem_cons.mpr ⟨hm, hms⟩)
    (fun _ _ hv => hv)

/-- The keys of every object in the value ascend. -/
inductive Ordered : Json → Prop where
  | null : Ordered null
  | bool (b : Bool) : Ordered (bool b)
  | number (n : Number) : Ordered (number n)
  | string (t : Text) : Ordered (string t)
  | array {items : List Json} (h : ∀ v ∈ items, Ordered v) : Ordered (array items)
  | object {members : List (Text × Json)} (hkeys : TextMap.Ascending members)
      (h : ∀ m ∈ members, Ordered m.2) : Ordered (object members)

namespace Ordered

variable {items : List Json} {members : List (Text × Json)}

theorem item (h : (Json.array items).Ordered) {v : Json} (hv : v ∈ items) :
  v.Ordered
  := by
  cases h with
  | array h => apply h v hv

theorem ascending (h : (Json.object members).Ordered) :
  TextMap.Ascending members
  := by
  cases h with
  | object hkeys => apply hkeys

theorem member (h : (Json.object members).Ordered) {m : Text × Json} (hm : m ∈ members) :
  m.2.Ordered
  := by
  cases h with
  | object _ h => apply h m hm

end Ordered

namespace Document

mutual

/-- The values that are read from a document are ordered. -/
theorem ordered_of_value? {room : Nat} {d : Document} {v : Json} (h : value? room d = some v) :
  v.Ordered
  := by
  cases d with
  | null =>
    obtain rfl := Option.some.inj h
    apply Ordered.null
  | bool b =>
    obtain rfl := Option.some.inj h
    apply Ordered.bool
  | number n =>
    obtain ⟨m, -, rfl⟩ := Option.map_eq_some_iff.mp h
    apply Ordered.number
  | string pieces =>
    obtain ⟨t, -, rfl⟩ := Option.map_eq_some_iff.mp h
    apply Ordered.string
  | array items =>
    cases room with
    | zero => contradiction
    | succ room =>
      obtain ⟨vs, hvs, rfl⟩ := Option.map_eq_some_iff.mp h
      apply Ordered.array (ordered_of_values? hvs)
  | object members =>
    cases room with
    | zero => contradiction
    | succ room =>
      obtain ⟨ms, hms, rfl⟩ := Option.map_eq_some_iff.mp h
      apply Ordered.object (TextMap.ascending_ofList ms)
      intro m hm
      apply ordered_of_memberValues? hms m (TextMap.mem_ofList hm)

theorem ordered_of_values? {room : Nat} {ds : List Document} {vs : List Json}
    (h : values? room ds = some vs) :
  ∀ v ∈ vs, v.Ordered
  := by
  cases ds with
  | nil =>
    obtain rfl := Option.some.inj h
    nofun
  | cons d ds =>
    obtain ⟨v, hv, h⟩ := Option.bind_eq_some_iff.mp h
    obtain ⟨vs', hvs, h⟩ := Option.bind_eq_some_iff.mp h
    obtain rfl := Option.some.inj h
    rw [List.forall_mem_cons]
    exact ⟨ordered_of_value? hv, ordered_of_values? hvs⟩

theorem ordered_of_memberValues? {room : Nat} {ds : List (List Piece × Document)}
    {ms : List (Text × Json)} (h : memberValues? room ds = some ms) :
  ∀ m ∈ ms, m.2.Ordered
  := by
  cases ds with
  | nil =>
    obtain rfl := Option.some.inj h
    nofun
  | cons d ds =>
    obtain ⟨key, -, h⟩ := Option.bind_eq_some_iff.mp h
    obtain ⟨v, hv, h⟩ := Option.bind_eq_some_iff.mp h
    obtain ⟨ms', hms, h⟩ := Option.bind_eq_some_iff.mp h
    obtain rfl := Option.some.inj h
    rw [List.forall_mem_cons]
    exact ⟨ordered_of_value? hv, ordered_of_memberValues? hms⟩

end

end Document

end Json

end DirectiveLint
