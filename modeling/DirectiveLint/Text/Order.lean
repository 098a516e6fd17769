import DirectiveLint.Text

/-!
# Finite maps with text keys

A `TextMap` is an association list in ascending order of its keys.  Texts are ordered by
code point, which is also the order of their UTF-8 bytes.  `insert` keeps one entry for a
key, the last one inserted; `find?_insert_self` and `find?_insert_of_ne` are its two laws.
-/

namespace DirectiveLint

/-- Entries in ascending order of their keys. -/
abbrev TextMap (α : Type) := List (Text × α)

namespace TextMap

variable {α : Type}

/-- The value under a key. -/
def find? (m : TextMap α) (key : Text) : Option α :=
  match m with
  | [] => none
  | (k, v) :: m => if k = key then some v else find? m key

/-- The map with a value put under a key, replacing the one that was there. -/
def insert (m : TextMap α) (key : Text) (value : α) : TextMap α :=
  match m with
  | [] => [(key, value)]
  | (k, v) :: m =>
    if key < k then (key, value) :: (k, v) :: m
    else if k = key then (key, value) :: m
    else (k, v) :: insert m key value

/-- The map of a list of entries; the last entry of a key wins. -/
def ofList (entries : List (Text × α)) : TextMap α :=
  entries.foldl (fun m e => m.insert e.1 e.2) []

/-- The keys of a map in ascending order. -/
def keys (m : TextMap α) : List Text := m.map Prod.fst

/-- A key has a value. -/
def contains (m : TextMap α) (key : Text) : Bool := (m.find? key).isSome

/-- The map with the value under a key changed, if there is one. -/
def modify (m : TextMap α) (key : Text) (f : α → α) : TextMap α :=
  List.map (fun (k, v) => if k = key then (k, f v) else (k, v)) m

@[simp]
theorem find?_insert_self (m : TextMap α) (key : Text) (value : α) :
  (m.insert key value).find? key = some value
  := by
  induction m with
  | nil => simp [insert, find?]
  | cons e m ih =>
    obtain ⟨k, v⟩ := e
    unfold insert
    split
    · simp [find?]
    · split
      · simp [find?]
      · next h => simp [find?, h, ih]

theorem find?_insert_of_ne (m : TextMap α) {key other : Text} (value : α) (h : other ≠ key) :
  (m.insert key value).find? other = m.find? other
  := by
  induction m with
  | nil => simp [insert, find?, h.symm]
  | cons e m ih =>
    obtain ⟨k, v⟩ := e
    unfold insert
    split
    · simp [find?, h.symm]
    · split
      · next hk => subst hk; simp [find?, h.symm]
      · simp [find?, ih]

end TextMap

end DirectiveLint
