/-!
# Text

A text is a list of characters.  Offsets into a text are counted in bytes of its UTF-8
form, and `byteLength` is that measure; it is additive (`byteLength_append`), so the slots
of a line lie where the lengths before them add up.  Splitting at a character is undone by
joining with it (`intercalate_pieces`).
-/

namespace DirectiveLint

/-- A text: the list of its characters. -/
abbrev Text := List Char

/-- The number of bytes of a text in UTF-8. -/
def byteLength : Text → Nat
  | [] => 0
  | c :: t => c.utf8Size + byteLength t

@[simp]
theorem byteLength_nil : byteLength [] = 0 := rfl

@[simp]
theorem byteLength_cons (c : Char) (t : Text) :
  byteLength (c :: t) = c.utf8Size + byteLength t
  := rfl

@[simp]
theorem byteLength_append (s t : Text) :
  byteLength (s ++ t) = byteLength s + byteLength t
  := by
  induction s with
  | nil => simp
  | cons c s ih => simp [ih, Nat.add_assoc]

theorem byteLength_pos {t : Text} (h : t ≠ []) :
  0 < byteLength t
  := by
  cases t with
  | nil => exact absurd rfl h
  | cons c t =>
    have := c.utf8Size_pos
    simp only [byteLength_cons]
    omega

/-- The decimal digits of a number. -/
def decimal (n : Nat) : Text := Nat.toDigits 10 n

section Sequences

/-! ### Cutting and joining

Texts are cut and joined as sequences of characters, and names of files as sequences of bytes. -/

variable {α : Type} [DecidableEq α]

/-- The pieces of a sequence between the occurrences of a mark, at least one. -/
def pieces (d : α) : List α → List (List α)
  | [] => [[]]
  | c :: t => if c = d then [] :: pieces d t else (pieces d t).modifyHead (c :: ·)

theorem pieces_ne_nil (d : α) (t : List α) :
  pieces d t ≠ []
  := by
  cases t with
  | nil => simp [pieces]
  | cons c t =>
    unfold pieces
    split
    · simp
    · intro h
      exact pieces_ne_nil d t (by simpa using h)

omit [DecidableEq α] in
/-- Sequences joined by a separator. -/
def joinWith (separator : List α) (ts : List (List α)) : List α :=
  List.intercalate separator ts

/-- Joining the pieces with the mark they were split at gives the sequence back. -/
theorem intercalate_pieces (d : α) (t : List α) :
  joinWith [d] (pieces d t) = t
  := by
  unfold joinWith
  induction t with
  | nil => rfl
  | cons c t ih =>
    obtain ⟨p, ps, hp⟩ := List.exists_cons_of_ne_nil (pieces_ne_nil d t)
    unfold pieces
    rw [hp] at ih ⊢
    split
    · next h => simp_all [List.intercalate, List.intersperse]
    · cases ps <;> simp_all [List.intercalate, List.intersperse]

/-- The sequences before and after the first occurrence of a mark. -/
def cutAt (d : α) : List α → Option (List α × List α)
  | [] => none
  | c :: t =>
    if c = d then some ([], t)
    else (cutAt d t).map fun (before, rest) => (c :: before, rest)

/-- The sequence without the occurrences of a mark at its start. -/
def trimStart (d : α) (t : List α) : List α := t.dropWhile (· = d)

end Sequences

/-- The text after a prefix of it. -/
def dropPrefix? : Text → Text → Option Text
  | [], t => some t
  | _ :: _, [] => none
  | p :: ps, c :: t => if p = c then dropPrefix? ps t else none

theorem dropPrefix?_eq_some_iff {p t rest : Text} :
  dropPrefix? p t = some rest ↔ t = p ++ rest
  := by
  induction p generalizing t with
  | nil => simp [dropPrefix?, eq_comm]
  | cons c p ih =>
    cases t with
    | nil => simp [dropPrefix?]
    | cons d t =>
      unfold dropPrefix?
      split
      · next h => simp [ih, h]
      · next h => simp [eq_comm, h]

/-- The number that a text of ASCII digits denotes. -/
def ofDigits (t : Text) : Nat :=
  t.foldl (fun n c => 10 * n + (c.toNat - '0'.toNat)) 0

/-- The least number that does not fit into some bits. -/
def bitBound (bits : Nat) : Nat := Nat.pow 2 bits

/-- A non-empty text of ASCII digits. -/
def isDigits (t : Text) : Bool := !t.isEmpty && t.all Char.isDigit

end DirectiveLint
