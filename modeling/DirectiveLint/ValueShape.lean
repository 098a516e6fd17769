import DirectiveLint.Text

/-!
# Shapes of values

The shape that the value of a flag must have is a tree.  `mismatch?` tells why a text does
not have a shape; which texts a named validator accepts is a parameter of it.
-/

namespace DirectiveLint

/-- The shape of a value. -/
inductive ValueShape where
  /-- The value is this text. -/
  | literal (text : Text)
  /-- The value is accepted by the validator with this name. -/
  | validator (name : Text)
  /-- There is no value. -/
  | empty
  /-- The value is cut at a delimiter and every piece has the shape of an element. -/
  | list (element : ValueShape) (delimiter : Char)
  /-- The value has exactly one of the shapes, counted by position. -/
  | oneOf (shapes : List ValueShape)
  /-- The value has at least one of the shapes. -/
  | anyOf (shapes : List ValueShape)

/-- Why a text does not have a shape. -/
inductive Mismatch where
  /-- There is a value where none is expected. -/
  | unexpectedValue
  /-- The text is not the expected one. -/
  | literal (expected : Text)
  /-- The named validator refuses the text. -/
  | validator (name : Text)
  /-- There is no text, and the elements of the list cannot be empty. -/
  | emptyList
  /-- The element at an index, counted from zero, does not have its shape. -/
  | element (index : Nat) (text : Text) (cause : Mismatch)
  /-- The text has none of the shapes. -/
  | noAlternative
  /-- The text has more than one of the shapes. -/
  | ambiguous (count : Nat)
  deriving DecidableEq, Repr

/-- The delimiter of lists that do not name one. -/
def defaultDelimiter : Char := ','

/-- The first element of a list that does not have its shape, counted from an index. -/
def firstMismatch? (element : Text → Option Mismatch) : Nat → List Text → Option Mismatch
  | _, [] => none
  | index, t :: ts =>
    match element t with
    | some cause => some (.element index t cause)
    | none => firstMismatch? element (index + 1) ts

namespace ValueShape

mutual

/-- Why a text does not have a shape, where `accepts` tells which texts a named validator
accepts; `none` if the text has the shape. -/
def mismatch? (accepts : Text → Text → Bool) : ValueShape → Text → Option Mismatch
  | literal expected, t => if t = expected then none else some (.literal expected)
  | validator name, t => if accepts name t then none else some (.validator name)
  | empty, t => if t = [] then none else some .unexpectedValue
  | list element delimiter, t =>
    if t = [] then (mismatch? accepts element []).map fun _ => .emptyList
    else firstMismatch? (mismatch? accepts element) 0 (pieces delimiter t)
  | oneOf shapes, t =>
    match matchCount accepts shapes t with
    | 0 => some .noAlternative
    | 1 => none
    | n => some (.ambiguous n)
  | anyOf shapes, t =>
    match matchCount accepts shapes t with
    | 0 => some .noAlternative
    | _ => none

/-- The number of the shapes that a text has. -/
def matchCount (accepts : Text → Text → Bool) : List ValueShape → Text → Nat
  | [], _ => 0
  | s :: ss, t => (if (mismatch? accepts s t).isNone then 1 else 0) + matchCount accepts ss t

end

mutual

/-- The names of validators in a shape, from left to right. -/
def validatorNames : ValueShape → List Text
  | literal _ => []
  | validator name => [name]
  | empty => []
  | list element _ => element.validatorNames
  | oneOf shapes => validatorNamesOf shapes
  | anyOf shapes => validatorNamesOf shapes

/-- The names of validators in some shapes, from left to right. -/
def validatorNamesOf : List ValueShape → List Text
  | [] => []
  | s :: ss => s.validatorNames ++ validatorNamesOf ss

end

mutual

/-- A shape in words, where `nameOf` tells how a validator is called. -/
def describeWith (nameOf : Text → Text) : ValueShape → Text
  | literal t => ['"'] ++ t ++ ['"']
  | validator name => nameOf name
  | empty => "no value".toList
  | list element delimiter =>
    ['\'', delimiter] ++ "'-separated list of ".toList ++ element.describeWith nameOf
  | oneOf shapes => "one of: ".toList ++ joinWith ", ".toList (describeAllWith nameOf shapes)
  | anyOf shapes => "any of: ".toList ++ joinWith ", ".toList (describeAllWith nameOf shapes)

/-- Some shapes in words. -/
def describeAllWith (nameOf : Text → Text) : List ValueShape → List Text
  | [] => []
  | s :: ss => s.describeWith nameOf :: describeAllWith nameOf ss

end

/-- A shape in words, with validators called by their names. -/
def describe (s : ValueShape) : Text := s.describeWith id

end ValueShape

end DirectiveLint
