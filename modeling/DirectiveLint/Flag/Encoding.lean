import DirectiveLint.Json.Value
import DirectiveLint.SchemaError
import DirectiveLint.ValueShape

/-!
# The encoding of shapes in tables

Tables encode the shape of a value as JSON.  `null` is the empty shape; an object with one
key is a shape of the kind that the key names, and a list may name its delimiter besides.  A
bare string is a validator in the place of a value or of an element, and a literal among
alternatives.
-/

namespace DirectiveLint.ValueShape

/-- The key of a list, and of a shape given by its elements. -/
def listKey : Text := "list".toList

/-- The key of the delimiter of a list. -/
def delimiterKey : Text := "delimiter".toList

/-- The key of a literal. -/
def literalKey : Text := "literal".toList

/-- The key of a validator. -/
def validatorKey : Text := "validator".toList

/-- The key of alternatives of which exactly one applies. -/
def oneOfKey : Text := "one_of".toList

/-- The key of alternatives of which at least one applies. -/
def anyOfKey : Text := "any_of".toList

/-- The delimiter that a value denotes. -/
def decodeDelimiter : Json → Except ShapeDefect Char
  | .string [c] => .ok c
  | .string _ => .error .delimiterNotOneCharacter
  | _ => .error .delimiterNotText

/-- The defect of an object that is no shape: a key that a list does not have, or else more
or fewer keys than one. -/
def objectDefect (members : List (Text × Json)) : ShapeDefect :=
  if members.any (·.1 = listKey) then
    match members.find? fun m => m.1 ≠ listKey ∧ m.1 ≠ delimiterKey with
    | some (key, _) => .extraKey key
    | none => .notOneKey
  else .notOneKey

mutual

/-- The shape that a value denotes in a place where a bare string is a validator. -/
def decode : Json → Except ShapeDefect ValueShape
  | .null => .ok .empty
  | .bool _ => .error .boolean
  | .number _ => .error .number
  | .string name => .ok (.validator name)
  | .array _ => .error .bareArray
  | .object [(key, v)] =>
    if key = listKey then (decode v).map (.list · defaultDelimiter)
    else if key = literalKey then
      match v with
      | .string t => .ok (.literal t)
      | _ => .error .literalNotText
    else if key = validatorKey then
      match v with
      | .string name => .ok (.validator name)
      | _ => .error .validatorNotText
    else if key = oneOfKey then (decodeAlternatives key v).map .oneOf
    else if key = anyOfKey then (decodeAlternatives key v).map .anyOf
    else .error (.unknownKind key)
  | .object [(key, v), (key', v')] =>
    if key = delimiterKey ∧ key' = listKey then
      match decodeDelimiter v with
      | .ok delimiter => (decode v').map (.list · delimiter)
      | .error defect => .error defect
    else .error (objectDefect [(key, v), (key', v')])
  | .object members => .error (objectDefect members)

/-- The alternatives that the value of a key denotes, at least one. -/
def decodeAlternatives (key : Text) : Json → Except ShapeDefect (List ValueShape)
  | .array [] => .error (.emptyArray key)
  | .array items => decodeItems items
  | _ => .error (.notArray key)

/-- The shapes that the items of an array denote, where a bare string is a literal. -/
def decodeItems : List Json → Except ShapeDefect (List ValueShape)
  | [] => .ok []
  | v :: vs => do
    let shape ←
      match v with
      | .string t => .ok (.literal t)
      | v => decode v
    let shapes ← decodeItems vs
    .ok (shape :: shapes)

end

mutual

/-- The JSON form of a shape that names its kind everywhere. -/
def encode : ValueShape → Json
  | literal t => .object [(literalKey, .string t)]
  | validator name => .object [(validatorKey, .string name)]
  | empty => .null
  | list element delimiter =>
    .object [(delimiterKey, .string [delimiter]), (listKey, element.encode)]
  | oneOf shapes => .object [(oneOfKey, .array (encodeAll shapes))]
  | anyOf shapes => .object [(anyOfKey, .array (encodeAll shapes))]

/-- The JSON forms of some shapes. -/
def encodeAll : List ValueShape → List Json
  | [] => []
  | s :: ss => s.encode :: encodeAll ss

end

end DirectiveLint.ValueShape
