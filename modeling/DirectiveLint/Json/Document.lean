import DirectiveLint.Json.Token

/-!
# JSON documents

A JSON text as a tree with everything that was written, repeated keys included.  What a
reader passes over has to be well-formed only; what it looks at is turned into a value by
`Document.value?`, which limits the depth, the range of numbers and the strings.
-/

namespace DirectiveLint.Json

/-- A JSON text as a tree. -/
inductive Document where
  | null
  | bool (b : Bool)
  | number (n : Numeral)
  | string (pieces : List Piece)
  | array (items : List Document)
  | object (members : List (List Piece × Document))

namespace Document

mutual

/-- The value that some tokens start with, and the tokens behind it. -/
def ofTokens : Nat → List Token → Option (Document × List Token)
  | 0, _ => none
  | fuel + 1, tokens =>
    match tokens with
    | .null :: rest => some (null, rest)
    | .bool b :: rest => some (bool b, rest)
    | .number n :: rest => some (number n, rest)
    | .string pieces :: rest => some (string pieces, rest)
    | .openArray :: .closeArray :: rest => some (array [], rest)
    | .openArray :: rest => (itemsOfTokens fuel rest).map fun (items, rest) => (array items, rest)
    | .openObject :: .closeObject :: rest => some (object [], rest)
    | .openObject :: rest =>
      (membersOfTokens fuel rest).map fun (members, rest) => (object members, rest)
    | _ => none

/-- The items of an array up to its closing bracket. -/
def itemsOfTokens : Nat → List Token → Option (List Document × List Token)
  | 0, _ => none
  | fuel + 1, tokens =>
    match ofTokens fuel tokens with
    | some (item, .comma :: rest) =>
      (itemsOfTokens fuel rest).map fun (items, rest) => (item :: items, rest)
    | some (item, .closeArray :: rest) => some ([item], rest)
    | _ => none

/-- The members of an object up to its closing brace. -/
def membersOfTokens : Nat → List Token → Option (List (List Piece × Document) × List Token)
  | 0, _ => none
  | fuel + 1, tokens =>
    match tokens with
    | .string key :: .colon :: rest =>
      match ofTokens fuel rest with
      | some (item, .comma :: rest) =>
        (membersOfTokens fuel rest).map fun (members, rest) => ((key, item) :: members, rest)
      | some (item, .closeObject :: rest) => some ([(key, item)], rest)
      | _ => none
    | _ => none

end

/-- The document that a text holds, nothing but blanks around it.  Every call takes a token
or ends one that did, which bounds their number. -/
def read? (t : Text) : Option Document := do
  let tokens ← tokens? t
  match ofTokens (2 * tokens.length + 1) tokens with
  | some (d, []) => some d
  | _ => none

end Document

/-- The decimal spelling of a numeral. -/
def Numeral.spelling (n : Numeral) : Text :=
  (if n.negative then ['-'] else []) ++ n.whole
    ++ (if n.fraction = [] then [] else '.' :: n.fraction)
    ++ match n.exponent with
      | none => []
      | some e => 'e' :: (if e < 0 then ['-'] else []) ++ decimal e.natAbs

/-- The magnitude of a numeral is below the least that rounds to infinity among the floating
point numbers of 64 bits. -/
def Numeral.isFinite (n : Numeral) : Bool :=
  let digits := (n.whole ++ n.fraction).dropWhile (· = '0')
  let power : Int := n.exponent.getD 0 - n.fraction.length
  let places : Int := digits.length + power
  if digits = [] || places < 309 then true
  else if 309 < places then false
  else
    let bound := bitBound 1024 - bitBound 970
    if power < 0 then decide (ofDigits digits < bound * Nat.pow 10 power.natAbs)
    else decide (ofDigits digits * Nat.pow 10 power.natAbs < bound)

/-- The multiple of a power of two that a natural number is rounded to where a significand
has 53 bits; of two at the same distance the one with the even significand. -/
def roundToDouble (n : Nat) : Nat :=
  let unit := bitBound (n.log2 - 52)
  let (significand, excess) := (n / unit, n % unit)
  if 2 * excess < unit || (2 * excess = unit && significand % 2 = 0) then significand * unit
  else (significand + 1) * unit

/-- The significand that digits continue as long as it fits into 64 bits, and the digits
that do not. -/
def continueSignificand (significand : Nat) : Text → Nat × Text
  | [] => (significand, [])
  | d :: digits =>
    let next := ofDigits [d] + 10 * significand
    if next < bitBound 64 then continueSignificand next digits else (significand, d :: digits)

/-- The leading digits of a numeral as a significand of 64 bits, and the power of ten that
belongs to it.  The digits that do not fit are left out: those before the point raise the
power. -/
def Numeral.scaled (n : Numeral) : Nat × Int :=
  let (whole, dropped) := continueSignificand 0 n.whole
  let (significand, ignored) := continueSignificand whole n.fraction
  (significand,
    n.exponent.getD 0 + dropped.length - ((n.fraction.length : Int) - ignored.length))

/-- A numeral is in the range of the floating point numbers of 64 bits, computed as the
product of its rounded significand and of its rounded power of ten. -/
def Numeral.isInRange (n : Numeral) : Bool :=
  let (significand, power) := n.scaled
  if significand = 0 || power < 0 then true
  else if 308 < power then false
  else
    decide (roundToDouble significand * roundToDouble (Nat.pow 10 power.natAbs)
      < bitBound 1024 - bitBound 970)

/-- The number that a numeral denotes.  An integer of 64 bits is one, and the negative zero
is none. -/
def Numeral.number? (n : Numeral) : Option Number :=
  let magnitude := ofDigits n.whole
  let asDecimal := if n.isInRange then some (.decimal n.spelling) else none
  if n.fraction = [] && n.exponent.isNone then
    if n.negative then
      if magnitude = 0 || bitBound 63 < magnitude then asDecimal
      else some (.integer (-(magnitude : Int)))
    else if magnitude < bitBound 64 then some (.integer magnitude)
    else asDecimal
  else asDecimal

/-- The greatest number of arrays and objects that can lie within one another. -/
def depthLimit : Nat := 127

namespace Document

mutual

/-- The value of a document in which at most `room` arrays and objects lie within one
another.  Of a repeated key the last member counts. -/
def value? (room : Nat) : Document → Option Json
  | null => some .null
  | bool b => some (.bool b)
  | number n => n.number?.map .number
  | string pieces => (textOfPieces? pieces).map .string
  | array items =>
    match room with
    | 0 => none
    | room + 1 => (values? room items).map .array
  | object members =>
    match room with
    | 0 => none
    | room + 1 => (memberValues? room members).map fun ms => .object (TextMap.ofList ms)

/-- The values of some documents. -/
def values? (room : Nat) : List Document → Option (List Json)
  | [] => some []
  | d :: ds => do
    let v ← value? room d
    let vs ← values? room ds
    some (v :: vs)

/-- The values of some members. -/
def memberValues? (room : Nat) : List (List Piece × Document) → Option (List (Text × Json))
  | [] => some []
  | (key, d) :: ms => do
    let key ← textOfPieces? key
    let v ← value? room d
    let vs ← memberValues? room ms
    some ((key, v) :: vs)

end

/-- A text, or nothing where `null` stands. -/
def textOrNull? : Document → Option (Option Text)
  | null => some none
  | string pieces => (textOfPieces? pieces).map some
  | _ => none

/-- The members with their keys as texts. -/
def keyedMembers? (members : List (List Piece × Document)) : Option (List (Text × Document)) :=
  members.mapM fun (key, d) => (textOfPieces? key).map (·, d)

/-- The member with a key, if there is at most one. -/
def member? (members : List (Text × Document)) (key : Text) : Option (Option Document) :=
  match members.filter (·.1 = key) with
  | [] => some none
  | [(_, d)] => some (some d)
  | _ => none

end Document

end DirectiveLint.Json
