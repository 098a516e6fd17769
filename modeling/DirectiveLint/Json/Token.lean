import DirectiveLint.Json.Value

/-!
# JSON tokens

The tokens of a JSON text.  A string is kept as the pieces it was written with, because an
escape for half a character is an error only where the string is looked at; for the same
reason a number out of range is a token like any other.
-/

namespace DirectiveLint.Json

/-- A piece of a string. -/
inductive Piece where
  /-- A character. -/
  | char (c : Char)
  /-- A code unit of UTF-16, written with an escape. -/
  | codeUnit (n : Nat)

/-- A number as it is written. -/
structure Numeral where
  /-- There is a minus. -/
  negative : Bool
  /-- The digits before the point. -/
  whole : Text
  /-- The digits behind the point; none if there is no point. -/
  fraction : Text
  /-- The power of ten, if one is given. -/
  exponent : Option Int

/-- A token. -/
inductive Token where
  | openArray
  | closeArray
  | openObject
  | closeObject
  | comma
  | colon
  | null
  | bool (b : Bool)
  | number (n : Numeral)
  | string (pieces : List Piece)

/-- The value of a hexadecimal digit. -/
def hexValue? (c : Char) : Option Nat :=
  if c.isDigit then some (c.toNat - '0'.toNat)
  else if 'a' ≤ c ∧ c ≤ 'f' then some (c.toNat - 'a'.toNat + 10)
  else if 'A' ≤ c ∧ c ≤ 'F' then some (c.toNat - 'A'.toNat + 10)
  else none

/-- The number that four hexadecimal digits denote. -/
def hexQuad? (a b c d : Char) : Option Nat := do
  let a ← hexValue? a
  let b ← hexValue? b
  let c ← hexValue? c
  let d ← hexValue? d
  some (4096 * a + 256 * b + 16 * c + d)

/-- The character that an escape of one letter stands for. -/
def simpleEscape? (c : Char) : Option Char :=
  match c with
  | '"' => some '"'
  | '\\' => some '\\'
  | '/' => some '/'
  | 'b' => some '\x08'
  | 'f' => some '\x0c'
  | 'n' => some '\n'
  | 'r' => some '\r'
  | 't' => some '\t'
  | _ => none

/-- The pieces of a string behind its opening quote, and what follows its closing quote. -/
def readPieces : Text → Option (List Piece × Text)
  | [] => none
  | '"' :: t => some ([], t)
  | '\\' :: 'u' :: a :: b :: c :: d :: t => do
    let n ← hexQuad? a b c d
    let (pieces, rest) ← readPieces t
    some (.codeUnit n :: pieces, rest)
  | '\\' :: c :: t => do
    let c ← simpleEscape? c
    let (pieces, rest) ← readPieces t
    some (.char c :: pieces, rest)
  | c :: t => do
    if c.toNat < 0x20 ∨ c = '\\' then none
    else
      let (pieces, rest) ← readPieces t
      some (.char c :: pieces, rest)

/-- A code unit that starts a pair. -/
def isHighHalf (n : Nat) : Bool := 0xD800 ≤ n && n < 0xDC00

/-- A code unit that ends a pair. -/
def isLowHalf (n : Nat) : Bool := 0xDC00 ≤ n && n < 0xE000

/-- The text that the pieces of a string make up, if no half of a pair stands alone. -/
def textOfPieces? : List Piece → Option Text
  | [] => some []
  | .char c :: ps => (textOfPieces? ps).map (c :: ·)
  | [.codeUnit n] =>
    if isHighHalf n || isLowHalf n then none else some [Char.ofNat n]
  | .codeUnit n :: .char c :: ps =>
    if isHighHalf n || isLowHalf n then none
    else (textOfPieces? ps).map fun t => Char.ofNat n :: c :: t
  | .codeUnit n :: .codeUnit m :: ps =>
    if isHighHalf n then
      if isLowHalf m then
        (textOfPieces? ps).map (Char.ofNat (0x10000 + 1024 * (n - 0xD800) + (m - 0xDC00)) :: ·)
      else none
    else if isLowHalf n then none
    else (textOfPieces? (.codeUnit m :: ps)).map (Char.ofNat n :: ·)

/-- The power of ten at the start of a text; `none` if an `e` is not followed by digits. -/
def readExponent (t : Text) : Option (Option Int × Text) :=
  let digits (sign : Int) (t : Text) : Option (Option Int × Text) :=
    let ds := t.takeWhile Char.isDigit
    if ds.isEmpty then none else some (some (sign * ofDigits ds), t.dropWhile Char.isDigit)
  match t with
  | 'e' :: '-' :: t | 'E' :: '-' :: t => digits (-1) t
  | 'e' :: '+' :: t | 'E' :: '+' :: t => digits 1 t
  | 'e' :: t | 'E' :: t => digits 1 t
  | t => some (none, t)

/-- The fraction at the start of a text; `none` if a point is not followed by digits. -/
def readFraction (t : Text) : Option (Text × Text) :=
  match t with
  | '.' :: t =>
    let ds := t.takeWhile Char.isDigit
    if ds.isEmpty then none else some (ds, t.dropWhile Char.isDigit)
  | t => some ([], t)

/-- A number behind its sign. -/
def readNumeral (negative : Bool) (t : Text) : Option (Numeral × Text) := do
  let (whole, t) ←
    match t with
    | '0' :: t => some (['0'], t)
    | t =>
      let ds := t.takeWhile Char.isDigit
      if ds.isEmpty then none else some (ds, t.dropWhile Char.isDigit)
  let (fraction, t) ← readFraction t
  let (exponent, t) ← readExponent t
  some (⟨negative, whole, fraction, exponent⟩, t)

/-- The first token of a text that does not start with a blank. -/
def readToken (c : Char) (t : Text) : Option (Token × Text) :=
  match c with
  | '[' => some (.openArray, t)
  | ']' => some (.closeArray, t)
  | '\x7b' => some (.openObject, t)
  | '\x7d' => some (.closeObject, t)
  | ',' => some (.comma, t)
  | ':' => some (.colon, t)
  | '"' => (readPieces t).map fun (pieces, t) => (.string pieces, t)
  | '-' => (readNumeral true t).map fun (n, t) => (.number n, t)
  | c =>
    if c.isDigit then (readNumeral false (c :: t)).map fun (n, t) => (.number n, t)
    else
      match dropPrefix? "null".toList (c :: t), dropPrefix? "true".toList (c :: t),
        dropPrefix? "false".toList (c :: t) with
      | some t, _, _ => some (.null, t)
      | _, some t, _ => some (.bool true, t)
      | _, _, some t => some (.bool false, t)
      | _, _, _ => none

/-- A blank between tokens. -/
def isGap (c : Char) : Bool := c == ' ' || c == '\t' || c == '\n' || c == '\r'

/-- The tokens of a text.  Each round takes a character, so the length of the text bounds
their number. -/
def tokensWithin : Nat → Text → Option (List Token)
  | 0, _ => none
  | fuel + 1, t =>
    match t.dropWhile isGap with
    | [] => some []
    | c :: t => do
      let (token, t) ← readToken c t
      let tokens ← tokensWithin fuel t
      some (token :: tokens)

/-- The tokens of a text. -/
def tokens? (t : Text) : Option (List Token) := tokensWithin (t.length + 1) t

end DirectiveLint.Json
