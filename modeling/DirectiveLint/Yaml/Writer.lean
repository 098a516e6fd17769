import DirectiveLint.Json.Document
import DirectiveLint.Yaml.Cursor

/-!
# Writing YAML

Values as YAML documents in block style, the items of a sequence in a mapping not indented.
A text is written plain where that reads back as the text, and otherwise between single
quotes, between double quotes or, if it has several lines, as a literal block.
-/

namespace DirectiveLint.Yaml

/-! ## Texts that would not read back as texts -/

/-- A text without one sign at its start. -/
def dropSign (t : Text) : Text :=
  match t with
  | '+' :: rest | '-' :: rest => rest
  | t => t

/-- Digits with a leading zero, which are no number. -/
def isPaddedDigits (t : Text) : Bool :=
  match dropSign t with
  | '0' :: rest => isDigits rest
  | _ => false

/-- The value of digits in a base. -/
def ofBase? (base : Nat) (t : Text) : Option Nat := do
  let digits ← t.mapM Json.hexValue?
  if digits = [] || digits.any (base ≤ ·) then none
  else some (digits.foldl (fun n d => base * n + d) 0)

/-- The value of digits behind the mark of their base: `0x`, `0o` or `0b`. -/
def ofMarkedBase? (t : Text) : Option Nat :=
  match t with
  | '0' :: 'x' :: rest => ofBase? 16 rest
  | '0' :: 'o' :: rest => ofBase? 8 rest
  | '0' :: 'b' :: rest => ofBase? 2 rest
  | _ => none

/-- An integer of 128 bits with the mark of a base. -/
def isMarkedInteger (t : Text) : Bool :=
  match t with
  | '-' :: rest => (ofMarkedBase? rest).any (· ≤ bitBound 127)
  | '+' :: rest => (ofMarkedBase? rest).any (· < bitBound 128)
  | t => (ofMarkedBase? t).any (· < bitBound 128)

/-- A finite decimal number; the digits before or behind the point may be missing. -/
def isDecimal (t : Text) : Bool :=
  let t := dropSign t
  let whole := t.takeWhile Char.isDigit
  let (fraction, rest) :=
    match t.dropWhile Char.isDigit with
    | '.' :: rest => (rest.takeWhile Char.isDigit, rest.dropWhile Char.isDigit)
    | rest => ([], rest)
  if whole = [] && fraction = [] then false
  else
    match Json.readExponent rest with
    | some (exponent, []) => (Json.Numeral.mk false whole fraction exponent).isFinite
    | _ => false

/-- The spellings of null, of the truth values and of the numbers that are not finite. -/
def reservedWords : List Text :=
  ["null".toList, "Null".toList, "NULL".toList, "~".toList, "true".toList, "True".toList,
    "TRUE".toList, "false".toList, "False".toList, "FALSE".toList, ".inf".toList,
    ".Inf".toList, ".INF".toList, "+.inf".toList, "+.Inf".toList, "+.INF".toList,
    "-.inf".toList, "-.Inf".toList, "-.INF".toList, ".nan".toList, ".NaN".toList,
    ".NAN".toList]

/-- A plain scalar with this text would not be read as a text. -/
def isAmbiguous (t : Text) : Bool :=
  t = [] || reservedWords.contains t || isPaddedDigits t || isMarkedInteger t || isDecimal t

/-! ## Styles -/

/-- A character that is written as it is. -/
def isPrintable (c : Char) : Bool :=
  c == '\n' || (' ' ≤ c && c ≤ '~')
    || (0xA0 ≤ c.toNat && c != '\ufeff' && c.toNat != 0xFFFE && c.toNat != 0xFFFF)

/-- The first of two neighbours is a space and the second a line break. -/
def hasSpaceBeforeBreak : Text → Bool
  | a :: b :: t => (a == ' ' && isBreak b) || hasSpaceBeforeBreak (b :: t)
  | _ => false

/-- The first of two neighbours is a line break and the second a space. -/
def hasSpaceAfterBreak : Text → Bool
  | a :: b :: t => (isBreak a && b == ' ') || hasSpaceAfterBreak (b :: t)
  | _ => false

/-- A character that cannot start a plain scalar. -/
def isLeadingIndicator (c : Char) : Bool :=
  ("#,[]\x7b\x7d&*!|>'\"%@".toList ++ ['\x60']).contains c

/-- The characters of a plain scalar, after the one before them, hold nothing that would end
it: a colon before a blank or the end, or a number sign behind a blank. -/
def hasInnerIndicator : Char → Text → Bool
  | _, [] => false
  | before, c :: t =>
    (c == ':' && isBlankOrEnd t.head?) || (c == '#' && isBlankOrEnd (some before))
      || hasInnerIndicator c t

/-- The text has an indicator at its start or inside. -/
def hasIndicator (t : Text) : Bool :=
  match t with
  | [] => false
  | c :: rest =>
    (dropPrefix? ['-', '-', '-'] t).isSome || (dropPrefix? ['.', '.', '.'] t).isSome
      || isLeadingIndicator c
      || ((c == '?' || c == ':' || c == '-') && isBlankOrEnd rest.head?)
      || hasInnerIndicator c rest

/-- The text starts or ends with a space or a line break. -/
def hasOuterBlank (t : Text) : Bool :=
  let blank (c : Char) : Bool := c == ' ' || isBreak c
  t.head?.any blank || t.getLast?.any blank

/-- Only between double quotes all of the text can be written. -/
def needsEscapes (t : Text) : Bool := !t.all isPrintable || hasSpaceBeforeBreak t

/-- How a text is written. -/
inductive Style where
  | plain
  | singleQuoted
  | doubleQuoted
  | literal
  deriving DecidableEq

/-- The style in which a text is written. -/
def styleOf (t : Text) : Style :=
  if t.contains '\n' then
    if needsEscapes t || t.getLast? == some ' ' then .doubleQuoted else .literal
  else if needsEscapes t || hasSpaceAfterBreak t then .doubleQuoted
  else if isAmbiguous t || hasOuterBlank t || t.any isBreak || hasIndicator t then .singleQuoted
  else .plain

/-! ## Scalars -/

/-- Spaces up to a column. -/
def spaces (n : Nat) : Text := List.replicate n ' '

/-- The upper case hexadecimal digits of a number, at least `width` of them. -/
def paddedHex (width n : Nat) : Text :=
  let digits := (Nat.toDigits 16 n).map Char.toUpper
  List.replicate (width - digits.length) '0' ++ digits

/-- The form of a character between double quotes. -/
def escapeChar (c : Char) : Text :=
  if isPrintable c && !isBreak c && c != '"' && c != '\\' then [c]
  else
    '\\' :: match c with
      | '\x00' => ['0']
      | '\x07' => ['a']
      | '\x08' => ['b']
      | '\t' => ['t']
      | '\n' => ['n']
      | '\x0b' => ['v']
      | '\x0c' => ['f']
      | '\r' => ['r']
      | '\x1b' => ['e']
      | '"' => ['"']
      | '\\' => ['\\']
      | '\u0085' => ['N']
      | '\u2028' => ['L']
      | '\u2029' => ['P']
      | c =>
        if c.toNat ≤ 0xFF then 'x' :: paddedHex 2 c.toNat
        else if c.toNat ≤ 0xFFFF then 'u' :: paddedHex 4 c.toNat
        else 'U' :: paddedHex 8 c.toNat

/-- The characters of a text between single quotes, where lines are indented, the one with
the closing quote too; `broken` tells that a line break comes before. -/
def singleQuotedBody (indent : Nat) (broken : Bool) : Text → Text
  | [] => if broken then spaces indent else []
  | c :: t =>
    if isBreak c then c :: singleQuotedBody indent true t
    else
      (if broken then spaces indent else []) ++ (if c == '\'' then ['\'', '\''] else [c])
        ++ singleQuotedBody indent false t

/-- The lines of a literal block; `broken` tells that a line break comes before. -/
def literalBody (indent : Nat) (broken : Bool) : Text → Text
  | [] => []
  | c :: t =>
    if isBreak c then c :: literalBody indent true t
    else (if broken then spaces indent else []) ++ c :: literalBody indent false t

/-- The line breaks at the end of a text are more than one, or all of it. -/
def keepsBreaks (t : Text) : Bool :=
  match t.reverse with
  | [c] => isBreak c
  | c :: d :: _ => isBreak c && isBreak d
  | [] => false

/-- The signs behind the bar of a literal block: the indentation if it cannot be seen, and
what becomes of the line breaks at the end. -/
def literalHints (t : Text) : Text :=
  (if t.head?.any fun c => c == ' ' || isBreak c then ['2'] else [])
    ++ if !t.getLast?.any isBreak then ['-'] else if keepsBreaks t then ['+'] else []

/-- A text as a scalar whose further lines are indented, up to the end of its last line. -/
def writeText (indent : Nat) (t : Text) : Text :=
  match styleOf t with
  | .plain => t ++ ['\n']
  | .singleQuoted => ['\''] ++ singleQuotedBody indent false t ++ ['\'', '\n']
  | .doubleQuoted => ['"'] ++ t.flatMap escapeChar ++ ['"', '\n']
  | .literal =>
    ['|'] ++ literalHints t ++ ['\n'] ++ literalBody indent true t
      ++ if t.getLast?.any isBreak then [] else ['\n']

/-! ## Values -/

mutual

/-- A value behind a dash in a block at column `indent`. -/
def writeItem (indent : Nat) : Json → Text
  | .null => "null\n".toList
  | .bool b => (if b then "true\n" else "false\n").toList
  | .number (.integer n) => (if n < 0 then ['-'] else []) ++ decimal n.natAbs ++ ['\n']
  | .number (.decimal spelling) => spelling ++ ['\n']
  | .string t => writeText (indent + 2) t
  | .array [] => "[]\n".toList
  | .array items => writeItems (indent + 2) true items
  | .object [] => ['\x7b', '\x7d', '\n']
  | .object members => writeMembers (indent + 2) true members

/-- The items of a sequence at column `indent`; the first may continue a line. -/
def writeItems (indent : Nat) (continued : Bool) : List Json → Text
  | [] => []
  | v :: vs =>
    (if continued then [] else spaces indent) ++ ['-', ' '] ++ writeItem indent v
      ++ writeItems indent false vs

/-- A value behind a key in a block at column `indent`. -/
def writeValue (indent : Nat) : Json → Text
  | .null => " null\n".toList
  | .bool b => (if b then " true\n" else " false\n").toList
  | .number (.integer n) => [' '] ++ (if n < 0 then ['-'] else []) ++ decimal n.natAbs ++ ['\n']
  | .number (.decimal spelling) => [' '] ++ spelling ++ ['\n']
  | .string t => [' '] ++ writeText (indent + 2) t
  | .array [] => " []\n".toList
  | .array items => ['\n'] ++ writeItems indent false items
  | .object [] => [' ', '\x7b', '\x7d', '\n']
  | .object members => ['\n'] ++ writeMembers (indent + 2) false members

/-- The members of a mapping at column `indent`; the first may continue a line.  The keys are
names that can stand plain. -/
def writeMembers (indent : Nat) (continued : Bool) : List (Text × Json) → Text
  | [] => []
  | (key, v) :: ms =>
    (if continued then [] else spaces indent) ++ key ++ [':'] ++ writeValue indent v
      ++ writeMembers indent false ms

end

/-- A value as a document. -/
def write (v : Json) : Text :=
  match v with
  | .array (item :: items) => writeItems 0 false (item :: items)
  | .object (member :: members) => writeMembers 0 false (member :: members)
  | v => writeItem 0 v

end DirectiveLint.Yaml
