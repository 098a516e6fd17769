import DirectiveLint.Json.Value

/-!
# Writing JSON

Values laid out over several lines, each level two spaces further in.  Empty arrays and
objects stay on one line.
-/

namespace DirectiveLint.Json

/-- The lower case hexadecimal digits of a number below 256, two of them. -/
def hexPair (n : Nat) : Text := [Nat.digitChar (n / 16), Nat.digitChar (n % 16)]

/-- The form of a character inside a string. -/
def writeChar (c : Char) : Text :=
  match c with
  | '"' => ['\\', '"']
  | '\\' => ['\\', '\\']
  | '\x08' => ['\\', 'b']
  | '\x0c' => ['\\', 'f']
  | '\n' => ['\\', 'n']
  | '\r' => ['\\', 'r']
  | '\t' => ['\\', 't']
  | c => if c.toNat < 0x20 then ['\\', 'u', '0', '0'] ++ hexPair c.toNat else [c]

/-- A string between quotes. -/
def writeString (t : Text) : Text := ['"'] ++ t.flatMap writeChar ++ ['"']

/-- An integer in decimal digits. -/
def writeInt (n : Int) : Text := (if n < 0 then ['-'] else []) ++ decimal n.natAbs

/-- The start of a line at a level. -/
def newLine (level : Nat) : Text := '\n' :: List.replicate (2 * level) ' '

mutual

/-- A value that stands at a level. -/
def layoutAt (level : Nat) : Json → Text
  | null => "null".toList
  | bool b => if b then "true".toList else "false".toList
  | number (.integer n) => writeInt n
  | number (.decimal spelling) => spelling
  | string t => writeString t
  | array [] => ['[', ']']
  | array items =>
    ['['] ++ joinWith [','] (layoutItems (level + 1) items) ++ newLine level ++ [']']
  | object [] => ['\x7b', '\x7d']
  | object members =>
    ['\x7b'] ++ joinWith [','] (layoutMembers (level + 1) members) ++ newLine level ++ ['\x7d']

/-- The items of an array, each on a line of its own. -/
def layoutItems (level : Nat) : List Json → List Text
  | [] => []
  | v :: vs => (newLine level ++ layoutAt level v) :: layoutItems level vs

/-- The members of an object, each on a line of its own. -/
def layoutMembers (level : Nat) : List (Text × Json) → List Text
  | [] => []
  | (key, v) :: ms =>
    (newLine level ++ writeString key ++ [':', ' '] ++ layoutAt level v)
      :: layoutMembers level ms

end

/-- A value laid out over lines. -/
def layout (v : Json) : Text := layoutAt 0 v

end DirectiveLint.Json
