import DirectiveLint.Text

/-!
# Ranges of code points

Sets of code points as ascending lists of ranges, and their written form: hexadecimal words
`41-5A` and `5F`, parted by blanks.
-/

namespace DirectiveLint.Unicode

/-- Disjoint ranges of code points in ascending order, both ends included. -/
abbrev Ranges := List (Nat × Nat)

/-- The ranges hold a code point.  The search stops at the first range above it. -/
def Ranges.contains : Ranges → Nat → Bool
  | [], _ => false
  | (first, last) :: rest, n => first ≤ n && (n ≤ last || contains rest n)

/-- The value of a hexadecimal digit written with an upper case letter. -/
def hexDigit (c : Char) : Nat :=
  if c.isDigit then c.toNat - '0'.toNat else c.toNat - 'A'.toNat + 10

/-- The number that hexadecimal digits denote. -/
def ofHexDigits (cs : List Char) : Nat :=
  cs.foldl (fun n c => 16 * n + hexDigit c) 0

/-- The range that a word such as `41-5A` or `5F` denotes. -/
def rangeOfWord (word : List Char) : Nat × Nat :=
  match pieces '-' word with
  | [first, last] => (ofHexDigits first, ofHexDigits last)
  | _ => (ofHexDigits word, ofHexDigits word)

/-- The ranges that rows of words denote. -/
def Ranges.ofHex (rows : List String) : Ranges :=
  rows.flatMap fun row => (pieces ' ' row.toList).map rangeOfWord

/-- The classes that rows of classes denote: words parted by blanks, classes by commas. -/
def classesOfHex (rows : List String) : List (List Nat) :=
  rows.flatMap fun row =>
    (pieces ',' row.toList).map fun part =>
      ((pieces ' ' part).filter (!·.isEmpty)).map ofHexDigits

end DirectiveLint.Unicode
