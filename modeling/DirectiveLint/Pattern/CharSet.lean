import DirectiveLint.Unicode.Folding
import DirectiveLint.Unicode.Property

/-!
# Character sets

The sets of characters that one place of a pattern can match, as expressions; `mem` says
which characters belong to the set that an expression denotes.
-/

namespace DirectiveLint.Pattern

/-- An expression for a set of characters. -/
inductive CharSet where
  /-- No character. -/
  | empty
  /-- The characters from the first to the last. -/
  | range (first last : Char)
  /-- The characters in ranges of code points. -/
  | among (ranges : Unicode.Ranges)
  /-- The characters of words. -/
  | word
  /-- The alphabetic characters. -/
  | alphabetic
  /-- The uppercase characters. -/
  | uppercase
  /-- The lowercase characters. -/
  | lowercase
  /-- The case variants of the members of a set. -/
  | variants (s : CharSet)
  /-- The members of a set and the other forms of its ASCII letters. -/
  | letterVariants (s : CharSet)
  /-- The members of either set. -/
  | union (s t : CharSet)
  /-- The members of both sets. -/
  | inter (s t : CharSet)
  /-- The members of the first set that are not in the second. -/
  | diff (s t : CharSet)
  /-- The members of exactly one of the sets. -/
  | symm (s t : CharSet)
  /-- The characters outside a set. -/
  | compl (s : CharSet)
  deriving DecidableEq, Repr

/-- An ASCII letter in its other form; any other character as it is. -/
def otherLetterForm (c : Char) : Char :=
  if c.isUpper then c.toLower else if c.isLower then c.toUpper else c

namespace CharSet

/-- A character belongs to the set that an expression denotes. -/
def mem : CharSet → Char → Bool
  | empty, _ => false
  | range first last, c => first ≤ c && c ≤ last
  | among ranges, c => ranges.contains c.toNat
  | word, c => Unicode.isWord c
  | alphabetic, c => Unicode.isAlphabetic c
  | uppercase, c => Unicode.isUppercase c
  | lowercase, c => Unicode.isLowercase c
  | variants s, c => (Unicode.caseVariants c).any s.mem
  | letterVariants s, c => s.mem c || s.mem (otherLetterForm c)
  | union s t, c => s.mem c || t.mem c
  | inter s t, c => s.mem c && t.mem c
  | diff s t, c => s.mem c && !t.mem c
  | symm s t, c => s.mem c != t.mem c
  | compl s, c => !s.mem c

/-- The set of one character. -/
def single (c : Char) : CharSet := range c c

/-- The union of some sets. -/
def unionOf (sets : List CharSet) : CharSet := sets.foldr union empty

/-- Any character. -/
def any : CharSet := compl empty

/-- The ASCII digits. -/
def asciiDigit : CharSet := range '0' '9'

/-- The lower case ASCII letters. -/
def asciiLower : CharSet := range 'a' 'z'

/-- The upper case ASCII letters. -/
def asciiUpper : CharSet := range 'A' 'Z'

/-- The ASCII letters. -/
def asciiAlpha : CharSet := union asciiUpper asciiLower

/-- The ASCII letters and digits. -/
def asciiAlnum : CharSet := union asciiDigit asciiAlpha

/-- The ASCII letters and digits and the underscore. -/
def asciiWord : CharSet := union asciiAlnum (single '_')

/-- The ASCII blanks. -/
def asciiSpace : CharSet := union (range '\t' '\r') (single ' ')

/-- The decimal digits of all scripts. -/
def digit : CharSet := among Unicode.Category.nd.ranges

/-- The blanks of Unicode. -/
def space : CharSet := among Unicode.blankRanges

/-- The characters of some categories. -/
def ofCategories (cs : List Unicode.Category) : CharSet := unionOf (cs.map (among ·.ranges))

/-- The assigned characters. -/
def assigned : CharSet := ofCategories Unicode.Category.all

/-- The characters that attach to the one before them. -/
def extending : CharSet := union (ofCategories [.mn, .me]) (among Unicode.otherExtending)

/-- The sets that have a name between `[:` and `:]`. -/
def posixNamed? (name : Text) : Option CharSet :=
  match String.ofList name with
  | "alnum" => some asciiAlnum
  | "alpha" => some asciiAlpha
  | "ascii" => some (range '\x00' '\x7f')
  | "blank" => some (union (single '\t') (single ' '))
  | "cntrl" => some (union (range '\x00' '\x1f') (single '\x7f'))
  | "digit" => some asciiDigit
  | "graph" => some (range '!' '~')
  | "lower" => some asciiLower
  | "print" => some (range ' ' '~')
  | "punct" =>
    some (unionOf [range '!' '/', range ':' '@', range '[' '\x60', range '\x7b' '~'])
  | "space" => some asciiSpace
  | "upper" => some asciiUpper
  | "word" => some asciiWord
  | "xdigit" => some (unionOf [asciiDigit, range 'A' 'F', range 'a' 'f'])
  | _ => none

end CharSet

end DirectiveLint.Pattern
