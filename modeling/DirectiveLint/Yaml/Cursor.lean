import DirectiveLint.Text

/-!
# Cursors

A place in a YAML text: what lies ahead, and the line and column reached.
-/

namespace DirectiveLint.Yaml

/-- A character that may occur in a YAML text. -/
def isAllowed (c : Char) : Bool :=
  c == '\t' || c == '\n' || c == '\r' || (' ' ≤ c && c ≤ '~') || c == '\u0085'
    || (0xA0 ≤ c.toNat && c.toNat ≤ 0xFFFD) || 0x10000 ≤ c.toNat

/-- A line break. -/
def isBreak (c : Char) : Bool :=
  c == '\n' || c == '\r' || c == '\u0085' || c == '\u2028' || c == '\u2029'

/-- A space or a tab. -/
def isSpaceOrTab (c : Char) : Bool := c == ' ' || c == '\t'

/-- A space, a tab, a line break or the end of the text. -/
def isBlankOrEnd : Option Char → Bool
  | none => true
  | some c => isSpaceOrTab c || isBreak c

/-- A character of the names of anchors and handles. -/
def isNameChar (c : Char) : Bool := c.isAlphanum || c == '_' || c == '-'

/-- A place in a text. -/
structure Cursor where
  /-- The characters ahead. -/
  rest : Text
  /-- The number of bytes before. -/
  index : Nat
  /-- The number of the line. -/
  line : Nat
  /-- The number of characters before on the line. -/
  column : Nat

namespace Cursor

/-- The start of a text. -/
def start (t : Text) : Cursor := ⟨t, 0, 0, 0⟩

/-- The next character. -/
def peek (c : Cursor) : Option Char := c.rest.head?

/-- The character after `n` further ones. -/
def peekAt (c : Cursor) (n : Nat) : Option Char := c.rest[n]?

/-- The place behind the next `n` characters, none of which is a line break. -/
def skip (c : Cursor) (n : Nat) : Cursor :=
  { c with
    rest := c.rest.drop n
    index := c.index + byteLength (c.rest.take n)
    column := c.column + n }

/-- The place behind a line break. -/
def skipLine (c : Cursor) : Cursor :=
  match c.rest with
  | '\r' :: '\n' :: rest => ⟨rest, c.index + 2, c.line + 1, 0⟩
  | ch :: rest => ⟨rest, c.index + ch.utf8Size, c.line + 1, 0⟩
  | [] => c

/-- What the line break ahead is read as: the separators of lines and paragraphs stand for
themselves, all others for a line feed. -/
def readBreak (c : Cursor) : Text :=
  match c.peek with
  | some '\u2028' => ['\u2028']
  | some '\u2029' => ['\u2029']
  | some _ => ['\n']
  | none => []

/-- A space or a tab is ahead. -/
def atSpaceOrTab (c : Cursor) : Bool := c.peek.any isSpaceOrTab

/-- A line break is ahead. -/
def atBreak (c : Cursor) : Bool := c.peek.any isBreak

/-- A blank or the end is ahead. -/
def atBlankOrEnd (c : Cursor) : Bool := isBlankOrEnd c.peek

/-- A line break or the end is ahead. -/
def atBreakOrEnd (c : Cursor) : Bool := c.peek.all isBreak

/-- The place behind the characters ahead that satisfy a test, which no line break does. -/
def skipWhile (c : Cursor) (p : Char → Bool) : Cursor := c.skip (c.rest.takeWhile p).length

/-- The place behind the spaces and tabs ahead. -/
def skipSpaces (c : Cursor) : Cursor := c.skipWhile isSpaceOrTab

/-- The place behind a comment, if there is one ahead. -/
def skipComment (c : Cursor) : Cursor :=
  if c.peek == some '#' then c.skipWhile (!isBreak ·) else c

/-- The marker of the start or the end of a document is ahead. -/
def atDocumentMarker (c : Cursor) : Bool :=
  c.column == 0
    && (match c.rest with
      | '-' :: '-' :: '-' :: rest => isBlankOrEnd rest.head?
      | '.' :: '.' :: '.' :: rest => isBlankOrEnd rest.head?
      | _ => false)

end Cursor

end DirectiveLint.Yaml
