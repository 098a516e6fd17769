import DirectiveLint.Directive
import DirectiveLint.Pattern.Captures
import DirectiveLint.Text.Slice

/-!
# The pattern of directive lines

A directive line is described by a pattern with one named group for each slot.  The tag is
escaped in it, so that it stands for itself.  `Directive.parse?` searches a line for the pattern
and reads the spans of the slots from the groups; a slot whose group marks nothing is empty and
lies behind the slot before it.
-/

namespace DirectiveLint

namespace Pattern

/-- The characters that mean something else than themselves in a pattern. -/
def metaChars : List Char :=
  ['\\', '.', '+', '*', '?', '(', ')', '|', '[', ']', '\x7b', '\x7d', '^', '$', '#', '&', '-', '~']

/-- The written form of a character that stands for itself. -/
def escapeChar (c : Char) : Text := if c ∈ metaChars then ['\\', c] else [c]

/-- The written form of a text that stands for itself. -/
def escape (t : Text) : Text := t.flatMap escapeChar

/-- The expression of a text that stands for itself. -/
def Grouped.literal : Text → Grouped
  | [] => .nothing []
  | [c] => .set (escapeChar c) (.single c)
  | c :: t => .cat (.set (escapeChar c) (.single c)) (literal t)

end Pattern

open Pattern (Grouped CharSet Captures escape)

namespace Directive

/-- The characters that may part a flag from its value. -/
def separators : CharSet := .unionOf [.single '=', .single ' ']

/-- The slots of a directive line. -/
inductive Slot where
  | tag
  | space
  | dashes
  | flag
  | separator
  | value
  deriving DecidableEq, Repr

/-- The name of the group for a slot. -/
def Slot.name : Slot → Text
  | .tag => "tag".toList
  | .space => "space".toList
  | .dashes => "dashes".toList
  | .flag => "flag".toList
  | .separator => "separator".toList
  | .value => "value".toList

/-- What is written before the tag. -/
def writtenBefore : Text := "(?s)^(?P<tag>".toList

/-- What is written behind the tag. -/
def writtenBehind : Text :=
  ")(?P<space> )?(?P<dashes>-\x7b1,2\x7d)?(?P<flag>[^= ]*)".toList
    ++ "(?:(?P<separator>[= ])(?P<value>.*))?$".toList

/-- The written form of the pattern for lines with a tag. -/
def patternText (tag : Text) : Text := writtenBefore ++ escape tag ++ writtenBehind

/-- The space behind the tag. -/
def spacePattern : Grouped := .group Slot.space.name (.set [' '] (.single ' '))

/-- One dash or two. -/
def dashesPattern : Grouped :=
  .group Slot.dashes.name (.run (['-'] ++ "\x7b1,2\x7d".toList) (.single '-') 1 (some 2))

/-- The flag. -/
def flagPattern : Grouped :=
  .group Slot.flag.name (.run ("[^= ]".toList ++ ['*']) (.compl separators) 0 none)

/-- The separator and the value behind it. -/
def valuePattern : Grouped :=
  .cat (.group Slot.separator.name (.set "[= ]".toList separators))
    (.group Slot.value.name (.run (['.'] ++ ['*']) .any 0 none))

/-- What may stand behind the tag. -/
def restPattern : Grouped :=
  .cat (.optional spacePattern)
    (.cat (.optional dashesPattern)
      (.cat flagPattern (.cat (.optional (.hold valuePattern)) (.look ['$'] .stop))))

/-- The pattern for lines with a tag. -/
def pattern (tag : Text) : Grouped :=
  .cat (.nothing "(?s)".toList)
    (.cat (.look ['^'] .start) (.cat (.group Slot.tag.name (.literal tag)) restPattern))

/-- All that is read from a directive line. -/
structure Parsed where
  /-- The span of the tag. -/
  tag : Span
  /-- The span of the space after the tag. -/
  space : Span
  /-- The span of the dashes. -/
  dashes : Span
  /-- The span of the flag. -/
  flag : Span
  /-- The span of the separator. -/
  separator : Span
  /-- The span of the value. -/
  value : Span
  /-- The name of the flag. -/
  flagText : Text
  /-- The value. -/
  valueText : Text
  /-- The number of dashes before the flag. -/
  dashStyle : DashStyle
  /-- The length of the line in bytes. -/
  lineLength : Nat
  deriving DecidableEq, Repr

/-- The span of a slot, empty at the cursor if its group marks nothing.  The cursor then moves
to the end of the span. -/
def slot (captures : Captures) (s : Slot) (cursor : Nat) : Span :=
  (captures.lookup s.name).getD (.emptyAt cursor)

/-- What is read from a line with the groups of its pattern, if no span of a text ends inside a
character. -/
def ofCaptures? (line : Text) (captures : Captures) : Option Parsed := do
  let tag := slot captures .tag 0
  let space := slot captures .space tag.stop
  let dashes := slot captures .dashes space.stop
  let flag := slot captures .flag dashes.stop
  let separator := slot captures .separator flag.stop
  let value := slot captures .value separator.stop
  let flagText ← flag.slice? line
  let valueText ← value.slice? line
  return { tag, space, dashes, flag, separator, value, flagText, valueText,
           dashStyle := .ofCount dashes.length, lineLength := byteLength line }

/-- What is read from a line, if the pattern is found in it; reading fails where a span of a
text ends inside a character. -/
def parse? (tag line : Text) : Option (Option Parsed) :=
  ((pattern tag).captures? line).map (ofCaptures? line)

end Directive

end DirectiveLint
