import DirectiveLint.Span
import DirectiveLint.Text

/-!
# Directive lines

A directive line is the tag followed by five slots, each of which may be empty: a space,
dashes, the flag, a separator and the value.  `Directive.read` cuts a line into the slots;
each slot takes as much as it can.  The spans of the slots follow from the lengths of the
slots before them, so they tile the line.
-/

namespace DirectiveLint

/-- The number of dashes written before a flag. -/
inductive DashStyle where
  | none
  | single
  | double
  deriving DecidableEq, Repr

namespace DashStyle

/-- The style of a run of `n` dashes. -/
def ofCount : Nat → DashStyle
  | 0 => .none
  | 1 => .single
  | _ => .double

/-- The number of dashes. -/
def count : DashStyle → Nat
  | .none => 0
  | .single => 1
  | .double => 2

end DashStyle

/-- The slots of a directive line. -/
structure Directive where
  /-- The marker that introduces the line. -/
  tag : Text
  /-- The space after the tag. -/
  space : Text
  /-- The dashes before the flag, at most two. -/
  dashes : Text
  /-- The name of the flag. -/
  flag : Text
  /-- The character between flag and value. -/
  separator : Text
  /-- The value, up to the end of the line. -/
  value : Text
  deriving DecidableEq, Repr

/-- The characters that end the name of a flag on a directive line. -/
def isSeparator (c : Char) : Bool := c == '=' || c == ' '

/-- The first space of a text, if it starts with one, and what follows. -/
def takeSpace : Text → Text × Text
  | ' ' :: t => ([' '], t)
  | t => ([], t)

/-- The dashes at the start of a text, at most two, and what follows. -/
def takeDashes : Text → Text × Text
  | '-' :: '-' :: t => (['-', '-'], t)
  | '-' :: t => (['-'], t)
  | t => ([], t)

namespace Directive

/-- The slots of a text that follows the tag. -/
def ofRest (tag rest : Text) : Directive :=
  let (space, afterSpace) := takeSpace rest
  let (dashes, afterDashes) := takeDashes afterSpace
  let flag := afterDashes.takeWhile (!isSeparator ·)
  let afterFlag := afterDashes.dropWhile (!isSeparator ·)
  { tag, space, dashes, flag, separator := afterFlag.take 1, value := afterFlag.drop 1 }

/-- The slots of a line, if it starts with the tag. -/
def read (tag line : Text) : Option Directive :=
  (dropPrefix? tag line).map (ofRest tag)

/-- The line that the slots make up. -/
def text (d : Directive) : Text :=
  d.tag ++ d.space ++ d.dashes ++ d.flag ++ d.separator ++ d.value

/-- The length of the line in bytes. -/
def lineLength (d : Directive) : Nat := byteLength d.text

/-- The span of a slot behind `before`. -/
def spanAfter (before slot : Text) : Span :=
  ⟨byteLength before, byteLength before + byteLength slot⟩

/-- The span of the tag. -/
def tagSpan (d : Directive) : Span := spanAfter [] d.tag

/-- The span of the space after the tag. -/
def spaceSpan (d : Directive) : Span := spanAfter d.tag d.space

/-- The span of the dashes. -/
def dashesSpan (d : Directive) : Span := spanAfter (d.tag ++ d.space) d.dashes

/-- The span of the flag. -/
def flagSpan (d : Directive) : Span := spanAfter (d.tag ++ d.space ++ d.dashes) d.flag

/-- The span of the separator. -/
def separatorSpan (d : Directive) : Span :=
  spanAfter (d.tag ++ d.space ++ d.dashes ++ d.flag) d.separator

/-- The span of the value. -/
def valueSpan (d : Directive) : Span :=
  spanAfter (d.tag ++ d.space ++ d.dashes ++ d.flag ++ d.separator) d.value

/-- The number of dashes before the flag. -/
def dashStyle (d : Directive) : DashStyle := .ofCount d.dashes.length

end Directive

theorem takeSpace_append (t : Text) : (takeSpace t).1 ++ (takeSpace t).2 = t := by
  unfold takeSpace
  split <;> rfl

theorem takeDashes_append (t : Text) : (takeDashes t).1 ++ (takeDashes t).2 = t := by
  unfold takeDashes
  split <;> rfl

/-- Nothing of a line is lost when it is cut into slots. -/
theorem Directive.text_ofRest (tag rest : Text) :
  (Directive.ofRest tag rest).text = tag ++ rest
  := by
  have hs := takeSpace_append rest
  have hd := takeDashes_append (takeSpace rest).2
  have ht := List.takeWhile_append_dropWhile (p := fun c => !isSeparator c)
    (l := (takeDashes (takeSpace rest).2).2)
  have hv := List.take_append_drop 1
    ((takeDashes (takeSpace rest).2).2.dropWhile (fun c => !isSeparator c))
  simp only [text, ofRest, List.append_assoc]
  rw [hv, ht, hd, hs]

end DirectiveLint
