import DirectiveLint.Span
import DirectiveLint.Text

/-!
# Slices

Parts of a text that are named by byte offsets.  An offset inside a character, or behind the end
of the text, parts nothing: what is cut there is `none`.
-/

namespace DirectiveLint

/-- The texts before and behind a byte offset, if it lies between two characters or at an end. -/
def cutAtOffset? : Nat → Text → Option (Text × Text)
  | 0, t => some ([], t)
  | _ + 1, [] => none
  | n + 1, c :: t =>
    if c.utf8Size ≤ n + 1 then
      (cutAtOffset? (n + 1 - c.utf8Size) t).map fun (before, after) => (c :: before, after)
    else none

/-- The text that a span holds, if both ends of the span lie between characters. -/
def Span.slice? (s : Span) (t : Text) : Option Text := do
  let (upTo, _) ← cutAtOffset? s.stop t
  let (_, inner) ← cutAtOffset? s.start upTo
  return inner

/-- The byte offset of the first character of a kind. -/
def offsetWhere? (P : Char → Bool) : Text → Option Nat
  | [] => none
  | c :: t => if P c then some 0 else (offsetWhere? P t).map (c.utf8Size + ·)

end DirectiveLint
