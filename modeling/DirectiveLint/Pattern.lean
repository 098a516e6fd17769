import DirectiveLint.Pattern.Reader

/-!
# Patterns

A pattern of the validator table is set between anchors and then read as a regular
expression; the text between the anchors is not looked at by itself.
-/

namespace DirectiveLint

/-- A pattern that could be read. -/
structure Pattern where
  /-- The written form, anchors included. -/
  source : Text
  /-- What the written form stands for. -/
  regex : Pattern.Regex
  deriving DecidableEq, Repr

namespace Pattern

/-- A written pattern between anchors for the start and the end of a text. -/
def anchored (written : Text) : Text := "^(?:".toList ++ written ++ ")$".toList

/-- The pattern with a written form, if that can be read between its anchors. -/
def ofWritten? (written : Text) : Option Pattern :=
  (read? (anchored written)).map fun regex => ⟨anchored written, regex⟩

/-- A text is matched somewhere. -/
def accepts (p : Pattern) (t : Text) : Bool := p.regex.foundIn t

end Pattern

end DirectiveLint
