import DirectiveLint.Text

/-!
# Lines

A document is cut into lines at line feeds.  A carriage return before a line feed belongs
to the terminator, and one more at the end of a line is dropped as well; the last line may
lack its terminator, and nothing after the last terminator is no line.
-/

namespace DirectiveLint

/-- A text without the carriage return that ends it. -/
def dropReturn (t : Text) : Text :=
  if t.getLast? = some '\r' then t.dropLast else t

/-- The lines of a document, without their terminators.  `pieces` parts the document at its
line feeds: every piece but the last was terminated, and an empty last piece is no line. -/
def linesOfPieces : List Text → List Text
  | [] => []
  | [last] => if last = [] then [] else [last]
  | p :: q :: ps => dropReturn p :: linesOfPieces (q :: ps)

/-- The lines of a document, a carriage return before each line feed dropped. -/
def terminatedLines (t : Text) : List Text := linesOfPieces (pieces '\n' t)

/-- The lines of a document as they are checked: one more carriage return at the end of
each is dropped. -/
def lines (t : Text) : List Text := (terminatedLines t).map dropReturn

end DirectiveLint
