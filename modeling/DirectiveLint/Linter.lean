import DirectiveLint.Check
import DirectiveLint.Path
import DirectiveLint.Text.Line
import DirectiveLint.Unicode.Property

/-!
# The linter

A linter checks the directive lines of documents against a schema.  `checkLine` reports on
one line, `checkDocument` on all lines of a text that hold more than blanks, in their order.
-/

namespace DirectiveLint

/-- A marker of directive lines, which holds at least one character. -/
structure Tag where
  /-- The marker. -/
  text : Text
  /-- An empty marker would make every line a directive. -/
  text_ne : text ≠ []

namespace Tag

/-- The tag with a text, unless that is empty. -/
def ofText (t : Text) : Except SchemaError Tag :=
  if h : t ≠ [] then .ok ⟨t, h⟩ else .error .emptyTag

/-- The tag of the batch scheduler. -/
def default : Tag := ⟨"#SBATCH".toList, by decide⟩

end Tag

/-- The extension of the documents that are checked when none is configured. -/
def defaultExtension : Text := "sh".toList

/-- What documents are checked and against what. -/
structure Linter where
  /-- The flags and validators. -/
  schema : Schema
  /-- The marker of directive lines. -/
  tag : Tag := .default
  /-- The extensions of the documents to check. -/
  extensions : List Text := [defaultExtension]
  /-- Documents with any extension, or none, are checked. -/
  anyExtension : Bool := false

namespace Linter

/-- The linter for documents with these extensions; dots before an extension do not count. -/
def withExtensions (l : Linter) (extensions : List Text) : Linter :=
  { l with extensions := extensions.map (trimStart '.') }

/-- The linter for documents with any extension. -/
def withAnyExtension (l : Linter) : Linter := { l with anyExtension := true }

/-- The documents at a path are checked.  An extension whose bytes are no text is none of those
to check. -/
def appliesTo (l : Linter) (p : Path) : Bool :=
  l.anyExtension || (p.extension?.bind ofUtf8?).any (l.extensions.contains ·)

/-- The reports on a line; there are none if it does not start with the tag. -/
def checkLine (l : Linter) (line : Text) : List Diagnostic :=
  match Directive.read l.tag.text line with
  | some d => d.diagnostics l.schema l.tag.text
  | none => []

/-- The findings on a line with its number. -/
def checkNumbered (l : Linter) (line : Text) (number : Nat) : List Finding :=
  if line.all Unicode.isBlank then [] else (l.checkLine line).map (⟨number, ·⟩)

/-- The findings in a document. -/
def checkDocument (l : Linter) (text : Text) : List Finding :=
  (lines text).zipIdx.flatMap fun (line, number) => l.checkNumbered line number

end Linter

end DirectiveLint
