import DirectiveLint.Config
import DirectiveLint.Yaml.Node

/-!
# Configuration records

The YAML form of configurations: a mapping, all of whose keys may be missing.  A text is
taken as it is written, whatever it looks like; reading passes over other keys and refuses
one that is repeated.
-/

namespace DirectiveLint

namespace Yaml

/-- Nothing is written, or nothing but a tag. -/
def Node.isBlank : Node → Bool
  | scalar true _ [] => true
  | _ => false

namespace Document

/-- The text of a scalar. -/
def text? (d : Document) (n : Node) : Option Text :=
  match d.resolve n with
  | .scalar _ _ t => some t
  | _ => none

/-- The items of a sequence; there are none if nothing is written. -/
def items? (d : Document) (n : Node) : Option (List Node) :=
  match d.resolve n with
  | .sequence items => some items
  | n => if n.isBlank then some [] else none

/-- The entries of a mapping under the texts of their keys; there are none if nothing is
written. -/
def entries? (d : Document) (n : Node) : Option (List (Text × Node)) :=
  match d.resolve n with
  | .mapping entries => entries.mapM fun (k, v) => (d.text? k).map (·, v)
  | n => if n.isBlank then some [] else none

/-- The spellings of null. -/
def nullWords : List Text := ["null".toList, "Null".toList, "NULL".toList, "~".toList]

/-- The tag of null. -/
def nullTag : Text := "tag:yaml.org,2002:null".toList

/-- The path that a node denotes, or no path if it is null.  A scalar with any other tag than
that of null is a path. -/
def path? (d : Document) (n : Node) : Option (Option Path) :=
  match d.resolve n with
  | .scalar true none t => some (if t = [] ∨ t ∈ nullWords then none else some (.ofText t))
  | .scalar true (some tag) t =>
    if tag = nullTag then if t ∈ nullWords then some none else none else some (some (.ofText t))
  | .scalar false _ t => some (some (.ofText t))
  | _ => none

end Document

/-- The value of an entry, if there is one with the key; `none` if there are several. -/
def entry? (entries : List (Text × Node)) (key : Text) : Option (Option Node) :=
  match entries.filter (·.1 = key) with
  | [] => some none
  | [(_, v)] => some (some v)
  | _ => none

end Yaml

open Yaml (Document Node)

/-- The paths of tables that a node denotes. -/
def TablePaths.ofNode (d : Document) (n : Node) : Option TablePaths := do
  let entries ← d.entries? n
  let path (key : String) : Option (Option Path) := do
    match ← Yaml.entry? entries key.toList with
    | some v => d.path? v
    | none => some none
  let directory ← path "dir"
  let flags ← path "flags"
  let validators ← path "validators"
  some { directory, flags, validators }

/-- The YAML form of the paths of tables, if all of them are texts; those that are not set are left
out. -/
def TablePaths.toData? (s : TablePaths) : Option Json := do
  let member (key : String) (path : Option Path) : Option (List (Text × Json)) :=
    match path with
    | none => some []
    | some p => (ofUtf8? p.bytes).map fun t => [(key.toList, .string t)]
  let directory ← member "dir" s.directory
  let flags ← member "flags" s.flags
  let validators ← member "validators" s.validators
  some (.object (directory ++ flags ++ validators))

namespace Config

/-- The configuration that a document denotes. -/
def ofDocument (d : Document) : Option Config := do
  let entries ← d.entries? d.root
  let field {α : Type} (key : String) (default : α) (read : Node → Option α) : Option α := do
    match ← Yaml.entry? entries key.toList with
    | some v => read v
    | none => some default
  let version ← field "version" ({} : Config).version d.text?
  let tag ← field "tag" ({} : Config).tag d.text?
  let extensions ← field "extensions" ({} : Config).extensions fun v => do
    (← d.items? v).mapM d.text?
  let tables ← field "schema" {} (TablePaths.ofNode d)
  some { version, tag, extensions, tables }

/-- The YAML form of a configuration, if all of its paths are texts. -/
def toData? (c : Config) : Option Json := do
  let tables ← c.tables.toData?
  some <| .object
    [("version".toList, .string c.version), ("tag".toList, .string c.tag),
      ("extensions".toList, .array (c.extensions.map .string)), ("schema".toList, tables)]

/-- The configuration that a text denotes; an empty text denotes the one in which nothing is
set, and several documents are refused. -/
def read? (t : Text) : Option Config :=
  match Yaml.documents? t with
  | some [] => some {}
  | some [d] => ofDocument d
  | _ => none

end Config

end DirectiveLint
