import DirectiveLint.Database
import DirectiveLint.Linter

/-!
# Configurations

A configuration selects the tag of directives, the extensions of the documents to check and
the tables to check them against.  `defect?` finds what makes it unusable, `database` and
`linter` are what it selects.
-/

namespace DirectiveLint

/-- Where the tables of a configuration are.  If nothing is set, they are the bundled ones. -/
structure TablePaths where
  /-- A directory with both tables. -/
  directory : Option Path := none
  /-- The flag table. -/
  flags : Option Path := none
  /-- The validator table. -/
  validators : Option Path := none
  deriving DecidableEq, Repr

namespace TablePaths

/-- No path is set. -/
def isEmpty (s : TablePaths) : Bool :=
  s.directory.isNone && s.flags.isNone && s.validators.isNone

/-- The paths, the relative ones taken from a directory. -/
def relativeTo (s : TablePaths) (base : Path) : TablePaths where
  directory := s.directory.map base.join
  flags := s.flags.map base.join
  validators := s.validators.map base.join

/-- The same paths are set, and to the same paths. -/
def same (s s' : TablePaths) : Bool :=
  samePath s.directory s'.directory && samePath s.flags s'.flags
    && samePath s.validators s'.validators
where
  samePath : Option Path → Option Path → Bool
    | none, none => true
    | some p, some q => p.same q
    | _, _ => false

end TablePaths

/-- A configuration. -/
structure Config where
  /-- The version of the format. -/
  version : Text := "1.0".toList
  /-- The tag of directives. -/
  tag : Text := Tag.default.text
  /-- The extensions of the documents to check. -/
  extensions : List Text := [defaultExtension]
  /-- Where the tables are. -/
  tables : TablePaths := {}
  deriving DecidableEq, Repr

namespace Config

/-- The configurations agree in all fields. -/
def same (c d : Config) : Bool :=
  c.version == d.version && c.tag == d.tag && c.extensions == d.extensions
    && c.tables.same d.tables

/-- An extension that has nothing behind its dots. -/
def isEmptyExtension (ext : Text) : Bool := (trimStart '.' ext).isEmpty

/-- The first thing that makes a configuration unusable. -/
def defect? (c : Config) : Option ConfigDefect :=
  if c.tag = [] then some .emptyTag
  else if c.tag.any Unicode.isBlank then some (.blankInTag c.tag)
  else if c.extensions = [] then some .noExtension
  else
    match c.extensions.find? isEmptyExtension with
    | some ext => some (.emptyExtension ext)
    | none =>
      if c.tables.flags.isSome ≠ c.tables.validators.isSome then some .loneTable else none

/-- The configuration itself, if nothing makes it unusable. -/
def checked (c : Config) : Except LoadError Config :=
  match c.defect? with
  | some defect => .error (.config defect)
  | none => .ok c

/-- The sources of the tables in the order in which they are tried. -/
def sources (c : Config) : List Source :=
  (match c.tables.flags, c.tables.validators with
    | some flags, some validators => [.files flags validators]
    | _, _ => [])
    ++ (c.tables.directory.map Source.directory).toList ++ [.bundled]

/-- The database that a configuration selects. -/
def database (c : Config) (t : FileTree) : Except LoadError Database :=
  Database.loadFirst t c.sources

/-- The linter that a configuration selects. -/
def linter (c : Config) (db : Database) : Except LoadError Linter :=
  match Tag.ofText c.tag with
  | .error e => .error (.schema e)
  | .ok tag =>
    let l : Linter := { schema := db.schema, tag }
    .ok (l.withExtensions c.extensions)

end Config

end DirectiveLint
