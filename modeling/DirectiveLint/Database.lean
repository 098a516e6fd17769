import DirectiveLint.Database.Bundled
import DirectiveLint.LoadError

/-!
# Databases

A database is a schema together with the source of its tables.  Sources can be chained: a
source that is missing is passed over, and one that is there but faulty ends the search.
-/

namespace DirectiveLint

/-- The name of the flag table in a directory. -/
def flagsFile : Path := .ofText "flags.json".toList

/-- The name of the validator table in a directory. -/
def validatorsFile : Path := .ofText "validators.json".toList

/-- A schema and the origin of its tables. -/
structure Database where
  /-- The schema. -/
  schema : Schema
  /-- How its tables were found. -/
  origin : Origin

namespace Database

/-- The schema that the texts of two tables make; without a validator table there are only
the builtin validators. -/
def schemaOfTexts (flags : Text) (validators : Option Text) : Except LoadError Schema :=
  match FlagRecord.readTable? flags with
  | none => .error .json
  | some records =>
    match validators.elim (some []) ValidatorTable.read? with
    | none => .error .json
    | some table => (Schema.ofTables records table).mapError .schema

/-- The schema of the tables in a directory, of which the validator table may be missing. -/
def schemaOfDirectory (t : FileTree) (p : Path) : Except LoadError Schema :=
  match t.readText (p.join flagsFile) with
  | .error e => .error (.file e)
  | .ok flags =>
    match t.readText (p.join validatorsFile) with
    | .ok validators => schemaOfTexts flags (some validators)
    | .error .notFound => schemaOfTexts flags none
    | .error e => .error (.file e)

/-- The schema of the tables in two files. -/
def schemaOfFiles (t : FileTree) (flags validators : Path) : Except LoadError Schema :=
  match t.readText flags with
  | .error e => .error (.file e)
  | .ok flags =>
    match t.readText validators with
    | .error e => .error (.file e)
    | .ok validators => schemaOfTexts flags (some validators)

/-- The schema of the bundled tables. -/
def bundledSchema : Except LoadError Schema := Bundled.schema.mapError .schema

/-- The schema of a source. -/
def schemaOfSource (t : FileTree) : Source → Except LoadError Schema
  | .directory p => schemaOfDirectory t p
  | .files flags validators => schemaOfFiles t flags validators
  | .bundled => bundledSchema

/-- The database of a source. -/
def load (t : FileTree) (s : Source) : Except LoadError Database :=
  (schemaOfSource t s).map (⟨·, .direct s⟩)

/-- The first of some sources that is not missing, with what loading it gives. -/
def firstPresent? (t : FileTree) : List Source → Option (Source × Except LoadError Schema)
  | [] => none
  | s :: ss =>
    match schemaOfSource t s with
    | .error e => if e.isMissing then firstPresent? t ss else some (s, .error e)
    | .ok schema => some (s, .ok schema)

/-- How a source was found among some sources. -/
def originAmong (sources : List Source) (s : Source) : Origin :=
  if 1 < sources.length then .chain sources s else .direct s

/-- The database of the first of some sources that is not missing. -/
def loadFirst (t : FileTree) (sources : List Source) : Except LoadError Database :=
  match firstPresent? t sources with
  | none => .error (.noSource sources)
  | some (_, .error e) => .error e
  | some (s, .ok schema) => .ok ⟨schema, originAmong sources s⟩

/-- The flag that is written with its dashes or as a bare name. -/
def find? (db : Database) (written : Text) : Option Flag := db.schema.table.find? written

/-- The flags in the order of the table. -/
def flags (db : Database) : List Flag := db.schema.table.flags

end Database

end DirectiveLint
