import DirectiveLint.Database
import DirectiveLint.Report

/-!
# Lists of flags

What a database says about its flags: a list of all of them and an explanation of one.
-/

namespace DirectiveLint

/-- The width of the column of names in a list. -/
def usageWidth : Nat := 32

namespace Flag

/-- The flag as data, with the values it accepts in words. -/
def toJson (f : Flag) (s : Schema) : Json :=
  .object
    [("long".toList, .ofText? f.long), ("short".toList, .ofText? f.short),
      ("description".toList, .ofText? f.description),
      ("accepts".toList, .string (s.expected f.shape))]

/-- The flag as a line of a list. -/
def describe (f : Flag) : Text :=
  f.usage.rightpad usageWidth ' ' ++ [' '] ++ f.description.getD []

/-- The flag and the values it accepts, on lines of their own. -/
def explain (f : Flag) (s : Schema) : Text :=
  f.usage ++ ['\n']
    ++ (match f.description with
      | some d => "  ".toList ++ d ++ ['\n']
      | none => [])
    ++ "  accepts: ".toList ++ s.expected f.shape ++ ['\n']

end Flag

namespace Database

/-- The list of the flags, written in a format. -/
def listFlags (db : Database) : OutputFormat → Text
  | .text => db.flags.flatMap fun f => f.describe ++ ['\n']
  | .json => Json.layout (.array (db.flags.map (·.toJson db.schema))) ++ ['\n']
  | .yaml => Yaml.write (.array (db.flags.map (·.toJson db.schema)))

/-- The size of the tables and their origin in words. -/
def summary (db : Database) : Text :=
  "Schema OK (".toList ++ db.origin.describe ++ "): ".toList ++ decimal db.schema.table.size
    ++ " flags, ".toList ++ decimal db.schema.registry.size ++ " validators".toList

end Database

end DirectiveLint
