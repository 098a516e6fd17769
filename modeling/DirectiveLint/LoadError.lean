import DirectiveLint.FileTree
import DirectiveLint.SchemaError
import DirectiveLint.Source

/-!
# Failures of loading

The causes for which tables or a configuration cannot be loaded or saved, and their wording.
A missing file is told apart from all other causes by `LoadError.isMissing`.
-/

namespace DirectiveLint

/-- Why a configuration cannot be used. -/
inductive ConfigDefect where
  | emptyTag
  | blankInTag (tag : Text)
  | noExtension
  | emptyExtension (ext : Text)
  | loneTable
  deriving DecidableEq, Repr

/-- The defect in words. -/
def ConfigDefect.message : ConfigDefect → Text
  | emptyTag => "tag must not be empty".toList
  | blankInTag tag => "tag must not contain whitespace: ".toList ++ quoted tag
  | noExtension => "at least one extension is required".toList
  | emptyExtension ext => "invalid extension: ".toList ++ quoted ext
  | loneTable => "schema.flags and schema.validators must be given together".toList

/-- Why tables or a configuration cannot be loaded. -/
inductive LoadError where
  /-- A file cannot be read or written. -/
  | file (cause : FileError)
  /-- A table is no JSON of the expected form. -/
  | json
  /-- A configuration is no YAML of the expected form. -/
  | yaml
  /-- The tables do not make a schema. -/
  | schema (cause : SchemaError)
  /-- The configuration cannot be used. -/
  | config (cause : ConfigDefect)
  /-- All sources are missing. -/
  | noSource (tried : List Source)
  deriving DecidableEq, Repr

namespace LoadError

/-- The cause in words. -/
def message : LoadError → Text
  | file cause => "I/O error: ".toList ++ cause.message
  | json => "JSON error".toList
  | yaml => "YAML error".toList
  | schema cause => "invalid schema: ".toList ++ cause.message
  | config cause => "invalid configuration: ".toList ++ cause.message
  | noSource tried =>
    "no schema sources available (tried: ".toList
      ++ (if tried = [] then "none configured".toList
        else joinWith ", ".toList (tried.map Source.describe))
      ++ ")".toList

/-- The error says that a source is missing, and not that it is faulty. -/
def isMissing : LoadError → Bool
  | file .notFound => true
  | _ => false

end LoadError

end DirectiveLint
