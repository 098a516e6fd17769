import DirectiveLint.Path

/-!
# Sources

A source says where the tables of flags and validators are, and an origin says which of the
sources that were tried had them.
-/

namespace DirectiveLint

/-- Where tables come from. -/
inductive Source where
  /-- A directory with the tables under their usual names. -/
  | directory (p : Path)
  /-- One file for each table. -/
  | files (flags validators : Path)
  /-- The bundled tables. -/
  | bundled
  deriving DecidableEq, Repr

/-- A source in words. -/
def Source.describe : Source → Text
  | directory p => "directory ".toList ++ p.display
  | files flags validators =>
    "files ".toList ++ flags.display ++ " + ".toList ++ validators.display
  | bundled => "bundled tables".toList

/-- How the tables of a database were found. -/
inductive Origin where
  /-- From a given source. -/
  | direct (source : Source)
  /-- From one of several sources. -/
  | chain (tried : List Source) (loaded : Source)
  deriving DecidableEq, Repr

namespace Origin

/-- The source of the tables. -/
def source : Origin → Source
  | direct s => s
  | chain _ s => s

/-- An origin in words. -/
def describe : Origin → Text
  | direct s => s.describe
  | chain _ s => s.describe ++ " (via fallback chain)".toList

end Origin

end DirectiveLint
