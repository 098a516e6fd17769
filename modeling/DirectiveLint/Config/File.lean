import DirectiveLint.Config.Record
import DirectiveLint.Yaml.Writer

/-!
# Configuration files

Loading and saving configurations, and the search for the file that applies to a directory.
Loading takes relative paths of tables from the directory of the file.
-/

namespace DirectiveLint

namespace Config

/-- The usual name of a configuration file. -/
def fileName : Path := .ofText ".sbatch-lint.yml".toList

/-- The configuration in a file.  What can be opened but holds no text is refused like a text that
is no configuration. -/
def load (t : FileTree) (p : Path) : Except LoadError Config :=
  match t.readText p with
  | .error .isDirectory => .error .yaml
  | .error .notText => .error .yaml
  | .error e => .error (.file e)
  | .ok text =>
    match read? text with
    | none => .error .yaml
    | some c =>
      match p.parent? with
      | some base => { c with tables := c.tables.relativeTo base }.checked
      | none => c.checked

/-- The nearest configuration file in a directory and those above it. -/
def discover? (t : FileTree) (directory : Path) : Option Path :=
  (directory.ancestors.map (·.join fileName)).find? t.isFile

/-- The tree with a configuration written to a file.  The file is opened before the configuration
is written as YAML, which fails if one of its paths is no text. -/
def save (c : Config) (t : FileTree) (p : Path) : Except LoadError FileTree :=
  match c.toData? with
  | some data => (t.writeText p (Yaml.write data)).mapError .file
  | none =>
    match t.writeText p [] with
    | .error e => .error (.file e)
    | .ok _ => .error .yaml

end Config

end DirectiveLint
