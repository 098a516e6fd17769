import DirectiveLint.Diagnostic.Record
import DirectiveLint.DocumentStore
import DirectiveLint.FileTree
import DirectiveLint.Json.Layout
import DirectiveLint.PathSet
import DirectiveLint.Yaml.Writer

/-!
# Reports

`collectScripts` finds the files that are to be checked, and a `Report` says what checking
them gave: the findings of each file that could be read, and the other files with the reason.
-/

namespace DirectiveLint

/-- How a report or a list is written. -/
inductive OutputFormat where
  | text
  | json
  | yaml
  deriving DecidableEq, Repr

/-! ## Files to check -/

/-- Why no files are collected. -/
inductive CollectError where
  /-- There is neither a file nor a directory at a path. -/
  | missing (p : Path)
  /-- The directory at a path, or one below it, cannot be listed. -/
  | walk (p : Path) (cause : FileError)
  deriving DecidableEq, Repr

/-- The cause in words. -/
def CollectError.message : CollectError → Text
  | missing p => "path '".toList ++ p.display ++ "' does not exist".toList
  | walk p cause => p.display ++ ": ".toList ++ cause.message

/-- The files that a path stands for: a file stands for itself, and a directory for the files
below it that the linter applies to, or for all of them; hidden ones are left out. -/
def scriptsAt (t : FileTree) (l : Linter) (allFiles : Bool) (p : Path) :
    Except CollectError (List Path) :=
  match t.find p with
  | .ok (.directory _) =>
    match t.visibleFiles p with
    | .ok found => .ok (found.filter fun q => allFiles || l.appliesTo q)
    | .error e => .error (.walk p e)
  | .ok (.file _) => .ok [p]
  | .error _ => .error (.missing p)

/-- The files that some paths stand for, or the first reason why there are none. -/
def collectScripts (t : FileTree) (l : Linter) (allFiles : Bool) (inputs : List Path) :
    Except CollectError PathSet :=
  (inputs.mapM (scriptsAt t l allFiles)).map fun found => .ofList found.flatten

/-! ## Reports on files -/

/-- The findings in a file. -/
structure FileReport where
  /-- The path of the file. -/
  path : Path
  /-- Its findings in the order of its lines. -/
  findings : List Finding
  deriving DecidableEq, Repr

/-- What checking some files gave. -/
structure Report where
  /-- The files that could be read. -/
  files : List FileReport
  /-- The files that could not be read. -/
  unreadable : List (Path × FileError)
  deriving DecidableEq, Repr

/-- A finding in a file as a line of text. -/
def Finding.describe (f : Finding) (p : Path) : Text :=
  let (line, column) := f.position
  p.display ++ [':'] ++ decimal line ++ [':'] ++ decimal column ++ ": ".toList
    ++ f.diagnostic.severity.name ++ ['['] ++ f.diagnostic.rule.code ++ "]: ".toList
    ++ f.diagnostic.message

/-- A finding as a member of the report on a file. -/
def Finding.toJson (f : Finding) : Json :=
  let (line, column) := f.position
  .object
    [("line".toList, .ofNat line), ("column".toList, .ofNat column),
      ("code".toList, .string f.diagnostic.rule.code),
      ("severity".toList, .string f.diagnostic.severity.name),
      ("message".toList, .string f.diagnostic.message), ("span".toList, f.diagnostic.span.toJson)]

namespace FileReport

/-- The report as lines of text. -/
def describe (r : FileReport) : Text := r.findings.flatMap fun f => f.describe r.path ++ ['\n']

/-- The report as data. -/
def toJson (r : FileReport) : Json :=
  .object
    [("path".toList, .string r.path.display),
      ("diagnostics".toList, .array (r.findings.map Finding.toJson))]

end FileReport

namespace Report

/-- The report on a file with a text: what a store holds of it after it was checked. -/
def ofText (l : Linter) (p : Path) (text : Text) : FileReport :=
  ⟨p, ((DocumentStore.lint [] l p text).find? p).getD []⟩

/-- The report on a file that can be read. -/
def ofFile? (t : FileTree) (l : Linter) (p : Path) : Option FileReport :=
  match t.readText p with
  | .ok text => some (ofText l p text)
  | .error _ => none

/-- The reason why a file cannot be read. -/
def reason? (t : FileTree) (p : Path) : Option (Path × FileError) :=
  match t.readText p with
  | .ok _ => none
  | .error e => some (p, e)

/-- The report on some files. -/
def ofFiles (t : FileTree) (l : Linter) (ps : List Path) : Report where
  files := ps.filterMap (ofFile? t l)
  unreadable := ps.filterMap (reason? t)

/-- The number of errors among the findings. -/
def errorCount (r : Report) : Nat :=
  (r.files.flatMap FileReport.findings).countP fun f => f.diagnostic.severity == .error

/-- The number of files with findings. -/
def problemCount (r : Report) : Nat := r.files.countP fun f => !f.findings.isEmpty

/-- The findings, written in a format. -/
def render (r : Report) : OutputFormat → Text
  | .text => r.files.flatMap FileReport.describe
  | .json => Json.layout (.array (r.files.map FileReport.toJson)) ++ ['\n']
  | .yaml => Yaml.write (.array (r.files.map FileReport.toJson)) ++ ['\n']

/-- The counts in words. -/
def summary (r : Report) : Text :=
  "Checked ".toList ++ decimal r.files.length ++ " files: ".toList ++ decimal r.errorCount
    ++ " errors in ".toList ++ decimal r.problemCount ++ " files".toList

end Report

end DirectiveLint
