import DirectiveLint.CommandLine.Command
import DirectiveLint.Config.File
import DirectiveLint.FlagListing

/-!
# Running commands

What a command writes, as a function of the files that it sees.  An outcome is good if
nothing failed; a failure is written last among the messages.
-/

namespace DirectiveLint.CommandLine

/-- Why a command fails. -/
inductive Failure where
  /-- A configuration or tables cannot be loaded; the path is given if the command named it. -/
  | load (at? : Option Path) (cause : LoadError)
  /-- The files to check cannot be collected. -/
  | collect (cause : CollectError)
  /-- Some files could not be read. -/
  | unreadable (count : Nat)
  /-- Some findings are errors. -/
  | errors (count : Nat)
  /-- There is no such flag. -/
  | unknownFlag (written : Text)
  deriving DecidableEq, Repr

/-- The cause in words. -/
def Failure.message : Failure → Text
  | load (some p) cause => p.display ++ ": ".toList ++ cause.message
  | load none cause => cause.message
  | collect cause => cause.message
  | unreadable count => decimal count ++ " files could not be read".toList
  | errors count => decimal count ++ " directive errors found".toList
  | unknownFlag written => "unrecognized flag: ".toList ++ written

/-- What a command writes and how it ends. -/
structure Outcome where
  /-- The text on the standard output. -/
  output : Text := []
  /-- The messages before the failure. -/
  messages : List Text := []
  /-- Why the command failed, if it did. -/
  failure : Option Failure := none
  deriving DecidableEq, Repr

/-- A message about a failure. -/
def errorMessage (t : Text) : Text := "error: ".toList ++ t

namespace Outcome

/-- The exit status: zero if nothing failed. -/
def status (o : Outcome) : Nat := if o.failure.isSome then 1 else 0

/-- All messages, each on a line of its own. -/
def messageText (o : Outcome) : Text :=
  (o.messages ++ (o.failure.map fun f => errorMessage f.message).toList).flatMap (· ++ ['\n'])

end Outcome

/-! ## Loading -/

/-- The configuration file that a command uses, if there is one. -/
def SchemaOptions.configPath? (o : SchemaOptions) (t : FileTree) : Option Path :=
  match o.config with
  | some p => some p
  | none => Config.discover? t t.workingPath

/-- The configuration that a command uses. -/
def SchemaOptions.loadConfig (o : SchemaOptions) (t : FileTree) : Except Failure Config :=
  match o.configPath? t with
  | some p => (Config.load t p).mapError (.load (some p))
  | none => .ok {}

/-- The database that a command uses. -/
def SchemaOptions.loadDatabase (o : SchemaOptions) (t : FileTree) (c : Config) :
    Except Failure Database :=
  match o.directory with
  | some p => (Database.load t (.directory p)).mapError (.load (some p))
  | none => (c.database t).mapError (.load none)

/-- The configuration and the database that a command uses. -/
def SchemaOptions.load (o : SchemaOptions) (t : FileTree) : Except Failure (Config × Database) := do
  let c ← o.loadConfig t
  let db ← o.loadDatabase t c
  .ok (c, db)

/-! ## Commands -/

/-- How a check that gave a report ends. -/
def failureOf (r : Report) : Option Failure :=
  if r.unreadable ≠ [] then some (.unreadable r.unreadable.length)
  else if r.errorCount ≠ 0 then some (.errors r.errorCount)
  else none

/-- The outcome of a check that gave a report. -/
def Outcome.ofReport (r : Report) (format : OutputFormat) : Outcome where
  output := r.render format
  messages :=
    (r.unreadable.map fun (p, e) => errorMessage (p.display ++ ": ".toList ++ e.message))
      ++ [r.summary]
  failure := failureOf r

/-- The report on the scripts at some paths.  The extensions matter where scripts are looked
for in a directory, and every script that was found is checked. -/
def check (t : FileTree) (o : SchemaOptions) (allFiles : Bool) (inputs : List Path) :
    Except Failure Report := do
  let (c, db) ← o.load t
  let l ← (c.linter db).mapError (.load none)
  let scripts ← (collectScripts t l allFiles inputs).mapError .collect
  .ok (.ofFiles t l.withAnyExtension scripts)

/-- The text that explains a flag. -/
def explain (t : FileTree) (o : SchemaOptions) (written : Text) : Except Failure Text := do
  let (_, db) ← o.load t
  match db.find? written with
  | some f => .ok (f.explain db.schema)
  | none => .error (.unknownFlag written)

/-- The outcome of something that fails or gives an outcome. -/
def Outcome.ofExcept : Except Failure Outcome → Outcome
  | .ok o => o
  | .error f => { failure := some f }

/-- What a command does. -/
def run (t : FileTree) (c : Command) : Outcome :=
  .ofExcept <|
    match c with
    | .check o format allFiles inputs => (check t o allFiles inputs).map (.ofReport · format)
    | .flags o format => (o.load t).map fun (_, db) => { output := db.listFlags format }
    | .explain o written => (explain t o written).map ({ output := · })
    | .checkSchema o => (o.load t).map fun (_, db) => { output := db.summary ++ ['\n'] }

end DirectiveLint.CommandLine
