import DirectiveLint.CommandLine.Arguments
import DirectiveLint.Report

/-!
# Commands

What the program is asked to do.  `Command.read?` reads a command from the arguments of the
program; arguments that make no command are a usage error.
-/

namespace DirectiveLint.CommandLine

/-- Where a command finds the configuration and the tables. -/
structure SchemaOptions where
  /-- The configuration file; if it is not set, the nearest one is used. -/
  config : Option Path
  /-- The directory of the tables; if it is not set, the configuration says where they are. -/
  directory : Option Path
  deriving DecidableEq, Repr

/-- What the program is asked to do. -/
inductive Command where
  /-- Check scripts. -/
  | check (schema : SchemaOptions) (format : OutputFormat) (allFiles : Bool) (inputs : List Path)
  /-- List the flags. -/
  | flags (schema : SchemaOptions) (format : OutputFormat)
  /-- Explain a flag. -/
  | explain (schema : SchemaOptions) (written : Text)
  /-- Load the tables. -/
  | checkSchema (schema : SchemaOptions)
  deriving DecidableEq, Repr

/-! ## Values of options -/

/-- A path, which has at least one character. -/
def path? (t : Text) : Option Path := if t = [] then none else some (.ofText t)

/-- The format with a name. -/
def format? (t : Text) : Option OutputFormat :=
  if t = "text".toList then some .text
  else if t = "json".toList then some .json
  else if t = "yaml".toList then some .yaml
  else none

/-- A number of jobs: digits behind an optional plus sign, with a value below `2 ^ 64`. -/
def jobs? (t : Text) : Option Nat :=
  let digits := (dropPrefix? ['+'] t).getD t
  if isDigits digits && ofDigits digits < bitBound 64 then some (ofDigits digits) else none

/-- The value of an option, read by a function; the default if the option is missing. -/
def Arguments.value? {α : Type} (a : Arguments) (name : String) (default : α)
    (read : Text → Option α) : Option α :=
  match a.option? name.toList with
  | none => none
  | some none => some default
  | some (some t) => read t

/-- The options that all commands have. -/
def SchemaOptions.ofArguments? (a : Arguments) : Option SchemaOptions := do
  let config ← a.value? "config" none fun t => (path? t).map some
  let directory ← a.value? "schema-dir" none fun t => (path? t).map some
  some ⟨config, directory⟩

/-! ## Commands -/

/-- The arguments of a command with some options and switches beside those of all commands. -/
def grammar (options switches : List String) (words : Words) : Grammar where
  options := (["config", "schema-dir"] ++ options).map String.toList
  switches := verboseSwitch :: switches.map String.toList
  words := words

namespace Command

/-- The command to check scripts, at least one. -/
def check? (args : List Text) : Option Command := do
  let a ← Arguments.read? (grammar ["format", "jobs"] ["all-files"] .any) args
  let schema ← SchemaOptions.ofArguments? a
  let format ← a.value? "format" .text format?
  let allFiles ← a.switch? "all-files".toList
  let _ ← a.value? "jobs" 0 jobs?
  let inputs ← a.words.mapM path?
  if inputs = [] then none else some (check schema format allFiles inputs)

/-- The command to list the flags. -/
def flags? (args : List Text) : Option Command := do
  let a ← Arguments.read? (grammar ["format"] [] .none) args
  let schema ← SchemaOptions.ofArguments? a
  let format ← a.value? "format" .text format?
  some (flags schema format)

/-- The command to explain a flag, which is written as in a directive or as a bare name. -/
def explain? (args : List Text) : Option Command := do
  let a ← Arguments.read? (grammar [] [] .one) args
  let schema ← SchemaOptions.ofArguments? a
  let written ← a.words.head?
  some (explain schema written)

/-- The command to load the tables. -/
def checkSchema? (args : List Text) : Option Command := do
  let a ← Arguments.read? (grammar [] [] .none) args
  let schema ← SchemaOptions.ofArguments? a
  some (checkSchema schema)

/-- An argument that only asks for more messages. -/
def isVerbose (arg : Text) : Bool :=
  Argument.ofText (grammar [] [] .none) false arg = .switch verboseSwitch

/-- The command that the arguments of the program ask for. -/
def read? (args : List Text) : Option Command :=
  match args.dropWhile isVerbose with
  | [] => none
  | name :: rest =>
    if name = "check".toList then check? rest
    else if name = "flags".toList then flags? rest
    else if name = "explain".toList then explain? rest
    else if name = "check-schema".toList then checkSchema? rest
    else none

end Command

end DirectiveLint.CommandLine
