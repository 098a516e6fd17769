import DirectiveLint.CommandLine.Run

/-!
# What a command looks at

The paths at which a command looks for files, so that a tree can be gathered that holds all
of them before the command runs.
-/

namespace DirectiveLint.CommandLine

/-- The files of a source. -/
def sourceFiles : Source → List Path
  | .directory p => [p.join flagsFile, p.join validatorsFile]
  | .files flags validators => [flags, validators]
  | .bundled => []

/-- The files that may be the configuration of a command. -/
def SchemaOptions.configFiles (o : SchemaOptions) (workingPath : Path) : List Path :=
  match o.config with
  | some p => [p]
  | none => workingPath.ancestors.map (·.join Config.fileName)

/-- The files that may hold the tables of a command, seen from a tree with its
configuration. -/
def SchemaOptions.tableFiles (o : SchemaOptions) (t : FileTree) : List Path :=
  match o.directory, o.loadConfig t with
  | some p, _ => sourceFiles (.directory p)
  | none, .ok c => c.sources.flatMap sourceFiles
  | none, .error _ => []

namespace Command

/-- The configuration and the tables that a command asks for. -/
def schema : Command → SchemaOptions
  | check o _ _ _ => o
  | flags o _ => o
  | explain o _ => o
  | checkSchema o => o

/-- The files and directories that a command is to check. -/
def inputs : Command → List Path
  | check _ _ _ ps => ps
  | flags _ _ => []
  | explain _ _ => []
  | checkSchema _ => []

end Command

end DirectiveLint.CommandLine
