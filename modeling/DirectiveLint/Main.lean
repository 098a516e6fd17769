import DirectiveLint.CommandLine.Lookup

/-!
# The program

Gathers the files that the command of the arguments looks at, runs the command on them and
writes what it gives.  The exit status is 2 if the arguments make no command.
-/

namespace DirectiveLint.Disk

/-- The name of a place on the disk. -/
def nameOf (place : Place) : String := String.ofList (display (slash :: joinWith [slash] place))

/-- A place on the disk. -/
def entryAt (place : Place) : IO.FS.DirEntry where
  root := nameOf place.dropLast
  fileName := String.ofList (display (place.getLast?.getD []))

/-- What may be done with a directory of the disk. -/
def rightsAt (place : Place) : IO DirectoryRights := do
  let list ← try
      let _ ← (entryAt place).path.readDir
      pure true
    catch _ => pure false
  let search ← (entryAt (place ++ [[dot]])).path.pathExists
  return { list, search }

/-- What a file of the disk holds. -/
def contentAt (place : Place) : IO FileContent := do
  try
    let bytes ← IO.FS.readBinFile (entryAt place).path
    return { text := (String.fromUTF8? bytes).map String.toList }
  catch _ => return { text := none, read := false }

/-- The tree with what lies at a place of the disk. -/
def look (t : FileTree) (place : Place) : IO FileTree := do
  if (t.entry? place).isSome then return t
  let here := (entryAt place).path
  if ← here.isDir then return t.add place (.directory (← rightsAt place))
  if ← here.pathExists then return t.add place (.file (← contentAt place))
  return t

/-- The tree with all places that a path leads through. -/
def lookAlong (t : FileTree) (p : Path) : IO FileTree := do
  let start := if p.isAbsolute then [] else t.workingPlace
  let go := fun ((t, place) : FileTree × Place) piece => do
    match t.step place piece with
    | .ok next => return (← look t next, next)
    | .error _ => return (t, place)
  return (← (pieces slash p.bytes).foldlM go (t, start)).1

/-- The tree with all that lies below a place of the disk and is not hidden. -/
partial def lookBelow (t : FileTree) (place : Place) : IO FileTree := do
  let mut t := t
  for entry in ← (entryAt place).path.readDir do
    let name := utf8 entry.fileName.toList
    unless FileTree.isHidden name do
      t ← look t (place ++ [name])
      if let some (.directory { list := true, search := true }) := t.entry? (place ++ [name]) then
        t ← lookBelow t (place ++ [name])
  return t

/-- The tree with what a command is to check at a path. -/
def lookAt (t : FileTree) (p : Path) : IO FileTree := do
  let t ← lookAlong t p
  match t.listing p with
  | .ok place => lookBelow t place
  | .error _ => return t

/-- The tree of the files that a command looks at. -/
def gather (c : CommandLine.Command) : IO FileTree := do
  let workingPath := utf8 (← IO.currentDir).toString.toList
  let start : FileTree := ⟨[], (pieces slash workingPath).filter (· ≠ [])⟩
  let t ← lookAlong start start.workingPath
  let t ← (c.schema.configFiles t.workingPath).foldlM lookAlong t
  let t ← (c.schema.tableFiles t).foldlM lookAlong t
  c.inputs.foldlM lookAt t

end DirectiveLint.Disk

/-- Runs the command that the arguments ask for. -/
def main (args : List String) : IO UInt32 := do
  match DirectiveLint.CommandLine.Command.read? (args.map String.toList) with
  | none =>
    IO.eprintln "error: the arguments make no command"
    return 2
  | some c =>
    let o := DirectiveLint.CommandLine.run (← DirectiveLint.Disk.gather c) c
    IO.print (String.ofList o.output)
    IO.eprint (String.ofList o.messageText)
    return o.status.toUInt32
