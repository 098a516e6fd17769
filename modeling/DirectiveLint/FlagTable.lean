import DirectiveLint.Directive
import DirectiveLint.Flag
import DirectiveLint.SchemaError
import DirectiveLint.Text.Order

/-!
# The table of flags

The flags in the order of the table, and one map for each kind of name.  `FlagTable.ofList`
builds the maps and refuses names that could not be written on a directive line and names
that occur twice; `resolve` looks a name up in both maps.
-/

namespace DirectiveLint

/-- A name that can be written on a directive line. -/
def isFlagName (name : Text) : Bool :=
  !name.isEmpty && name.head? != some '-' && !name.any isSeparator

/-- The flags with the maps of their names. -/
structure FlagTable where
  /-- The flags in the order of the table. -/
  flags : List Flag
  /-- The flags under their long names. -/
  byLong : TextMap Flag
  /-- The flags under their short names. -/
  byShort : TextMap Flag

/-- What a name stands for as a long and as a short name. -/
structure Resolution where
  /-- The flag with this long name. -/
  long : Option Flag
  /-- The flag with this short name. -/
  short : Option Flag

namespace Resolution

/-- The name is a long or a short name. -/
def isKnown (r : Resolution) : Bool := r.long.isSome || r.short.isSome

/-- The name may be written behind one dash. -/
def acceptsSingleDash (r : Resolution) : Bool := r.short.isSome

/-- The name may be written behind two dashes. -/
def acceptsDoubleDash (r : Resolution) : Bool := r.long.isSome

/-- The flag that is meant behind some dashes: the one whose kind of name fits the dashes,
or else the one with the long name, or else the one with the short name. -/
def flagFor (r : Resolution) : DashStyle → Option Flag
  | .single => r.short.or r.long
  | .double => r.long.or r.short
  | .none => r.long.or r.short

end Resolution

namespace FlagTable

/-- The table without flags. -/
def empty : FlagTable := ⟨[], [], []⟩

/-- The map with a flag put under one of its names, if it has that name; `duplicate` is the
error for a name that is taken. -/
def addName (m : TextMap Flag) (name : Option Text) (f : Flag) (duplicate : Text → SchemaError) :
    Except SchemaError (TextMap Flag) :=
  match name with
  | none => .ok m
  | some name =>
    if !isFlagName name then .error (.invalidFlagName name)
    else if m.contains name then .error (duplicate name)
    else .ok (m.insert name f)

/-- The table with a flag added at its end. -/
def add (t : FlagTable) (f : Flag) : Except SchemaError FlagTable := do
  if f.long.isNone && f.short.isNone then .error .missingFlagName
  else
    let byLong ← addName t.byLong f.long f .duplicateLongName
    let byShort ← addName t.byShort f.short f .duplicateShortName
    .ok ⟨t.flags ++ [f], byLong, byShort⟩

/-- The table of some flags, or the first defect met. -/
def ofList (flags : List Flag) : Except SchemaError FlagTable :=
  flags.foldlM add empty

/-- What a name stands for. -/
def resolve (t : FlagTable) (name : Text) : Resolution :=
  ⟨t.byLong.find? name, t.byShort.find? name⟩

/-- The flag that is written `--long`, `-short` or as a bare name. -/
def find? (t : FlagTable) (written : Text) : Option Flag :=
  match written with
  | '-' :: '-' :: long => t.byLong.find? long
  | '-' :: short => t.byShort.find? short
  | name => (t.resolve name).flagFor .none

/-- The number of flags. -/
def size (t : FlagTable) : Nat := t.flags.length

end FlagTable

end DirectiveLint
