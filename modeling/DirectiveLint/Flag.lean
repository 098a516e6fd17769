import DirectiveLint.ValueShape

/-!
# Flags

A flag has a long name, a short name or both, written without the dashes, and the shape
that its value must have.
-/

namespace DirectiveLint

/-- A flag of the table. -/
structure Flag where
  /-- The name written behind two dashes. -/
  long : Option Text
  /-- The name written behind one dash. -/
  short : Option Text
  /-- What the flag is for, in words. -/
  description : Option Text
  /-- The shape of its value. -/
  shape : ValueShape

namespace Flag

/-- A long name as it is written. -/
def writeLong (name : Text) : Text := '-' :: '-' :: name

/-- A short name as it is written. -/
def writeShort (name : Text) : Text := '-' :: name

/-- The long name, or else the short name, as it is written. -/
def canonicalName (f : Flag) : Text :=
  match f.long, f.short with
  | some long, _ => writeLong long
  | none, some short => writeShort short
  | none, none => []

/-- A text is one of the names of the flag. -/
def hasName (f : Flag) (name : Text) : Bool := f.long == some name || f.short == some name

/-- All names of the flag as they are written. -/
def usage (f : Flag) : Text :=
  joinWith ", ".toList ((f.long.map writeLong).toList ++ (f.short.map writeShort).toList)

end Flag

end DirectiveLint
