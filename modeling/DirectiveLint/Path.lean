import DirectiveLint.Text.Utf8

/-!
# Paths

A path is a sequence of bytes, which need not be those of a text; its components are what it
stands for.  Repeated slashes, a slash at the end and `.` inside a path have no component of
their own, so paths with the same components are taken for the same path although their bytes
may differ.
-/

namespace DirectiveLint

/-- The byte between the names in a path. -/
@[match_pattern] abbrev slash : UInt8 := 0x2F

/-- The byte before the extension of a name. -/
@[match_pattern] abbrev dot : UInt8 := 0x2E

/-- A part of a path. -/
inductive Component where
  /-- The slash that starts an absolute path. -/
  | root
  /-- A `.` at the start of a relative path. -/
  | here
  /-- A `..`. -/
  | parent
  /-- The name of a file or a directory. -/
  | name (bytes : Bytes)
  deriving DecidableEq, Repr

namespace Component

/-- The kinds of components in their order. -/
def rank : Component → Nat
  | root => 0
  | here => 1
  | parent => 2
  | name _ => 3

/-- The first component comes before the second. -/
def before : Component → Component → Bool
  | name s, name t => s < t
  | c, d => c.rank < d.rank

end Component

/-- The first list of components comes before the second. -/
def componentsBefore : List Component → List Component → Bool
  | _, [] => false
  | [], _ :: _ => true
  | c :: cs, d :: ds => c.before d || (c == d && componentsBefore cs ds)

/-- A path as it is written. -/
structure Path where
  /-- The written form. -/
  bytes : Bytes
  deriving DecidableEq, Repr

namespace Path

/-- The path that is written as a text. -/
def ofText (t : Text) : Path := ⟨utf8 t⟩

/-- The text that is shown for the path. -/
def display (p : Path) : Text := DirectiveLint.display p.bytes

/-- The path starts at the root. -/
def isAbsolute (p : Path) : Bool := p.bytes.head? == some slash

/-- The component that a piece between slashes stands for. -/
def componentOf? (piece : Bytes) : Option Component :=
  if piece = [] ∨ piece = [dot] then none
  else if piece = [dot, dot] then some .parent
  else some (.name piece)

/-- The components of a path. -/
def components (p : Path) : List Component :=
  let parts := pieces slash p.bytes
  let named := parts.filterMap componentOf?
  if p.isAbsolute then .root :: named
  else if parts.head? = some [dot] then .here :: named
  else named

/-- The two paths have the same components. -/
def same (p q : Path) : Bool := p.components == q.components

/-- The name of the file or directory that the path leads to. -/
def fileName? (p : Path) : Option Bytes :=
  match p.components.getLast? with
  | some (.name n) => some n
  | _ => none

/-- The part of a file name behind its last dot, unless the dot starts the name. -/
def extensionOf? (name : Bytes) : Option Bytes :=
  match cutAt dot name.reverse with
  | some (_, []) | none => none
  | some (ext, _ :: _) => some ext.reverse

/-- The extension of the file name. -/
def extension? (p : Path) : Option Bytes := p.fileName?.bind extensionOf?

/-- A path below another one; an absolute path stays as it is. -/
def join (base p : Path) : Path :=
  if p.isAbsolute then p
  else if base.bytes = [] ∨ base.bytes.getLast? = some slash then ⟨base.bytes ++ p.bytes⟩
  else ⟨base.bytes ++ slash :: p.bytes⟩

/-- A path read backwards, without the slashes and the `.` pieces at its end that have no
component. -/
def trimBack : Nat → Bytes → Bytes
  | 0, bs => bs
  | fuel + 1, bs =>
    match bs with
    | [slash] => bs
    | slash :: rest => trimBack fuel rest
    | dot :: slash :: rest => trimBack fuel (slash :: rest)
    | bs => bs

/-- The path without its last component, if that is not the root. -/
def parent? (p : Path) : Option Path :=
  match p.components.getLast? with
  | none | some .root => none
  | some _ =>
    let trimmed := trimBack (p.bytes.length + 1) p.bytes.reverse
    let rest := trimmed.dropWhile (· ≠ slash)
    some ⟨(trimBack (rest.length + 1) rest).reverse⟩

/-- The path and the paths above it, as many as `n` at most. -/
def ancestorsWithin : Nat → Path → List Path
  | 0, _ => []
  | n + 1, p =>
    p :: match p.parent? with
      | some q => ancestorsWithin n q
      | none => []

/-- The path and the paths above it. -/
def ancestors (p : Path) : List Path := ancestorsWithin (p.bytes.length + 2) p

end Path

end DirectiveLint
