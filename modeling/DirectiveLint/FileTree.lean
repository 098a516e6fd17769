import DirectiveLint.Path

/-!
# File trees

The files and directories that a program can see, as a value.  `find` follows a path from
the working directory; reading and writing are functions of the tree.  What may not be read,
listed or searched is marked; everything may be written.
-/

namespace DirectiveLint

/-- Why a file cannot be read or written. -/
inductive FileError where
  /-- There is nothing at the path. -/
  | notFound
  /-- The path leads through something that is no directory. -/
  | notDirectory
  /-- There is a directory where a file is expected. -/
  | isDirectory
  /-- The bytes of the file are no UTF-8. -/
  | notText
  /-- The file may not be read, or a directory not be listed or searched. -/
  | denied
  /-- The path or a name in it is too long. -/
  | tooLong
  /-- There is a zero byte in the path. -/
  | zeroByte
  deriving DecidableEq, Repr

/-- The cause in words. -/
def FileError.message : FileError → Text
  | notFound => "No such file or directory (os error 2)".toList
  | notDirectory => "Not a directory (os error 20)".toList
  | isDirectory => "Is a directory (os error 21)".toList
  | notText => "stream did not contain valid UTF-8".toList
  | denied => "Permission denied (os error 13)".toList
  | tooLong => "File name too long (os error 36)".toList
  | zeroByte => "file name contained an unexpected NUL byte".toList

/-- What may be done with a directory. -/
structure DirectoryRights where
  /-- The names in it may be listed. -/
  list : Bool := true
  /-- What lies in it may be looked up. -/
  search : Bool := true
  deriving DecidableEq, Repr

/-- What a file holds. -/
structure FileContent where
  /-- The text of the file, if its bytes are UTF-8. -/
  text : Option Text
  /-- The file may be read. -/
  read : Bool := true
  deriving DecidableEq, Repr

/-- The text of a file, if it may be read and has one. -/
def FileContent.toText (content : FileContent) : Except FileError Text :=
  if content.read then content.text.elim (.error .notText) .ok else .error .denied

/-- What lies at a place of a tree. -/
inductive FileEntry where
  /-- A directory. -/
  | directory (rights : DirectoryRights)
  /-- A file. -/
  | file (content : FileContent)
  deriving DecidableEq, Repr

/-- A place in a tree: the names that lead there from the root. -/
abbrev Place := List Bytes

/-- Files and directories, and the directory that relative paths start from. -/
structure FileTree where
  /-- What lies at the places of the tree, the root apart. -/
  entries : List (Place × FileEntry)
  /-- The place of the working directory. -/
  workingPlace : Place

/-- The greatest number of bytes in a name. -/
def nameLimit : Nat := 255

/-- The greatest number of bytes in a path. -/
def pathLimit : Nat := 4095

/-- What is wrong with a path, wherever it leads. -/
def Path.defect? (p : Path) : Option FileError :=
  if 0 ∈ p.bytes then some .zeroByte
  else if p.bytes = [] then some .notFound
  else if pathLimit < p.bytes.length then some .tooLong
  else none

namespace FileTree

/-- What lies at a place. -/
def entry? (t : FileTree) (place : Place) : Option FileEntry :=
  if place = [] then some (.directory {}) else (t.entries.find? (·.1 = place)).map (·.2)

/-! ### Following a path -/

/-- The place that a piece of a path leads to from a directory.  Where the path has a slash at its
end, or two slashes, nothing is looked up. -/
def step (t : FileTree) (place : Place) (piece : Bytes) : Except FileError Place :=
  match t.entry? place with
  | none => .error .notFound
  | some (.file _) => .error .notDirectory
  | some (.directory rights) =>
    if piece = [] then .ok place
    else if rights.search = false then .error .denied
    else if piece = [dot] then .ok place
    else if piece = [dot, dot] then .ok place.dropLast
    else if nameLimit < piece.length then .error .tooLong
    else .ok (place ++ [piece])

/-- The place that a path leads to; nothing needs to lie there. -/
def place (t : FileTree) (p : Path) : Except FileError Place :=
  match p.defect? with
  | some e => .error e
  | none => (pieces slash p.bytes).foldlM t.step (if p.isAbsolute then [] else t.workingPlace)

/-- What a path leads to. -/
def find (t : FileTree) (p : Path) : Except FileError FileEntry :=
  match t.place p with
  | .error e => .error e
  | .ok place =>
    match t.entry? place with
    | some entry => .ok entry
    | none => .error .notFound

/-- The path leads to a directory. -/
def isDirectory (t : FileTree) (p : Path) : Bool := t.find p matches .ok (.directory _)

/-- The path leads to a file. -/
def isFile (t : FileTree) (p : Path) : Bool := t.find p matches .ok (.file _)

/-! ### Reading and writing -/

/-- The text of the file that a path leads to. -/
def readText (t : FileTree) (p : Path) : Except FileError Text :=
  match t.find p with
  | .error e => .error e
  | .ok (.directory rights) => .error (if rights.list then .isDirectory else .denied)
  | .ok (.file content) => content.toText

/-- The tree with something at a place instead of what lies there. -/
def put (t : FileTree) (place : Place) (entry : FileEntry) : FileTree :=
  { t with entries := (place, entry) :: t.entries.filter (·.1 ≠ place) }

/-- The tree with a text written to the file that a path leads to.  The directory it lies in
has to be there, and a slash at the end of the path asks for a directory. -/
def writeText (t : FileTree) (p : Path) (text : Text) : Except FileError FileTree :=
  match p.defect? with
  | some e => .error e
  | none =>
    let named := (trimStart slash p.bytes.reverse).reverse
    if named = [] then .error .isDirectory
    else
      match t.place ⟨named⟩ with
      | .error e => .error e
      | .ok place =>
        match t.entry? place with
        | some (.directory _) => .error .isDirectory
        | some (.file content) =>
          if named ≠ p.bytes then .error .isDirectory
          else .ok (t.put place (.file { content with text := some text }))
        | none =>
          if named ≠ p.bytes then .error .isDirectory
          else .ok (t.put place (.file { text := some text }))

/-- The path of the working directory. -/
def workingPath (t : FileTree) : Path := ⟨slash :: joinWith [slash] t.workingPlace⟩

/-! ### Going through directories -/

/-- The place of the directory that a path leads to, if it may be listed. -/
def listing (t : FileTree) (p : Path) : Except FileError Place :=
  match t.place p with
  | .error e => .error e
  | .ok place =>
    match t.entry? place with
    | none => .error .notFound
    | some (.file _) => .error .notDirectory
    | some (.directory rights) => if rights.list then .ok place else .error .denied

/-- A name is hidden if it is a text that starts with a dot. -/
def isHidden (name : Bytes) : Bool := (ofUtf8? name).any fun t => t.head? == some '.'

/-- The names that lead from a place to another one below it, if none of them is hidden. -/
def visibleNames? (base place : Place) : Option Place :=
  let names := place.drop base.length
  if base.isPrefixOf place && !names.isEmpty && !names.any isHidden then some names else none

/-- The names that lead from a place to a file below it, if none of them is hidden. -/
def visibleFile? (base : Place) : Place × FileEntry → Option Place
  | (_, .directory _) => none
  | (place, .file _) => visibleNames? base place

/-- The names that lead from a place to a directory below it, if none of them is hidden. -/
def visibleDirectory? (base : Place) : Place × FileEntry → Option Place
  | (place, .directory _) => visibleNames? base place
  | (_, .file _) => none

/-- The path that names lead to from a path. -/
def below (p : Path) (names : Place) : Path := names.foldl (fun q n => q.join ⟨n⟩) p

/-- The files below a directory, under its path; those apart that are hidden or lie in a hidden
directory below it. -/
def filesBelow (t : FileTree) (p : Path) (base : Place) : List Path :=
  (t.entries.filterMap (visibleFile? base)).map (below p)

/-- The directory at a path is listed, and then those that names lead to from it. -/
def listAlong (t : FileTree) (p : Path) : Place → Except FileError Place
  | [] => t.listing p
  | name :: names =>
    match t.listing p with
    | .error e => .error e
    | .ok _ => listAlong t (p.join ⟨name⟩) names

/-- The files below the directory that a path leads to, those apart that are hidden or lie in
a hidden directory below it.  It fails if it or a visible directory below it cannot be listed. -/
def visibleFiles (t : FileTree) (p : Path) : Except FileError (List Path) := do
  let base ← t.listing p
  let _ ← (t.entries.filterMap (visibleDirectory? base)).mapM (t.listAlong p)
  .ok (t.filesBelow p base)

/-! ### Gathering a tree -/

/-- The tree with a directory at a place and at all places that lead there. -/
def makeDirectory (t : FileTree) (place : Place) : FileTree :=
  (List.range place.length).foldl
    (fun t n =>
      let p := place.take (n + 1)
      if (t.entry? p).isSome then t else t.put p (.directory {}))
    t

/-- The tree with something at a place and directories at all places that lead there. -/
def add (t : FileTree) (place : Place) (entry : FileEntry) : FileTree :=
  (t.makeDirectory place.dropLast).put place entry

end FileTree

end DirectiveLint
