import DirectiveLint.Pattern.Automaton
import DirectiveLint.Pattern.Property

/-!
# Reading patterns

The written form of regular expressions.  The reader walks over the pattern once, with the
open groups on a stack; each of its steps takes at least one character, so `read?` bounds
their number by the length of the pattern.  Flags hold up to the end of the group in which
they are set, in all of its later alternatives.
-/

namespace DirectiveLint.Pattern

/-- The modes that flags switch. -/
structure Mode where
  /-- `i`: letters match in any case. -/
  ignoreCase : Bool := false
  /-- `m`: anchors match at the ends of lines. -/
  multiLine : Bool := false
  /-- `s`: the dot matches line feeds too. -/
  dotAll : Bool := false
  /-- `R`: a carriage return ends a line too. -/
  returns : Bool := false
  /-- `u`: classes are those of Unicode. -/
  unicode : Bool := true
  /-- `x`: blanks and comments are skipped. -/
  verbose : Bool := false
  deriving DecidableEq, Repr

namespace Mode

/-- The mode with a flag switched; `none` for a letter that is no flag. -/
def switch (m : Mode) (flag : Char) (on : Bool) : Option Mode :=
  match flag with
  | 'i' => some { m with ignoreCase := on }
  | 'm' => some { m with multiLine := on }
  | 's' => some { m with dotAll := on }
  | 'R' => some { m with returns := on }
  | 'u' => some { m with unicode := on }
  | 'x' => some { m with verbose := on }
  | 'U' => some m
  | _ => none

/-- The set of the words' characters. -/
def wordSet (m : Mode) : CharSet := if m.unicode then .word else .asciiWord

/-- The set closed under the case variants that the mode ignores. -/
def fold (m : Mode) (s : CharSet) : CharSet :=
  if m.ignoreCase then if m.unicode then .variants s else .letterVariants s else s

/-- The complement of a set, if wanted.  Without Unicode it would hold bytes that are no
characters, so there is none then. -/
def negate? (m : Mode) (negated : Bool) (s : CharSet) : Option CharSet :=
  if negated then if m.unicode then some (.compl s) else none else some s

/-- The characters that the dot matches, if all that it matches are characters. -/
def dot? (m : Mode) : Option CharSet :=
  if !m.unicode then none
  else if m.dotAll then some .any
  else if m.returns then some (.compl (.union (.single '\n') (.single '\r')))
  else some (.compl (.single '\n'))

/-- The anchor that `^` stands for. -/
def startAnchor (m : Mode) : Look :=
  if m.multiLine then if m.returns then .lineStartReturn else .lineStart else .start

/-- The anchor that `$` stands for. -/
def stopAnchor (m : Mode) : Look :=
  if m.multiLine then if m.returns then .lineStopReturn else .lineStop else .stop

/-- The rest of a pattern behind blanks and comments. -/
def skipBlanks : Bool → Text → Text
  | _, [] => []
  | true, c :: t => skipBlanks (c != '\n') t
  | false, c :: t =>
    if Unicode.isBlank c then skipBlanks false t
    else if c == '#' then skipBlanks true t
    else c :: t

/-- The rest of a pattern behind what the mode skips. -/
def skip (m : Mode) (t : Text) : Text := if m.verbose then skipBlanks false t else t

/-- The character after the first one of a text and what the mode skips. -/
def peek (m : Mode) (t : Text) : Option Char :=
  if m.verbose then
    let behind := (t.drop 1).dropWhile Unicode.isBlank
    match behind with
    | [] => (t.drop 1).head?
    | '#' :: comment => (comment.dropWhile Unicode.isBlank).head?
    | c :: _ => some c
  else (t.drop 1).head?

end Mode

/-- What one escape or one plain character stands for. -/
inductive Atom where
  /-- A character. -/
  | char (c : Char)
  /-- A set of characters. -/
  | set (s : CharSet)
  /-- A condition on the neighbours. -/
  | look (l : Look)

/-- A hexadecimal digit of either case. -/
def isHexDigit (c : Char) : Bool :=
  c.isDigit || ('a' ≤ c && c ≤ 'f') || ('A' ≤ c && c ≤ 'F')

/-- The number that hexadecimal digits of either case denote. -/
def ofHex (t : Text) : Nat := Unicode.ofHexDigits (t.map Char.toUpper)

/-- The character with a code point. -/
def charOf? (n : Nat) : Option Char :=
  if h : n.isValidChar then some (Char.ofNatAux n h) else none

/-- The characters up to a closing brace, blanks that the mode skips left out. -/
def takeBraced (m : Mode) : Nat → Text → Option (Text × Text)
  | 0, _ => none
  | fuel + 1, t =>
    match m.skip t with
    | [] => none
    | '\x7d' :: rest => some ([], rest)
    | c :: rest => (takeBraced m fuel rest).map fun (cs, rest) => (c :: cs, rest)

/-- The next `n` characters, blanks that the mode skips left out. -/
def takeDigits (m : Mode) : Nat → Text → Option (Text × Text)
  | 0, t => some ([], t)
  | n + 1, t =>
    match m.skip t with
    | [] => none
    | c :: rest => (takeDigits m n rest).map fun (cs, rest) => (c :: cs, rest)

/-- The character of a hexadecimal escape with `width` digits or with braces. -/
def readHex (m : Mode) (width : Nat) (t : Text) : Option (Atom × Text) :=
  match m.skip t with
  | '\x7b' :: rest =>
    match takeBraced m (rest.length + 1) rest with
    | some (digits, rest) =>
      if digits.isEmpty || !digits.all isHexDigit then none
      else (charOf? (ofHex digits)).map fun c => (.char c, m.skip rest)
    | none => none
  | t =>
    match takeDigits m width t with
    | some (digits, rest) =>
      if !digits.all isHexDigit then none
      else if !m.unicode && width == 2 && 0x80 ≤ ofHex digits then none
      else (charOf? (ofHex digits)).map fun c => (.char c, m.skip rest)
    | none => none

/-- A text parted at the first occurrence of a separator. -/
def partAt (separator : Text) : Text → Option (Text × Text)
  | [] => none
  | c :: t =>
    match dropPrefix? separator (c :: t) with
    | some rest => some ([], rest)
    | none => (partAt separator t).map fun (before, rest) => (c :: before, rest)

/-- The set that the name of a property denotes, with a value or without.  Every sign
between them stands for equality. -/
def namedSet? (name : Text) : Option CharSet :=
  match ((partAt ['!', '='] name).or (cutAt ':' name)).or (cutAt '=' name) with
  | some (property, value) => propertyValued? property value
  | none => propertyNamed? name

/-- The set of a property escape, behind its `p` or `P`. -/
def readProperty (m : Mode) (negated : Bool) (t : Text) : Option (Atom × Text) :=
  let named (name rest : Text) : Option (Atom × Text) :=
    match namedSet? name with
    | some s => (m.negate? negated (m.fold s)).map fun s => (Atom.set s, rest)
    | none => none
  if !m.unicode then none
  else
    match m.skip t with
    | [] => none
    | '\x7b' :: rest =>
      match takeBraced m (rest.length + 1) rest with
      | some (name, rest) => named name rest
      | none => none
    | '\\' :: _ => none
    | c :: rest => named [c] (m.skip rest)

/-- A letter or a hyphen, of which the names of word boundaries consist. -/
def isBoundaryChar (c : Char) : Bool := c.isAlpha || c == '-'

/-- The letters and hyphens at the start of a text, blanks that the mode skips left out. -/
def takeBoundaryName (m : Mode) : Nat → Text → Text × Text
  | 0, t => ([], t)
  | fuel + 1, t =>
    match m.skip t with
    | c :: rest =>
      if isBoundaryChar c then
        let (name, rest) := takeBoundaryName m fuel rest
        (c :: name, rest)
      else ([], c :: rest)
    | [] => ([], [])

/-- The condition that `\b` stands for, together with a name in braces behind it.  A brace
that does not open a name starts a count. -/
def readBoundary (m : Mode) (t : Text) : Option (Atom × Text) :=
  match t with
  | '\x7b' :: rest =>
    match m.skip rest with
    | [] => none
    | c :: _ =>
      if !isBoundaryChar c then some (.look (.boundary m.wordSet), t)
      else
        match takeBoundaryName m (rest.length + 1) rest with
        | (name, '\x7d' :: rest) =>
          match String.ofList name with
          | "start" => some (.look (.wordStart m.wordSet), rest)
          | "end" => some (.look (.wordStop m.wordSet), rest)
          | "start-half" => some (.look (.afterNonWord m.wordSet), rest)
          | "end-half" => some (.look (.beforeNonWord m.wordSet), rest)
          | _ => none
        | _ => none
  | t => some (.look (.boundary m.wordSet), t)

/-- A class written with one letter. -/
def letterClass? (m : Mode) (letter : Char) : Option CharSet :=
  match letter with
  | 'd' => some (if m.unicode then .digit else .asciiDigit)
  | 's' => some (if m.unicode then .space else .asciiSpace)
  | 'w' => some m.wordSet
  | _ => none

/-- A character that a backslash turns into itself: any ASCII character but letters, digits
and angle brackets. -/
def isEscapable (c : Char) : Bool :=
  c.toNat < 0x80 && !c.isAlphanum && c != '<' && c != '>'

/-- What an escape stands for, behind its backslash. -/
def readEscape (m : Mode) (t : Text) : Option (Atom × Text) :=
  match t with
  | [] => none
  | c :: rest =>
    match c with
    | 'x' => readHex m 2 rest
    | 'u' => readHex m 4 rest
    | 'U' => readHex m 8 rest
    | 'p' => readProperty m false rest
    | 'P' => readProperty m true rest
    | 'd' | 's' | 'w' => (letterClass? m c).map (.set ·, rest)
    | 'D' | 'S' | 'W' => ((letterClass? m c.toLower).bind (m.negate? true)).map (.set ·, rest)
    | 'a' => some (.char '\x07', rest)
    | 'f' => some (.char '\x0c', rest)
    | 't' => some (.char '\t', rest)
    | 'n' => some (.char '\n', rest)
    | 'r' => some (.char '\r', rest)
    | 'v' => some (.char '\x0b', rest)
    | 'A' => some (.look .start, rest)
    | 'z' => some (.look .stop, rest)
    | 'b' => readBoundary m rest
    | 'B' => some (.look (.inside m.wordSet), rest)
    | '<' => some (.look (.wordStart m.wordSet), rest)
    | '>' => some (.look (.wordStop m.wordSet), rest)
    | c => if isEscapable c then some (.char c, rest) else none

/-! ## Classes in brackets -/

/-- An operator between the sets of a class. -/
inductive SetOperator where
  | inter
  | diff
  | symm

/-- The set that an operator makes of two. -/
def SetOperator.apply : SetOperator → CharSet → CharSet → CharSet
  | .inter => .inter
  | .diff => .diff
  | .symm => .symm

/-- A set with the depth of the expression it was written as. -/
structure SetItem where
  set : CharSet
  depth : Nat

/-- An open bracket: the items since the last operator, latest first, and the operator
before them with its left side. -/
structure ClassLevel where
  negated : Bool
  items : List SetItem
  pending : Option (SetOperator × SetItem)

namespace ClassLevel

/-- The union of the items since the last operator. -/
def union (l : ClassLevel) : SetItem :=
  match l.items with
  | [] => ⟨.empty, 0⟩
  | [i] => i
  | is => ⟨.unionOf (is.reverse.map (·.set)), 1 + (is.map (·.depth)).foldl max 0⟩

/-- The set of all that the bracket holds, before negation. -/
def whole (l : ClassLevel) : SetItem :=
  match l.pending with
  | none => l.union
  | some (op, left) => ⟨op.apply left.set l.union.set, 1 + max left.depth l.union.depth⟩

/-- The level with one more item. -/
def push (l : ClassLevel) (s : CharSet) (depth : Nat) : ClassLevel :=
  { l with items := ⟨s, depth⟩ :: l.items }

/-- The level behind an operator. -/
def operator (l : ClassLevel) (op : SetOperator) : ClassLevel :=
  { l with items := [], pending := some (op, l.whole) }

end ClassLevel

/-- The hyphens that open a class. -/
def takeHyphens (m : Mode) : Nat → Text → Nat × Text
  | 0, t => (0, t)
  | fuel + 1, t =>
    match m.skip t with
    | '-' :: rest =>
      let (n, rest) := takeHyphens m fuel rest
      (n + 1, rest)
    | t => (0, t)

/-- The level that an opening bracket opens, behind the bracket.  Hyphens, or else one
closing bracket, stand for themselves at its start. -/
def openClass (m : Mode) (t : Text) : Option (ClassLevel × Text) :=
  let (negated, t) :=
    match m.skip t with
    | '^' :: rest => (true, rest)
    | t => (false, t)
  let (hyphens, t) := takeHyphens m (t.length + 1) t
  let items := List.replicate hyphens (SetItem.mk (m.fold (.single '-')) 0)
  match m.skip t with
  | [] => none
  | ']' :: rest =>
    if hyphens == 0 then
      if (m.skip rest).isEmpty then none
      else some (⟨negated, [⟨.single ']', 0⟩], none⟩, rest)
    else some (⟨negated, items, none⟩, t)
  | t => some (⟨negated, items, none⟩, t)

/-- The named class in `[:` and `:]`, if the text holds one behind an opening bracket. -/
def readNamedClass (m : Mode) (t : Text) : Option (Option CharSet × Text) :=
  match t with
  | ':' :: rest =>
    let (negated, rest) :=
      match rest with
      | '^' :: rest => (true, rest)
      | rest => (false, rest)
    match cutAt ':' rest with
    | some (name, ']' :: rest) =>
      (CharSet.posixNamed? name).map fun s => (m.negate? negated (m.fold s), rest)
    | _ => none
  | _ => none

/-- One character or escape of a class. -/
def readClassAtom (m : Mode) (t : Text) : Option (Atom × Text) :=
  match t with
  | [] => none
  | '\\' :: rest => readEscape m rest
  | c :: rest => some (.char c, rest)

/-- The set of a character in a class; without Unicode only ASCII has a place there. -/
def charItem? (m : Mode) (first last : Char) : Option CharSet :=
  if m.unicode || last.toNat < 0x80 then some (m.fold (.range first last)) else none

/-- One item of a class: a character, a set or a range. -/
def readClassItem (m : Mode) (t : Text) : Option (CharSet × Text) :=
  match readClassAtom m t with
  | none => none
  | some (atom, rest) =>
    let rest := m.skip rest
    match rest with
    | [] => none
    | c :: behind =>
      if c != '-' || m.peek rest == some ']' || m.peek rest == some '-' then
        match atom with
        | .char c => (charItem? m c c).map (·, rest)
        | .set s => some (s, rest)
        | .look _ => none
      else
        match atom, readClassAtom m (m.skip behind) with
        | .char first, some (.char last, rest) =>
          if first ≤ last then (charItem? m first last).map (·, rest) else none
        | _, _ => none

/-- The class whose open brackets are `level` and, around it, `outer`; each round takes at
least one character. -/
def readClassLevels (m : Mode) :
    Nat → ClassLevel → List ClassLevel → Text → Option (SetItem × Text)
  | 0, _, _, _ => none
  | fuel + 1, level, outer, t =>
    let openNested (rest : Text) :=
      match openClass m rest with
      | some (inner, rest) => readClassLevels m fuel inner (level :: outer) rest
      | none => none
    match m.skip t with
    | [] => none
    | '[' :: rest =>
      match readNamedClass m rest with
      | some (some s, rest) => readClassLevels m fuel (level.push s 0) outer rest
      | some (none, _) => none
      | none => openNested rest
    | ']' :: rest =>
      match m.negate? level.negated level.whole.set with
      | none => none
      | some s =>
        let item := SetItem.mk s (1 + level.whole.depth)
        match outer with
        | [] => some (item, rest)
        | parent :: outer =>
          readClassLevels m fuel { parent with items := item :: parent.items } outer rest
    | '&' :: '&' :: rest => readClassLevels m fuel (level.operator .inter) outer rest
    | '-' :: '-' :: rest => readClassLevels m fuel (level.operator .diff) outer rest
    | '~' :: '~' :: rest => readClassLevels m fuel (level.operator .symm) outer rest
    | t =>
      match readClassItem m t with
      | some (s, rest) => readClassLevels m fuel (level.push s 0) outer rest
      | none => none

/-- The class behind an opening bracket. -/
def readClass (m : Mode) (t : Text) : Option (SetItem × Text) :=
  match openClass m t with
  | some (level, rest) => readClassLevels m (t.length + 1) level [] rest
  | none => none

/-! ## Counts -/

/-- The digits at the start of a text, blanks that the mode skips left out. -/
def takeCountDigits (m : Mode) : Nat → Text → Text × Text
  | 0, t => ([], t)
  | fuel + 1, t =>
    match t with
    | c :: rest =>
      if c.isDigit then
        let (digits, rest) := takeCountDigits m fuel (m.skip rest)
        (c :: digits, rest)
      else ([], t)
    | [] => ([], [])

/-- The blanks at the start of a text and what the mode skips dropped. -/
def skipAllBlanks (m : Mode) : Nat → Text → Text
  | 0, t => t
  | fuel + 1, t =>
    match t with
    | c :: rest => if Unicode.isBlank c then skipAllBlanks m fuel (m.skip rest) else t
    | [] => []

/-- A decimal number with blanks around it; the number is missing if it has no digits or is
not below `2 ^ 32`. -/
def readCount (m : Mode) (t : Text) : Option Nat × Text :=
  let (digits, rest) := takeCountDigits m (t.length + 1) (t.dropWhile Unicode.isBlank)
  let rest := skipAllBlanks m (rest.length + 1) rest
  if digits.isEmpty || bitBound 32 ≤ ofDigits digits then (none, rest)
  else (some (ofDigits digits), rest)

/-- The bounds of a counted repetition, behind its opening brace. -/
def readBounds (m : Mode) (t : Text) : Option ((Nat × Option Nat) × Text) :=
  match m.skip t with
  | [] => none
  | t =>
    match readCount m t with
    | (some least, '\x7d' :: rest) => some ((least, some least), rest)
    | (some least, ',' :: rest) =>
      match m.skip rest with
      | '\x7d' :: rest => some ((least, none), rest)
      | rest =>
        match readCount m rest with
        | (some most, '\x7d' :: rest) =>
          if least ≤ most then some ((least, some most), rest) else none
        | _ => none
    | _ => none

/-! ## Groups -/

/-- A part of a pattern: an expression, the shape that it is compiled in, and the depth that
it was written at. -/
structure Part where
  regex : Regex
  shape : Shape
  depth : Nat

namespace Part

/-- Nothing, where flags are switched or nothing is written. -/
def empty : Part := ⟨.empty, .empty, 0⟩

/-- One character of a set. -/
def ofSet (s : CharSet) (depth : Nat) : Part := ⟨.set s, .ofExtent s.extent, depth⟩

/-- A condition. -/
def ofLook (l : Look) : Part := ⟨.look l, .look l, 0⟩

/-- The depth of what is made of some parts. -/
def depthAround (ps : List Part) : Nat := 1 + (ps.map (·.depth)).foldl max 0

/-- Some parts in sequence. -/
def sequence : List Part → Part
  | [] => empty
  | [p] => p
  | ps => ⟨.catOf (ps.map (·.regex)), .sequence (ps.map (·.shape)), depthAround ps⟩

/-- The choice between some parts. -/
def choice : List Part → Part
  | [p] => p
  | ps => ⟨.altOf (ps.map (·.regex)), .choice (ps.map (·.shape)), depthAround ps⟩

/-- A part in parentheses, which mark what it matches or only hold it together. -/
def inGroup (p : Part) (marks : Bool) : Part :=
  ⟨p.regex, if marks then .group p.shape else p.shape, 1 + p.depth⟩

/-- A part repeated. -/
def repeated (p : Part) (least : Nat) (most : Option Nat) : Part :=
  ⟨p.regex.repeated least most, p.shape.repeated least most, 1 + p.depth⟩

end Part

/-- A part of a sequence, or flags, which cannot be repeated. -/
inductive Item where
  | flags
  | part (p : Part)

/-- The part that an item is. -/
def Item.toPart : Item → Part
  | .flags => .empty
  | .part p => p

/-- An open group: its finished alternatives and the items of the current one, both latest
first, the mode that holds again behind the group, and whether it marks what it matches. -/
structure Group where
  outerMode : Mode
  marks : Bool
  branches : List Part
  items : List Item

/-- The group with a further part. -/
def Group.push (g : Group) (p : Part) : Group := { g with items := .part p :: g.items }

/-- The current alternative. -/
def Group.branch (g : Group) : Part := .sequence (g.items.reverse.map (·.toPart))

/-- All alternatives. -/
def Group.whole (g : Group) : Part := .choice (g.branch :: g.branches).reverse

/-- What has been read: the mode in force, the innermost group, the groups around it, and
the names of groups that have been used. -/
structure State where
  mode : Mode
  group : Group
  outer : List Group
  names : List Text

/-- The flags of a group or of a setting, up to its `)` or `:`, applied to a mode.  `seen`
holds the flags so far, `on` tells whether flags are switched on or off, and `dangling`
that a minus has no flag behind it yet. -/
def readFlags (m : Mode) (seen : Text) (on dangling : Bool) :
    Text → Option (Mode × Bool × Text)
  | [] => none
  | ')' :: rest => if dangling || (seen.isEmpty && on) then none else some (m, true, rest)
  | ':' :: rest => if dangling then none else some (m, false, rest)
  | '-' :: rest => if on then readFlags m seen false true rest else none
  | c :: rest =>
    if seen.contains c then none
    else
      match m.switch c on with
      | some m => readFlags m (c :: seen) on false rest
      | none => none

/-- A character of the name of a group, at its start or later. -/
def isNameChar (first : Bool) (c : Char) : Bool :=
  c == '_'
    || (if first then Unicode.isAlphabetic c
      else Unicode.isAlphanumeric c || c == '.' || c == '[' || c == ']')

/-- The name of a group, behind its opening angle bracket. -/
def readName (t : Text) : Option (Text × Text) :=
  match cutAt '>' t with
  | some (first :: name, rest) =>
    if isNameChar true first && name.all (isNameChar false) then some (first :: name, rest)
    else none
  | _ => none

namespace State

/-- The state with a group opened in which a mode holds. -/
def openGroup (s : State) (inner : Mode) (marks : Bool) : State :=
  { s with mode := inner, group := ⟨s.mode, marks, [], []⟩, outer := s.group :: s.outer }

/-- The state with a named group opened. -/
def openNamed (s : State) (t : Text) : Option (State × Text) :=
  match readName t with
  | some (name, rest) =>
    if s.names.contains name then none
    else some ({ s.openGroup s.mode true with names := name :: s.names }, rest)
  | none => none

/-- What an opening parenthesis opens: a group of some kind, or a setting of flags. -/
def openParenthesis (s : State) (t : Text) : Option (State × Text) :=
  match s.mode.skip t with
  | '?' :: '=' :: _ | '?' :: '!' :: _ | '?' :: '<' :: '=' :: _ | '?' :: '<' :: '!' :: _ => none
  | '?' :: 'P' :: '<' :: rest => s.openNamed rest
  | '?' :: '<' :: rest => s.openNamed rest
  | '?' :: rest =>
    match readFlags s.mode [] true false rest with
    | some (m, true, rest) =>
      some ({ s with mode := m, group := { s.group with items := .flags :: s.group.items } }, rest)
    | some (m, false, rest) => some (s.openGroup m false, rest)
    | none => none
  | rest => some (s.openGroup s.mode true, rest)

/-- The state with the innermost group closed, if there is one to close. -/
def closeGroup (s : State) : Option State :=
  match s.outer with
  | [] => none
  | parent :: outer =>
    let part := s.group.whole.inGroup s.group.marks
    some { s with mode := s.group.outerMode, group := parent.push part, outer }

/-- The state with the current alternative finished. -/
def nextBranch (s : State) : State :=
  { s with
    group := { s.group with branches := s.group.branch :: s.group.branches, items := [] } }

/-- The state with the last part repeated; flags cannot be. -/
def repeatLast (s : State) (least : Nat) (most : Option Nat) : Option State :=
  match s.group.items with
  | .part p :: items =>
    some { s with group := { s.group with items := .part (p.repeated least most) :: items } }
  | _ => none

/-- The state with a further part. -/
def push (s : State) (p : Part) : State := { s with group := s.group.push p }

/-- The part that a character, a set or a condition makes. -/
def pushAtom (s : State) : Atom → State
  | .char c => s.push (.ofSet (s.mode.fold (.single c)) 0)
  | .set set => s.push (.ofSet set 0)
  | .look l => s.push (.ofLook l)

/-- A text without the question mark that makes a repetition lazy. -/
def dropLazy : Text → Text
  | '?' :: rest => rest
  | t => t

/-- Reads the next part of a pattern that does not start with anything to be skipped. -/
def step (s : State) : Text → Option (State × Text)
  | [] => none
  | c :: rest =>
    match c with
    | '(' => s.openParenthesis rest
    | ')' => s.closeGroup.map (·, rest)
    | '|' => some (s.nextBranch, rest)
    | '[' => (readClass s.mode rest).map fun (i, rest) => (s.push (.ofSet i.set i.depth), rest)
    | '?' => (s.repeatLast 0 (some 1)).map (·, dropLazy rest)
    | '*' => (s.repeatLast 0 none).map (·, dropLazy rest)
    | '+' => (s.repeatLast 1 none).map (·, dropLazy rest)
    | '\x7b' =>
      match readBounds s.mode rest with
      | some ((least, most), rest) =>
        (s.repeatLast least most).map (·, dropLazy (s.mode.skip rest))
      | none => none
    | '\\' => (readEscape s.mode rest).map fun (a, rest) => (s.pushAtom a, rest)
    | '.' => s.mode.dot?.map fun set => (s.push (.ofSet set 0), rest)
    | '^' => some (s.push (.ofLook s.mode.startAnchor), rest)
    | '$' => some (s.push (.ofLook s.mode.stopAnchor), rest)
    | c => some (s.pushAtom (.char c), rest)

/-- The state behind a whole text. -/
def run : Nat → State → Text → Option State
  | 0, _, _ => none
  | fuel + 1, s, t =>
    match s.mode.skip t with
    | [] => some s
    | t =>
      match s.step t with
      | some (s, rest) => run fuel s rest
      | none => none

/-- The state before anything has been read. -/
def start : State := ⟨{}, ⟨{}, false, [], []⟩, [], []⟩

end State

/-- The greatest depth of an expression. -/
def depthLimit : Nat := 250

/-- The regular expression with a written form, if it is one of bearable depth and its
automata are not too large. -/
def read? (t : Text) : Option Regex :=
  match State.run (t.length + 1) State.start t with
  | some s =>
    let whole := s.group.whole
    if s.outer.isEmpty && whole.depth ≤ depthLimit && whole.shape.fits then some whole.regex
    else none
  | none => none

end DirectiveLint.Pattern
