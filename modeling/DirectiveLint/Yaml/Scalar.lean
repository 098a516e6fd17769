import DirectiveLint.Json.Token
import DirectiveLint.Yaml.Cursor

/-!
# Written scalars

Plain scalars, quoted scalars and block scalars.  A scalar may go over several lines, which
are folded: a single line break is read as a space, and of more line breaks in a row the
first is dropped.
-/

namespace DirectiveLint.Yaml

/-- Blanks between two parts of a scalar: those on the line, or, after a line break, the
first break and the ones that follow it. -/
structure Gap where
  /-- The blanks before any line break. -/
  blanks : Text
  /-- A line break was met. -/
  broken : Bool
  /-- The first line break. -/
  first : Text
  /-- The line breaks after the first. -/
  further : Text

namespace Gap

/-- No blanks. -/
def none : Gap := ⟨[], false, [], []⟩

/-- A line break that was written with a backslash before it, which counts as nothing. -/
def escapedBreak : Gap := ⟨[], true, [], []⟩

/-- What the blanks are read as. -/
def fold (g : Gap) : Text :=
  if g.broken then
    if g.first = ['\n'] then if g.further = [] then [' '] else g.further
    else g.first ++ g.further
  else g.blanks

end Gap

/-- The gap that the blanks ahead continue, and the place behind them. -/
def readGap : Nat → Gap → Cursor → Gap × Cursor
  | 0, g, c => (g, c)
  | fuel + 1, g, c =>
    match c.peek with
    | some ch =>
      if isSpaceOrTab ch then
        readGap fuel (if g.broken then g else { g with blanks := g.blanks ++ [ch] }) (c.skip 1)
      else if isBreak ch then
        let g' :=
          if g.broken then { g with further := g.further ++ c.readBreak }
          else { g with blanks := [], broken := true, first := c.readBreak }
        readGap fuel g' c.skipLine
      else (g, c)
    | none => (g, c)

/-! ## Quoted scalars -/

/-- The character that an escape of one letter stands for. -/
def letterEscape? (c : Char) : Option Char :=
  match c with
  | '0' => some '\x00'
  | 'a' => some '\x07'
  | 'b' => some '\x08'
  | 't' | '\t' => some '\t'
  | 'n' => some '\n'
  | 'v' => some '\x0b'
  | 'f' => some '\x0c'
  | 'r' => some '\r'
  | 'e' => some '\x1b'
  | ' ' => some ' '
  | '"' => some '"'
  | '/' => some '/'
  | '\\' => some '\\'
  | 'N' => some '\u0085'
  | '_' => some '\u00a0'
  | 'L' => some '\u2028'
  | 'P' => some '\u2029'
  | _ => none

/-- The number of digits of a numeric escape. -/
def escapeWidth? (c : Char) : Option Nat :=
  match c with
  | 'x' => some 2
  | 'u' => some 4
  | 'U' => some 8
  | _ => none

/-- The character with the code point that hexadecimal digits denote. -/
def charOfHex? (digits : Text) : Option Char := do
  let values ← digits.mapM Json.hexValue?
  let n := values.foldl (fun n d => 16 * n + d) 0
  if h : n.isValidChar then some (Char.ofNatAux n h) else none

/-- The character of the escape ahead, whose backslash is the next character, and the place
behind it. -/
def readEscape (c : Cursor) : Option (Char × Cursor) :=
  match c.peekAt 1 with
  | none => none
  | some letter =>
    match escapeWidth? letter with
    | some width =>
      let digits := (c.rest.drop 2).take width
      if digits.length = width then (charOfHex? digits).map (·, c.skip (2 + width)) else none
    | none => (letterEscape? letter).map (·, c.skip 2)

/-- The text of a quoted scalar up to its closing quote, behind the text read so far. -/
def readQuoted (single : Bool) : Nat → Text → Cursor → Option (Text × Cursor)
  | 0, _, _ => none
  | fuel + 1, read, c =>
    if c.atDocumentMarker then none
    else
      match c.peek with
      | none => none
      | some ch =>
        if isSpaceOrTab ch || isBreak ch then
          let (gap, c) := readGap (c.rest.length + 1) .none c
          readQuoted single fuel (read ++ gap.fold) c
        else if single then
          if ch == '\'' then
            if c.peekAt 1 == some '\'' then readQuoted single fuel (read ++ ['\'']) (c.skip 2)
            else some (read, c.skip 1)
          else readQuoted single fuel (read ++ [ch]) (c.skip 1)
        else if ch == '"' then some (read, c.skip 1)
        else if ch == '\\' then
          if (c.peekAt 1).any isBreak then
            let c := (c.skip 1).skipLine
            if c.atDocumentMarker then none
            else
              let (gap, c) := readGap (c.rest.length + 1) .escapedBreak c
              readQuoted single fuel (read ++ gap.fold) c
          else
            match readEscape c with
            | some (e, c) => readQuoted single fuel (read ++ [e]) c
            | none => none
        else readQuoted single fuel (read ++ [ch]) (c.skip 1)

/-! ## Plain scalars -/

/-- A bracket or a comma, which end a plain scalar inside brackets. -/
def isFlowIndicator (c : Char) : Bool :=
  c == ',' || c == '[' || c == ']' || c == '\x7b' || c == '\x7d'

/-- The plain scalar ends before the character ahead, which is no blank. -/
def endsPlain (flow : Bool) (c : Cursor) : Bool :=
  match c.peek with
  | none => true
  | some ch => (ch == ':' && isBlankOrEnd (c.peekAt 1)) || (flow && isFlowIndicator ch)

/-- A colon before a bracket, which a plain scalar inside brackets cannot hold. -/
def atForbiddenColon (flow : Bool) (c : Cursor) : Bool :=
  flow && c.peek == some ':' && (c.peekAt 1).any fun ch => isFlowIndicator ch || ch == '?'

/-- The characters of a plain scalar up to a blank or the end of the scalar; `none` if there
is a character that cannot be there. -/
def readWord (flow : Bool) : Nat → Text → Cursor → Option (Text × Cursor)
  | 0, read, c => some (read, c)
  | fuel + 1, read, c =>
    match c.peek with
    | none => some (read, c)
    | some ch =>
      if isSpaceOrTab ch || isBreak ch then some (read, c)
      else if atForbiddenColon flow c then none
      else if endsPlain flow c then some (read, c)
      else readWord flow fuel (read ++ [ch]) (c.skip 1)

/-- A tab among the blanks ahead stands where only spaces make up the indentation. -/
def tabInIndentation (indent : Int) : Nat → Bool → Cursor → Bool
  | 0, _, _ => false
  | fuel + 1, broken, c =>
    match c.peek with
    | some '\t' =>
      (broken && c.column < indent) || tabInIndentation indent fuel broken (c.skip 1)
    | some ' ' => tabInIndentation indent fuel broken (c.skip 1)
    | some ch => isBreak ch && tabInIndentation indent fuel true c.skipLine
    | none => false

/-- A plain scalar on lines that are indented by at least `indent`: its text, the place
behind it, and whether blanks with a line break come before that place. -/
def readPlain (flow : Bool) (indent : Int) :
    Nat → Text → Gap → Cursor → Option (Text × Bool × Cursor)
  | 0, _, _, _ => none
  | fuel + 1, read, gap, c =>
    if c.atDocumentMarker || c.peek == some '#' then some (read, gap.broken, c)
    else
      match readWord flow (c.rest.length + 1) [] c with
      | none => none
      | some (word, c') =>
        let (read, gap) := if word = [] then (read, gap) else (read ++ gap.fold ++ word, .none)
        if !(c'.atSpaceOrTab || c'.atBreak) then some (read, gap.broken, c')
        else if tabInIndentation indent (c'.rest.length + 1) gap.broken c' then none
        else
          let (gap, c'') := readGap (c'.rest.length + 1) gap c'
          if !flow && c''.column < indent then some (read, gap.broken, c'')
          else readPlain flow indent fuel read gap c''

/-! ## Block scalars -/

/-- What becomes of the line breaks at the end of a block scalar. -/
inductive Chomping where
  /-- They are dropped. -/
  | strip
  /-- The first is kept. -/
  | clip
  /-- They are kept. -/
  | keep
  deriving DecidableEq

/-- The sign that says how to chomp. -/
def chomping? : Char → Option Chomping
  | '+' => some .keep
  | '-' => some .strip
  | _ => none

/-- The indicators of a block scalar behind its first character: how to chomp, and the
indentation if it is given. -/
def readBlockHeader (c : Cursor) : Option (Chomping × Nat × Cursor) :=
  let digit (c : Cursor) : Option (Nat × Cursor) :=
    match c.peek with
    | some ch =>
      if ch == '0' then none
      else if ch.isDigit then some (ch.toNat - '0'.toNat, c.skip 1)
      else some (0, c)
    | none => some (0, c)
  match c.peek.bind chomping? with
  | some chomping => (digit (c.skip 1)).map fun (n, c) => (chomping, n, c)
  | none =>
    match digit c with
    | none => none
    | some (0, c) => some (.clip, 0, c)
    | some (n, c) =>
      match c.peek.bind chomping? with
      | some chomping => some (chomping, n, c.skip 1)
      | none => some (.clip, n, c)

/-- The blank lines ahead and the indentation of the line behind them.  `indent` is the
indentation of the scalar, or zero if that is still to be found; `deepest` is the greatest
column reached. -/
def readBlankLines (indent : Nat) : Nat → Text → Nat → Cursor → Option (Text × Nat × Cursor)
  | 0, _, _, _ => none
  | fuel + 1, breaks, deepest, c =>
    let spaces := (c.rest.takeWhile (· == ' ')).length
    let c := c.skip (if indent = 0 then spaces else min spaces (indent - c.column))
    let deepest := max deepest c.column
    if (indent = 0 || c.column < indent) && c.peek == some '\t' then none
    else if c.atBreak then readBlankLines indent fuel (breaks ++ c.readBreak) deepest c.skipLine
    else some (breaks, deepest, c)

/-- The lines of a block scalar that are indented by `indent`, behind the text read so far.
`first` is the line break before the line ahead, `further` are the blank lines behind that,
and `spaced` tells that the line before started with a blank. -/
def readBlockLines (literal : Bool) (indent : Nat) :
    Nat → Text → Text → Text → Bool → Cursor → Option (Text × Text × Text × Cursor)
  | 0, _, _, _, _, _ => none
  | fuel + 1, read, first, further, spaced, c =>
    if c.column ≠ indent || c.peek.isNone then some (read, first, further, c)
    else
      let joined :=
        if !literal && first = ['\n'] && !spaced && !c.atSpaceOrTab then
          if further = [] then [' '] else further
        else first ++ further
      let content := c.rest.takeWhile (!isBreak ·)
      let behind := c.skip content.length
      let first := if behind.atBreak then behind.readBreak else []
      let behind' := if behind.atBreak then behind.skipLine else behind
      match readBlankLines indent (behind'.rest.length + 1) [] 0 behind' with
      | none => none
      | some (further, _, c') =>
        readBlockLines literal indent fuel (read ++ joined ++ content) first further
          c.atSpaceOrTab c'

/-- A block scalar behind its first character, inside a block that is indented by `parent`. -/
def readBlock (literal : Bool) (parent : Int) (c : Cursor) : Option (Text × Cursor) := do
  let (chomping, increment, c) ← readBlockHeader c
  let c := c.skipSpaces.skipComment
  if !c.atBreakOrEnd then none
  else
    let c := if c.atBreak then c.skipLine else c
    let given : Nat := if increment = 0 then 0 else ((max parent 0) + increment).toNat
    let (further, deepest, c) ← readBlankLines given (c.rest.length + 1) [] 0 c
    let indent := if given = 0 then max (max deepest (parent + 1).toNat) 1 else given
    let (read, first, further, c) ←
      readBlockLines literal indent (c.rest.length + 1) [] [] further false c
    match chomping with
    | .strip => some (read, c)
    | .clip => some (read ++ first, c)
    | .keep => some (read ++ first ++ further, c)

end DirectiveLint.Yaml
