import DirectiveLint.Yaml.Scalar

/-!
# YAML tokens

The tokens of a YAML text.  Block collections have no brackets, so the scanner derives
tokens for their starts and ends from the indentation.  A key that is not marked as one is
known only when its colon is met; the place where it started is kept, and the tokens for a
key are then put in there.
-/

namespace DirectiveLint.Yaml

/-- A token. -/
inductive Token where
  /-- The version of a document. -/
  | version (major minor : Nat)
  /-- A handle for tags. -/
  | tagHandle (handle address : Text)
  | documentStart
  | documentEnd
  | blockSequenceStart
  | blockMappingStart
  | blockEnd
  | flowSequenceStart
  | flowSequenceEnd
  | flowMappingStart
  | flowMappingEnd
  | blockEntry
  | flowEntry
  | key
  | value
  | alias (name : Text)
  | anchor (name : Text)
  | tag (handle suffix : Text)
  /-- A scalar; `plain` if it is written without quotes and not as a block. -/
  | scalar (plain : Bool) (text : Text)
  deriving DecidableEq

/-- A place where a key may have started. -/
structure KeyStart where
  /-- Something other than a key would be an error. -/
  required : Bool
  /-- The number of tokens before. -/
  position : Nat
  /-- The place in the text. -/
  cursor : Cursor

/-- What has been scanned. -/
structure Scanner where
  /-- The place reached. -/
  cursor : Cursor
  /-- The tokens so far. -/
  tokens : List Token
  /-- A key may start here. -/
  keyAllowed : Bool
  /-- The possible key at the innermost level of brackets. -/
  keyStart : Option KeyStart
  /-- The possible keys at the outer levels of brackets, innermost first. -/
  outerKeyStarts : List (Option KeyStart)
  /-- The indentation of the innermost block collection; `-1` outside of all. -/
  indent : Int
  /-- The indentations of the block collections around it. -/
  outerIndents : List Int

namespace Scanner

/-- The scanner is inside brackets. -/
def inFlow (s : Scanner) : Bool := !s.outerKeyStarts.isEmpty

/-- The scanner with a token added. -/
def emit (s : Scanner) (t : Token) : Scanner := { s with tokens := s.tokens ++ [t] }

/-- The scanner with a token put in behind the first `position` tokens. -/
def emitAt (s : Scanner) (position : Nat) (t : Token) : Scanner :=
  { s with tokens := s.tokens.take position ++ t :: s.tokens.drop position }

/-- The scanner without a possible key, unless one is required. -/
def dropKey (s : Scanner) : Option Scanner :=
  match s.keyStart with
  | some k => if k.required then none else some { s with keyStart := none }
  | none => some s

/-- The scanner with the place ahead kept as a possible key. -/
def saveKey (s : Scanner) : Option Scanner :=
  if s.keyAllowed then
    s.dropKey.map fun s =>
      { s with
        keyStart := some
          ⟨!s.inFlow && s.indent == s.cursor.column, s.tokens.length, s.cursor⟩ }
  else some s

/-- A possible key is on this line, and not too far back. -/
def isFresh (s : Scanner) (k : KeyStart) : Bool :=
  k.cursor.line == s.cursor.line && s.cursor.index ≤ k.cursor.index + 1024

/-- The possible keys without the one that is out of reach, unless it is required. -/
def refresh (s : Scanner) (k : Option KeyStart) : Option (Option KeyStart) :=
  match k with
  | some k => if s.isFresh k then some (some k) else if k.required then none else some none
  | none => some none

/-- The scanner without the possible keys that are out of reach. -/
def dropStaleKeys (s : Scanner) : Option Scanner := do
  let keyStart ← s.refresh s.keyStart
  let outerKeyStarts ← s.outerKeyStarts.mapM s.refresh
  some { s with keyStart, outerKeyStarts }

/-- The scanner inside a block collection that starts at a column, behind the first
`position` tokens. -/
def openBlock (s : Scanner) (column position : Nat) (t : Token) : Scanner :=
  if !s.inFlow && s.indent < column then
    { s.emitAt position t with indent := column, outerIndents := s.indent :: s.outerIndents }
  else s

/-- The scanner with the block collections closed that are indented by more than a column. -/
def closeBlocks (s : Scanner) (column : Int) : Scanner :=
  if s.inFlow then s
  else
    let closed := (s.indent :: s.outerIndents).takeWhile (column < ·)
    match (s.indent :: s.outerIndents).drop closed.length with
    | indent :: outer =>
      { s with
        tokens := s.tokens ++ List.replicate closed.length .blockEnd
        indent := indent
        outerIndents := outer }
    | [] => s

/-- The scanner behind the next `n` characters. -/
def skip (s : Scanner) (n : Nat) : Scanner := { s with cursor := s.cursor.skip n }

/-- The scanner behind blanks, comments and line breaks.  A tab is no blank where a key may
start. -/
def skipGap : Nat → Scanner → Scanner
  | 0, s => s
  | fuel + 1, s =>
    let c :=
      if s.cursor.column = 0 && s.cursor.peek == some '\ufeff' then s.cursor.skip 1
      else s.cursor
    let c := c.skipWhile fun ch => ch == ' ' || (ch == '\t' && (s.inFlow || !s.keyAllowed))
    let c := c.skipComment
    if c.atBreak then
      skipGap fuel { s with cursor := c.skipLine, keyAllowed := s.keyAllowed || !s.inFlow }
    else { s with cursor := c }

/-! ## Directives, anchors and tags -/

/-- A character of the address of a tag; brackets and commas only between angle brackets. -/
def isTagChar (verbatim : Bool) (c : Char) : Bool :=
  isNameChar c || ";/?:@&=+$.%!~*'()".toList.contains c
    || (verbatim && (c == ',' || c == '[' || c == ']'))

/-- The number of octets that follow the first octet of a character in UTF-8. -/
def furtherOctets? (octet : Nat) : Option Nat :=
  if octet < 0x80 then some 0
  else if octet / 0x20 = 6 then some 1
  else if octet / 0x10 = 14 then some 2
  else if octet / 8 = 30 then some 3
  else none

/-- The octets of an address, each as the character with its number.  A percent sign and two
hexadecimal digits stand for an octet; those of a character follow each other, and `missing`
of them are still to come. -/
def octets? (missing : Nat) : Text → Option Text
  | [] => if missing = 0 then some [] else none
  | '%' :: a :: b :: t => do
    let octet := 16 * (← Json.hexValue? a) + (← Json.hexValue? b)
    let missing ←
      if missing = 0 then furtherOctets? octet
      else if octet / 0x40 = 2 then some (missing - 1)
      else none
    (octets? missing t).map (Char.ofNat octet :: ·)
  | c :: t => if c == '%' || missing ≠ 0 then none else (octets? 0 t).map (c :: ·)

/-- The octets of an address up to the first that is zero, where an address ends. -/
def address? (t : Text) : Option Text := (octets? 0 t).map (·.takeWhile (· ≠ '\x00'))

/-- The handle of a tag at the start of a text: `!`, or a name between exclamation marks. -/
def readHandle (t : Text) : Option (Text × Text) :=
  match t with
  | '!' :: t =>
    let name := t.takeWhile isNameChar
    match t.drop name.length with
    | '!' :: rest => some (['!'] ++ name ++ ['!'], rest)
    | rest => some ('!' :: name, rest)
  | _ => none

/-- The tag ahead as handle and suffix, and the place behind it. -/
def readTag (c : Cursor) : Option (Text × Text × Cursor) :=
  match c.rest with
  | '!' :: '<' :: t =>
    let uri := t.takeWhile (isTagChar true)
    if uri = [] || (t.drop uri.length).head? ≠ some '>' then none
    else (address? uri).map ([], ·, c.skip (uri.length + 3))
  | _ => do
    let (handle, rest) ← readHandle c.rest
    let written := rest.takeWhile (isTagChar false)
    let suffix ← address? written
    let behind := c.skip (handle.length + written.length)
    if handle.length ≠ 1 && handle.getLast? == some '!' then
      if written = [] then none else some (handle, suffix, behind)
    else
      let whole := handle.drop 1 ++ suffix
      if whole = [] then some ([], ['!'], behind) else some (['!'], whole, behind)

/-- The number that the digits ahead denote, at most nine of them, and the text behind. -/
def readVersionPart (t : Text) : Option (Nat × Text) :=
  let digits := t.takeWhile Char.isDigit
  if digits = [] || 9 < digits.length then none
  else some (ofDigits digits, t.drop digits.length)

/-- The directive ahead and the place behind it. -/
def readDirective (c : Cursor) : Option (Token × Cursor) := do
  let c := c.skip 1
  let name := c.rest.takeWhile isNameChar
  let c := c.skip name.length
  if !c.atBlankOrEnd then none
  else
    let c := c.skipSpaces
    let (token, c) ←
      if name = "YAML".toList then do
        let (major, rest) ← readVersionPart c.rest
        match rest with
        | '.' :: rest =>
          let (minor, rest) ← readVersionPart rest
          some (Token.version major minor, c.skip (c.rest.length - rest.length))
        | _ => none
      else if name = "TAG".toList then do
        let (handle, rest) ← readHandle c.rest
        if handle.length ≠ 1 && handle.getLast? ≠ some '!' then none
        else
          let c := c.skip (c.rest.length - rest.length)
          if !c.atSpaceOrTab then none
          else
            let c := c.skipSpaces
            let uri := c.rest.takeWhile (isTagChar true)
            let c := c.skip uri.length
            if uri = [] || !c.atBlankOrEnd then none
            else (address? uri).map fun address => (Token.tagHandle handle address, c)
      else none
    let c := c.skipSpaces.skipComment
    if c.atBreakOrEnd then some (token, if c.atBreak then c.skipLine else c) else none

/-- The name of an anchor or an alias behind its first character, and the place behind it. -/
def readAnchorName (c : Cursor) : Option (Text × Cursor) :=
  let name := c.rest.takeWhile isNameChar
  let c := c.skip name.length
  if name = [] then none
  else if c.atBlankOrEnd || c.peek.any ("?:,]\x7d%@".toList ++ ['\x60']).contains then
    some (name, c)
  else none

/-! ## Scanning -/

/-- Scans a token that may be the start of a key. -/
def scanKeyable (s : Scanner) (read : Cursor → Option (Token × Cursor)) : Option Scanner := do
  let s ← s.saveKey
  let (t, c) ← read s.cursor
  some { s with keyAllowed := false, tokens := s.tokens ++ [t], cursor := c }

/-- Scans the `n` characters of a token that ends a possible key. -/
def scanMark (s : Scanner) (t : Token) (n : Nat) (keyAllowed : Bool) : Option Scanner := do
  let s ← s.dropKey
  some { s.emit t with keyAllowed, cursor := s.cursor.skip n }

/-- Scans an opening bracket. -/
def scanOpen (s : Scanner) (t : Token) : Option Scanner := do
  let s ← s.saveKey
  some { s.emit t with
    outerKeyStarts := s.keyStart :: s.outerKeyStarts
    keyStart := none
    keyAllowed := true
    cursor := s.cursor.skip 1 }

/-- Scans a closing bracket. -/
def scanClose (s : Scanner) (t : Token) : Option Scanner := do
  let s ← s.dropKey
  let s :=
    match s.outerKeyStarts with
    | k :: outer => { s with keyStart := k, outerKeyStarts := outer }
    | [] => s
  some { s.emit t with keyAllowed := false, cursor := s.cursor.skip 1 }

/-- Scans the dash of a block entry. -/
def scanBlockEntry (s : Scanner) : Option Scanner :=
  if s.inFlow then s.scanMark .blockEntry 1 true
  else if !s.keyAllowed then none
  else
    (s.openBlock s.cursor.column s.tokens.length .blockSequenceStart).scanMark .blockEntry 1 true

/-- Scans the question mark of a key. -/
def scanKey (s : Scanner) : Option Scanner :=
  if s.inFlow then s.scanMark .key 1 false
  else if !s.keyAllowed then none
  else (s.openBlock s.cursor.column s.tokens.length .blockMappingStart).scanMark .key 1 true

/-- Scans the colon of a value. -/
def scanValue (s : Scanner) : Option Scanner :=
  match s.keyStart with
  | some k =>
    let s := s.emitAt k.position .key
    let s := s.openBlock k.cursor.column k.position .blockMappingStart
    some { s.emit .value with keyStart := none, keyAllowed := false, cursor := s.cursor.skip 1 }
  | none =>
    if s.inFlow then some { s.emit .value with keyAllowed := false, cursor := s.cursor.skip 1 }
    else if !s.keyAllowed then none
    else
      let s := s.openBlock s.cursor.column s.tokens.length .blockMappingStart
      some { s.emit .value with keyAllowed := true, cursor := s.cursor.skip 1 }

/-- Scans a block scalar. -/
def scanBlock (s : Scanner) (literal : Bool) : Option Scanner := do
  let s ← s.dropKey
  let (t, c) ← readBlock literal s.indent (s.cursor.skip 1)
  some { s.emit (.scalar false t) with keyAllowed := true, cursor := c }

/-- Scans a plain scalar. -/
def scanPlain (s : Scanner) : Option Scanner := do
  let s ← s.saveKey
  let (t, broken, c) ←
    readPlain s.inFlow (s.indent + 1) (s.cursor.rest.length + 1) [] .none s.cursor
  some { s.emit (.scalar true t) with keyAllowed := broken, cursor := c }

/-- Scans a quoted scalar. -/
def scanQuoted (s : Scanner) (single : Bool) : Option Scanner :=
  s.scanKeyable fun c =>
    (readQuoted single (c.rest.length + 1) [] (c.skip 1)).map fun (t, c) => (.scalar false t, c)

/-- Scans an anchor or an alias. -/
def scanAnchor (s : Scanner) (token : Text → Token) : Option Scanner :=
  s.scanKeyable fun c => (readAnchorName (c.skip 1)).map fun (name, c) => (token name, c)

/-- Scans a tag. -/
def scanTag (s : Scanner) : Option Scanner :=
  s.scanKeyable fun c => do
    let (handle, suffix, c) ← readTag c
    if c.atBlankOrEnd || (s.inFlow && c.peek == some ',') then some (.tag handle suffix, c)
    else none

/-- A character that cannot start a plain scalar. -/
def isIndicator (c : Char) : Bool :=
  (",[]\x7b\x7d#&*!|>'\"%@".toList ++ ['\x60']).contains c

/-- A plain scalar starts with the character ahead.  A dash, a question mark and a colon
start one if no blank follows, the last two outside of brackets only. -/
def startsPlain (s : Scanner) (ch : Char) : Bool :=
  let next := s.cursor.peekAt 1
  if ch == '-' then !next.any isSpaceOrTab
  else if ch == '?' || ch == ':' then !s.inFlow && !isBlankOrEnd next
  else !isIndicator ch && !isSpaceOrTab ch

/-- Scans the token that starts with the character ahead, which is no blank unless it is a
tab where a key may start. -/
def scanToken (s : Scanner) (ch : Char) : Option Scanner :=
  let blankNext := isBlankOrEnd (s.cursor.peekAt 1)
  let atMarker := s.cursor.atDocumentMarker
  if s.cursor.column = 0 && ch == '%' then do
    let s ← (s.closeBlocks (-1)).dropKey
    let (t, c) ← readDirective s.cursor
    some { s.emit t with keyAllowed := false, cursor := c }
  else if atMarker && ch == '-' then (s.closeBlocks (-1)).scanMark .documentStart 3 false
  else if atMarker && ch == '.' then (s.closeBlocks (-1)).scanMark .documentEnd 3 false
  else if ch == '[' then s.scanOpen .flowSequenceStart
  else if ch == '\x7b' then s.scanOpen .flowMappingStart
  else if ch == ']' then s.scanClose .flowSequenceEnd
  else if ch == '\x7d' then s.scanClose .flowMappingEnd
  else if ch == ',' then s.scanMark .flowEntry 1 true
  else if ch == '-' && blankNext then s.scanBlockEntry
  else if ch == '?' && (s.inFlow || blankNext) then s.scanKey
  else if ch == ':' && (s.inFlow || blankNext) then s.scanValue
  else if ch == '*' then s.scanAnchor .alias
  else if ch == '&' then s.scanAnchor .anchor
  else if ch == '!' then s.scanTag
  else if ch == '|' && !s.inFlow then s.scanBlock true
  else if ch == '>' && !s.inFlow then s.scanBlock false
  else if ch == '\'' then s.scanQuoted true
  else if ch == '"' then s.scanQuoted false
  else if s.startsPlain ch then s.scanPlain
  else none

/-- The scanner at the end of the text. -/
def finish (s : Scanner) : Option Scanner := (s.closeBlocks (-1)).dropKey

/-- Scans all that is ahead. -/
def run : Nat → Scanner → Option Scanner
  | 0, _ => none
  | fuel + 1, s => do
    let s ← (skipGap (s.cursor.rest.length + 1) s).dropStaleKeys
    let s := s.closeBlocks s.cursor.column
    match s.cursor.peek with
    | none => s.finish
    | some ch => run fuel (← s.scanToken ch)

/-- The scanner before a text. -/
def start (t : Text) : Scanner where
  cursor := .start t
  tokens := []
  keyAllowed := true
  keyStart := none
  outerKeyStarts := []
  indent := -1
  outerIndents := []

end Scanner

/-- The tokens of a text; every round takes a character at least. -/
def tokens? (t : Text) : Option (List Token) :=
  if t.all isAllowed then ((Scanner.start t).run (t.length + 1)).map (·.tokens) else none

end DirectiveLint.Yaml
