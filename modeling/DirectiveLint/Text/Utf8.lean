import DirectiveLint.Text

/-!
# UTF-8

The bytes of a text.  Names of files are bytes as well, and not all of them are the bytes of a
text, so reading them may fail: `units` reads characters and, between them, faults, which are
shown as replacement characters.
-/

namespace DirectiveLint

/-- A sequence of bytes. -/
abbrev Bytes := List UInt8

/-- The bytes of a text in UTF-8. -/
def utf8 (t : Text) : Bytes := t.flatMap String.utf8EncodeChar

/-! ### Reading bytes -/

/-- The character whose bytes come first. -/
def firstChar? (bs : Bytes) : Option Char := bs.toByteArray.utf8DecodeChar? 0

/-- The lowest and the highest byte at each position behind the first byte of a character. -/
def bytesBehind (first : UInt8) : List (UInt8 × UInt8) :=
  let tail := (0x80, 0xBF)
  if first < 0xC2 then []
  else if first < 0xE0 then [tail]
  else if first = 0xE0 then [(0xA0, 0xBF), tail]
  else if first = 0xED then [(0x80, 0x9F), tail]
  else if first < 0xF0 then [tail, tail]
  else if first = 0xF0 then [(0x90, 0xBF), tail, tail]
  else if first < 0xF4 then [tail, tail, tail]
  else if first = 0xF4 then [(0x80, 0x8F), tail, tail]
  else []

/-- The number of bytes in a fault: those with which some character could start, or one byte with
which none can. -/
def faultLength : Bytes → Nat
  | [] => 0
  | first :: rest =>
    1 + ((rest.zip (bytesBehind first)).takeWhile fun (b, low, high) => low ≤ b && b ≤ high).length

/-- The characters and faults in bytes, as many as `n` at most. -/
def unitsWithin : Nat → Bytes → List (Option Char)
  | 0, _ => []
  | _ + 1, [] => []
  | n + 1, b :: bs =>
    match firstChar? (b :: bs) with
    | some c => some c :: unitsWithin n ((b :: bs).drop c.utf8Size)
    | none => none :: unitsWithin n ((b :: bs).drop (faultLength (b :: bs)))

/-- The characters and faults in bytes. -/
def units (bs : Bytes) : List (Option Char) := unitsWithin bs.length bs

/-- The text whose bytes these are. -/
def ofUtf8? (bs : Bytes) : Option Text := (units bs).mapM id

/-- The text that is shown for bytes, a replacement character for each fault. -/
def display (bs : Bytes) : Text := (units bs).map (·.getD '\uFFFD')

end DirectiveLint
