import DirectiveLint.Unicode.Ranges

/-!
# Byte sequences

The UTF-8 forms of the characters in a range, as sequences of ranges of bytes.  A range is
cut where the number of bytes changes and where a byte before the last would not range
freely; the characters of each part are then all the sequences of bytes in given ranges.
-/

namespace DirectiveLint.Pattern

/-- A range of bytes, both ends included. -/
abbrev ByteRange := Nat × Nat

/-- The bytes of a code point in UTF-8. -/
def utf8Bytes (n : Nat) : List Nat :=
  let tail (unit : Nat) : Nat := 0x80 + n / unit % 64
  if n < 0x80 then [n]
  else if n < 0x800 then [0xC0 + n / 64, tail 1]
  else if n < 0x10000 then [0xE0 + n / 4096, tail 64, tail 1]
  else [0xF0 + n / 262144, tail 4096, tail 64, tail 1]

/-- The start of the second part of a range that has to be cut. -/
def cutPoint? (first last : Nat) : Option Nat :=
  let byLength := [0x80, 0x800, 0x10000].find? fun n => first < n && n ≤ last
  let byByte (unit : Nat) : Option Nat :=
    if first / unit = last / unit then none
    else if first % unit ≠ 0 then some ((first / unit + 1) * unit)
    else if last % unit ≠ unit - 1 then some (last / unit * unit)
    else none
  byLength.or (if last < 0x80 then none else [64, 4096, 262144].findSome? byByte)

/-- The parts of a range that need not be cut.  There are at most three cuts by length, and
at each end of a part at most three by bytes. -/
def uncutWithin : Nat → Nat → Nat → Unicode.Ranges
  | 0, _, _ => []
  | fuel + 1, first, last =>
    match cutPoint? first last with
    | some n => uncutWithin fuel first (n - 1) ++ uncutWithin fuel n last
    | none => [(first, last)]

/-- The sequences of ranges of bytes that make up the characters of some ranges, none of
which holds a surrogate. -/
def byteSequences (ranges : Unicode.Ranges) : List (List ByteRange) :=
  ranges.flatMap fun (first, last) =>
    (uncutWithin 16 first last).map fun (first, last) =>
      List.zip (utf8Bytes first) (utf8Bytes last)

end DirectiveLint.Pattern
