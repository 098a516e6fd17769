/-!
# Spans

Half-open ranges of byte offsets within one line.
-/

namespace DirectiveLint

/-- The bytes of a line from offset `start` up to, but without, offset `stop`. -/
structure Span where
  /-- The offset of the first byte. -/
  start : Nat
  /-- The offset after the last byte. -/
  stop : Nat
  deriving DecidableEq, Repr

namespace Span

/-- The span of no bytes at an offset. -/
def emptyAt (offset : Nat) : Span := ⟨offset, offset⟩

/-- The number of bytes. -/
def length (s : Span) : Nat := s.stop - s.start

/-- The span holds no bytes. -/
def isEmpty (s : Span) : Bool := s.start == s.stop

/-- The span that is shown for `s` on a line of `lineLength` bytes.  An empty span is
widened to the byte after it or, at the end of the line, to the last byte of the line. -/
def visible (s : Span) (lineLength : Nat) : Span :=
  if s.isEmpty then
    if s.start < lineLength then ⟨s.start, s.start + 1⟩
    else if 0 < lineLength then ⟨lineLength - 1, lineLength⟩
    else s
  else s

end Span

end DirectiveLint
