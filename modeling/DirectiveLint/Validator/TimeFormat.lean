import DirectiveLint.Text.Utf8
import DirectiveLint.Validator.Calendar

/-!
# Written points in time

A format says which fields and marks a text consists of.  Reading is lenient about the number of
digits of a field, so each format goes with a shape, which pins every field to its width.
-/

namespace DirectiveLint

/-! ### Formats -/

/-- A field of a point in time. -/
inductive TimeField where
  /-- The year. -/
  | year
  /-- The year in its century. -/
  | yearOfCentury
  /-- The month. -/
  | month
  /-- The day of the month. -/
  | day
  /-- The hour. -/
  | hour
  /-- The minute. -/
  | minute
  /-- The second. -/
  | second
  deriving DecidableEq, Repr

/-- The greatest number of digits that are read for a field. -/
def TimeField.width : TimeField → Nat
  | .year => 4
  | .yearOfCentury | .month | .day | .hour | .minute | .second => 2

/-- The field that a format names by a letter. -/
def TimeField.ofLetter? : Char → Option TimeField
  | 'Y' => some .year
  | 'y' => some .yearOfCentury
  | 'm' => some .month
  | 'd' => some .day
  | 'H' => some .hour
  | 'M' => some .minute
  | 'S' => some .second
  | _ => none

/-- A part of a format. -/
inductive FormatItem where
  /-- A field. -/
  | field (f : TimeField)
  /-- A character that stands for itself. -/
  | mark (c : Char)
  deriving DecidableEq, Repr

/-- The parts of a format: a field is a `%` and its letter. -/
def formatItems? : Text → Option (List FormatItem)
  | [] => some []
  | ['%'] => none
  | '%' :: c :: format => do
    let field ← TimeField.ofLetter? c
    let items ← formatItems? format
    some (.field field :: items)
  | c :: format => do
    let items ← formatItems? format
    some (.mark c :: items)

/-- The values that a text gives to fields, in the order in which they stand there. -/
abbrev FieldValues := List (TimeField × Nat)

/-- The values that are read from the whole of a text.  A field takes the digits up to its width,
and needs one. -/
def readItems? : List FormatItem → Text → Option FieldValues
  | [], t => if t.isEmpty then some [] else none
  | .mark c :: items, t => do
    let rest ← dropPrefix? [c] t
    readItems? items rest
  | .field field :: items, t => do
    let digits := (t.take field.width).takeWhile Char.isDigit
    if digits.isEmpty then none
    else
      let values ← readItems? items (t.drop digits.length)
      some ((field, ofDigits digits) :: values)

/-- The year of some values. -/
def yearOf? (values : FieldValues) : Option Nat :=
  (values.lookup .year).or ((values.lookup .yearOfCentury).map fullYear)

/-- The date of some values. -/
def dateOf? (values : FieldValues) : Option Date := do
  let year ← yearOf? values
  let month ← values.lookup .month
  let day ← values.lookup .day
  Date.of? year month day

/-- The time of some values, at the start of the minute if there is no second.  The 61st second
is a leap second. -/
def timeOf? (values : FieldValues) : Option Time := do
  let hour ← values.lookup .hour
  let minute ← values.lookup .minute
  let second := (values.lookup .second).getD 0
  if second = 60 then Time.of? hour minute 59 nanosecondsPerSecond
  else Time.of? hour minute second 0

/-- The values of a text in a format. -/
def readValues? (format t : Text) : Option FieldValues := do
  let items ← formatItems? format
  readItems? items t

/-- A text read as a date. -/
def readDate? (format t : Text) : Option Date := (readValues? format t).bind dateOf?

/-- A text read as a time of day. -/
def readTime? (format t : Text) : Option Time := (readValues? format t).bind timeOf?

/-- A text read as a date with a time of day. -/
def readDateTime? (format t : Text) : Option (Date × Time) := do
  let values ← readValues? format t
  let date ← dateOf? values
  let time ← timeOf? values
  some (date, time)

/-! ### Shapes -/

/-- A byte is one that a byte of a shape stands for: `D` for the ASCII digits, any other for
itself. -/
def fitsByte (byte expected : UInt8) : Bool :=
  if expected = 'D'.toUInt8 then '0'.toUInt8 ≤ byte && byte ≤ '9'.toUInt8 else byte == expected

/-- A text fits a shape byte for byte. -/
def hasShape (t shape : Text) : Bool :=
  (utf8 t).length == (utf8 shape).length
    && ((utf8 t).zip (utf8 shape)).all fun (byte, expected) => fitsByte byte expected

/-- The shapes of dates and their formats. -/
def dateFormats : List (Text × Text) :=
  [("DDDD-DD-DD".toList, "%Y-%m-%d".toList), ("DDDDDD".toList, "%m%d%y".toList),
    ("DD/DD/DD".toList, "%m/%d/%y".toList)]

/-- The shapes of times of day and their formats. -/
def timeFormats : List (Text × Text) :=
  [("DD:DD".toList, "%H:%M".toList), ("DD:DD:DD".toList, "%H:%M:%S".toList)]

/-- The shapes of dates with a time of day and their formats. -/
def dateTimeFormats : List (Text × Text) :=
  [("DDDD-DD-DDTDD:DD".toList, "%Y-%m-%dT%H:%M".toList),
    ("DDDD-DD-DDTDD:DD:DD".toList, "%Y-%m-%dT%H:%M:%S".toList)]

/-- The formats whose shape a text fits. -/
def matchingFormats (t : Text) (formats : List (Text × Text)) : List Text :=
  (formats.filter fun (shape, _) => hasShape t shape).map fun (_, format) => format

/-- A date, a time of day, or a date with a time of day.  Leap seconds are left out. -/
def isDateTime (t : Text) : Bool :=
  ((matchingFormats t dateFormats).any fun format => (readDate? format t).isSome)
    || ((matchingFormats t timeFormats).any fun format =>
      (readTime? format t).any Time.isWholeSecond)
    || ((matchingFormats t dateTimeFormats).any fun format =>
      (readDateTime? format t).any fun (_, time) => time.isWholeSecond)

end DirectiveLint
