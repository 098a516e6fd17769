import DirectiveLint.Text.Slice
import DirectiveLint.Unicode.Property
import DirectiveLint.Validator.TimeFormat

/-!
# Builtin validators

Kinds of values that no table has to define.  Numbers in them are ASCII digits, any number
of leading zeros included, with a value below `2 ^ 32`.  The tests for delays and for strings
slice the text at byte offsets, and have no outcome if one of these is inside a character.
-/

namespace DirectiveLint

/-- A builtin kind of value. -/
inductive Builtin where
  /-- A time limit. -/
  | duration
  /-- A point in time. -/
  | dateTime
  /-- A start relative to the time of submission. -/
  | delay
  /-- Numbers and ascending ranges of numbers. -/
  | numberList
  /-- A bare word or a quoted text. -/
  | string
  deriving DecidableEq, Repr

/-- The number that a field of digits denotes, if it is below `2 ^ 32`. -/
def boundedNumber? (t : Text) : Option Nat :=
  if isDigits t && ofDigits t < bitBound 32 then some (ofDigits t) else none

/-- The numbers between the colons of a text. -/
def clockFields? (t : Text) : Option (List Nat) := (pieces ':' t).mapM boundedNumber?

/-- The numbers of a clock are in bounds.  Behind a number of days it starts with hours; else its
leading number has no bound. -/
def clockFits (hasDays : Bool) (fields : List Nat) : Bool :=
  match hasDays, fields with
  | false, [_] => true
  | false, [_, seconds] => seconds < 60
  | false, [_, minutes, seconds] => minutes < 60 && seconds < 60
  | true, [hours] => hours < 24
  | true, [hours, minutes] => hours < 24 && minutes < 60
  | true, [hours, minutes, seconds] => hours < 24 && minutes < 60 && seconds < 60
  | _, _ => false

/-- A time limit: `M`, `M:S`, `H:M:S`, `D-H`, `D-H:M`, `D-H:M:S`, or no limit. -/
def isDuration (t : Text) : Bool :=
  ["INFINITE".toList, "UNLIMITED".toList, "infinite".toList, "unlimited".toList].contains t
    || match cutAt '-' t with
      | some (days, clock) =>
        (boundedNumber? days).isSome && (clockFields? clock).any (clockFits true)
      | none => (clockFields? t).any (clockFits false)

/-- The words that may follow the count of a delay. -/
def delayUnits : List Text :=
  ["second".toList, "seconds".toList, "minute".toList, "minutes".toList, "hour".toList,
    "hours".toList, "day".toList, "days".toList, "week".toList, "weeks".toList]

/-- The byte offset behind the digits that a text starts with. -/
def digitsEnd (t : Text) : Nat :=
  (offsetWhere? (fun c => !c.isDigit) t).getD (byteLength t)

/-- The outcome of the test for a start relative to now: `now+`, a count, and a unit or none. -/
def testDelay? (t : Text) : Option Bool :=
  match dropPrefix? "now+".toList t with
  | none => some false
  | some rest => do
    let (count, unit) ← cutAtOffset? (digitsEnd rest) rest
    return !count.isEmpty && (unit.isEmpty || delayUnits.contains unit)

/-- A start relative to now. -/
def isDelay (t : Text) : Bool := (testDelay? t).getD false

/-- A number, or two numbers in ascending order with a dash between them. -/
def isNumberRange (t : Text) : Bool :=
  match cutAt '-' t with
  | some (low, high) =>
    match boundedNumber? low, boundedNumber? high with
    | some l, some h => l ≤ h
    | _, _ => false
  | none => (boundedNumber? t).isSome

/-- Numbers and ranges with commas between them. -/
def isNumberList (t : Text) : Bool := (pieces ',' t).all isNumberRange

/-- A quotation mark. -/
def isQuote (c : Char) : Bool := c == '"' || c == '\''

/-- The outcome of the test for a word without blanks and quotes, or a text between two quotes of
one kind that holds no further quote of that kind. -/
def testString? (t : Text) : Option Bool :=
  match t with
  | [] => some false
  | q :: _ =>
    if isQuote q then
      if 2 ≤ byteLength t && t.getLast? == some q then do
        let inner ← Span.slice? ⟨1, byteLength t - 1⟩ t
        return !inner.contains q
      else some false
    else some (!t.any fun c => Unicode.isBlank c || isQuote c)

/-- A word or a quoted text. -/
def isString (t : Text) : Bool := (testString? t).getD false

namespace Builtin

/-- Every builtin kind. -/
def all : List Builtin := [.duration, .dateTime, .delay, .numberList, .string]

/-- The name under which a kind is registered. -/
def name : Builtin → Text
  | .duration => "duration".toList
  | .dateTime => "datetime".toList
  | .delay => "delay".toList
  | .numberList => "number_list".toList
  | .string => "string".toList

/-- The kind with a name. -/
def ofName? (name : Text) : Option Builtin := all.find? (·.name = name)

/-- What a kind accepts, in words. -/
def description : Builtin → Text
  | .duration => "duration ([days-]hours:minutes:seconds, minutes, or UNLIMITED)".toList
  | .dateTime =>
    "date/time (YYYY-MM-DD[THH:MM[:SS]], MMDDYY, MM/DD/YY or HH:MM[:SS])".toList
  | .delay => "delay (now+count[seconds|minutes|hours|days|weeks])".toList
  | .numberList => "number list (e.g. 1,2,4-6)".toList
  | .string => "string (no spaces unless quoted)".toList

/-- A text is of the kind. -/
def accepts : Builtin → Text → Bool
  | .duration => isDuration
  | .dateTime => isDateTime
  | .delay => isDelay
  | .numberList => isNumberList
  | .string => isString

end Builtin

end DirectiveLint
