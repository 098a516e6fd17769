/-!
# The calendar

The days of the Gregorian calendar, continued backwards to the year 0, and the times of a day.
-/

namespace DirectiveLint

/-- A year with a 29th of February. -/
def isLeapYear (year : Nat) : Bool :=
  year % 4 == 0 && (year % 100 != 0 || year % 400 == 0)

/-- The number of days of a month; none for a number that is no month. -/
def daysInMonth (year month : Nat) : Nat :=
  match month with
  | 1 | 3 | 5 | 7 | 8 | 10 | 12 => 31
  | 4 | 6 | 9 | 11 => 30
  | 2 => if isLeapYear year then 29 else 28
  | _ => 0

/-- A day of the calendar. -/
def isDate (year month day : Nat) : Bool :=
  1 ≤ day && day ≤ daysInMonth year month

/-- A date. -/
structure Date where
  /-- The year. -/
  year : Nat
  /-- The month, counted from 1. -/
  month : Nat
  /-- The day of the month, counted from 1. -/
  day : Nat
  /-- It is a day of the calendar. -/
  valid : isDate year month day = true

/-- The date with a year, a month and a day. -/
def Date.of? (year month day : Nat) : Option Date :=
  if h : isDate year month day then some ⟨year, month, day, h⟩ else none

/-- The year that two digits stand for, from 1970 to 2069. -/
def fullYear (short : Nat) : Nat := if short < 70 then 2000 + short else 1900 + short

/-- The nanoseconds of a second. -/
def nanosecondsPerSecond : Nat := 1000000000

/-- An instant of a day.  A leap second is the second before it, with its nanoseconds counted
on. -/
def isTime (hour minute second nanosecond : Nat) : Bool :=
  hour < 24 && minute < 60 && second < 60
    && (nanosecond < nanosecondsPerSecond
      || second == 59 && nanosecond < 2 * nanosecondsPerSecond)

/-- A time of day. -/
structure Time where
  /-- The hour. -/
  hour : Nat
  /-- The minute. -/
  minute : Nat
  /-- The second. -/
  second : Nat
  /-- The nanosecond, of two seconds if a leap second follows. -/
  nanosecond : Nat
  /-- It is an instant of a day. -/
  valid : isTime hour minute second nanosecond = true

/-- The time with an hour, a minute, a second and a nanosecond. -/
def Time.of? (hour minute second nanosecond : Nat) : Option Time :=
  if h : isTime hour minute second nanosecond then some ⟨hour, minute, second, nanosecond, h⟩
  else none

/-- The time is outside of leap seconds. -/
def Time.isWholeSecond (t : Time) : Bool := t.nanosecond < nanosecondsPerSecond

end DirectiveLint
