import Diagnostics.Text.Numeral

/-!
# Dates and times

Calendar dates, clock times, and both together with an optional offset from universal time, as a
configuration file can hold them.
-/

namespace Diagnostics

structure Date where
  year : Nat
  month : Nat
  day : Nat
  deriving DecidableEq, Repr

structure Clock where
  hour : Nat
  minute : Nat
  second : Nat
  microsecond : Nat
  deriving DecidableEq, Repr

inductive Moment where
  | date (day : Date)
  | clock (time : Clock)
  | dateTime (day : Date) (time : Clock) (offsetMinutes : Option Int)
  deriving DecidableEq, Repr

def isLeapYear (year : Nat) : Bool :=
  (year % 4 = 0 && year % 100 ≠ 0) || year % 400 = 0

def daysInMonth (year month : Nat) : Nat :=
  if month = 2 then (if isLeapYear year then 29 else 28)
  else if month = 4 ∨ month = 6 ∨ month = 9 ∨ month = 11 then 30
  else 31

/-- Whether the date is in the calendar, which starts with the year one. -/
def Date.isValid (date : Date) : Bool :=
  1 ≤ date.year && 1 ≤ date.month && date.month ≤ 12 && 1 ≤ date.day &&
    date.day ≤ daysInMonth date.year date.month

def commaSeparated (parts : List (List Char)) : List Char :=
  (parts.intersperse ", ".toList).flatten

namespace Moment

def dateParts (day : Date) : List Nat :=
  [day.year, day.month, day.day]

/-- Hour and minute always, the second and the microsecond only up to the last that is not zero. -/
def clockParts (time : Clock) : List Nat :=
  if time.microsecond ≠ 0 then [time.hour, time.minute, time.second, time.microsecond]
  else if time.second ≠ 0 then [time.hour, time.minute, time.second]
  else [time.hour, time.minute]

/-- The offset as whole days and the seconds of a day left over. -/
def zoneText (offsetMinutes : Int) : List Char :=
  if offsetMinutes = 0 then "datetime.timezone.utc".toList
  else
    let seconds := 60 * offsetMinutes
    let days := seconds / 86400
    let rest := seconds % 86400
    let dayPart := if days = 0 then [] else ["days=".toList ++ Text.decimal days]
    let secondPart := if rest = 0 then [] else ["seconds=".toList ++ Text.decimal rest]
    "datetime.timezone(datetime.timedelta(".toList ++
      commaSeparated (dayPart ++ secondPart) ++ "))".toList

def shown : Moment → List Char
  | .date day =>
      "datetime.date(".toList ++ commaSeparated ((dateParts day).map Text.decimalNat) ++ [')']
  | .clock time =>
      "datetime.time(".toList ++ commaSeparated ((clockParts time).map Text.decimalNat) ++ [')']
  | .dateTime day time offset =>
      let numbers := (dateParts day ++ clockParts time).map Text.decimalNat
      let zone := offset.toList.map fun minutes => "tzinfo=".toList ++ zoneText minutes
      "datetime.datetime(".toList ++ commaSeparated (numbers ++ zone) ++ [')']

end Moment

end Diagnostics
