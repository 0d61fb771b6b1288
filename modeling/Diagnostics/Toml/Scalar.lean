import Diagnostics.Number.Reading
import Diagnostics.Toml.Text
import Diagnostics.Toml.Value

/-!
# Numbers, dates and times in TOML documents

Integers in four bases, floating point numbers, dates, times, and both together with an optional
offset. Underscores may stand between two digits. Fractions of a second are cut after six digits.
-/

namespace Diagnostics.Toml

def digitOf? (c : Char) : Option Nat :=
  if '0' ≤ c && c ≤ '9' then some (c.toNat - 48) else none

/-- Two digits of which the value is between `low` and `high`. -/
def readPair? (low high : Nat) : List Char → Option (Nat × List Char)
  | a :: b :: rest => do
      let value := 10 * (← digitOf? a) + (← digitOf? b)
      if low ≤ value ∧ value ≤ high then some (value, rest) else none
  | _ => none

def expect? (expected : Char) : List Char → Option (List Char)
  | [] => none
  | c :: rest => if c = expected then some rest else none

/-- A date as it is written, whether or not its month has so many days. -/
def readDate? (cs : List Char) : Option (Date × List Char) := do
  let (century, rest) ← readPair? 0 99 cs
  let (year, rest) ← readPair? 0 99 rest
  let (month, rest) ← readPair? 1 12 (← expect? '-' rest)
  let (day, rest) ← readPair? 1 31 (← expect? '-' rest)
  some (⟨100 * century + year, month, day⟩, rest)

/-- The microseconds that a fraction of a second stands for, if there is one. -/
def readFraction (cs : List Char) : Nat × List Char :=
  match cs with
  | '.' :: rest =>
      let digits := rest.takeWhile Binary64.isDigit
      if digits.isEmpty then (0, cs)
      else
        let kept := digits.take 6
        (Binary64.digitsValue kept * Nat.pow 10 (6 - kept.length), rest.dropWhile Binary64.isDigit)
  | _ => (0, cs)

def readClock? (cs : List Char) : Option (Clock × List Char) := do
  let (hour, rest) ← readPair? 0 23 cs
  let (minute, rest) ← readPair? 0 59 (← expect? ':' rest)
  let (second, rest) ← readPair? 0 59 (← expect? ':' rest)
  let (microsecond, rest) := readFraction rest
  some (⟨hour, minute, second, microsecond⟩, rest)

/-- Minutes from universal time after the sign. -/
def readZoneBody? (cs : List Char) : Option (Nat × List Char) := do
  let (hours, rest) ← readPair? 0 23 cs
  let (minutes, rest) ← readPair? 0 59 (← expect? ':' rest)
  some (60 * hours + minutes, rest)

def readZone (cs : List Char) : Option Int × List Char :=
  match cs with
  | [] => (none, [])
  | c :: rest =>
      if c = 'Z' ∨ c = 'z' then (some 0, rest)
      else if c = '+' ∨ c = '-' then
        match readZoneBody? rest with
        | some (minutes, after) => (some (if c = '-' then -(minutes : Int) else minutes), after)
        | none => (none, cs)
      else (none, cs)

/-- A date, with a time if one follows. -/
def readDateTime (date : Date) (cs : List Char) : Moment × List Char :=
  match cs with
  | [] => (.date date, [])
  | c :: rest =>
      if c = 'T' ∨ c = 't' ∨ c = ' ' then
        match readClock? rest with
        | some (clock, afterClock) =>
            let (zone, after) := readZone afterClock
            (.dateTime date clock zone, after)
        | none => (.date date, cs)
      else (.date date, cs)

/-- Digits after the first one of a run, without the underscores between them. -/
def takeDigits (isDigit : Char → Bool) : List Char → List Char × List Char
  | '_' :: c :: rest =>
      if isDigit c then
        let (digits, after) := takeDigits isDigit rest
        (c :: digits, after)
      else ([], '_' :: c :: rest)
  | c :: rest =>
      if isDigit c then
        let (digits, after) := takeDigits isDigit rest
        (c :: digits, after)
      else ([], c :: rest)
  | [] => ([], [])

/-- A run of at least one digit. -/
def readRun? (isDigit : Char → Bool) : List Char → Option (List Char × List Char)
  | [] => none
  | c :: rest =>
      if isDigit c then
        let (digits, after) := takeDigits isDigit rest
        some (c :: digits, after)
      else none

def valueInBase (base : Nat) (digits : List Char) : Nat :=
  digits.foldl (fun value c => base * value + (hexValue? c).getD 0) 0

def isDigitOf (base : Nat) (c : Char) : Bool :=
  match hexValue? c with
  | some value => value < base
  | none => false

/-- An integer in base 16, 2 or 8 after its leading zero. -/
def readBased? : List Char → Option (Value × List Char)
  | c :: rest => do
      let base ← if c = 'x' then some 16 else if c = 'b' then some 2
        else if c = 'o' then some 8 else none
      let (digits, after) ← readRun? (isDigitOf base) rest
      some (.int (valueInBase base digits), after)
  | [] => none

/-- The whole part of a decimal number: one zero, or a run that starts with another digit. -/
def readWhole? : List Char → Option (List Char × List Char)
  | '0' :: rest => some (['0'], rest)
  | cs => readRun? Binary64.isDigit cs

/-- A fraction with its point, or nothing. -/
def takeFraction (cs : List Char) : List Char × List Char :=
  match cs with
  | '.' :: rest =>
      match readRun? Binary64.isDigit rest with
      | some (digits, after) => ('.' :: digits, after)
      | none => ([], cs)
  | _ => ([], cs)

/-- A power of ten with its letter, or nothing. -/
def takePower (cs : List Char) : List Char × List Char :=
  match cs with
  | [] => ([], [])
  | c :: rest =>
      if c = 'e' ∨ c = 'E' then
        let (negative, unsigned) := Binary64.splitSign rest
        match readRun? Binary64.isDigit unsigned with
        | some (digits, after) => ('e' :: (if negative then '-' else '+') :: digits, after)
        | none => ([], cs)
      else ([], cs)

/-- A decimal number; it is an integer unless it has a fraction or a power of ten. -/
def readDecimal? (cs : List Char) : Option (Value × List Char) := do
  let (negative, unsigned) := Binary64.splitSign cs
  let (whole, afterWhole) ← readWhole? unsigned
  let (fraction, afterFraction) := takeFraction afterWhole
  let (power, after) := takePower afterFraction
  if fraction.isEmpty && power.isEmpty then
    let magnitude : Int := Binary64.digitsValue whole
    some (.int (if negative then -magnitude else magnitude), after)
  else
    let number ← Binary64.readMagnitude? negative (whole ++ fraction ++ power)
    some (.float number, after)

def readNumber? (cs : List Char) : Option (Value × List Char) :=
  match cs with
  | '0' :: rest => readBased? rest <|> readDecimal? cs
  | _ => readDecimal? cs

/-- The words for infinity and for what is not a number. -/
def readSpecial? (cs : List Char) : Option (Value × List Char) :=
  let (negative, unsigned) := Binary64.splitSign cs
  match unsigned with
  | 'i' :: 'n' :: 'f' :: rest => some (.float (.infinite negative), rest)
  | 'n' :: 'a' :: 'n' :: rest => some (.float .nan, rest)
  | _ => none

/-- A date, a time or a number. Text that has the form of a date is not read as anything else. -/
def readScalar? (cs : List Char) : Option (Value × List Char) :=
  match readDate? cs with
  | some (date, afterDate) =>
      if date.isValid then
        let (moment, after) := readDateTime date afterDate
        some (.moment moment, after)
      else none
  | none =>
      match readClock? cs with
      | some (clock, after) => some (.moment (.clock clock), after)
      | none => readNumber? cs <|> readSpecial? cs

end Diagnostics.Toml
