import Diagnostics.Number.Binary64
import Diagnostics.Text.Numeral

/-!
# Reading doubles

A numeral is a sign, a whole part, an optional fraction and an optional power of ten, or one of the
words for infinity and for what is not a number after a sign, in any letter case. It may be
surrounded by blanks, its digits may come from any script, and single underscores may stand between
two digits.
-/

namespace Diagnostics

namespace Binary64

def isDigit (c : Char) : Bool :=
  '0' ≤ c && c ≤ '9'

def digitsValue (digits : List Char) : Nat :=
  digits.foldl (fun value c => 10 * value + (c.toNat - 48)) 0

/-- Splits off a sign; `true` is minus. -/
def splitSign : List Char → Bool × List Char
  | '-' :: rest => (true, rest)
  | '+' :: rest => (false, rest)
  | rest => (false, rest)

def readPower? : List Char → Option Int
  | [] => some 0
  | c :: rest =>
      let signed := splitSign rest
      if (c = 'e' ∨ c = 'E') ∧ signed.2 ≠ [] ∧ signed.2.all isDigit then
        let power : Int := digitsValue signed.2
        some (if signed.1 then -power else power)
      else none

def readMagnitude? (negative : Bool) (cs : List Char) : Option Binary64 := do
  let whole := cs.takeWhile isDigit
  let afterWhole := cs.dropWhile isDigit
  let fraction :=
    if afterWhole.head? = some '.' then afterWhole.tail.takeWhile isDigit else []
  let afterFraction :=
    if afterWhole.head? = some '.' then afterWhole.tail.dropWhile isDigit else afterWhole
  if whole.isEmpty && fraction.isEmpty then none
  let power ← readPower? afterFraction
  pure (ofDecimal negative (digitsValue (whole ++ fraction)) (power - fraction.length))

/-- The words for infinity and for what is not a number. -/
def readWord? (negative : Bool) (word : List Char) : Option Binary64 :=
  let lowered := word.map Char.toLower
  if lowered = "inf".toList ∨ lowered = "infinity".toList then some (.infinite negative)
  else if lowered = "nan".toList then some .nan
  else none

/-- A plain numeral: no blanks, no separators, and all digits of ASCII. -/
def readPlain? (cs : List Char) : Option Binary64 :=
  let signed := splitSign cs
  readWord? signed.1 signed.2 <|> readMagnitude? signed.1 signed.2

/-- The digit of ASCII with the value of `c`, or `c` itself if it is no decimal digit. -/
def plainDigit (c : Char) : Char :=
  match Text.digitValue? c with
  | some value => Nat.digitChar value
  | none => c

/-- Drops the underscores, each of which must stand between two digits. -/
def dropSeparators? (afterDigit : Bool) : List Char → Option (List Char)
  | [] => some []
  | ['_'] => none
  | '_' :: c :: rest =>
      if afterDigit && isDigit c then (dropSeparators? true rest).map (c :: ·) else none
  | c :: rest => (dropSeparators? (isDigit c) rest).map (c :: ·)

def ofText? (text : List Char) : Option Binary64 :=
  (dropSeparators? false ((Text.trimNumeral text).map plainDigit)).bind readPlain?

end Binary64

end Diagnostics
