import Diagnostics.Platform
import Diagnostics.Text.Blank
import Diagnostics.Text.Digit

/-!
# Numerals

Decimal and hexadecimal text of numbers, and the reading of decimal integers. A readable integer is
surrounded by any number of blanks and has at most one sign; its digits may come from any script
and may be separated by single underscores. There is a limit to the number of digits.
-/

namespace Diagnostics.Text

def decimalNat (n : Nat) : List Char :=
  Nat.toDigits 10 n

def decimal : Int → List Char
  | .ofNat n => decimalNat n
  | .negSucc n => '-' :: decimalNat (n + 1)

/-- Whether a number has too many digits to be written in decimal. -/
def isOverlong [Platform] (n : Int) : Bool :=
  Platform.digitLimit < (decimalNat n.natAbs).length

/-- Hexadecimal text with at least `width` digits. -/
def hexadecimal (width : Nat) (n : Nat) : List Char :=
  let digits := Nat.toDigits 16 n
  List.replicate (width - digits.length) '0' ++ digits

/-- Right-aligns `cs` in a field of `width` characters. -/
def padLeft (width : Nat) (cs : List Char) : List Char :=
  List.replicate (width - cs.length) ' ' ++ cs

/-- The blanks that may surround a numeral: all but the four information separators. -/
def isNumeralBlank (c : Char) : Bool :=
  isBlank c && !(0x1C ≤ c.toNat && c.toNat ≤ 0x1F)

/-- Digits after the first one of a numeral, with the value read so far. -/
def readDigits (value : Nat) : List Char → Option Nat
  | [] => some value
  | '_' :: c :: rest => do readDigits (10 * value + (← digitValue? c)) rest
  | c :: rest => do readDigits (10 * value + (← digitValue? c)) rest

def readNat? : List Char → Option Nat
  | [] => none
  | c :: rest => do readDigits (← digitValue? c) rest

def readSigned? : List Char → Option Int
  | '-' :: rest => (readNat? rest).map fun n => -Int.ofNat n
  | '+' :: rest => (readNat? rest).map Int.ofNat
  | rest => (readNat? rest).map Int.ofNat

/-- Removes the blanks around a numeral. -/
def trimNumeral (cs : List Char) : List Char :=
  ((cs.dropWhile isNumeralBlank).reverse.dropWhile isNumeralBlank).reverse

def readInt? (cs : List Char) : Option Int :=
  readSigned? (trimNumeral cs)

inductive NumeralError where
  | malformed
  | overlong (count : Nat)
  deriving DecidableEq, Repr

def dropSign : List Char → List Char
  | '-' :: rest => rest
  | '+' :: rest => rest
  | rest => rest

/-- The digits of a numeral and the underscores among them, up to anything else. -/
def digitRun (cs : List Char) : List Char :=
  (dropSign (trimNumeral cs)).takeWhile fun c => c = '_' || (digitValue? c).isSome

/-- Whether every underscore stands between two digits, and there is a digit at all. -/
def isSeparated : (afterDigit : Bool) → List Char → Bool
  | afterDigit, [] => afterDigit
  | afterDigit, c :: rest =>
      if c = '_' then afterDigit && isSeparated false rest else isSeparated true rest

/-- How many digits a numeral has, if they are too many to be read. They are counted before it is
known whether something else follows them. -/
def overlongCount? [Platform] (cs : List Char) : Option Nat :=
  let count := (digitRun cs).countP fun c => c ≠ '_'
  if isSeparated false (digitRun cs) && Platform.digitLimit < count then some count else none

def readInteger [Platform] (cs : List Char) : Except NumeralError Int :=
  match overlongCount? cs with
  | some count => .error (.overlong count)
  | none =>
      match readInt? cs with
      | some n => .ok n
      | none => .error .malformed

end Diagnostics.Text
