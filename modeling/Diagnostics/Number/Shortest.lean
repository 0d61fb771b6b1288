import Diagnostics.Number.Binary64
import Diagnostics.Text.Numeral

/-!
# Shortest decimal text of a double

The text of a finite double has the fewest digits that read back as the same double, and among
those the ones nearest to it. Numbers from `1e-4` up to `1e16` are written positionally, with a
fraction even if it is zero; others have an exponent of at least two digits.
-/

namespace Diagnostics

namespace Binary64

/-- A positive double with the reals that round to it, all in units of a quarter of the last place:
from `low` to `high`, ends included iff `closed`. -/
structure Rounding where
  low : Nat
  value : Nat
  high : Nat
  exponent : Int
  closed : Bool

/-- Just above a power of two the next lower double is only half as far. -/
def roundingOf (mantissa : Nat) (exponent : Int) : Rounding :=
  let lowGap := if mantissa = leastFull ∧ exponent > leastExponent then 1 else 2
  ⟨4 * mantissa - lowGap, 4 * mantissa, 4 * mantissa + 2, exponent - 2, mantissa % 2 = 0⟩

/-- The position of the leading decimal digit of a positive quotient. -/
def leadingPlace (numerator denominator : Nat) : Int :=
  (Nat.toDigits 10 (numerator * Nat.pow 10 330 / denominator)).length - 331

/-- Compares `candidate * 10 ^ place` with `bound * 2 ^ exponent`, scaled to natural numbers. -/
def scaledPair (candidate : Nat) (place : Int) (bound : Nat) (exponent : Int) : Nat × Nat :=
  let decimalSide := scaleDown 10 candidate 1 (-place)
  let binarySide := scaleDown 2 bound 1 (-exponent)
  (decimalSide.1 * binarySide.2, binarySide.1 * decimalSide.2)

def Rounding.holds (r : Rounding) (candidate : Nat) (place : Int) : Bool :=
  let below := scaledPair candidate place r.low r.exponent
  let above := scaledPair candidate place r.high r.exponent
  if r.closed then below.2 ≤ below.1 && above.1 ≤ above.2
  else below.2 < below.1 && above.1 < above.2

/-- The better of the two neighbours `lower` and `lower + 1` on the grid of `place`, if one of them
rounds to the double: the nearer one, and the even one if both are as near. -/
def Rounding.onGrid? (r : Rounding) (lower : Nat) (place : Int) : Option Nat :=
  match r.holds lower place, r.holds (lower + 1) place with
  | false, false => none
  | true, false => some lower
  | false, true => some (lower + 1)
  | true, true =>
      let twice := scaledPair (2 * lower + 1) place (2 * r.value) r.exponent
      if twice.2 < twice.1 || (twice.2 = twice.1 && lower % 2 = 0) then some lower
      else some (lower + 1)

/-- The first grid that has a neighbour in the interval, from one digit on. -/
def Rounding.shortest (r : Rounding) (leading : Int) : (tries : Nat) → (digits : Nat) → Nat × Int
  | 0, _ => (0, 0)
  | tries + 1, digits =>
      let place := leading - digits + 1
      let scaled := scaleDown 2 r.value 1 (-r.exponent)
      let grid := scaleDown 10 scaled.1 scaled.2 place
      match r.onGrid? (grid.1 / grid.2) place with
      | some n => (n, place)
      | none => r.shortest leading tries (digits + 1)

/-- Digits `n` and place `p` such that `n * 10 ^ p` is the shortest decimal of a positive double. -/
def shortestDecimal (mantissa : Nat) (exponent : Int) : Nat × Int :=
  let scaled := scaleDown 2 mantissa 1 (-exponent)
  (roundingOf mantissa exponent).shortest (leadingPlace scaled.1 scaled.2) 17 1

def exponentText (place : Int) : List Char :=
  let digits := Text.decimalNat place.natAbs
  'e' :: (if place < 0 then '-' else '+') ::
    (List.replicate (2 - digits.length) '0' ++ digits)

/-- Writes `0.d₁d₂… * 10 ^ point`. -/
def layout (digits : List Char) (point : Int) : List Char :=
  if point ≤ -4 ∨ point > 16 then
    match digits with
    | [] => []
    | [d] => d :: exponentText (point - 1)
    | d :: rest => d :: '.' :: rest ++ exponentText (point - 1)
  else if point ≤ 0 then
    '0' :: '.' :: (List.replicate (-point).toNat '0' ++ digits)
  else
    let whole := point.toNat
    let fraction := digits.drop whole
    digits.take whole ++ List.replicate (whole - digits.length) '0' ++
      '.' :: (if fraction.isEmpty then ['0'] else fraction)

def dropTrailingZeros (digits : List Char) : List Char :=
  (digits.reverse.dropWhile (· == '0')).reverse

def magnitudeText (mantissa : Nat) (exponent : Int) : List Char :=
  if mantissa = 0 then ['0', '.', '0']
  else
    let shortest := shortestDecimal mantissa exponent
    let digits := Text.decimalNat shortest.1
    layout (dropTrailingZeros digits) (digits.length + shortest.2)

def toText : Binary64 → List Char
  | .finite negative mantissa exponent =>
      (if negative then ['-'] else []) ++ magnitudeText mantissa exponent
  | .infinite negative => (if negative then "-inf" else "inf").toList
  | .nan => "nan".toList

end Binary64

end Diagnostics
