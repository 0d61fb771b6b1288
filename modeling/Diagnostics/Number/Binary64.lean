/-!
# Double precision numbers

A finite number is `mantissa * 2 ^ exponent` with its sign; the mantissa has 53 bits unless the
exponent is the least one. Decimal numbers are rounded to the nearest of these, and a number half
way between two goes to the one with an even mantissa. All arithmetic is exact.
-/

namespace Diagnostics

inductive Binary64 where
  | finite (negative : Bool) (mantissa : Nat) (exponent : Int)
  | infinite (negative : Bool)
  | nan
  deriving DecidableEq, Repr

namespace Binary64

/-- The least mantissa of 53 bits. -/
def leastFull : Nat := 4503599627370496

def leastExponent : Int := -1074

def greatestExponent : Int := 971

/-- `numerator / denominator`, rounded to the nearest integer with ties to even. -/
def roundDiv (numerator denominator : Nat) : Nat :=
  let quotient := numerator / denominator
  let twice := 2 * (numerator % denominator)
  if twice < denominator || (twice = denominator && quotient % 2 = 0) then quotient
  else quotient + 1

/-- The numerator and the denominator of `numerator / denominator / base ^ exponent`. -/
def scaleDown (base : Nat) (numerator denominator : Nat) (exponent : Int) : Nat × Nat :=
  match exponent with
  | .ofNat n => (numerator, denominator * Nat.pow base n)
  | .negSucc n => (numerator * Nat.pow base (n + 1), denominator)

/-- The exponent at which a positive quotient has a mantissa of 53 bits, or the least one. -/
def exponentOf (numerator denominator : Nat) : Int :=
  let guess := (Nat.log2 numerator : Int) - Nat.log2 denominator - 52
  let scaled := scaleDown 2 numerator denominator guess
  let fitted := if scaled.1 / scaled.2 < leastFull then guess - 1 else guess
  max fitted leastExponent

/-- The double nearest to a positive quotient. -/
def ofQuotient (negative : Bool) (numerator denominator : Nat) : Binary64 :=
  let exponent := exponentOf numerator denominator
  let scaled := scaleDown 2 numerator denominator exponent
  let mantissa := roundDiv scaled.1 scaled.2
  let carried :=
    if mantissa = 2 * leastFull then (leastFull, exponent + 1) else (mantissa, exponent)
  if carried.2 > greatestExponent then .infinite negative
  else .finite negative carried.1 carried.2

/-- The double nearest to `digits * 10 ^ exponent`. Exponents far outside the range are decided by
the number of digits alone. -/
def ofDecimal (negative : Bool) (digits : Nat) (exponent : Int) : Binary64 :=
  let magnitude := (Nat.toDigits 10 digits).length + exponent
  if digits = 0 || magnitude < -330 then .finite negative 0 leastExponent
  else if magnitude > 330 then .infinite negative
  else
    let scaled := scaleDown 10 digits 1 (-exponent)
    ofQuotient negative scaled.1 scaled.2

/-- The integer part, toward zero. -/
def truncate? : Binary64 → Option Int
  | .finite negative mantissa exponent =>
      let scaled := scaleDown 2 mantissa 1 (-exponent)
      let magnitude : Int := (scaled.1 / scaled.2 : Nat)
      some (if negative then -magnitude else magnitude)
  | _ => none

end Binary64

end Diagnostics
