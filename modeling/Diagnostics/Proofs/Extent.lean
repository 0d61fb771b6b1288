import Mathlib.Algebra.Group.Int.Defs
import Mathlib.Algebra.Group.Nat.Defs
import Diagnostics.Extent

/-!
# Numbers that can be written

What keeps a number from being put into words is that it has more digits than the limit allows. A
machine word never has so many.
-/

namespace Diagnostics

variable [Platform]

/-- The number has few enough digits to be written. -/
def FitsDigits (n : Int) : Prop :=
  n.natAbs < 10 ^ Platform.digitLimit

theorem numberFault?_eq_none_iff (n : Int) : numberFault? n = none ↔ FitsDigits n := by
  have hlimit := Platform.digitLimit_ge
  have hlength := Nat.length_toDigits_le_iff (n := n.natAbs) (show 1 < 10 by decide)
    (Nat.lt_of_lt_of_le (by decide) hlimit)
  rw [numberFault?, Text.isOverlong, Text.decimalNat, FitsDigits, ← hlength]
  simp

/-- The least number that is not written. -/
theorem not_fitsDigits_pow : ¬FitsDigits (10 ^ Platform.digitLimit) := by
  rw [FitsDigits, Int.natAbs_pow]
  exact Nat.lt_irrefl _

/-- There is no other reason for which a number is not written. -/
theorem numberFault?_eq_some {n : Int} {fault : Fault} (hfault : numberFault? n = some fault) :
    fault = .unprintable := by
  rw [numberFault?] at hfault
  split at hfault
  · exact (Option.some.inj hfault).symm
  · cases hfault

theorem fitsDigits_of_natAbs_le {n m : Int} (hle : n.natAbs ≤ m.natAbs) (hfits : FitsDigits m) :
    FitsDigits n :=
  Nat.lt_of_le_of_lt hle hfits

theorem fitsDigits_wordBound : FitsDigits wordBound :=
  calc
    wordBound.natAbs < 10 ^ 19 := by decide
    _ ≤ 10 ^ Platform.digitLimit :=
      Nat.pow_le_pow_right (by decide) (Nat.le_trans (by decide) Platform.digitLimit_ge)

theorem fitsDigits_of_isWord {n : Int} (hword : isWord n) : FitsDigits n := by
  rw [isWord, Bool.and_eq_true, decide_eq_true_eq, decide_eq_true_eq] at hword
  apply fitsDigits_of_natAbs_le _ fitsDigits_wordBound
  omega

end Diagnostics
