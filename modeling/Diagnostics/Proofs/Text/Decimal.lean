import Diagnostics.Escape
import Diagnostics.Source.Lines
import Diagnostics.Text.Numeral

/-!
# Characters of decimal text

Decimal text of an integer is made of digits, with a minus sign in front of them if it
is negative. It therefore neither ends a line nor starts an escape sequence, and all of it
can be typed.
-/

namespace Diagnostics.Text

theorem toList_toString_int (n : Int) : (toString n).toList = decimal n := by
  rw [Int.toString_eq_repr]
  cases n with
  | ofNat n => simp [Int.repr, decimal, decimalNat, Nat.repr]
  | negSucc n => simp [Int.repr, decimal, decimalNat, Nat.repr]

theorem isDigit_of_mem_decimalNat {n : Nat} {c : Char} (hc : c ∈ decimalNat n) : c.isDigit :=
  Nat.isDigit_of_mem_toDigits (by decide) (by decide) hc

theorem eq_minus_or_isDigit_of_mem_decimal {n : Int} {c : Char} (hc : c ∈ decimal n) :
    c = '-' ∨ c.isDigit := by
  cases n with
  | ofNat n => exact Or.inr (isDigit_of_mem_decimalNat hc)
  | negSucc n =>
      simp only [decimal, List.mem_cons] at hc
      exact hc.imp id isDigit_of_mem_decimalNat

/-- A printable character of ASCII. -/
def IsTypewritten (c : Char) : Prop :=
  0x20 ≤ c.toNat ∧ c.toNat < 0x7F

instance (c : Char) : Decidable (IsTypewritten c) :=
  inferInstanceAs (Decidable (_ ∧ _))

/-- All characters are printable ones of ASCII. -/
def AllTypewritten (text : List Char) : Prop :=
  ∀ c ∈ text, IsTypewritten c

instance (text : List Char) : Decidable (AllTypewritten text) :=
  List.decidableBAll IsTypewritten text

theorem isTypewritten_of_isDigit {c : Char} (hdigit : c.isDigit) : IsTypewritten c := by
  rw [Char.isDigit, Bool.and_eq_true, decide_eq_true_eq, decide_eq_true_eq] at hdigit
  have hlower : 48 ≤ c.toNat := hdigit.1
  have hupper : c.toNat ≤ 57 := hdigit.2
  exact ⟨by omega, by omega⟩

theorem allTypewritten_decimal (n : Int) : AllTypewritten (decimal n) := by
  intro c hc
  obtain rfl | hdigit := eq_minus_or_isDigit_of_mem_decimal hc
  · decide
  · exact isTypewritten_of_isDigit hdigit

theorem escapeChar_not_mem_decimal (n : Int) : escapeChar ∉ decimal n := by
  intro hc
  rcases eq_minus_or_isDigit_of_mem_decimal hc with heq | hdigit
  · exact absurd heq (by decide)
  · exact absurd hdigit (by decide)

theorem escapeChar_not_mem_toString_int (n : Int) : escapeChar ∉ (toString n).toList := by
  rw [toList_toString_int]
  exact escapeChar_not_mem_decimal n

theorem escapeChar_not_mem_toString_nat (n : Nat) : escapeChar ∉ (toString n).toList :=
  escapeChar_not_mem_toString_int n

end Diagnostics.Text
