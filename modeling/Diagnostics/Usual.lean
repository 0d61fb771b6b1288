import Diagnostics.Platform
import Diagnostics.Proofs.Text.Decimal

/-!
# A usual platform

The platform on which the program runs unless another is given: room for a terabyte, and the limits
that are set by default.
-/

namespace Diagnostics

/-- How many digits there are, if that is known. -/
def usualCountText (count : Option Nat) : String :=
  count.elim "" fun digits => ": value has " ++ toString digits ++ " digits"

/-- What is said of a number or a numeral with too many digits. -/
def usualDigitComplaint (count : Option Nat) : String :=
  "Exceeds the limit (4300 digits) for integer string conversion" ++ usualCountText count ++
    "; use sys.set_int_max_str_digits() to increase the limit"

theorem escapeChar_not_mem_usualCountText (count : Option Nat) :
    escapeChar ∉ (usualCountText count).toList := by
  cases count with
  | none => decide
  | some digits =>
      rw [usualCountText, Option.elim_some, String.toList_append, String.toList_append]
      exact List.not_mem_append
        (List.not_mem_append (by decide) (Text.escapeChar_not_mem_toString_nat digits)) (by decide)

theorem escapeChar_not_mem_usualDigitComplaint (count : Option Nat) :
    escapeChar ∉ (usualDigitComplaint count).toList := by
  have hbefore : escapeChar ∉
      "Exceeds the limit (4300 digits) for integer string conversion".toList := by decide +kernel
  have hafter : escapeChar ∉
      "; use sys.set_int_max_str_digits() to increase the limit".toList := by decide +kernel
  unfold usualDigitComplaint
  rw [String.toList_append, String.toList_append]
  exact List.not_mem_append
    (List.not_mem_append hbefore (escapeChar_not_mem_usualCountText count)) hafter

instance usualPlatform : Platform where
  memoryBound := 1099511627776
  digitLimit := 4300
  readingRoom := 980
  showingRoom := 980
  documentComplaint _ := "<invalid TOML>"
  digitComplaint := usualDigitComplaint
  lostMessage _ := "--- Logging error ---\n".toList
  escapeChar_not_mem_documentComplaint _ := by decide
  escapeChar_not_mem_digitComplaint := escapeChar_not_mem_usualDigitComplaint

end Diagnostics
