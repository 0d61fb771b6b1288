import Diagnostics.Escape

/-!
# Platforms

What a run takes from the machine and the libraries below it: how much there is room for, and what
they say in words of their own. Nothing is assumed of a platform but what stands at the end: a text
that fits the memory has a machine word for its length, machine words can be written, and complaints
show escape characters in a printable form.
-/

namespace Diagnostics

/-- The least number that no machine word reaches. -/
def wordBound : Int := 9223372036854775808

class Platform where
  /-- The least length of a text that does not fit the memory. -/
  memoryBound : Int
  /-- A number with more digits than this is neither written nor read in decimal. -/
  digitLimit : Nat
  /-- What nested values may weigh together when a document is read. -/
  readingRoom : Nat
  /-- How deep a value may be nested that is put into words. -/
  showingRoom : Nat
  /-- What is said of bytes that are no TOML document. -/
  documentComplaint : List UInt8 → String
  /-- What is said of a number with too many digits, and of a numeral with so many of them. -/
  digitComplaint : Option Nat → String
  /-- What is logged of a label that was dropped for a reason if its span cannot be written. -/
  lostMessage : String → List Char
  memoryBound_le : memoryBound ≤ wordBound := by decide
  digitLimit_ge : 640 ≤ digitLimit := by decide
  escapeChar_not_mem_documentComplaint : ∀ bytes, escapeChar ∉ (documentComplaint bytes).toList
  escapeChar_not_mem_digitComplaint : ∀ count, escapeChar ∉ (digitComplaint count).toList

end Diagnostics
