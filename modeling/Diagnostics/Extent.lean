import Diagnostics.Failure
import Diagnostics.Text.Numeral

/-!
# Lengths and numbers within limits

A length is a signed machine word of 64 bits, and what is to have that length must fit the memory. A
negative length that is a machine word stands for nothing at all. A number that is put into words
must not have too many digits.
-/

namespace Diagnostics

def isWord (n : Int) : Bool :=
  -wordBound ≤ n && n < wordBound

variable [Platform]

/-- What is wrong with repeating something `count` times. -/
def repetitionFault? (count : Int) : Option Fault :=
  if !isWord count then some .tooLong
  else if Platform.memoryBound ≤ count then some .outOfMemory
  else none

/-- What keeps a number from being put into words. -/
def numberFault? (n : Int) : Option Fault :=
  if Text.isOverlong n then some .unprintable else none

theorem repetitionFault?_eq_none_iff (count : Int) :
    repetitionFault? count = none ↔ -wordBound ≤ count ∧ count < Platform.memoryBound := by
  have hmemory := Platform.memoryBound_le
  unfold repetitionFault? isWord
  by_cases hlow : -wordBound ≤ count <;> by_cases hhigh : count < wordBound <;>
    by_cases hfits : Platform.memoryBound ≤ count <;> simp [hlow, hhigh, hfits] <;> omega

end Diagnostics
