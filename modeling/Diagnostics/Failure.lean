import Diagnostics.Platform

/-!
# Failures

Most failures are foreseen and have a message of their own. A fault is not: the value or the bytes
at hand are of a kind that no rule speaks of, and whoever asked gets no message.
-/

namespace Diagnostics

inductive Fault where
  /-- The value is of a type that no colour is written in. -/
  | notAColor
  /-- The value is of a type that no number is written in. -/
  | notNumeric
  /-- The number has no integer part. -/
  | notFinite
  /-- The value has no elements to go through. -/
  | notIterable
  /-- The bytes of a document are not UTF-8. -/
  | undecodable
  /-- The values of a document are nested too deep to be read or shown. -/
  | tooDeep
  /-- A number has too many digits to be written. -/
  | unprintable
  /-- A numeral has so many digits that it is not read. -/
  | overlong (count : Nat)
  /-- Something is given twice under one name. -/
  | givenTwice
  /-- There are no tab stops to go to. -/
  | noTabStops
  /-- A length does not fit a machine word. -/
  | tooLong
  /-- A length fits a machine word but not the memory. -/
  | outOfMemory
  /-- A path, or a name in it, is longer than the file system allows. -/
  | nameTooLong
  /-- A path holds the null character, which ends the paths of the file system. -/
  | nullInPath
  deriving DecidableEq, Repr

/-- What is said about the faults that come with words. -/
def Fault.message? [Platform] : Fault → Option String
  | unprintable => some (Platform.digitComplaint none)
  | overlong count => some (Platform.digitComplaint (some count))
  | nullInPath => some "embedded null byte"
  | _ => none

/-- A foreseen failure with its cause, or a fault. -/
inductive Failure (ε : Type) where
  | reported (cause : ε)
  | abrupt (fault : Fault)
  deriving DecidableEq, Repr

namespace Failure

def map (f : ε → δ) : Failure ε → Failure δ
  | reported cause => reported (f cause)
  | abrupt fault => abrupt fault

/-- A failure with a message, unless a fault keeps the message from being put into words. -/
def worded (fault? : Option Fault) (cause : ε) : Failure ε :=
  match fault? with
  | some fault => abrupt fault
  | none => reported cause

end Failure

end Diagnostics
