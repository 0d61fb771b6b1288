import Diagnostics.Proofs.Except
import Diagnostics.Toml.Document

/-!
# Comparing documents

Documents can be compared: values nested in arrays and tables are compared one after the
other. What reading the bytes of a file yields can thereby be computed. Bytes that are no
text are no document.
-/

namespace Diagnostics.Toml

namespace Value

mutual

def same : Value → Value → Bool
  | .bool a, .bool b => a = b
  | .int a, .int b => a = b
  | .float a, .float b => a = b
  | .text a, .text b => a = b
  | .moment a, .moment b => a = b
  | .array a, .array b => sameItems a b
  | .table a, .table b => sameEntries a b
  | _, _ => false

def sameItems : List Value → List Value → Bool
  | [], [] => true
  | a :: left, b :: right => same a b && sameItems left right
  | _, _ => false

def sameEntries : List (String × Value) → List (String × Value) → Bool
  | [], [] => true
  | (key, a) :: left, (other, b) :: right => key = other && same a b && sameEntries left right
  | _, _ => false

end

mutual

theorem eq_of_same : ∀ {left right : Value}, same left right → left = right
  | .bool a, right, hsame => by
      cases right with
      | bool b => exact congrArg bool (of_decide_eq_true hsame)
      | _ => cases hsame
  | .int a, right, hsame => by
      cases right with
      | int b => exact congrArg int (of_decide_eq_true hsame)
      | _ => cases hsame
  | .float a, right, hsame => by
      cases right with
      | float b => exact congrArg float (of_decide_eq_true hsame)
      | _ => cases hsame
  | .text a, right, hsame => by
      cases right with
      | text b => exact congrArg text (of_decide_eq_true hsame)
      | _ => cases hsame
  | .moment a, right, hsame => by
      cases right with
      | moment b => exact congrArg moment (of_decide_eq_true hsame)
      | _ => cases hsame
  | .array a, right, hsame => by
      cases right with
      | array b => exact congrArg array (eq_of_sameItems hsame)
      | _ => cases hsame
  | .table a, right, hsame => by
      cases right with
      | table b => exact congrArg table (eq_of_sameEntries hsame)
      | _ => cases hsame

theorem eq_of_sameItems : ∀ {left right : List Value}, sameItems left right → left = right
  | [], [], _ => rfl
  | [], _ :: _, hsame => by cases hsame
  | _ :: _, [], hsame => by cases hsame
  | a :: left, b :: right, hsame => by
      rw [sameItems, Bool.and_eq_true] at hsame
      rw [eq_of_same hsame.1, eq_of_sameItems hsame.2]

theorem eq_of_sameEntries :
    ∀ {left right : List (String × Value)}, sameEntries left right → left = right
  | [], [], _ => rfl
  | [], _ :: _, hsame => by cases hsame
  | _ :: _, [], hsame => by cases hsame
  | (key, a) :: left, (other, b) :: right, hsame => by
      rw [sameEntries, Bool.and_eq_true, Bool.and_eq_true, decide_eq_true_eq] at hsame
      rw [hsame.1.1, eq_of_same hsame.1.2, eq_of_sameEntries hsame.2]

end

end Value

variable [Platform]

theorem read_eq_encoding_iff {bytes : List UInt8} {cause : Utf8.DecodeError} :
    read bytes = .error (.encoding cause) ↔ Utf8.decode bytes = .error cause := by
  rw [read]
  cases Utf8.decode bytes with
  | error other => simp
  | ok text => simp [mapError_eq_error_iff]

/-- The bytes are those of the document. -/
def reads (bytes : List UInt8) (document : Table) : Bool :=
  match read bytes with
  | .ok found => Value.sameEntries found document
  | .error _ => false

theorem read_of_reads {bytes : List UInt8} {document : Table} (hreads : reads bytes document) :
    read bytes = .ok document := by
  rw [reads] at hreads
  cases hread : read bytes with
  | error cause =>
      rw [hread] at hreads
      cases hreads
  | ok found =>
      rw [hread] at hreads
      rw [Value.eq_of_sameEntries hreads]

end Diagnostics.Toml
