import Diagnostics.Choice
import Diagnostics.CommandLine.Grammar
import Diagnostics.FileTree
import Diagnostics.Text.Numeral

/-!
# Forms of commands

A form says which options a command has and what the values of its options and operands may be. The
values given for a command are judged one after the other: the options in the order in which they
first appear, each by the last value given for it, then the operands. The first value that is not
fine decides about the whole command.
-/

namespace Diagnostics.CommandLine

def readInteger? [Platform] (text : String) : Option Int :=
  (Text.readInteger text.toList).toOption

def readPositive? [Platform] (text : String) : Option Int :=
  (readInteger? text).filter fun n => decide (1 ≤ n)

/-- What a value of an option or an operand has to be. -/
inductive ValueKind where
  | file
  | oneOf (names : List String)
  | integer
  | positive
  deriving DecidableEq, Repr

inductive Verdict where
  | fine
  | refused
  | broken (fault : Fault)
  deriving DecidableEq, Repr

namespace Verdict

def ofBool (isFine : Bool) : Verdict :=
  if isFine then fine else refused

/-- The first verdict that is not fine. -/
def all : List Verdict → Verdict
  | [] => fine
  | fine :: rest => all rest
  | verdict :: _ => verdict

theorem all_eq_fine_iff (verdicts : List Verdict) :
    all verdicts = fine ↔ ∀ verdict ∈ verdicts, verdict = fine := by
  induction verdicts with
  | nil => simp [all]
  | cons verdict rest ih => cases verdict <;> simp [all, ih]

end Verdict

variable [Platform]

def ValueKind.judge (tree : FileTree) (text : String) : ValueKind → Verdict
  | .file =>
      if hasNull text then .broken .nullInPath else .ofBool (tree.bytesAt? text).isSome
  | .oneOf names => .ofBool (names.contains text)
  | .integer => .ofBool (readInteger? text).isSome
  | .positive => .ofBool (readPositive? text).isSome

structure Form where
  flags : List String
  /-- Short flags by their letter. -/
  letters : List (Char × String)
  options : List (String × ValueKind)
  operandKinds : List ValueKind

namespace Form

variable (form : Form) (tree : FileTree)

/-- Every command can be asked for help, and takes options after operands. -/
def grammar : Grammar where
  flags := "--help" :: form.flags
  valued := form.options.map Prod.fst
  letters := form.letters
  mixed := true

def judgeOption (items : List Item) (name : String) : Verdict :=
  match Keyed.find? form.options name, valueOf? items name with
  | some kind, some text => kind.judge tree text
  | _, _ => .fine

/-- An operand that is missing is refused, and so is one too many. -/
def judgeOperands : List ValueKind → List String → List Verdict
  | [], [] => []
  | [], _ :: _ => [.refused]
  | _ :: _, [] => [.refused]
  | kind :: kinds, text :: texts => kind.judge tree text :: judgeOperands kinds texts

def judge (items : List Item) : Verdict :=
  .all ((givenOptions items).map (form.judgeOption tree items) ++
    judgeOperands tree form.operandKinds (operands items))

end Form

end Diagnostics.CommandLine
