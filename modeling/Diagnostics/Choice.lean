import Diagnostics.Attach
import Diagnostics.Escape
import Diagnostics.Glyphs
import Diagnostics.Source.Lines

/-!
# Choices

The options that take one of a few named values, with the names in the order in which messages list
them.
-/

namespace Diagnostics

def Attach.names : List (String × Attach) :=
  [("start", .start), ("middle", .middle), ("end", .stop)]

def CharSet.names : List (String × CharSet) :=
  [("unicode", .unicode), ("ascii", .ascii)]

def OffsetUnit.names : List (String × OffsetUnit) :=
  [("byte", .byte), ("char", .char)]

def AnsiMode.names : List (String × AnsiMode) :=
  [("off", .off), ("on", .on)]

/-- The name of a member in a table of names. -/
def nameIn [DecidableEq α] (names : List (String × α)) (member : α) : String :=
  ((names.find? fun entry => entry.2 = member).map Prod.fst).getD ""

def Attach.name (attach : Attach) : String := nameIn names attach

def CharSet.name (charSet : CharSet) : String := nameIn names charSet

def OffsetUnit.name (unit : OffsetUnit) : String := nameIn names unit

def AnsiMode.name (mode : AnsiMode) : String := nameIn names mode

/-- A member of one of the sets of named values. -/
inductive Choice where
  | attach (member : Attach)
  | charSet (member : CharSet)
  | offsetUnit (member : OffsetUnit)
  | ansiMode (member : AnsiMode)
  deriving DecidableEq, Repr

namespace Choice

def setName : Choice → String
  | .attach _ => "LabelAttach"
  | .charSet _ => "CharSet"
  | .offsetUnit _ => "IndexType"
  | .ansiMode _ => "AnsiMode"

def name : Choice → String
  | .attach member => member.name
  | .charSet member => member.name
  | .offsetUnit member => member.name
  | .ansiMode member => member.name

/-- The set, the name in capitals and the name itself. -/
def shown (choice : Choice) : List Char :=
  ("<" ++ choice.setName ++ "." ++ choice.name.toUpper ++ ": '" ++ choice.name ++ "'>").toList

end Choice

end Diagnostics
