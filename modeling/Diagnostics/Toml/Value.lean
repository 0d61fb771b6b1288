import Diagnostics.Keyed
import Diagnostics.Value

/-!
# TOML values

The tree that a TOML document stands for. Tables keep the order in which their keys first appeared.
-/

namespace Diagnostics.Toml

inductive Value where
  | bool (value : Bool)
  | int (value : Int)
  | float (value : Binary64)
  | text (value : String)
  | moment (value : Moment)
  | array (items : List Value)
  | table (entries : List (String × Value))
  deriving Repr

abbrev Table := Keyed Value

namespace Value

mutual

/-- The value as it is given for an option. -/
def toOption : Value → Diagnostics.Value
  | .bool value => .bool value
  | .int value => .int value
  | .float value => .float value
  | .text value => .text value
  | .moment value => .moment value
  | .array items => .list (toOptions items)
  | .table entries => .table (toEntries entries)

def toOptions : List Value → List Diagnostics.Value
  | [] => []
  | value :: rest => toOption value :: toOptions rest

def toEntries : List (String × Value) → List (Diagnostics.Value × Diagnostics.Value)
  | [] => []
  | (key, value) :: rest => (.text key, toOption value) :: toEntries rest

end

end Value

/-- The entries of a table as they are given for options. -/
def Table.toSettings (table : Table) : Keyed Diagnostics.Value :=
  table.map fun entry => (entry.1, entry.2.toOption)

end Diagnostics.Toml
