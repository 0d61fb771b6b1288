import Diagnostics.Choice
import Diagnostics.Extent
import Diagnostics.Moment
import Diagnostics.Number.Shortest
import Diagnostics.Text.Quoted

/-!
# Option values

The values that may be given for an option before it is known whether they suit it, and the text
that stands for each of them in a message.
-/

namespace Diagnostics

inductive Value where
  | null
  | bool (value : Bool)
  | int (value : Int)
  | float (value : Binary64)
  | text (value : String)
  | moment (value : Moment)
  | choice (value : Choice)
  | list (items : List Value)
  | table (entries : List (Value × Value))
  deriving Repr

def boolText (value : Bool) : List Char :=
  (if value then "True" else "False").toList

namespace Value

mutual

/-- The text that stands for a value in a message. -/
def shown : Value → List Char
  | .null => "None".toList
  | .bool value => boolText value
  | .int value => Text.decimal value
  | .float value => value.toText
  | .text value => Text.quotedChars value.toList
  | .moment value => value.shown
  | .choice value => value.shown
  | .list items => '[' :: commaSeparated (shownItems items) ++ [']']
  | .table entries => '\x7b' :: commaSeparated (shownEntries entries) ++ ['\x7d']

def shownItems : List Value → List (List Char)
  | [] => []
  | value :: rest => shown value :: shownItems rest

def shownEntries : List (Value × Value) → List (List Char)
  | [] => []
  | (key, value) :: rest => (shown key ++ ':' :: ' ' :: shown value) :: shownEntries rest

end

mutual

/-- What keeps a value from being put into words, the first thing in the order in which its parts
are shown; `room` says how deep it may be nested. -/
def shownFault? [Platform] : (room : Nat) → Value → Option Fault
  | 0, _ => some .tooDeep
  | _ + 1, .int n => numberFault? n
  | room + 1, .list items => itemsFault? room items
  | room + 1, .table entries => entriesFault? room entries
  | _ + 1, _ => none

def itemsFault? [Platform] (room : Nat) : List Value → Option Fault
  | [] => none
  | value :: rest => shownFault? room value <|> itemsFault? room rest

def entriesFault? [Platform] (room : Nat) : List (Value × Value) → Option Fault
  | [] => none
  | (key, value) :: rest =>
      shownFault? room key <|> shownFault? room value <|> entriesFault? room rest

end

/-- The number that a value is as a key; truth values are zero and one. -/
def keyNumber? : Value → Option Int
  | .bool value => some (if value then 1 else 0)
  | .int value => some value
  | _ => none

/-- Whether two values are one key of a table; lists and tables are no keys. -/
def sameKey : Value → Value → Bool
  | .null, .null => true
  | .text a, .text b => a = b
  | a, b => a.keyNumber?.isSome && a.keyNumber? = b.keyNumber?

/-- Gives a key a value, in the place that the key has already if it has one. -/
def putEntry (key value : Value) : List (Value × Value) → List (Value × Value)
  | [] => [(key, value)]
  | (k, v) :: rest =>
      if k.sameKey key then (k, value) :: rest else (k, v) :: putEntry key value rest

/-- A table in which the last value given for a key counts. -/
def ofEntries (entries : List (Value × Value)) : Value :=
  .table (entries.foldl (fun table entry => putEntry entry.1 entry.2 table) [])

def toText (value : Value) : String :=
  String.ofList value.shown

end Value

end Diagnostics
