import Diagnostics.Color.Basic
import Diagnostics.Failure
import Diagnostics.Text.LowerCase
import Diagnostics.Value

/-!
# Reading colours

A colour is given by an integer, by a text of digits, or by the name of a basic colour in any
letter case. Integers outside the palette are moved to its nearest end.
-/

namespace Diagnostics

/-- Why a value of a suitable type is not a colour. -/
inductive InvalidColor where
  | boolean (value : Bool)
  | unknownName (name : String)
  | numeral (text : String)
  /-- A numeral of so many digits. -/
  | overlong (count : Nat)
  | notANumber
  deriving DecidableEq, Repr

def InvalidColor.message [Platform] : InvalidColor → String
  | .boolean value => "not a colour: " ++ String.ofList (boolText value)
  | .unknownName name => "unknown colour name: " ++ Text.quoted name
  | .numeral text =>
      "invalid literal for int() with base 10: " ++
        String.ofList ((Text.quotedChars text.toList).take 200)
  | .overlong count => Platform.digitComplaint (some count)
  | .notANumber => "cannot convert float NaN to integer"

abbrev ColorError := Failure InvalidColor

namespace Color

def ofName (name : String) : Except ColorError Color :=
  let lowered := Text.lower name
  match BasicColor.ofName? lowered with
  | some color => .ok (.basic color)
  | none => .error (.reported (.unknownName lowered))

variable [Platform]

def ofNumeral (text : String) : Except ColorError Color :=
  match Text.readInteger text.toList with
  | .ok n => .ok (clamped n)
  | .error .malformed => .error (.reported (.numeral text))
  | .error (.overlong count) => .error (.reported (.overlong count))

/-- A colour by name only. -/
def readBasic : Value → Except ColorError Color
  | .text name => ofName name
  | _ => .error (.abrupt .notAColor)

/-- A palette entry from anything that has an integer value; fractions are cut off. -/
def readPalette : Value → Except ColorError Color
  | .bool value => .ok (clamped (if value then 1 else 0))
  | .int n => .ok (clamped n)
  | .text text => ofNumeral text
  | .float value =>
      match value.truncate? with
      | some n => .ok (clamped n)
      | none => .error (if value = .nan then .reported .notANumber else .abrupt .notFinite)
  | _ => .error (.abrupt .notNumeric)

def read : Value → Except ColorError Color
  | .bool value => .error (.reported (.boolean value))
  | .int n => .ok (clamped n)
  | .text text =>
      if text ≠ "" && text.toList.all Text.isDigit then ofNumeral text else ofName text
  | _ => .error (.abrupt .notAColor)

/-- An absent value is no colour. -/
def readOptional : Value → Except ColorError (Option Color)
  | .null => .ok none
  | value => (read value).map some

end Color

end Diagnostics
