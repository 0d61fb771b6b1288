import Diagnostics.Extent
import Diagnostics.Toml.Scalar
import Diagnostics.Toml.Table

/-!
# Values in TOML documents

Values of all kinds; arrays may spread over lines and end with a comma, inline tables may not. Every
step consumes a character, so the length of the rest of the document is enough fuel. Arrays and
inline tables may be nested as long as there is room for their weights, and a decimal integer must
not have too many digits.
-/

namespace Diagnostics.Toml

inductive Refusal where
  | invalid
  | tooDeep
  | overlong (count : Nat)
  deriving DecidableEq, Repr

abbrev Reading := Except Refusal

def required : Option α → Reading α
  | some value => .ok value
  | none => .error .invalid

def arrayWeight : Nat := 2

def inlineTableWeight : Nat := 3

/-- What is left of the room for nesting inside of something with this weight. -/
def enter (room weight : Nat) : Reading Nat :=
  if room < weight then .error .tooDeep else .ok (room - weight)

/-- Whether a number is written in another base than ten. -/
def isBased : List Char → Bool
  | '0' :: c :: _ => c = 'x' || c = 'b' || c = 'o'
  | _ => false

variable [Platform]

/-- A decimal integer starts with no zero but its only digit, so it is written in as many digits as
its value has. -/
def checkDigits (cs : List Char) : Value → Reading Unit
  | .int n =>
      if Text.isOverlong n && !isBased cs then
        .error (.overlong (Text.decimalNat n.natAbs).length)
      else .ok ()
  | _ => .ok ()

def readScalar (cs : List Char) : Reading (Value × List Char) := do
  let (value, after) ← required (readScalar? cs)
  checkDigits cs value
  pure (value, after)

mutual

/-- A value, with the room that is left for nesting. -/
def readValueFor : (fuel : Nat) → (room : Nat) → List Char → Reading (Value × List Char)
  | 0, _, _ => .error .invalid
  | _ + 1, _, [] => .error .invalid
  | fuel + 1, room, c :: rest =>
      if c = '\x22' ∨ c = '\x27' then do
        let (text, after) ← required (readText? (c :: rest))
        pure (.text (String.ofList text), after)
      else if c = '[' then do
        let inner ← enter room arrayWeight
        let (items, after) ← readItemsFor fuel inner (← required (skipLayout? rest))
        pure (.array items, after)
      else if c = '\x7b' then do
        let inner ← enter room inlineTableWeight
        match skipSpaces rest with
        | '\x7d' :: after => pure (.table [], after)
        | inside =>
            let (entries, after) ← readEntriesFor fuel inner [] {} inside
            pure (.table entries, after)
      else
        match c :: rest with
        | 't' :: 'r' :: 'u' :: 'e' :: after => pure (.bool true, after)
        | 'f' :: 'a' :: 'l' :: 's' :: 'e' :: after => pure (.bool false, after)
        | cs => readScalar cs

/-- The items of an array up to its end. -/
def readItemsFor : (fuel : Nat) → (room : Nat) → List Char → Reading (List Value × List Char)
  | 0, _, _ => .error .invalid
  | _ + 1, _, ']' :: after => .ok ([], after)
  | fuel + 1, room, cs => do
      let (item, afterItem) ← readValueFor fuel room cs
      match ← required (skipLayout? afterItem) with
      | ']' :: after => pure ([item], after)
      | ',' :: more =>
          let (items, after) ← readItemsFor fuel room (← required (skipLayout? more))
          pure (item :: items, after)
      | _ => .error .invalid

/-- The entries of an inline table, at least one, up to its end. -/
def readEntriesFor :
    (fuel : Nat) → (room : Nat) → Table → Marks → List Char → Reading (Table × List Char)
  | 0, _, _, _, _ => .error .invalid
  | fuel + 1, room, table, marks, cs => do
      let (path, afterKey) ← required (readKey? cs)
      let afterEquals ← required (expect? '=' afterKey)
      let (value, afterValue) ← readValueFor fuel room (skipSpaces afterEquals)
      if marks.isFrozen path then .error .invalid
      else
        let table ← required (insertAt? false path.dropLast (path.getLastD "") value table)
        match skipSpaces afterValue with
        | '\x7d' :: after => pure (table, after)
        | ',' :: more =>
            readEntriesFor fuel room table (marks.freezeIf path value) (skipSpaces more)
        | _ => .error .invalid

end

def readValue (cs : List Char) : Reading (Value × List Char) :=
  readValueFor (2 * cs.length + 2) Platform.readingRoom cs

end Diagnostics.Toml
