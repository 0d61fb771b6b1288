import Diagnostics.Escape
import Diagnostics.Text.Numeral

/-!
# Colours

A colour is one of the eight basic ones or an entry of the palette of 256. Painting puts text
between the sequence that selects a colour and the reset; without a colour it changes nothing.
-/

namespace Diagnostics

inductive BasicColor where
  | black
  | red
  | green
  | yellow
  | blue
  | magenta
  | cyan
  | white
  deriving DecidableEq, Repr

namespace BasicColor

def name : BasicColor → String
  | black => "black"
  | red => "red"
  | green => "green"
  | yellow => "yellow"
  | blue => "blue"
  | magenta => "magenta"
  | cyan => "cyan"
  | white => "white"

def all : List BasicColor :=
  [black, red, green, yellow, blue, magenta, cyan, white]

def ofName? (name : String) : Option BasicColor :=
  all.find? fun color => color.name = name

/-- The place of the colour among the eight. -/
def index : BasicColor → Nat
  | black => 0
  | red => 1
  | green => 2
  | yellow => 3
  | blue => 4
  | magenta => 5
  | cyan => 6
  | white => 7

theorem ofName?_name (color : BasicColor) : ofName? color.name = some color := by
  cases color <;> decide

end BasicColor

inductive Color where
  | basic (color : BasicColor)
  | palette (index : Fin 256)
  deriving DecidableEq, Repr

namespace Color

/-- The palette entry nearest to `n`. -/
def clamped (n : Int) : Color :=
  .palette ⟨(max 0 (min 255 n)).toNat, by omega⟩

def selector (body : List Char) : List Char :=
  escapeChar :: '[' :: body ++ ['m']

def reset : List Char :=
  selector ['0']

def foreground : Color → List Char
  | .basic color => selector (Text.decimalNat (30 + color.index))
  | .palette index => selector ("38;5;".toList ++ Text.decimalNat index)

def background : Color → List Char
  | .basic color => selector (Text.decimalNat (40 + color.index))
  | .palette index => selector ("48;5;".toList ++ Text.decimalNat index)

end Color

def paint (color : Option Color) (text : List Char) : List Char :=
  match color with
  | none => text
  | some color => color.foreground ++ text ++ Color.reset

def paintBackground (color : Option Color) (text : List Char) : List Char :=
  match color with
  | none => text
  | some color => color.background ++ text ++ Color.reset

@[simp]
theorem paint_none (text : List Char) : paint none text = text := rfl

@[simp]
theorem paintBackground_none (text : List Char) : paintBackground none text = text := rfl

end Diagnostics
