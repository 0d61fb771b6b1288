import Diagnostics.Extent
import Diagnostics.Text.Blank

/-!
# Expanded lines

A line is shown with every tab replaced by spaces up to the next tab stop and every other blank by
one space. The column map gives, for each character and for the end, the display column at which it
starts. Tab stops are the multiples of the tab width, below zero as well as above; a negative tab
width leads to the stop before, and a tab width of zero has no stops.
-/

namespace Diagnostics

/-- The distance from a column to the next tab stop. -/
def tabStride (tabWidth column : Int) : Int :=
  (column.fdiv tabWidth + 1) * tabWidth - column

/-- The glyph of a character at a column, and how many columns it fills. -/
def cell (tabWidth column : Int) (c : Char) : Char × Int :=
  if c = '\t' then (' ', tabStride tabWidth column)
  else if Text.isBlank c then (' ', 1)
  else (c, 1)

/-- The glyph of a text that stands for one character, and how many columns it fills. A text that
is all blank is one space. -/
def textCell (tabWidth column : Int) (text : List Char) : Except Fault (List Char × Int) :=
  if text = ['\t'] then
    if tabWidth = 0 then .error .noTabStops else .ok ([' '], tabStride tabWidth column)
  else if text ≠ [] && text.all Text.isBlank then .ok ([' '], 1)
  else .ok (text, 1)

/-- Expands a text that starts at `column`. -/
def expandFrom (tabWidth column : Int) : List Char → List Char
  | [] => []
  | c :: rest =>
      let glyph := cell tabWidth column c
      List.replicate glyph.2.toNat glyph.1 ++ expandFrom tabWidth (column + glyph.2) rest

/-- The column map of a text that starts at `column`. -/
def columnsFrom (tabWidth column : Int) : List Char → List Int
  | [] => [column]
  | c :: rest => column :: columnsFrom tabWidth (column + (cell tabWidth column c).2) rest

def expand (tabWidth : Int) (text : List Char) : List Char :=
  expandFrom tabWidth 0 text

def columns (tabWidth : Int) (text : List Char) : List Int :=
  columnsFrom tabWidth 0 text

@[simp]
theorem length_columnsFrom (tabWidth column : Int) (text : List Char) :
    (columnsFrom tabWidth column text).length = text.length + 1 := by
  induction text generalizing column with
  | nil => rfl
  | cons c rest ih => simp [columnsFrom, ih]

theorem tabStride_pos {tabWidth : Int} (column : Int) (hpos : 0 < tabWidth) :
    0 < tabStride tabWidth column := by
  have hlt := Int.lt_fdiv_add_one_mul_self column hpos
  unfold tabStride
  omega

variable [Platform]

/-- What keeps a character from being expanded. -/
def cellFault? (tabWidth column : Int) (c : Char) : Option Fault :=
  if c = '\t' then
    if tabWidth = 0 then some .noTabStops else repetitionFault? (tabStride tabWidth column)
  else none

/-- What keeps a text that starts at `column` from being expanded. -/
def expansionFaultFrom? (tabWidth column : Int) : List Char → Option Fault
  | [] => none
  | c :: rest =>
      match cellFault? tabWidth column c with
      | some fault => some fault
      | none => expansionFaultFrom? tabWidth (column + (cell tabWidth column c).2) rest

def expansionFault? (tabWidth : Int) (text : List Char) : Option Fault :=
  expansionFaultFrom? tabWidth 0 text

/-- The expanded text with its column map. -/
def expandLine (tabWidth : Int) (text : List Char) : Except Fault (List Char × List Int) :=
  match expansionFault? tabWidth text with
  | some fault => .error fault
  | none => .ok (expand tabWidth text, columns tabWidth text)

end Diagnostics
