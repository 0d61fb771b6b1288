import Diagnostics.Source.Lines

/-!
# Sources

A source is a text that can be asked for positions. Offsets count characters or UTF-8 bytes from
the start of the text, columns from the start of a line; the position after the last character is a
position of the last line. The display offset shifts the line numbers that are shown and nothing
else.
-/

namespace Diagnostics

/-- A text with the number that is added to those of its lines. A text is made of characters that
UTF-8 can encode; a surrogate without its other half has no place in one. -/
structure Source where
  text : List Char
  displayOffset : Int := 0
  deriving DecidableEq, Repr

/-- An offset found in a line table. -/
structure Position where
  line : Line
  index : Nat
  column : Int
  deriving DecidableEq, Repr

namespace Source

def ofString (text : String) : Source :=
  { text := text.toList }

def pieces (source : Source) : List (List Char) :=
  splitLines source.text

def lines (source : Source) : List Line :=
  lineTable 0 0 source.pieces

def charTotal (source : Source) : Nat :=
  source.text.length

def byteTotal (source : Source) : Nat :=
  Utf8.byteLength source.text

def total (source : Source) : OffsetUnit → Int
  | .char => source.charTotal
  | .byte => source.byteTotal

/-- The index of the last line that starts at or before `offset`, if that is not negative. -/
def indexAt (source : Source) (offset : Int) (unit : OffsetUnit) : Nat :=
  source.lines.countP (fun line => line.start unit ≤ offset) - 1

def lineAt? (source : Source) (offset : Int) (unit : OffsetUnit) : Option Position :=
  if offset < 0 ∨ source.total unit < offset then none
  else
    let index := source.indexAt offset unit
    source.lines[index]?.map fun line => ⟨line, index, offset - line.start unit⟩

/-- The half-open range of line indices that `[start, stop)` touches. The last offset of the range
decides its end, so that a range that stops at a line boundary does not touch the next line. -/
def lineRange (source : Source) (start stop : Int) (unit : OffsetUnit) : Nat × Nat :=
  let first := source.lineAt? start unit
  let last := source.lineAt? (max start (stop - 1)) unit
  (first.elim 0 Position.index, last.elim source.lines.length (·.index + 1))

def line? (source : Source) (index : Int) : Option Line :=
  if index < 0 then none else source.lines[index.toNat]?

/-- The last line that starts at or before character `offset`. -/
def lineUpTo? (source : Source) (offset : Int) : Option Line :=
  source.line? (source.lines.countP (fun line => line.offset ≤ offset) - 1)

/-- The characters that `line` spans, if it is the line that is found from its offset. -/
def lineText? (source : Source) (line : Line) : Option (List Char) :=
  if source.lineUpTo? line.offset = some line then
    some ((source.text.drop line.offset.toNat).take line.charLength.toNat)
  else none

/-- The number of characters before the first one that starts at or after byte `column`. -/
def charsBefore (column : Int) : List Char → Nat
  | [] => 0
  | c :: rest => if column ≤ 0 then 0 else charsBefore (column - c.utf8Size) rest + 1

/-- The character column of a column of `line`; a byte inside a character counts as the next
character. -/
def charColumn (source : Source) (line : Line) (column : Int) : OffsetUnit → Int
  | .char => max 0 (min column line.charLength)
  | .byte => charsBefore column ((source.lineText? line).getD [])

/-- The number shown for the line at `index`. -/
def lineNumber (source : Source) (index : Int) : Int :=
  index + 1 + source.displayOffset

def summary (source : Source) : String :=
  "Source(lines=" ++ toString source.lines.length ++ ", len=" ++ toString source.charTotal ++ ")"

theorem pieces_ne_nil (source : Source) : source.pieces ≠ [] :=
  splitLines_ne_nil source.text

@[simp]
theorem length_lines (source : Source) : source.lines.length = source.pieces.length :=
  length_lineTable 0 0 source.pieces

end Source

end Diagnostics
