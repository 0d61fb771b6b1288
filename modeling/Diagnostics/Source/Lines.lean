import Diagnostics.Text.Utf8

/-!
# Lines of a text

A text is cut after every line terminator; carriage return and line feed together are one. Each
piece keeps its terminator, so the pieces put together give the text back. The last piece has none
and may be empty.
-/

namespace Diagnostics

inductive OffsetUnit where
  | byte
  | char
  deriving DecidableEq, Repr

def isTerminator (c : Char) : Bool :=
  c = '\n' || c = '\r' || c = '\x0b' || c = '\x0c' || c = '\u0085' || c = '\u2028' || c = '\u2029'

/-- Puts `c` in front of the first line. -/
def consFirst (c : Char) : List (List Char) → List (List Char)
  | [] => [[c]]
  | line :: rest => (c :: line) :: rest

def splitLines : List Char → List (List Char)
  | [] => [[]]
  | '\r' :: '\n' :: rest => ['\r', '\n'] :: splitLines rest
  | c :: rest => if isTerminator c then [c] :: splitLines rest else consFirst c (splitLines rest)

/-- One line of a source with its terminator: where it starts and how long it is, in characters
and in bytes. -/
structure Line where
  offset : Int
  charLength : Int
  byteOffset : Int
  byteLength : Int
  deriving DecidableEq, Repr

namespace Line

def start (line : Line) : OffsetUnit → Int
  | .char => line.offset
  | .byte => line.byteOffset

def length (line : Line) : OffsetUnit → Int
  | .char => line.charLength
  | .byte => line.byteLength

end Line

/-- The records of consecutive pieces, the first of which starts at the given offsets. -/
def lineTable (offset byteOffset : Nat) : List (List Char) → List Line
  | [] => []
  | piece :: rest =>
      ⟨offset, piece.length, byteOffset, Utf8.byteLength piece⟩ ::
        lineTable (offset + piece.length) (byteOffset + Utf8.byteLength piece) rest

theorem consFirst_ne_nil (c : Char) (lines : List (List Char)) : consFirst c lines ≠ [] := by
  cases lines <;> simp [consFirst]

@[simp]
theorem flatten_consFirst (c : Char) (lines : List (List Char)) :
    (consFirst c lines).flatten = c :: lines.flatten := by
  cases lines <;> simp [consFirst]

theorem splitLines_ne_nil (text : List Char) : splitLines text ≠ [] := by
  fun_cases splitLines text with
  | case1 => simp
  | case2 rest => simp
  | case3 c rest _ h => simp
  | case4 c rest _ h => exact consFirst_ne_nil _ _

@[simp]
theorem flatten_splitLines (text : List Char) : (splitLines text).flatten = text := by
  fun_induction splitLines text with
  | case1 => rfl
  | case2 rest ih => simp [ih]
  | case3 c rest _ h ih => simp [ih]
  | case4 c rest _ h ih => simp [ih]

@[simp]
theorem length_lineTable (offset byteOffset : Nat) (pieces : List (List Char)) :
    (lineTable offset byteOffset pieces).length = pieces.length := by
  induction pieces generalizing offset byteOffset with
  | nil => rfl
  | cons piece rest ih => simp [lineTable, ih]

end Diagnostics
