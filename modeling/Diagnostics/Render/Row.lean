import Diagnostics.Color.Role
import Diagnostics.Render.Drawn

/-!
# Rows

A rendered report is a list of rows. Each row is data first; its text depends on the glyphs, on
whether colour is enabled and on the width of the line numbers.
-/

namespace Diagnostics

inductive Row where
  | header (label : String) (color : Option Color) (msg : String)
  | location (reference : String)
  | gutter
  | elision
  | source (number : Int) (text : List Char)
  | underline (label : DrawnLabel)
  | arrow (label : DrawnLabel) (msg : String)
  | border
  | note (text : String)
  | help (text : String)
  deriving DecidableEq, Repr

/-- What the text of all rows of one report has in common. -/
structure Pen where
  glyphs : Glyphs
  colored : Bool
  width : Nat

/-- Messages start at this column unless their arrow starts too far to the right. -/
def messageColumn : Int := 25

/-- `length` bars with the marker in place of one of them, as near to `index` as there is a bar. -/
def markedBar (length index : Int) (bar marker : α) : List α :=
  (List.replicate length.toNat bar).set (max 0 (min (length - 1) index)).toNat marker

/-- An underline of bars and a marker that are texts. -/
def underlineText [Platform] (length index : Int) (bar marker : List Char) :
    Except Fault (List Char) :=
  if length ≤ 0 then .ok []
  else
    match repetitionFault? length with
    | some fault => .error fault
    | none => .ok (markedBar length index bar marker).flatten

namespace Pen

variable (pen : Pen)

def margin (text : List Char) : List Char :=
  paint (Role.margin.colorIf pen.colored) text

def noteTitle (title : String) : List Char :=
  paint (Role.note.colorIf pen.colored) title.toList

def indent : List Char :=
  List.replicate (pen.width + 1) ' '

def gutter : List Char :=
  pen.indent ++ pen.margin [pen.glyphs.verticalBar]

def underlineGlyphs (label : DrawnLabel) : List Char :=
  markedBar (label.stopColumn - label.startColumn) (label.attachColumn - label.startColumn)
    pen.glyphs.underline pen.glyphs.middleUnderbar

def arrowGlyphs (label : DrawnLabel) : List Char :=
  pen.glyphs.leftBottom ::
    List.replicate (max 1 (messageColumn - label.attachColumn - 1)).toNat pen.glyphs.horizontalBar

def rowText : Row → List Char
  | .header label color msg => paint color label.toList ++ ':' :: ' ' :: msg.toList
  | .location reference =>
      pen.indent ++ pen.margin [pen.glyphs.leftTop, pen.glyphs.horizontalBar, '['] ++
        reference.toList ++ pen.margin [']']
  | .gutter => pen.gutter
  | .elision => paint (Role.skippedMargin.colorIf pen.colored) "...".toList
  | .source number text =>
      pen.margin (Text.padLeft pen.width (Text.decimal number) ++ [' ', pen.glyphs.verticalBar]) ++
        ' ' :: text
  | .underline label =>
      pen.gutter ++ ' ' :: List.replicate label.startColumn.toNat ' ' ++
        paint label.color (pen.underlineGlyphs label)
  | .arrow label msg =>
      pen.gutter ++ ' ' :: List.replicate label.attachColumn.toNat ' ' ++
        paint label.color (pen.arrowGlyphs label) ++ ' ' :: msg.toList
  | .border =>
      pen.margin
        (List.replicate (pen.width + 1) pen.glyphs.horizontalBar ++ [pen.glyphs.rightBottom])
  | .note text => pen.noteTitle "note" ++ ':' :: ' ' :: text.toList
  | .help text => pen.noteTitle "help" ++ ':' :: ' ' :: text.toList

end Pen

end Diagnostics
