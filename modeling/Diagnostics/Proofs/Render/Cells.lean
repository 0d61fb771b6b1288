import Diagnostics.Proofs.Render.Given
import Diagnostics.Proofs.Render.Outcome

/-!
# Layout without glyphs

A rendering is laid out in cells before it is drawn. A cell either holds a character, which comes
from a text, a number, a blank or a colour, or it has a place for a glyph. Which glyphs are drawn
there decides neither where the cells are nor where lines end, and removing escape sequences from
the drawn text does not touch them.
-/

namespace Diagnostics

open EscapeForm

/-- The glyphs that rows are drawn with, by what they are for. -/
inductive GlyphRole where
  | leftTop
  | horizontalBar
  | verticalBar
  | underline
  | middleUnderbar
  | leftBottom
  | rightBottom
  deriving DecidableEq, Repr

inductive Cell where
  | char (c : Char)
  | glyph (role : GlyphRole)
  deriving DecidableEq, Repr

namespace Glyphs

variable (glyphs : Glyphs)

def glyph : GlyphRole → Char
  | .leftTop => glyphs.leftTop
  | .horizontalBar => glyphs.horizontalBar
  | .verticalBar => glyphs.verticalBar
  | .underline => glyphs.underline
  | .middleUnderbar => glyphs.middleUnderbar
  | .leftBottom => glyphs.leftBottom
  | .rightBottom => glyphs.rightBottom

/-- The character that a cell is drawn as. -/
def draw : Cell → Char
  | .char c => c
  | .glyph role => glyphs.glyph role

def fill (cells : List Cell) : List Char :=
  cells.map glyphs.draw

theorem glyph_mem_drawn (role : GlyphRole) : glyphs.glyph role ∈ glyphs.drawn := by
  cases role <;> simp [glyph, drawn]

end Glyphs

def charCells (text : List Char) : List Cell :=
  text.map .char

/-- Cells between the sequence that selects a colour and the reset. -/
def paintCells (color : Option Color) (cells : List Cell) : List Cell :=
  match color with
  | none => cells
  | some color => charCells color.foreground ++ cells ++ charCells Color.reset

def joinCells (rows : List (List Cell)) : List Cell :=
  (rows.intersperse [.char '\n']).flatten

namespace DrawnLabel

variable (label : DrawnLabel)

def underlineCells : List Cell :=
  markedBar (label.stopColumn - label.startColumn) (label.attachColumn - label.startColumn)
    (.glyph .underline) (.glyph .middleUnderbar)

def arrowCells : List Cell :=
  .glyph .leftBottom ::
    List.replicate (max 1 (messageColumn - label.attachColumn - 1)).toNat (.glyph .horizontalBar)

end DrawnLabel

namespace Pen

variable (pen : Pen)

def withGlyphs (glyphs : Glyphs) : Pen :=
  { pen with glyphs }

def marginCells (cells : List Cell) : List Cell :=
  paintCells (Role.margin.colorIf pen.colored) cells

def gutterCells : List Cell :=
  charCells pen.indent ++ pen.marginCells [.glyph .verticalBar]

/-- The cells of a row. -/
def cells : Row → List Cell
  | .location reference =>
      charCells pen.indent ++
        pen.marginCells [.glyph .leftTop, .glyph .horizontalBar, .char '['] ++
        charCells reference.toList ++ pen.marginCells [.char ']']
  | .gutter => pen.gutterCells
  | .source number text =>
      pen.marginCells
          (charCells (Text.padLeft pen.width (Text.decimal number) ++ [' ']) ++
            [.glyph .verticalBar]) ++
        charCells (' ' :: text)
  | .underline label =>
      pen.gutterCells ++ charCells (' ' :: List.replicate label.startColumn.toNat ' ') ++
        paintCells label.color label.underlineCells
  | .arrow label msg =>
      pen.gutterCells ++ charCells (' ' :: List.replicate label.attachColumn.toNat ' ') ++
        paintCells label.color label.arrowCells ++ charCells (' ' :: msg.toList)
  | .border =>
      pen.marginCells
        (List.replicate (pen.width + 1) (.glyph .horizontalBar) ++ [.glyph .rightBottom])
  -- The other rows have no glyphs.
  | row => charCells (pen.rowText row)

end Pen

namespace Report

def withCharSet (report : Report) (charSet : CharSet) : Report :=
  { report with config := { report.config with charSet } }

/-- The cells of a rendering. With escape sequences off they are those of the rows without colour
and with the sequences removed from each of their texts. -/
def cells (report : Report) (source : Source) (elideAfter : Int) : List Cell :=
  let pen := penOf report source
  match report.config.ansiMode with
  | .on => joinCells ((rows report source elideAfter).map pen.cells)
  | .off =>
      joinCells ((rows report source elideAfter).map fun row =>
        pen.plain.cells (row.decolored.mapTexts rendition.strip))

end Report

/-! ### Drawing cells -/

namespace Glyphs

variable (glyphs : Glyphs)

@[simp]
theorem fill_nil : glyphs.fill [] = [] := rfl

@[simp]
theorem fill_append (front back : List Cell) :
    glyphs.fill (front ++ back) = glyphs.fill front ++ glyphs.fill back :=
  List.map_append

@[simp]
theorem fill_cons (first : Cell) (rest : List Cell) :
    glyphs.fill (first :: rest) = glyphs.draw first :: glyphs.fill rest := rfl

@[simp]
theorem fill_charCells (text : List Char) : glyphs.fill (charCells text) = text := by
  rw [fill, charCells, List.map_map]
  exact List.map_id text

@[simp]
theorem fill_replicate (count : Nat) (cell : Cell) :
    glyphs.fill (List.replicate count cell) = List.replicate count (glyphs.draw cell) :=
  List.map_replicate

@[simp]
theorem fill_markedBar (length index : Int) (bar marker : Cell) :
    glyphs.fill (markedBar length index bar marker) =
      markedBar length index (glyphs.draw bar) (glyphs.draw marker) := by
  rw [fill, markedBar, List.map_set, List.map_replicate]
  rfl

@[simp]
theorem fill_paintCells (color : Option Color) (cells : List Cell) :
    glyphs.fill (paintCells color cells) = paint color (glyphs.fill cells) := by
  cases color with
  | none => rfl
  | some color => simp [paintCells, paint]

theorem fill_joinCells (rows : List (List Cell)) :
    glyphs.fill (joinCells rows) = joinRows (rows.map glyphs.fill) := by
  induction rows with
  | nil => rfl
  | cons row rest ih =>
      cases rest with
      | nil => simp [joinCells, joinRows]
      | cons second rest =>
          have hjoin : joinCells (row :: second :: rest) =
              row ++ .char '\n' :: joinCells (second :: rest) := by
            simp [joinCells]
          have hmapped : (second :: rest).map glyphs.fill ≠ [] := List.cons_ne_nil _ _
          rw [hjoin, fill_append, fill_cons, ih]
          exact (joinRows_cons _ hmapped).symm

/-- A row is drawn by filling its cells. -/
theorem rowText_withGlyphs (pen : Pen) (row : Row) :
    (pen.withGlyphs glyphs).rowText row = glyphs.fill (pen.cells row) := by
  cases row <;>
    simp [Pen.withGlyphs, Pen.rowText, Pen.cells, Pen.gutter, Pen.gutterCells, Pen.margin,
      Pen.marginCells, Pen.indent, Pen.underlineGlyphs, DrawnLabel.underlineCells, Pen.arrowGlyphs,
      DrawnLabel.arrowCells, Pen.noteTitle, draw, glyph]

/-- Glyphs that end no line leave the lines to the cells. -/
theorem splitOn_fill (hdrawn : '\n' ∉ glyphs.drawn) (cells : List Cell) :
    (glyphs.fill cells).splitOn '\n' = (cells.splitOn (.char '\n')).map glyphs.fill := by
  induction cells with
  | nil => rfl
  | cons cell rest ih =>
      have hends : (glyphs.draw cell == '\n') = (cell == .char '\n') := by
        rw [Bool.eq_iff_iff, beq_iff_eq, beq_iff_eq]
        cases cell with
        | char c => simp [draw]
        | glyph role =>
            have hne : glyphs.glyph role ≠ '\n' := fun heq =>
              hdrawn (heq ▸ glyphs.glyph_mem_drawn role)
            simp [draw, hne]
      rw [fill_cons, List.splitOn_cons_eq_if_modifyHead, List.splitOn_cons_eq_if_modifyHead, ih,
        hends]
      split
      · rfl
      · cases rest.splitOn (.char '\n') <;> rfl

end Glyphs

theorem CharSet.newline_not_mem_drawn (charSet : CharSet) : '\n' ∉ charSet.glyphs.drawn := by
  cases charSet <;> decide

/-! ### Drawing reports -/

section CharSets

variable (report : Report) (source : Source) (charSet : CharSet) (elideAfter : Int)

theorem rows_withCharSet :
    rows (report.withCharSet charSet) source elideAfter = rows report source elideAfter := by
  have htabWidth : (report.withCharSet charSet).config.tabWidth = report.config.tabWidth := rfl
  simp only [rows, bodyRows_congr htabWidth]
  rfl

theorem text_withCharSet :
    (renderOver (report.withCharSet charSet) source elideAfter).text =
      charSet.glyphs.fill (report.cells source elideAfter) := by
  have hpen : penOf (report.withCharSet charSet) source =
      (penOf report source).withGlyphs charSet.glyphs := rfl
  have hplain : (penOf (report.withCharSet charSet) source).plain =
      (penOf report source).plain.withGlyphs charSet.glyphs := rfl
  cases hansi : report.config.ansiMode with
  | on =>
      have hon : (report.withCharSet charSet).config.ansiMode = .on := hansi
      rw [text_renderOver, Report.shown_of_on _ hon, rows_withCharSet, hpen, Report.cells, hansi,
        Glyphs.fill_joinCells, List.map_map]
      congr 2
      funext row
      exact charSet.glyphs.rowText_withGlyphs _ row
  | off =>
      have hoff : (report.withCharSet charSet).config.ansiMode = .off := hansi
      rw [text_renderOver_of_off hoff, rows_withCharSet, hplain, Report.cells, hansi,
        Glyphs.fill_joinCells, List.map_map]
      congr 2
      funext row
      exact charSet.glyphs.rowText_withGlyphs _ _

theorem render_withCharSet_eq [Platform] (cache : Cache) :
    render (report.withCharSet charSet) cache elideAfter =
      match cache.fetch (sourceName report.span.source) with
      | .error cause => .error (.missing cause)
      | .ok source =>
          match firstFault? report source with
          | some fault => .error (.ofFault report source fault)
          | none =>
              .ok ⟨charSet.glyphs.fill (report.cells source elideAfter),
                droppedLabels report source⟩ := by
  have hname : sourceName (report.withCharSet charSet).span.source =
      sourceName report.span.source := rfl
  rw [render, hname]
  cases hfetch : cache.fetch (sourceName report.span.source) with
  | error cause => rfl
  | ok source =>
      have hfault : firstFault? (report.withCharSet charSet) source = firstFault? report source :=
        rfl
      simp only [hfault]
      cases firstFault? report source with
      | some fault => rfl
      | none =>
          simp only [← text_withCharSet]
          rfl

end CharSets

end Diagnostics
