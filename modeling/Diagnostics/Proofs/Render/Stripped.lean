import Diagnostics.Proofs.Escape.Occurrence
import Diagnostics.Proofs.Escape.Paint
import Diagnostics.Proofs.Render.Layout

/-!
# Rows without escape sequences

In a row the texts of the report and of its source stand between glyphs, blanks, colons
and line ends, none of which can stand in an escape sequence. Removing the sequences of
a rendered text therefore takes away the colours and what each of these texts holds by
itself, and nothing that reaches from one of them into another.
-/

namespace Diagnostics

open EscapeForm

def Pen.plain (pen : Pen) : Pen :=
  { pen with colored := false }

def DrawnLabel.decolored (label : DrawnLabel) : DrawnLabel :=
  { label with color := none }

namespace Row

def decolored : Row → Row
  | .header label _ msg => .header label none msg
  | .underline label => .underline label.decolored
  | .arrow label msg => .arrow label.decolored msg
  | row => row

/-- The texts in a row that come from the report and from its source. -/
def texts : Row → List (List Char)
  | .header label _ msg => [label.toList, msg.toList]
  | .location reference => [reference.toList]
  | .source _ text => [text]
  | .arrow _ msg => [msg.toList]
  | .note text => [text.toList]
  | .help text => [text.toList]
  | _ => []

def mapTexts (f : List Char → List Char) : Row → Row
  | .header label color msg =>
      .header (String.ofList (f label.toList)) color (String.ofList (f msg.toList))
  | .location reference => .location (String.ofList (f reference.toList))
  | .source number text => .source number (f text)
  | .arrow label msg => .arrow label (String.ofList (f msg.toList))
  | .note text => .note (String.ofList (f text.toList))
  | .help text => .help (String.ofList (f text.toList))
  | row => row

theorem texts_mapTexts (f : List Char → List Char) (row : Row) :
    (row.mapTexts f).texts = row.texts.map f := by
  cases row <;> simp [mapTexts, texts]

theorem texts_decolored (row : Row) : row.decolored.texts = row.texts := by
  cases row <;> rfl

theorem mapTexts_eq_self {f : List Char → List Char} {row : Row}
    (hsame : ∀ text ∈ row.texts, f text = text) : row.mapTexts f = row := by
  cases row <;> simp_all [mapTexts, texts]

end Row

/-- The glyphs that rows are drawn with. -/
def Glyphs.drawn (glyphs : Glyphs) : List Char :=
  [glyphs.leftTop, glyphs.horizontalBar, glyphs.verticalBar, glyphs.underline,
    glyphs.middleUnderbar, glyphs.leftBottom, glyphs.rightBottom]

theorem CharSet.escapeChar_not_mem_drawn (charSet : CharSet) :
    escapeChar ∉ charSet.glyphs.drawn := by
  cases charSet <;> decide

theorem mem_markedBar {length index : Int} {bar marker c : α}
    (hc : c ∈ markedBar length index bar marker) : c = bar ∨ c = marker := by
  rcases List.mem_or_eq_of_mem_set hc with hmem | heq
  · exact Or.inl (List.eq_of_mem_replicate hmem)
  · exact Or.inr heq

/-! ### One row -/

theorem strip_cons_cons {first second : Char} (text : List Char) (hfirst : first ≠ escapeChar)
    (hsecond : second ≠ escapeChar) :
    rendition.strip (first :: second :: text) = first :: second :: rendition.strip text := by
  rw [rendition.strip_cons_of_ne first _ hfirst, rendition.strip_cons_of_ne second _ hsecond]

namespace Pen

variable {pen : Pen}

@[simp]
theorem plain_glyphs (pen : Pen) : pen.plain.glyphs = pen.glyphs := rfl

@[simp]
theorem plain_width (pen : Pen) : pen.plain.width = pen.width := rfl

@[simp]
theorem plain_indent (pen : Pen) : pen.plain.indent = pen.indent := rfl

@[simp]
theorem plain_margin (text : List Char) : pen.plain.margin text = text := rfl

@[simp]
theorem plain_noteTitle (title : String) : pen.plain.noteTitle title = title.toList := rfl

theorem escapeChar_not_mem_indent (pen : Pen) : escapeChar ∉ pen.indent :=
  escapeChar_not_mem_replicate _ (by decide)

theorem strip_header (label : String) (color : Option Color) (msg : String) :
    rendition.strip (pen.rowText (.header label color msg)) =
      rendition.strip label.toList ++ ':' :: ' ' :: rendition.strip msg.toList := by
  have hapart : rendition.Apart label.toList (':' :: ' ' :: msg.toList) :=
    rendition.apart_of_not_continues _ _ (by decide)
  rw [rowText, strip_paint_append color hapart, strip_cons_cons _ (by decide) (by decide)]

theorem strip_noteTitle_append {title : String} (text : List Char)
    (hfree : escapeChar ∉ title.toList) :
    rendition.strip (pen.noteTitle title ++ ':' :: ' ' :: text) =
      title.toList ++ ':' :: ' ' :: rendition.strip text := by
  rw [noteTitle, strip_paint_append_of_not_mem _ _ hfree,
    strip_cons_cons _ (by decide) (by decide)]

variable (hglyphs : escapeChar ∉ pen.glyphs.drawn)
include hglyphs

theorem escapeChar_not_mem_underlineGlyphs (label : DrawnLabel) :
    escapeChar ∉ pen.underlineGlyphs label := by
  intro hmem
  rcases mem_markedBar hmem with heq | heq <;> simp [heq, Glyphs.drawn] at hglyphs

theorem escapeChar_not_mem_arrowGlyphs (label : DrawnLabel) :
    escapeChar ∉ pen.arrowGlyphs label := by
  intro hmem
  rcases List.mem_cons.mp hmem with heq | hbar
  · simp [heq, Glyphs.drawn] at hglyphs
  · simp [List.eq_of_mem_replicate hbar, Glyphs.drawn] at hglyphs

theorem escapeChar_not_mem_bar : escapeChar ∉ [pen.glyphs.verticalBar] := by
  simp only [Glyphs.drawn, List.mem_cons, not_or] at hglyphs
  simp [hglyphs]

theorem escapeChar_not_mem_corner :
    escapeChar ∉ [pen.glyphs.leftTop, pen.glyphs.horizontalBar, '['] := by
  simp only [Glyphs.drawn, List.mem_cons, not_or] at hglyphs
  have hbracket : escapeChar ≠ '[' := by decide
  simp [hglyphs, hbracket]

theorem escapeChar_not_mem_sourceMargin (number : Int) :
    escapeChar ∉ Text.padLeft pen.width (Text.decimal number) ++ [' ', pen.glyphs.verticalBar] := by
  have hpad := escapeChar_not_mem_replicate (pen.width - (Text.decimal number).length)
    (show ' ' ≠ escapeChar by decide)
  have hnumber := Text.escapeChar_not_mem_decimal number
  have hblank : escapeChar ≠ ' ' := by decide
  simp only [Glyphs.drawn, List.mem_cons, not_or] at hglyphs
  simp [Text.padLeft, hpad, hnumber, hblank, hglyphs]

theorem escapeChar_not_mem_border :
    escapeChar ∉
      List.replicate (pen.width + 1) pen.glyphs.horizontalBar ++ [pen.glyphs.rightBottom] := by
  simp only [Glyphs.drawn, List.mem_cons, not_or] at hglyphs
  simp [hglyphs]

theorem strip_gutter_append (rest : List Char) :
    rendition.strip (pen.gutter ++ rest) = pen.plain.gutter ++ rendition.strip rest := by
  rw [gutter, margin, List.append_assoc,
    rendition.strip_append_of_not_mem _ pen.escapeChar_not_mem_indent,
    strip_paint_append_of_not_mem _ _ (escapeChar_not_mem_bar hglyphs), ← List.append_assoc]
  rfl

theorem strip_location (reference : String) :
    rendition.strip (pen.rowText (.location reference)) =
      pen.indent ++ [pen.glyphs.leftTop, pen.glyphs.horizontalBar, '['] ++
        rendition.strip reference.toList ++ [']'] := by
  have hcorner := escapeChar_not_mem_corner hglyphs
  have hapart : rendition.Apart reference.toList (pen.margin [']']) :=
    apart_paint _ _ [] (by decide)
  have hclose : rendition.strip (pen.margin [']']) = [']'] :=
    strip_paint_of_not_mem _ (by decide)
  rw [rowText, List.append_assoc, List.append_assoc,
    rendition.strip_append_of_not_mem _ pen.escapeChar_not_mem_indent, margin,
    strip_paint_append_of_not_mem _ _ hcorner, hapart, hclose]
  simp

theorem strip_source (number : Int) (text : List Char) :
    rendition.strip (pen.rowText (.source number text)) =
      Text.padLeft pen.width (Text.decimal number) ++
        [' ', pen.glyphs.verticalBar] ++ ' ' :: rendition.strip text := by
  have hmargin := escapeChar_not_mem_sourceMargin hglyphs number
  rw [rowText, margin, strip_paint_append_of_not_mem _ _ hmargin,
    rendition.strip_cons_of_ne ' ' text (by decide)]

theorem strip_underline (label : DrawnLabel) :
    rendition.strip (pen.rowText (.underline label)) =
      pen.plain.gutter ++ ' ' :: List.replicate label.startColumn.toNat ' ' ++
        pen.underlineGlyphs label := by
  have hunderline := escapeChar_not_mem_underlineGlyphs hglyphs label
  have hblanks : escapeChar ∉ List.replicate (label.startColumn.toNat + 1) ' ' :=
    escapeChar_not_mem_replicate _ (by decide)
  rw [rowText, List.append_assoc, strip_gutter_append hglyphs, ← List.replicate_succ,
    rendition.strip_append_of_not_mem _ hblanks, strip_paint_of_not_mem _ hunderline,
    List.append_assoc]

theorem strip_arrow (label : DrawnLabel) (msg : String) :
    rendition.strip (pen.rowText (.arrow label msg)) =
      pen.plain.gutter ++ ' ' :: List.replicate label.attachColumn.toNat ' ' ++
        pen.arrowGlyphs label ++ ' ' :: rendition.strip msg.toList := by
  have harrow := escapeChar_not_mem_arrowGlyphs hglyphs label
  have hblanks : escapeChar ∉ List.replicate (label.attachColumn.toNat + 1) ' ' :=
    escapeChar_not_mem_replicate _ (by decide)
  rw [rowText, List.append_assoc, List.append_assoc, strip_gutter_append hglyphs,
    ← List.replicate_succ, rendition.strip_append_of_not_mem _ hblanks,
    strip_paint_append_of_not_mem _ _ harrow, rendition.strip_cons_of_ne ' ' _ (by decide)]
  simp

theorem strip_border :
    rendition.strip (pen.rowText .border) =
      List.replicate (pen.width + 1) pen.glyphs.horizontalBar ++ [pen.glyphs.rightBottom] :=
  strip_paint_of_not_mem _ (escapeChar_not_mem_border hglyphs)

/-- Removing the sequences of a row leaves it without colour and each of its texts
without the sequences in it. -/
theorem strip_rowText (row : Row) :
    rendition.strip (pen.rowText row) =
      pen.plain.rowText (row.decolored.mapTexts rendition.strip) := by
  cases row with
  | header label color msg =>
      rw [strip_header]
      simp [Row.decolored, Row.mapTexts, rowText]
  | location reference =>
      rw [strip_location hglyphs]
      simp [Row.decolored, Row.mapTexts, rowText]
  | gutter =>
      have hgutter := strip_gutter_append hglyphs []
      rw [List.append_nil, rendition.strip_nil, List.append_nil] at hgutter
      exact hgutter
  | elision => exact strip_paint_of_not_mem _ (by decide)
  | source number text =>
      rw [strip_source hglyphs]
      simp [Row.decolored, Row.mapTexts, rowText]
  | underline label => exact strip_underline hglyphs label
  | arrow label msg =>
      rw [strip_arrow hglyphs, Row.decolored, Row.mapTexts, rowText, String.toList_ofList]
      rfl
  | border => exact strip_border hglyphs
  | note text =>
      rw [rowText, strip_noteTitle_append _ (by decide)]
      simp [Row.decolored, Row.mapTexts, rowText]
  | help text =>
      rw [rowText, strip_noteTitle_append _ (by decide)]
      simp [Row.decolored, Row.mapTexts, rowText]

end Pen

/-! ### Joined rows -/

theorem strip_joinRows (texts : List (List Char)) :
    rendition.strip (joinRows texts) = joinRows (texts.map rendition.strip) := by
  induction texts with
  | nil => rfl
  | cons text rest ih =>
      cases rest with
      | nil => simp [joinRows]
      | cons second rest =>
          have hnewline : rendition.isPart '\n' = false := by decide
          have hne : second :: rest ≠ [] := List.cons_ne_nil second rest
          have hmapped : (second :: rest).map rendition.strip ≠ [] := List.cons_ne_nil _ _
          rw [joinRows_cons text hne, rendition.strip_append_cons _ _ hnewline, ih]
          exact (joinRows_cons _ hmapped).symm

/-- With escape sequences off, a report is shown by its rows without colour and with the
sequences removed from each of their texts. -/
theorem text_renderOver_of_off {report : Report} (hansi : report.config.ansiMode = .off)
    (source : Source) (elideAfter : Int) :
    (renderOver report source elideAfter).text =
      joinRows ((rows report source elideAfter).map fun row =>
        (penOf report source).plain.rowText (row.decolored.mapTexts rendition.strip)) := by
  have hglyphs : escapeChar ∉ (penOf report source).glyphs.drawn :=
    report.config.charSet.escapeChar_not_mem_drawn
  have hrow : rendition.strip ∘ (penOf report source).rowText = fun row =>
      (penOf report source).plain.rowText (row.decolored.mapTexts rendition.strip) :=
    funext fun row => Pen.strip_rowText hglyphs row
  rw [text_renderOver, report.shown_of_off hansi, strip_joinRows, List.map_map, hrow]

end Diagnostics
