import Diagnostics.Proofs.Escape.Painted
import Diagnostics.Proofs.Render.Decolored
import Diagnostics.Proofs.Render.Given

/-!
# Renderings with nothing but paint in them

If neither a report nor the text of its source holds an escape character, all that is not text in
its rendering is the paint of the rows. The rendering with colour disabled and escape sequences off
is then what is left of it without the paint, whatever the options say about either.
-/

namespace Diagnostics

open EscapeForm

/-- No text of the report holds an escape character. -/
structure Report.EscapeFree (report : Report) : Prop where
  source : escapeChar ∉ (sourceName report.span.source).toList
  kind : escapeChar ∉ report.kind.name.toList
  code : ∀ code ∈ report.code, escapeChar ∉ code.toList
  msg : ∀ msg ∈ report.msg, escapeChar ∉ msg.toList
  notes : ∀ note ∈ report.notes, ∀ text ∈ note, escapeChar ∉ text.toList
  help : ∀ help ∈ report.help, ∀ text ∈ help, escapeChar ∉ text.toList
  labels : ∀ label ∈ report.labels, ∀ msg ∈ label.msg, escapeChar ∉ msg.toList

/-- No text of the row holds an escape character. -/
def Row.EscapeFree (row : Row) : Prop :=
  ∀ text ∈ row.texts, escapeChar ∉ text

/-! ### The paint of a row -/

namespace Pen

variable {pen : Pen}

theorem painted_margin (pen : Pen) {text : List Char} (hfree : escapeChar ∉ text) :
    Painted (pen.margin text) text :=
  (Painted.of_not_mem hfree).paint _

theorem painted_noteTitle {title : String} (hfree : escapeChar ∉ title.toList) :
    Painted (pen.noteTitle title) title.toList :=
  (Painted.of_not_mem hfree).paint _

theorem painted_indent (pen : Pen) : Painted pen.indent pen.indent :=
  .of_not_mem pen.escapeChar_not_mem_indent

theorem painted_blanks (count : Nat) :
    Painted (' ' :: List.replicate count ' ') (' ' :: List.replicate count ' ') :=
  .of_not_mem (escapeChar_not_mem_replicate (count + 1) (by decide))

variable (hglyphs : escapeChar ∉ pen.glyphs.drawn)
include hglyphs

theorem painted_gutter : Painted pen.gutter pen.plain.gutter :=
  pen.painted_indent.append (pen.painted_margin (escapeChar_not_mem_bar hglyphs))

theorem painted_location {reference : String} (hfree : escapeChar ∉ reference.toList) :
    Painted (pen.rowText (.location reference)) (pen.plain.rowText (.location reference)) := by
  have hcorner := pen.painted_margin (escapeChar_not_mem_corner hglyphs)
  exact ((pen.painted_indent.append hcorner).append (.of_not_mem hfree)).append
    (pen.painted_margin (by decide))

theorem painted_source (number : Int) {text : List Char} (hfree : escapeChar ∉ text) :
    Painted (pen.rowText (.source number text)) (pen.plain.rowText (.source number text)) :=
  (pen.painted_margin (escapeChar_not_mem_sourceMargin hglyphs number)).append
    (.cons (by decide) (.of_not_mem hfree))

theorem painted_underline (label : DrawnLabel) :
    Painted (pen.rowText (.underline label)) (pen.plain.rowText (.underline label.decolored)) :=
  ((painted_gutter hglyphs).append (painted_blanks _)).append
    ((Painted.of_not_mem (escapeChar_not_mem_underlineGlyphs hglyphs label)).paint _)

theorem painted_arrow (label : DrawnLabel) {msg : String} (hfree : escapeChar ∉ msg.toList) :
    Painted (pen.rowText (.arrow label msg)) (pen.plain.rowText (.arrow label.decolored msg)) :=
  (((painted_gutter hglyphs).append (painted_blanks _)).append
    ((Painted.of_not_mem (escapeChar_not_mem_arrowGlyphs hglyphs label)).paint _)).append
    (.cons (by decide) (.of_not_mem hfree))

theorem painted_border : Painted (pen.rowText .border) (pen.plain.rowText .border) :=
  pen.painted_margin (escapeChar_not_mem_border hglyphs)

/-- A row is the plain row with paint put in. -/
theorem painted_rowText {row : Row} (hfree : row.EscapeFree) :
    Painted (pen.rowText row) (pen.plain.rowText row.decolored) := by
  have htitle : ∀ {title text : String}, escapeChar ∉ title.toList → escapeChar ∉ text.toList →
      Painted (pen.noteTitle title ++ ':' :: ' ' :: text.toList)
        (title.toList ++ ':' :: ' ' :: text.toList) := fun htitle htext =>
    (painted_noteTitle htitle).append (.cons (by decide) (.cons (by decide) (.of_not_mem htext)))
  cases row with
  | header label color msg =>
      have hlabel := hfree label.toList List.mem_cons_self
      have hmsg := hfree msg.toList (List.mem_cons_of_mem _ List.mem_cons_self)
      exact ((Painted.of_not_mem hlabel).paint color).append
        (.cons (by decide) (.cons (by decide) (.of_not_mem hmsg)))
  | location reference => exact painted_location hglyphs (hfree _ List.mem_cons_self)
  | gutter => exact painted_gutter hglyphs
  | elision => exact (Painted.of_not_mem (by decide)).paint _
  | source number text => exact painted_source hglyphs number (hfree _ List.mem_cons_self)
  | underline label => exact painted_underline hglyphs label
  | arrow label msg => exact painted_arrow hglyphs label (hfree _ List.mem_cons_self)
  | border => exact painted_border hglyphs
  | note text => exact htitle (by decide) (hfree _ List.mem_cons_self)
  | help text => exact htitle (by decide) (hfree _ List.mem_cons_self)

end Pen

/-! ### The texts of the rows -/

theorem Source.mem_of_mem_textAt {source : Source} {index : Nat} {c : Char}
    (hc : c ∈ source.textAt index) : c ∈ source.text := by
  rw [← source.textBefore_append_textAt index]
  exact List.mem_append_left _ (List.mem_append_right _ hc)

namespace Report.EscapeFree

variable {report : Report} {source : Source}
variable (hfree : report.EscapeFree) (hsource : escapeChar ∉ source.text)
include hfree hsource

theorem not_gives : ¬report.Gives source escapeChar := by
  intro hgives
  cases hgives with
  | source hc => exact hfree.source hc
  | line _ hc _ => exact hsource (Source.mem_of_mem_textAt hc)
  | kind hc => exact hfree.kind hc
  | code hcode hc => exact hfree.code _ hcode hc
  | msg hmsg hc => exact hfree.msg _ hmsg hc
  | labelMsg hlabel hmsg hc =>
      obtain ⟨given, hgiven, hdrawn⟩ := mem_drawnLabels.mp hlabel
      rw [(msg_and_order_of_drawLabel hdrawn).1] at hmsg
      exact hfree.labels given hgiven _ hmsg hc
  | note hnote htext hc => exact hfree.notes _ hnote _ htext hc
  | help hhelp htext hc => exact hfree.help _ hhelp _ htext hc

/-- No text comes into the rows but those of the report and its source. -/
theorem of_mem_rows {elideAfter : Int} {row : Row}
    (hrow : row ∈ rows report source elideAfter) : row.EscapeFree := by
  intro text htext hmem
  obtain hgives | htypewritten := Report.MakesUp.of_mem_rows hrow text htext escapeChar hmem
  · exact hfree.not_gives hsource hgives
  · exact absurd htypewritten (by decide)

end Report.EscapeFree

/-! ### Without colour and escape sequences -/

/-- The report with colour disabled and escape sequences off. -/
def Report.uncolored (report : Report) : Report :=
  (report.withColor false).withAnsiMode .off

variable {report : Report} {source : Source}

/-- Whether escape sequences are off decides alone. -/
theorem render_uncolored_eq [Platform] (report : Report) (cache : Cache) (elideAfter : Int) :
    render report.uncolored cache elideAfter =
      render (report.withAnsiMode .off) cache elideAfter := by
  have hplain : (report.withAnsiMode .off).decolored = report.uncolored.decolored := rfl
  calc render report.uncolored cache elideAfter
      = render report.uncolored.decolored cache elideAfter :=
        (render_decolored rfl cache elideAfter).symm
    _ = render (report.withAnsiMode .off).decolored cache elideAfter := by rw [hplain]
    _ = render (report.withAnsiMode .off) cache elideAfter := render_decolored rfl cache elideAfter

variable (hfree : report.EscapeFree) (hsource : escapeChar ∉ source.text)
include hfree hsource

theorem painted_rows (elideAfter : Int) :
    ∃ plain, Painted
      (joinRows ((rows report source elideAfter).map (penOf report source).rowText)) plain := by
  have hglyphs : escapeChar ∉ (penOf report source).glyphs.drawn :=
    report.config.charSet.escapeChar_not_mem_drawn
  have hrows : List.Forall₂ Painted
      ((rows report source elideAfter).map (penOf report source).rowText)
      ((rows report source elideAfter).map fun row =>
        (penOf report source).plain.rowText row.decolored) := by
    rw [List.forall₂_map_left_iff, List.forall₂_map_right_iff, List.forall₂_same]
    intro row hrow
    exact Pen.painted_rowText hglyphs (hfree.of_mem_rows hsource hrow)
  exact ⟨_, Painted.intersperse (by decide) hrows⟩

/-- With escape sequences off nothing is left to remove. -/
theorem stripped_renderOver_of_off (hansi : report.config.ansiMode = .off) (elideAfter : Int) :
    (renderOver report source elideAfter).stripped = renderOver report source elideAfter := by
  obtain ⟨plain, hpainted⟩ := painted_rows hfree hsource elideAfter
  have htext : (renderOver report source elideAfter).text = plain := by
    rw [text_renderOver, report.shown_of_off hansi, hpainted.strip_eq covers_rendition]
  have hkept : rendition.strip plain = plain :=
    rendition.strip_of_not_mem hpainted.escapeChar_not_mem
  rw [Rendering.stripped, htext, hkept, ← htext]

/-- All escape sequences of a rendered text are paint. -/
theorem painted_renderOver (elideAfter : Int) :
    Painted (renderOver report source elideAfter).text
      (renderOver report source elideAfter).stripped.text := by
  obtain ⟨plain, hpainted⟩ := painted_rows hfree hsource elideAfter
  have hplain := hpainted.strip_eq covers_rendition
  cases hansi : report.config.ansiMode with
  | on =>
      rw [Rendering.stripped, text_renderOver, report.shown_of_on hansi, hplain]
      exact hpainted
  | off =>
      rw [stripped_renderOver_of_off hfree hsource hansi, text_renderOver,
        report.shown_of_off hansi, hplain]
      exact .of_not_mem hpainted.escapeChar_not_mem

variable [Platform] {cache : Cache}
variable (hfetch : cache.fetch (sourceName report.span.source) = .ok source)
include hfetch

/-- Without colour and escape sequences the rendering is the same but for the paint. -/
theorem render_uncolored (elideAfter : Int) :
    render report.uncolored cache elideAfter =
      (render report cache elideAfter).map Rendering.stripped := by
  rw [render_uncolored_eq]
  cases hansi : report.config.ansiMode with
  | on =>
      have hon : report.withAnsiMode .on = report := by rw [Report.withAnsiMode, ← hansi]
      rw [render_withAnsiMode_off, hon]
  | off =>
      have hoff : report.withAnsiMode .off = report := by rw [Report.withAnsiMode, ← hansi]
      rw [hoff]
      cases hfault : firstFault? report source with
      | some fault =>
          rw [render_of_fault hfetch hfault]
          rfl
      | none =>
          rw [render_of_no_fault hfetch hfault, Except.map,
            stripped_renderOver_of_off hfree hsource hansi]

theorem painted_of_render {elideAfter : Int} {rendering : Rendering}
    (hrender : render report cache elideAfter = .ok rendering) :
    Painted rendering.text rendering.stripped.text := by
  rw [eq_renderOver_of_render hfetch hrender]
  exact painted_renderOver hfree hsource elideAfter

end Diagnostics
