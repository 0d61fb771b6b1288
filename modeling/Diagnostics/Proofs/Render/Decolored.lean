import Diagnostics.Proofs.Render.Body
import Diagnostics.Proofs.Render.Redrawn
import Diagnostics.Proofs.Render.Stripped
import Diagnostics.Usual

/-!
# Reports without colours

A report reads the same without its colours, but for the sequences that paint its rows.
With escape sequences off these are removed, together with those that its texts hold, so
that colours make no difference at all: neither whether colour is enabled, nor the
colours of the labels, nor that of the kind.
-/

namespace Diagnostics

open EscapeForm

def Kind.decolored : Kind → Kind
  | .styled name _ => .styled name none
  | kind => kind

def Label.decolored (label : Label) : Label :=
  { label with color := none }

namespace Report

def withColor (report : Report) (enabled : Bool) : Report :=
  { report with config := { report.config with color := enabled } }

def withAnsiMode (report : Report) (mode : AnsiMode) : Report :=
  { report with config := { report.config with ansiMode := mode } }

/-- The report with colour disabled, and without the colours of its labels and its kind. -/
def decolored (report : Report) : Report :=
  { report.withColor false with
    kind := report.kind.decolored
    labels := report.labels.map Label.decolored }

end Report

def Rendering.stripped (rendering : Rendering) : Rendering :=
  { rendering with text := rendition.strip rendering.text }

variable (report : Report) (source : Source)

/-! ### Rows -/

theorem projectLabel_decolored (label : Label) :
    projectLabel report.decolored.config source label.decolored =
      (projectLabel report.config source label).map DrawnLabel.decolored := by
  have hfirst : source.lineAt? label.decolored.span.start report.decolored.config.offsetUnit =
      source.lineAt? label.span.start report.config.offsetUnit := rfl
  have hlast : source.lineAt? label.decolored.span.lastOffset report.decolored.config.offsetUnit =
      source.lineAt? label.span.lastOffset report.config.offsetUnit := rfl
  rw [projectLabel, projectLabel, hfirst, hlast]
  cases source.lineAt? label.span.start report.config.offsetUnit with
  | none => rfl
  | some first =>
      cases source.lineAt? label.span.lastOffset report.config.offsetUnit with
      | none => rfl
      | some last =>
          dsimp only
          split
          · rfl
          · rfl

theorem drawLabel_decolored (label : Label) :
    drawLabel report.decolored source label.decolored =
      ((drawLabel report source label).map DrawnLabel.decolored).mapError id := by
  rw [drawLabel, drawLabel, projectLabel_decolored]
  change (if label.span.source = report.span.source then _ else _) = _
  split
  · cases projectLabel report.config source label <;> rfl
  · rfl

theorem redrawn_decolored : Redrawn report source report.decolored source Label.decolored
    DrawnLabel.decolored id where
  labels := rfl
  drawLabel label _ := drawLabel_decolored report source label
  tabWidth := rfl
  textAt _ _ := rfl
  lineNumber _ := rfl
  startNumber? := rfl

theorem headerRow_decolored : headerRow report.decolored = (headerRow report).decolored := by
  simp only [headerRow, headerLabel, Report.decolored, Report.withColor, Row.decolored]
  cases report.kind <;> rfl

theorem labelRows_decolored (label : DrawnLabel) :
    labelRows label.decolored = (labelRows label).map Row.decolored := by
  simp only [labelRows, DrawnLabel.decolored]
  cases presentText label.msg <;> rfl

theorem orderedLabels_decolored (labels : List DrawnLabel) :
    orderedLabels (labels.map DrawnLabel.decolored) =
      (orderedLabels labels).map DrawnLabel.decolored := by
  apply orderedLabels_map
  intro a b
  rfl

theorem labelledLines_decolored (labels : List DrawnLabel) :
    labelledLines (labels.map DrawnLabel.decolored) = labelledLines labels := by
  rw [labelledLines, labelledLines, List.map_map]
  rfl

theorem blockRows_decolored (labels : List DrawnLabel) (line : Nat) :
    blockRows report.decolored source (labels.map DrawnLabel.decolored) line =
      (blockRows report source labels line).map Row.decolored := by
  have hsource : sourceRow report.decolored source line =
      (sourceRow report source line).decolored := rfl
  have honLine : (labels.map DrawnLabel.decolored).filter (·.line = line) =
      (labels.filter (·.line = line)).map DrawnLabel.decolored := List.filter_map
  rw [blockRows, blockRows, hsource, honLine, List.map_cons, List.flatMap_map, List.map_flatMap]
  congr 2
  funext label
  exact labelRows_decolored label

theorem bodyRows_decolored (elideAfter : Int) (labels : List DrawnLabel)
    (previous : Option Nat) (lines : List Nat) :
    bodyRows report.decolored source elideAfter (labels.map DrawnLabel.decolored) previous lines =
      (bodyRows report source elideAfter labels previous lines).map Row.decolored := by
  induction lines generalizing previous with
  | nil => rfl
  | cons line rest ih =>
      have hmarks : (elisionRows elideAfter previous line).map Row.decolored =
          elisionRows elideAfter previous line := by
        rcases elisionRows_eq elideAfter previous line with hnone | hmark
        · rw [hnone, List.map_nil]
        · rw [hmark]
          rfl
      rw [bodyRows, bodyRows, ih, blockRows_decolored, List.map_append, List.map_append, hmarks]

theorem rows_decolored (elideAfter : Int) :
    rows report.decolored source elideAfter =
      (rows report source elideAfter).map Row.decolored := by
  have hdrawn := (redrawn_decolored report source).drawnLabels_eq
  simp only [rows, hdrawn, orderedLabels_decolored, labelledLines_decolored, bodyRows_decolored,
    headerRow_decolored, List.map_append, List.map_cons, List.map_nil, List.map_map]
  rfl

theorem penOf_decolored : penOf report.decolored source = (penOf report source).plain := by
  have hdrawn := (redrawn_decolored report source).drawnLabels_eq
  rw [penOf, hdrawn, labelledLines_decolored]
  rfl

/-! ### Plain text -/

theorem Row.decolored_decolored (row : Row) : row.decolored.decolored = row.decolored := by
  cases row <;> rfl

variable {report}

theorem text_decolored (hansi : report.config.ansiMode = .off) (elideAfter : Int) :
    (renderOver report.decolored source elideAfter).text =
      (renderOver report source elideAfter).text := by
  have hplain : report.decolored.config.ansiMode = .off := hansi
  rw [text_renderOver_of_off hplain, text_renderOver_of_off hansi, rows_decolored,
    penOf_decolored, List.map_map]
  congr 2
  funext row
  exact congrArg (fun row => (penOf report source).plain.rowText (row.mapTexts rendition.strip))
    row.decolored_decolored

theorem render_decolored [Platform] (hansi : report.config.ansiMode = .off) (cache : Cache)
    (elideAfter : Int) :
    render report.decolored cache elideAfter = render report cache elideAfter := by
  have htext : ∀ source, (renderOver report.decolored source elideAfter).text =
      id (renderOver report source elideAfter).text := fun source =>
    text_decolored source hansi elideAfter
  rw [render_eq_map_of_redrawn (redrawn_decolored report) htext rfl]
  cases render report cache elideAfter <;> rfl

/-! ### Escape sequences on and off -/

theorem text_withAnsiMode (report : Report) (mode : AnsiMode) (elideAfter : Int) :
    (renderOver (report.withAnsiMode mode) source elideAfter).text =
      (report.withAnsiMode mode).shown
        (joinRows ((rows report source elideAfter).map (penOf report source).rowText)) := by
  have htabWidth : (report.withAnsiMode mode).config.tabWidth = report.config.tabWidth := rfl
  have hrows : rows (report.withAnsiMode mode) source elideAfter =
      rows report source elideAfter := by
    simp only [rows, bodyRows_congr htabWidth]
    rfl
  have hpen : penOf (report.withAnsiMode mode) source = penOf report source := rfl
  rw [text_renderOver, hrows, hpen]

theorem redrawn_withAnsiMode (report : Report) (mode other : AnsiMode) :
    Redrawn (report.withAnsiMode mode) source (report.withAnsiMode other) source id id id where
  labels := (List.map_id report.labels).symm
  drawLabel label _ := by
    change drawLabel report source label = ((drawLabel report source label).map id).mapError id
    cases drawLabel report source label <;> rfl
  tabWidth := rfl
  textAt _ _ := rfl
  lineNumber _ := rfl
  startNumber? := rfl

/-- The mode decides about the text at the end and about nothing else. -/
theorem render_withAnsiMode_off [Platform] (report : Report) (cache : Cache) (elideAfter : Int) :
    render (report.withAnsiMode .off) cache elideAfter =
      (render (report.withAnsiMode .on) cache elideAfter).map Rendering.stripped := by
  have htext : ∀ source, (renderOver (report.withAnsiMode .off) source elideAfter).text =
      rendition.strip (renderOver (report.withAnsiMode .on) source elideAfter).text := by
    intro source
    rw [text_withAnsiMode, text_withAnsiMode, Report.shown_of_off _ rfl,
      Report.shown_of_on (report.withAnsiMode .on) rfl]
  have hredrawn := fun source => redrawn_withAnsiMode source report .on .off
  exact render_eq_map_of_redrawn hredrawn htext rfl cache

/-- With escape sequences off, reports that differ in their colours only are rendered
alike: as they are without colour, with the escape sequences removed from the text. -/
theorem render_eq_of_decolored_eq [Platform] {report other : Report} (cache : Cache)
    (elideAfter : Int)
    (hansi : report.config.ansiMode = .off) (hsame : other.decolored = report.decolored) :
    render other cache elideAfter = render report cache elideAfter ∧
      render report cache elideAfter =
        (render ((report.withColor false).withAnsiMode .on) cache elideAfter).map
          Rendering.stripped := by
  have hother : other.config.ansiMode = .off :=
    (congrArg (fun plain => plain.config.ansiMode) hsame).trans hansi
  have hplain : (report.withColor false).config.ansiMode = .off := hansi
  have hoff : (report.withColor false).withAnsiMode .off = report.withColor false := by
    rw [Report.withAnsiMode, ← hansi]
    rfl
  constructor
  · calc render other cache elideAfter
        = render other.decolored cache elideAfter := (render_decolored hother cache elideAfter).symm
      _ = render report.decolored cache elideAfter := by rw [hsame]
      _ = render report cache elideAfter := render_decolored hansi cache elideAfter
  · calc render report cache elideAfter
        = render report.decolored cache elideAfter :=
            (render_decolored hansi cache elideAfter).symm
      _ = render (report.withColor false) cache elideAfter :=
            render_decolored hplain cache elideAfter
      _ = (render ((report.withColor false).withAnsiMode .on) cache elideAfter).map
            Rendering.stripped := by
          rw [← render_withAnsiMode_off, hoff]

/-! Two colourings of one report. Its texts hold the starts of sequences, one of them
whole, and its notes end within one. -/

def garishText : List Char := "a\x1b[3\tb".toList

def garishCache : Cache := .ofList [("\x1b[1m", ⟨garishText, 0⟩)]

def garishReport (color : Option Color) : Report where
  span := ⟨some "\x1b[1m", 0, 2⟩
  kind := .styled "odd\x1b" color
  code := some "\x1b["
  msg := some "3\x1b[31mm"
  notes := [some "\x1b[3"]
  labels := [{ span := ⟨some "\x1b[1m", 0, 3⟩, msg := some "\x1b[", color := color }]
  config := { Config.default with ansiMode := .off, color := color.isSome }

theorem render_eq_garishReport :
    ∃ rendering, render (garishReport (some (.basic .red))) garishCache 2 = .ok rendering ∧
      render (garishReport none) garishCache 2 = .ok rendering ∧
      ∃ uncut, render ((garishReport none).withAnsiMode .on) garishCache 2 = .ok uncut ∧
        rendering = uncut.stripped := by
  have hfetch : garishCache.fetch "\x1b[1m" = .ok ⟨garishText, 0⟩ := rfl
  have hnumbers : Source.NumbersFit ⟨garishText, 0⟩ :=
    Source.numbersFit_of_isWord (by decide) (by decide)
  have hrender := fun (report : Report) (hspan : sourceName report.span.source = "\x1b[1m")
      (hfits : report.config.tabWidth < Platform.memoryBound) =>
    render_of_no_fault (hspan ▸ hfetch) (firstFault?_eq_none hfits hnumbers) 2
  have hdecolored : (garishReport (some (.basic .red))).decolored =
      (garishReport none).decolored := rfl
  obtain ⟨hsame, hstripped⟩ := render_eq_of_decolored_eq garishCache 2 rfl hdecolored
  have hcolorless := hrender (garishReport none) (by decide) (by decide)
  have huncut := hrender ((garishReport none).withAnsiMode .on) (by decide) (by decide)
  refine ⟨_, hsame.trans hcolorless, hcolorless, _, huncut, ?_⟩
  have hplain : (garishReport none).withColor false = garishReport none := rfl
  rw [hplain, huncut, hcolorless] at hstripped
  exact Except.ok.inj hstripped

end Diagnostics
