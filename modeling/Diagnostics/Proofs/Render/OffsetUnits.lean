import Diagnostics.Proofs.Render.Location
import Diagnostics.Proofs.Render.Relabelled
import Diagnostics.Proofs.Source.ByteOffset
import Diagnostics.Usual

/-!
# Reports in either unit

A report that counts characters can be written in bytes: every offset is exchanged for
the byte offset of the same place in the text. Nothing but the column of the place is
shown differently. The last offset that a label covers becomes a byte in the middle of a
character in general; what counts is that no character starts between the two.
-/

namespace Diagnostics

def Span.inBytes (text : List Char) (span : Span) : Span :=
  { span with start := byteOffset text span.start, stop := byteOffset text span.stop }

def Label.inBytes (text : List Char) (label : Label) : Label :=
  { label with
    span := label.span.inBytes text
    start_le_stop := (byteOffset_le_byteOffset_iff text _ _).mpr label.start_le_stop }

def Config.inBytes (config : Config) : Config :=
  { config with offsetUnit := .byte }

/-- The report over `text` with its offsets counted in bytes instead of characters. -/
def Report.inBytes (text : List Char) (report : Report) : Report :=
  { report with
    span := report.span.inBytes text
    labels := report.labels.map (Label.inBytes text)
    config := report.config.inBytes }

theorem Report.sameStyle_inBytes (report : Report) (text : List Char) :
    report.SameStyle (report.inBytes text) :=
  ⟨rfl, rfl, rfl, rfl, rfl, rfl, rfl, rfl, rfl⟩

/-- Characters start up to the last byte that a label covers exactly if they start up to
the last character that it covers. -/
theorem byteOffset_le_lastOffset_iff (text : List Char) (span : Span) (offset : Int) :
    byteOffset text offset ≤ (span.inBytes text).lastOffset ↔ offset ≤ span.lastOffset := by
  have hstart := byteOffset_le_byteOffset_iff text offset span.start
  have hstop : byteOffset text offset < byteOffset text span.stop ↔ offset < span.stop :=
    byteOffset_lt_byteOffset_iff text offset span.stop
  simp only [Span.lastOffset, Span.inBytes]
  omega

variable {config : Config} {source : Source} {label : Label}

theorem placeLabel_inBytes (hunit : config.offsetUnit = .char) {position : Position}
    (hposition : source.lineAt? label.span.start .char = some position) :
    placeLabel config.inBytes source (label.inBytes source.text)
        { position with
          column := byteOffset source.text label.span.start - position.line.start .byte } =
      placeLabel config source label position := by
  rw [Source.lineAt?_eq_some_iff] at hposition
  obtain ⟨-, -, hline, hcolumn⟩ := hposition
  simp only [placeLabel, hunit, hcolumn, Config.inBytes, Label.inBytes, Span.inBytes,
    source.charColumn_of_mem hline, source.charsBefore_byteOffset hline]
  rfl

theorem projectLabel_inBytes (hunit : config.offsetUnit = .char) :
    projectLabel config.inBytes source (label.inBytes source.text) =
      ((projectLabel config source label).map (DrawnLabel.moveDown 0)).mapError
        (DropReason.moveDown 0) := by
  have hfirst : source.lineAt? (label.inBytes source.text).span.start config.inBytes.offsetUnit =
      (source.lineAt? label.span.start config.offsetUnit).map fun position =>
        { position with
          column := byteOffset source.text label.span.start - position.line.start .byte } := by
    rw [hunit]
    exact source.lineAt?_byteOffset label.span.start
  have hlast : source.lineAt? (label.inBytes source.text).span.lastOffset
        config.inBytes.offsetUnit =
      (source.lineAt? label.span.lastOffset config.offsetUnit).map fun position =>
        { position with
          column := (label.inBytes source.text).span.lastOffset -
            position.line.start .byte } := by
    rw [hunit]
    exact source.lineAt?_byte (byteOffset_le_lastOffset_iff source.text label.span)
  refine projectLabel_moveDown hfirst hlast (fun _ => rfl) (fun _ => rfl) ?_
  intro position hposition
  rw [hunit] at hposition
  exact placeLabel_inBytes hunit hposition

variable {report : Report}

theorem relabelled_inBytes (source : Source) (hunit : report.config.offsetUnit = .char) :
    Relabelled report source (report.inBytes source.text) source 0 (Label.inBytes source.text)
      (Span.inBytes source.text) where
  style := report.sameStyle_inBytes source.text
  labels := rfl
  drawLabel _ _ := drawLabel_moveDown rfl rfl rfl (projectLabel_inBytes hunit)
  lineNumber _ := rfl
  textAt _ _ := rfl
  startNumber? := by
    have hfound := source.lineAt?_byteOffset report.span.start
    simp only [Report.startNumber?, Report.inBytes, Span.inBytes, Config.inBytes, hunit, hfound,
      Option.map_map]
    rfl

theorem referenceHead_inBytes (hunit : report.config.offsetUnit = .char) :
    referenceHead (report.inBytes source.text) source = referenceHead report source := by
  have hfound := source.lineAt?_byteOffset report.span.start
  simp only [referenceHead, Report.inBytes, Span.inBytes, Config.inBytes, hunit, hfound]
  cases source.lineAt? report.span.start .char <;> rfl

theorem textBeforeColumn_inBytes (hunit : report.config.offsetUnit = .char) :
    textBeforeColumn (report.inBytes source.text) source = textBeforeColumn report source := by
  have hmoved := (relabelled_inBytes source hunit).movedDown
  simp only [textBeforeColumn, hmoved.style.shown_eq, hmoved.style.headerRow_eq, hmoved.penOf_eq,
    referenceHead_inBytes hunit]

theorem textAfterColumn_inBytes (hunit : report.config.offsetUnit = .char) (elideAfter : Int) :
    textAfterColumn (report.inBytes source.text) source elideAfter =
      textAfterColumn report source elideAfter := by
  have hmoved := (relabelled_inBytes source hunit).movedDown
  have hbelow := hmoved.rowsBelowLocation_eq elideAfter
  rw [textAfterColumn, textAfterColumn, hmoved.style.shown_eq, hbelow, hmoved.penOf_eq]

/-- A report in characters and the same report in bytes draw the same labels on the same
cells, drop the same ones for the same reasons, and break off at the same fault. Their
texts differ in the column of the place and nowhere else. -/
theorem render_inBytes [Platform] {cache : Cache} (elideAfter : Int)
    (hunit : report.config.offsetUnit = .char)
    (hfetch : cache.fetch (sourceName report.span.source) = .ok source) :
    drawnLabels (report.inBytes source.text) source = drawnLabels report source ∧
      (report.config.tabWidth < Platform.memoryBound → source.NumbersFit →
        ∃ rendering, render report cache elideAfter = .ok rendering) ∧
      (∀ rendering, render report cache elideAfter = .ok rendering →
        rendering.text = textBeforeColumn report source ++ (columnText report source).toList ++
            textAfterColumn report source elideAfter ∧
          render (report.inBytes source.text) cache elideAfter = .ok
            ⟨textBeforeColumn report source ++
                (columnText (report.inBytes source.text) source).toList ++
                textAfterColumn report source elideAfter,
              rendering.dropped.map fun dropped =>
                { dropped with span := dropped.span.inBytes source.text }⟩) ∧
      ∀ fault dropped, render report cache elideAfter = .error (.broken fault dropped) →
        render (report.inBytes source.text) cache elideAfter = .error (.broken fault
          (dropped.map fun dropped =>
            { dropped with span := dropped.span.inBytes source.text })) := by
  have hmoved := relabelled_inBytes source hunit
  have hrestate : DroppedLabel.restate (Span.inBytes source.text) 0 = fun dropped =>
      { dropped with span := dropped.span.inBytes source.text } := by
    funext dropped
    obtain ⟨span, reason⟩ := dropped
    cases reason <;> rfl
  have hmove : DrawnLabel.moveDown 0 = id := rfl
  have hrender := hmoved.render_eq elideAfter hfetch hfetch
  rw [hrestate] at hrender
  refine ⟨?_, ?_, ?_, ?_⟩
  · rw [hmoved.drawnLabels_eq, hmove, List.map_id]
  · intro hfits hnumbers
    exact ⟨_, render_of_no_fault hfetch (firstFault?_eq_none hfits hnumbers) elideAfter⟩
  · intro rendering hok
    constructor
    · rw [eq_renderOver_of_render hfetch hok, text_renderOver_eq_append]
    · rw [hrender, hok, text_renderOver_eq_append, textBeforeColumn_inBytes hunit,
        textAfterColumn_inBytes hunit]
  · intro fault dropped herror
    rw [hrender, herror]

/-! A text with characters of one to four bytes, and labels that are drawn and dropped
on it. -/

def mixedSource : Source := ⟨['é', '漢', '\r', '\n', '𝄞', '\t', 'x'], 0⟩

def mixedCache : Cache := .ofList [("mixed", mixedSource)]

def mixedReport : Report where
  span := ⟨some "mixed", 1, 2⟩
  labels := [
    { span := ⟨some "mixed", 0, 2⟩, msg := some "two and three bytes" },
    { span := ⟨some "mixed", 4, 6⟩, msg := some "four bytes and a tab" },
    { span := ⟨some "mixed", 1, 5⟩ }]

theorem render_inBytes_mixedReport :
    drawnLabels (mixedReport.inBytes mixedSource.text) mixedSource =
        drawnLabels mixedReport mixedSource ∧
      ∃ before after dropped droppedInBytes,
        render mixedReport mixedCache 2 = .ok ⟨before ++ ['2'] ++ after, dropped⟩ ∧
          render (mixedReport.inBytes mixedSource.text) mixedCache 2 =
            .ok ⟨before ++ ['3'] ++ after, droppedInBytes⟩ := by
  have hunit : mixedReport.config.offsetUnit = .char := rfl
  have hfetch : mixedCache.fetch (sourceName mixedReport.span.source) = .ok mixedSource := rfl
  obtain ⟨hdrawn, hexists, hrender, -⟩ := render_inBytes 2 hunit hfetch
  have hnumbers : mixedSource.NumbersFit := Source.numbersFit_of_isWord (by decide) (by decide)
  obtain ⟨rendering, hok⟩ := hexists (by decide) hnumbers
  obtain ⟨htext, hinBytes⟩ := hrender rendering hok
  have hcolumn : (columnText mixedReport mixedSource).toList = ['2'] := by decide
  have hbyteColumn : (columnText (mixedReport.inBytes mixedSource.text) mixedSource).toList =
      ['3'] := by decide
  rw [hcolumn] at htext
  rw [hbyteColumn] at hinBytes
  refine ⟨hdrawn, _, _, rendering.dropped, _, ?_, hinBytes⟩
  rw [hok, ← htext]

end Diagnostics
