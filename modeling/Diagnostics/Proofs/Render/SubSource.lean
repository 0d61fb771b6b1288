import Diagnostics.Proofs.Render.Relabelled
import Diagnostics.Proofs.Source.Part
import Diagnostics.Usual

/-!
# Reports on a part of a source

A report on the part of a source that follows some full lines can be made one on the
whole source: its offsets are moved by the length of the text before the part. If the
line numbers of the part are shown as those of the whole, both reports are shown alike.
-/

namespace Diagnostics

def Span.shift (amount : Int) (span : Span) : Span :=
  { span with start := span.start + amount, stop := span.stop + amount }

def Label.shift (amount : Int) (label : Label) : Label :=
  { label with
    span := label.span.shift amount
    start_le_stop := Int.add_le_add_right label.start_le_stop amount }

/-- The report with all of its offsets moved by `amount`. -/
def Report.shift (amount : Int) (report : Report) : Report :=
  { report with
    span := report.span.shift amount
    labels := report.labels.map (Label.shift amount) }

theorem Report.sameStyle_shift (report : Report) (amount : Int) :
    report.SameStyle (report.shift amount) :=
  ⟨rfl, rfl, rfl, rfl, rfl, rfl, rfl, rfl, rfl⟩

theorem Span.lastOffset_shift (amount : Int) (span : Span) :
    (span.shift amount).lastOffset = span.lastOffset + amount := by
  simp only [lastOffset, shift]
  omega

variable {before : List Char} {part whole : Source}

theorem placeLabel_shift (hpart : PartOf before part whole) (config : Config) {label : Label}
    {position : Position}
    (hposition : part.lineAt? label.span.start config.offsetUnit = some position) :
    placeLabel config whole (label.shift (config.offsetUnit.measure before))
        (position.moveAfter before) =
      (placeLabel config part label position).moveDown (fullLines before).length := by
  rw [Source.lineAt?_eq_some_iff] at hposition
  have hcolumn := hpart.charColumn_moveAfter hposition.2.2.1
  have htext : whole.textAt (position.moveAfter before).index = part.textAt position.index :=
    hpart.textAt_add position.index
  have hstop : label.span.stop + config.offsetUnit.measure before -
      (position.moveAfter before).line.start config.offsetUnit =
        label.span.stop - position.line.start config.offsetUnit := by
    simp only [Position.moveAfter, Line.start_moveAfter]
    omega
  simp only [placeLabel, Label.shift, Span.shift, htext, hstop, hcolumn]
  rfl

theorem projectLabel_shift (hpart : PartOf before part whole) (config : Config) {label : Label}
    (hstart : 0 ≤ label.span.start) :
    projectLabel config whole (label.shift (config.offsetUnit.measure before)) =
      ((projectLabel config part label).map
        (DrawnLabel.moveDown (fullLines before).length)).mapError
          (DropReason.moveDown (fullLines before).length) := by
  have hlast := hpart.lineAt?_add (Int.le_trans hstart label.span.start_le_lastOffset)
    config.offsetUnit
  rw [← Span.lastOffset_shift] at hlast
  have hfirst := hpart.lineAt?_add hstart config.offsetUnit
  refine projectLabel_moveDown hfirst hlast (fun _ => rfl) (fun _ => rfl) ?_
  intro position hposition
  exact placeLabel_shift hpart config hposition

variable {report : Report}

/-- The first line of the report has the same number in both sources. -/
theorem startNumber?_shift (hpart : PartOf before part whole)
    (hnumber : part.displayOffset = whole.displayOffset + (fullLines before).length)
    (hstart : 0 ≤ report.span.start) :
    (report.shift (report.config.offsetUnit.measure before)).startNumber? whole =
      report.startNumber? part := by
  have hfound := hpart.lineAt?_add hstart report.config.offsetUnit
  simp only [Report.startNumber?, Report.shift, Span.shift, hfound, Option.map_map]
  congr 1
  funext position
  simp only [Function.comp_apply, Source.lineNumber, Position.moveAfter, hnumber]
  omega

theorem relabelled_shift (hpart : PartOf before part whole)
    (hnumber : part.displayOffset = whole.displayOffset + (fullLines before).length)
    (hstart : 0 ≤ report.span.start) (hlabels : ∀ label ∈ report.labels, 0 ≤ label.span.start) :
    Relabelled report part (report.shift (report.config.offsetUnit.measure before)) whole
      (fullLines before).length (Label.shift (report.config.offsetUnit.measure before))
      (Span.shift (report.config.offsetUnit.measure before)) where
  style := report.sameStyle_shift _
  labels := rfl
  drawLabel label hlabel :=
    drawLabel_moveDown rfl rfl rfl
      (projectLabel_shift hpart report.config (hlabels label hlabel))
  lineNumber line := by
    simp only [Source.lineNumber, hnumber]
    omega
  textAt line _ := hpart.textAt_add line
  startNumber? := startNumber?_shift hpart hnumber hstart

theorem locationReference_shift (hpart : PartOf before part whole)
    (hnumber : part.displayOffset = whole.displayOffset + (fullLines before).length)
    (hstart : 0 ≤ report.span.start) :
    locationReference (report.shift (report.config.offsetUnit.measure before)) whole =
      locationReference report part := by
  have hfound := hpart.lineAt?_add hstart report.config.offsetUnit
  simp only [locationReference, Report.shift, Span.shift, hfound]
  cases part.lineAt? report.span.start report.config.offsetUnit with
  | none => rfl
  | some position =>
      have hline : whole.lineNumber ((position.moveAfter before).index : Int) =
          part.lineNumber position.index := by
        simp only [Source.lineNumber, Position.moveAfter, hnumber]
        omega
      simp only [Option.map_some, hline]
      rfl

theorem length_lines_ofText (before : List Char) (hends : EndsLine before) :
    (Source.lines ⟨before, 0⟩).length = (fullLines before).length + 1 := by
  rw [Source.length_lines, Source.pieces, splitLines_eq_fullLines_append hends,
    List.length_append, List.length_singleton]

/-- A report on the text after some full lines is shown like the same report on the
whole text, if its offsets are moved by the length of those lines and its line numbers
by their count. -/
theorem render_shift [Platform] {text : List Char} {offset : Int} {cache wholeCache : Cache}
    (elideAfter : Int) (hends : EndsLine before) (hapart : ¬SharesTerminator before text)
    (hstart : 0 ≤ report.span.start) (hlabels : ∀ label ∈ report.labels, 0 ≤ label.span.start)
    (hpart : cache.fetch (sourceName report.span.source) =
      .ok ⟨text, offset + (Source.lines ⟨before, 0⟩).length - 1⟩)
    (hwhole : wholeCache.fetch (sourceName report.span.source) = .ok ⟨before ++ text, offset⟩) :
    let amount := Source.total ⟨before, 0⟩ report.config.offsetUnit
    let down := (Source.lines ⟨before, 0⟩).length - 1
    (report.config.tabWidth < Platform.memoryBound →
      Source.NumbersFit ⟨text, offset + (Source.lines ⟨before, 0⟩).length - 1⟩ →
      ∃ rendering, render report cache elideAfter = .ok rendering) ∧
      (∀ rendering, render report cache elideAfter = .ok rendering →
        render (report.shift amount) wholeCache elideAfter = .ok
          ⟨rendering.text,
            rendering.dropped.map (DroppedLabel.restate (Span.shift amount) down)⟩) ∧
      ∀ fault dropped, render report cache elideAfter = .error (.broken fault dropped) →
        render (report.shift amount) wholeCache elideAfter = .error
          (.broken fault (dropped.map (DroppedLabel.restate (Span.shift amount) down))) := by
  have hlines := length_lines_ofText before hends
  have hdown : (Source.lines ⟨before, 0⟩).length - 1 = (fullLines before).length := by omega
  have hsplit : PartOf before ⟨text, offset + (Source.lines ⟨before, 0⟩).length - 1⟩
      ⟨before ++ text, offset⟩ := ⟨rfl, hends, hapart⟩
  have hnumber : offset + ((Source.lines ⟨before, 0⟩).length : Int) - 1 =
      offset + (fullLines before).length := by omega
  have hmoved := relabelled_shift hsplit hnumber hstart hlabels
  have hrender := hmoved.render_eq elideAfter hpart hwhole
  have htext := hmoved.movedDown.text_eq (locationReference_shift hsplit hnumber hstart) elideAfter
  simp only [Source.total_eq_measure, hdown]
  refine ⟨?_, ?_, ?_⟩
  · intro hfits hnumbers
    exact ⟨_, render_of_no_fault hpart (firstFault?_eq_none hfits hnumbers) elideAfter⟩
  · intro rendering hok
    rw [hrender, hok, htext, eq_renderOver_of_render hpart hok]
  · intro fault dropped herror
    rw [hrender, herror]

/-! Two lines of a text that follow two others, shown from a line number below zero on. -/

def leadingLines : List Char := ['a', '\n', 'é', '\r']

def excerptText : List Char := ['\t', 'b', '\n', 'c']

def excerptCache : Cache := .ofList [("excerpt", ⟨excerptText, -7 + 3 - 1⟩)]

def completeCache : Cache := .ofList [("excerpt", ⟨leadingLines ++ excerptText, -7⟩)]

def excerptReport : Report where
  span := ⟨some "excerpt", 1, 2⟩
  labels := [
    { span := ⟨some "excerpt", 3, 9⟩, msg := some "past the end" },
    { span := ⟨some "excerpt", 3, 4⟩, msg := some "on the last line" },
    { span := ⟨some "excerpt", 0, 2⟩ }]

theorem render_shift_excerptReport :
    ∃ text dropped droppedShifted,
      render excerptReport excerptCache 2 = .ok ⟨text, dropped⟩ ∧
        render (excerptReport.shift 4) completeCache 2 = .ok ⟨text, droppedShifted⟩ := by
  have hends : EndsLine leadingLines := by
    intro c hc
    obtain rfl : '\r' = c := by simpa [leadingLines] using hc
    rfl
  have hapart : ¬SharesTerminator leadingLines excerptText := by
    simp [SharesTerminator, excerptText]
  have hstart : 0 ≤ excerptReport.span.start := by decide
  have hlabels : ∀ label ∈ excerptReport.labels, 0 ≤ label.span.start := by decide
  have hpart : excerptCache.fetch (sourceName excerptReport.span.source) =
      .ok ⟨excerptText, -7 + (Source.lines ⟨leadingLines, 0⟩).length - 1⟩ := rfl
  have hwhole : completeCache.fetch (sourceName excerptReport.span.source) =
      .ok ⟨leadingLines ++ excerptText, -7⟩ := rfl
  obtain ⟨hexists, hrender, -⟩ := render_shift 2 hends hapart hstart hlabels hpart hwhole
  have hnumbers :
      Source.NumbersFit ⟨excerptText, -7 + (Source.lines ⟨leadingLines, 0⟩).length - 1⟩ :=
    Source.numbersFit_of_isWord (by decide) (by decide)
  obtain ⟨rendering, hok⟩ := hexists (by decide) hnumbers
  exact ⟨_, _, _, hok, hrender rendering hok⟩

end Diagnostics
