import Diagnostics.Proofs.Render.Layout
import Diagnostics.Proofs.Render.Redrawn
import Diagnostics.Proofs.Source.Tabulation
import Diagnostics.Usual

/-!
# Lines without labels

Which labels are drawn, and on which lines, is decided by the line table alone. The text
of a line is read only where a label is drawn on it. Two sources that agree in their line
tables, in the numbers of their lines and in the text of every labelled line can therefore
not be told apart by rendering a report, whatever else they hold.
-/

namespace Diagnostics

/-- Sources with one line table that show their lines under the same numbers. -/
structure Source.SameTable (source target : Source) : Prop where
  lines : target.lines = source.lines
  displayOffset : target.displayOffset = source.displayOffset

namespace Source.SameTable

variable {source target : Source} (hsame : source.SameTable target)
include hsame

theorem total_eq (unit : OffsetUnit) : target.total unit = source.total unit := by
  rw [total_eq_sum_map_length, total_eq_sum_map_length, hsame.lines]

theorem lineAt?_eq (offset : Int) (unit : OffsetUnit) :
    target.lineAt? offset unit = source.lineAt? offset unit := by
  rw [lineAt?, lineAt?, indexAt, indexAt, hsame.total_eq, hsame.lines]

theorem lineNumber_eq (index : Int) : target.lineNumber index = source.lineNumber index := by
  rw [lineNumber, lineNumber, hsame.displayOffset]

theorem locationReference_eq (report : Report) :
    locationReference report target = locationReference report source := by
  simp only [locationReference, hsame.lineAt?_eq, hsame.lineNumber_eq]

/-- To place a label, no text is read but that of its line. -/
theorem placeLabel_eq (config : Config) (label : Label) {first : Position}
    (hline : source.lines[first.index]? = some first.line)
    (htext : target.textAt first.index = source.textAt first.index) :
    placeLabel config target label first = placeLabel config source label first := by
  have htarget : target.lines[first.index]? = some first.line := by rw [hsame.lines, hline]
  simp only [placeLabel, source.charColumn_of_mem hline, target.charColumn_of_mem htarget, htext]

/-- The line on which a label would be drawn is known before any text is read. -/
theorem projectLabel_eq {config : Config} {label : Label}
    (htext : ∀ drawn, projectLabel config source label = .ok drawn →
      target.textAt drawn.line = source.textAt drawn.line) :
    projectLabel config target label = projectLabel config source label := by
  rw [projectLabel] at htext
  rw [projectLabel, projectLabel, hsame.lineAt?_eq, hsame.lineAt?_eq]
  cases hfirst : source.lineAt? label.span.start config.offsetUnit with
  | none => rfl
  | some first =>
      cases hlast : source.lineAt? label.span.lastOffset config.offsetUnit with
      | none => rfl
      | some last =>
          rw [hfirst, hlast] at htext
          dsimp only at htext ⊢
          split
          case isFalse => rfl
          case isTrue hindex =>
            rw [if_pos hindex] at htext
            have hline := ((source.lineAt?_eq_some_iff _ _ first).mp hfirst).2.2.1
            rw [hsame.placeLabel_eq config label hline (htext _ rfl)]

theorem drawLabel_eq {report : Report} {label : Label}
    (htext : ∀ drawn, drawLabel report source label = .ok drawn →
      target.textAt drawn.line = source.textAt drawn.line) :
    drawLabel report target label = drawLabel report source label := by
  rw [drawLabel, drawLabel]
  split
  case isFalse => rfl
  case isTrue hon =>
    rw [hsame.projectLabel_eq fun drawn hdrawn =>
      htext drawn (drawLabel_eq_ok_iff.mpr ⟨hon, hdrawn⟩)]

end Source.SameTable

section LabelledLines

variable {report : Report} {source target : Source} (hsame : source.SameTable target)
variable (htext : ∀ line ∈ labelledLines (drawnLabels report source),
  target.textAt line = source.textAt line)
include hsame htext

theorem redrawn_of_sameTable : Redrawn report source report target id id id := by
  have hline : ∀ label ∈ report.labels, ∀ drawn, drawLabel report source label = .ok drawn →
      target.textAt drawn.line = source.textAt drawn.line := by
    intro label hlabel drawn hdrawn
    have hmem := mem_drawnLabels.mpr ⟨label, hlabel, hdrawn⟩
    exact htext drawn.line (mem_labelledLines.mpr ⟨drawn, hmem, rfl⟩)
  have hstart : report.startNumber? target = report.startNumber? source := by
    simp only [Report.startNumber?, hsame.lineAt?_eq, hsame.lineNumber_eq]
  refine ⟨(List.map_id report.labels).symm, ?_, rfl, ?_,
    fun drawn => hsame.lineNumber_eq drawn.line, hstart⟩
  · intro label hlabel
    rw [id_eq, hsame.drawLabel_eq (hline label hlabel)]
    cases drawLabel report source label <;> rfl
  · intro drawn hdrawn
    exact htext drawn.line (mem_labelledLines.mpr ⟨drawn, hdrawn, rfl⟩)

theorem movedDown_of_sameTable : MovedDown report source report target 0 where
  style := ⟨rfl, rfl, rfl, rfl, rfl, rfl, rfl, rfl, rfl⟩
  drawn := (redrawn_of_sameTable hsame htext).drawnLabels_eq
  lineNumber line := hsame.lineNumber_eq line
  textAt drawn hdrawn := htext drawn.line (mem_labelledLines.mpr ⟨drawn, hdrawn, rfl⟩)

/-- Sources with one line table, and with the same text on every line on which a label is
drawn, give the same rendering: the text, what is said of the dropped labels, and how it
breaks off if it does. The other lines may hold anything. -/
theorem render_eq_of_labelled_lines [Platform] {cache other : Cache}
    (hfetch : cache.fetch (sourceName report.span.source) = .ok source)
    (htarget : other.fetch (sourceName report.span.source) = .ok target) (elideAfter : Int) :
    render report other elideAfter = render report cache elideAfter ∧
      drawnLabels report target = drawnLabels report source ∧
      droppedLabels report target = droppedLabels report source := by
  have hredrawn := redrawn_of_sameTable hsame htext
  have htexts := (movedDown_of_sameTable hsame htext).text_eq (hsame.locationReference_eq report)
    elideAfter
  refine ⟨?_, ?_, ?_⟩
  · rw [hredrawn.render_eq elideAfter hfetch htarget, htexts]
    cases hfault : firstFault? report source with
    | some fault => simp [render_of_fault hfetch hfault]
    | none =>
        rw [render_of_no_fault hfetch hfault]
        simp
  · simpa using hredrawn.drawnLabels_eq
  · simpa using hredrawn.droppedLabels_eq

end LabelledLines

/-! Two sources of which only the middle line is labelled, from within a character on. The
label that reaches over their first lines is dropped. -/

def veiledSource (first last : String) : Source :=
  { Source.ofString (first ++ "\naü\tb\n" ++ last) with displayOffset := 7 }

def veiledCache (first last : String) : Cache :=
  .ofList [("veil", veiledSource first last)]

def veiledReport : Report where
  span := ⟨some "veil", 2, 3⟩
  labels :=
    [{ span := ⟨some "veil", 6, 8⟩, msg := some "seen" },
      { span := ⟨some "veil", 1, 6⟩ },
      { span := ⟨some "veil", 90, 91⟩ },
      { span := ⟨none, 0, 1⟩ }]
  config := { Config.default with offsetUnit := .byte }

theorem render_veiledReport :
    veiledSource "né" "no" ≠ veiledSource "én" "so" ∧
      ∃ rendering, render veiledReport (veiledCache "né" "no") 2 = .ok rendering ∧
        render veiledReport (veiledCache "én" "so") 2 = .ok rendering ∧
        rendering.dropped.map DroppedLabel.message =
          ["dropping label veil:1..6: spans lines 0-1",
            "dropping label veil:90..91: offset outside source",
            "dropping label <unknown>:0..1: not on source veil"] := by
  have hsame : (veiledSource "né" "no").SameTable (veiledSource "én" "so") :=
    ⟨by decide +kernel, rfl⟩
  have htext : ∀ line ∈ labelledLines (drawnLabels veiledReport (veiledSource "né" "no")),
      (veiledSource "én" "so").textAt line = (veiledSource "né" "no").textAt line := by
    decide +kernel
  have hfetch : (veiledCache "né" "no").fetch (sourceName veiledReport.span.source) =
      .ok (veiledSource "né" "no") := rfl
  have hnumbers : (veiledSource "né" "no").NumbersFit :=
    Source.numbersFit_of_isWord (by decide) (by decide +kernel)
  have hrender := render_of_no_fault hfetch (firstFault?_eq_none (by decide) hnumbers) 2
  have htarget : (veiledCache "én" "so").fetch (sourceName veiledReport.span.source) =
      .ok (veiledSource "én" "so") := rfl
  obtain ⟨hequal, -⟩ := render_eq_of_labelled_lines hsame htext hfetch htarget 2
  exact ⟨by decide +kernel, _, hrender, hequal.trans hrender, by decide +kernel⟩

end Diagnostics
