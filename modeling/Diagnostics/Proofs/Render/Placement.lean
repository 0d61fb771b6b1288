import Diagnostics.Proofs.Except
import Diagnostics.Proofs.Source.Lookup

/-!
# Which labels are drawn, and where

A label is drawn if it is on the source of the report, within its text, and no line
starts behind its start and up to the last offset that it covers. All offsets that it
covers are then on the line on which it is drawn.
-/

namespace Diagnostics

theorem Span.start_le_lastOffset (span : Span) : span.start ≤ span.lastOffset :=
  Int.le_max_right _ _

variable {config : Config} {report : Report} {source : Source} {label : Label}
variable {drawn : DrawnLabel}

/-- A label is placed if both of its ends are found on one line. -/
theorem projectLabel_eq_ok_iff :
    projectLabel config source label = .ok drawn ↔
      ∃ first last, source.lineAt? label.span.start config.offsetUnit = some first ∧
        source.lineAt? label.span.lastOffset config.offsetUnit = some last ∧
        first.index = last.index ∧ placeLabel config source label first = drawn := by
  rw [projectLabel]
  cases source.lineAt? label.span.start config.offsetUnit with
  | none => simp
  | some first =>
      cases source.lineAt? label.span.lastOffset config.offsetUnit with
      | none => simp
      | some last =>
          by_cases hindex : first.index = last.index
          · simp [hindex]
          · simp [hindex]

theorem drawLabel_eq_ok_iff :
    drawLabel report source label = .ok drawn ↔
      label.span.source = report.span.source ∧
        projectLabel report.config source label = .ok drawn := by
  rw [drawLabel]
  by_cases hsource : label.span.source = report.span.source
  · rw [if_pos hsource, mapError_eq_ok_iff]
    exact (and_iff_right hsource).symm
  · rw [if_neg hsource]
    exact ⟨nofun, fun hdrawn => absurd hdrawn.1 hsource⟩

/-- Whatever a label is dropped for, it is named by its span. -/
theorem span_of_drawLabel {entry : DroppedLabel}
    (hdropped : drawLabel report source label = .error entry) : entry.span = label.span := by
  rw [drawLabel] at hdropped
  split at hdropped
  · obtain ⟨reason, -, rfl⟩ := mapError_eq_error_iff.mp hdropped
    rfl
  · rw [← Except.error.inj hdropped]

theorem mem_drawnLabels :
    drawn ∈ drawnLabels report source ↔
      ∃ label ∈ report.labels, drawLabel report source label = .ok drawn := by
  rw [drawnLabels, List.mem_filterMap]
  apply exists_congr
  intro label
  cases drawLabel report source label <;> simp [Except.toOption]

/-- The lookup of the start of a drawn label, which fixes its place. -/
theorem exists_lineAt?_of_drawLabel (hdrawn : drawLabel report source label = .ok drawn) :
    ∃ first, source.lineAt? label.span.start report.config.offsetUnit = some first ∧
      placeLabel report.config source label first = drawn := by
  obtain ⟨-, hproject⟩ := drawLabel_eq_ok_iff.mp hdrawn
  obtain ⟨first, last, hfirst, -, -, hplace⟩ := projectLabel_eq_ok_iff.mp hproject
  exact ⟨first, hfirst, hplace⟩

theorem drawLabel_line_lt (hdrawn : drawLabel report source label = .ok drawn) :
    drawn.line < source.lines.length := by
  obtain ⟨first, hfirst, rfl⟩ := exists_lineAt?_of_drawLabel hdrawn
  rw [Source.lineAt?_eq_some_iff] at hfirst
  exact (List.getElem?_eq_some_iff.mp hfirst.2.2.1).1

/-- A drawn label is drawn with its own message and at its own place in the order. -/
theorem msg_and_order_of_drawLabel (hdrawn : drawLabel report source label = .ok drawn) :
    drawn.msg = label.msg ∧ drawn.order = label.order := by
  obtain ⟨first, -, rfl⟩ := exists_lineAt?_of_drawLabel hdrawn
  exact ⟨rfl, rfl⟩

/-- Every offset that a drawn label covers is on the line on which it is drawn. -/
theorem lineAt?_of_drawLabel (hdrawn : drawLabel report source label = .ok drawn) {offset : Int}
    (hstart : label.span.start ≤ offset) (hlast : offset ≤ label.span.lastOffset) :
    ∃ position, source.lineAt? offset report.config.offsetUnit = some position ∧
      position.index = drawn.line := by
  obtain ⟨-, hproject⟩ := drawLabel_eq_ok_iff.mp hdrawn
  obtain ⟨first, last, hfirst, hfinal, hsame, rfl⟩ := projectLabel_eq_ok_iff.mp hproject
  rw [Source.lineAt?_eq_some_iff] at hfirst hfinal
  obtain ⟨position, hposition⟩ := source.exists_lineAt? report.config.offsetUnit
    (Int.le_trans hfirst.1.1 hstart) (Int.le_trans hlast hfinal.1.2)
  have hindex := ((source.lineAt?_eq_some_iff _ offset position).mp hposition).2.1
  have hafter := source.indexAt_mono report.config.offsetUnit hstart
  have hbefore := source.indexAt_mono report.config.offsetUnit hlast
  refine ⟨position, hposition, Nat.le_antisymm ?_ ?_⟩
  · calc
      position.index = source.indexAt offset report.config.offsetUnit := hindex
      _ ≤ source.indexAt label.span.lastOffset report.config.offsetUnit := hbefore
      _ = last.index := hfinal.2.1.symm
      _ = first.index := hsame.symm
  · calc
      first.index = source.indexAt label.span.start report.config.offsetUnit := hfirst.2.1
      _ ≤ source.indexAt offset report.config.offsetUnit := hafter
      _ = position.index := hindex.symm

theorem exists_projectLabel_iff :
    (∃ drawn, projectLabel config source label = .ok drawn) ↔
      0 ≤ label.span.start ∧ label.span.start ≤ source.total config.offsetUnit ∧
        label.span.lastOffset ≤ source.total config.offsetUnit ∧
        ∀ line ∈ source.lines, ¬(label.span.start < line.start config.offsetUnit ∧
          line.start config.offsetUnit ≤ label.span.lastOffset) := by
  have hle := label.span.start_le_lastOffset
  constructor
  · rintro ⟨drawn, hdrawn⟩
    obtain ⟨first, last, hfirst, hlast, hsame, -⟩ := projectLabel_eq_ok_iff.mp hdrawn
    rw [Source.lineAt?_eq_some_iff] at hfirst hlast
    refine ⟨hfirst.1.1, hfirst.1.2, hlast.1.2, ?_⟩
    rw [← source.indexAt_eq_indexAt_iff config.offsetUnit hfirst.1.1 hle, ← hfirst.2.1, hsame,
      hlast.2.1]
  · rintro ⟨hnonneg, hstart, hlast, hapart⟩
    rw [← source.indexAt_eq_indexAt_iff config.offsetUnit hnonneg hle] at hapart
    obtain ⟨first, hfirst⟩ := source.exists_lineAt? config.offsetUnit hnonneg hstart
    obtain ⟨last, hfinal⟩ := source.exists_lineAt? config.offsetUnit
      (Int.le_trans hnonneg hle) hlast
    refine ⟨_, projectLabel_eq_ok_iff.mpr ⟨first, last, hfirst, hfinal, ?_, rfl⟩⟩
    rw [Source.lineAt?_eq_some_iff] at hfirst hfinal
    rw [hfirst.2.1, hfinal.2.1, hapart]

/-- A label is drawn if and only if it is on the source of the report, its ends are
within the text, and no line starts between them. -/
theorem exists_drawLabel_iff :
    (∃ drawn, drawLabel report source label = .ok drawn) ↔
      label.span.source = report.span.source ∧
        0 ≤ label.span.start ∧ label.span.start ≤ source.total report.config.offsetUnit ∧
        label.span.lastOffset ≤ source.total report.config.offsetUnit ∧
        ∀ line ∈ source.lines, ¬(label.span.start < line.start report.config.offsetUnit ∧
          line.start report.config.offsetUnit ≤ label.span.lastOffset) := by
  rw [← exists_projectLabel_iff]
  constructor
  · rintro ⟨drawn, hdrawn⟩
    obtain ⟨hsource, hproject⟩ := drawLabel_eq_ok_iff.mp hdrawn
    exact ⟨hsource, drawn, hproject⟩
  · rintro ⟨hsource, drawn, hproject⟩
    exact ⟨drawn, drawLabel_eq_ok_iff.mpr ⟨hsource, hproject⟩⟩

end Diagnostics
