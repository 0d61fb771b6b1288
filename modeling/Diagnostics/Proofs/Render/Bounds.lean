import Diagnostics.Proofs.Render.Placement
import Diagnostics.Proofs.Source.Bisection
import Diagnostics.Render.Basic

/-!
# Accesses within bounds

Rendering reads the line table at what a bisection finds, column maps at character
columns, and underlines at the place of their marker. The indices are computed as signed
numbers. None of them is negative, none is past the end, and the value found there is the
one that is used.
-/

namespace Diagnostics

/-- The signed index is that of an item of the list, and the item is `value`. -/
def IsItemAt (items : List α) (index : Int) (value : α) : Prop :=
  0 ≤ index ∧ items[index.toNat]? = some value

/-- Where the column map of a line is read for an offset on the line. -/
def columnIndex (source : Source) (unit : OffsetUnit) (line : Line) (map : List Int)
    (offset : Int) : Int :=
  min (source.charColumn line (offset - line.start unit) unit) (map.length - 1)

/-- Every access that rendering the report over the source makes is within bounds. -/
structure InBounds (report : Report) (source : Source) : Prop where
  /-- The distance between tab stops, which columns are divided by. -/
  tabWidth : report.config.tabWidth ≠ 0
  /-- The line table at what bisecting for an offset within the text finds. -/
  lookup : ∀ unit offset, 0 ≤ offset → offset ≤ source.total unit →
    ∃ position, source.lineAt? offset unit = some position ∧
      IsItemAt source.lines (source.lines.countP (fun line => line.start unit ≤ offset) - 1)
        position.line
  /-- The line table at what bisecting for the start of a line finds. -/
  record : ∀ line ∈ source.lines,
    IsItemAt source.lines (source.lines.countP (fun other => other.offset ≤ line.offset) - 1) line
  /-- The text of the line of a drawn label. -/
  text : ∀ drawn ∈ drawnLabels report source,
    IsItemAt source.pieces drawn.line (source.textAt drawn.line)
  /-- The column map at the start and at the end of a drawn label. -/
  column : ∀ label ∈ report.labels, ∀ drawn, drawLabel report source label = .ok drawn →
    ∃ position stop,
      source.lineAt? label.span.start report.config.offsetUnit = some position ∧
      let map := columns report.config.tabWidth (source.textAt drawn.line)
      let index := columnIndex source report.config.offsetUnit position.line map
      IsItemAt map (index label.span.start) drawn.startColumn ∧
        IsItemAt map (index label.span.stop) stop ∧
        drawn.stopColumn = max (drawn.startColumn + 1) stop
  /-- The underline of a drawn label at its marker. -/
  marker : ∀ drawn ∈ drawnLabels report source,
    IsItemAt ((penOf report source).underlineGlyphs drawn)
      (max 0 (min (drawn.stopColumn - drawn.startColumn - 1)
        (drawn.attachColumn - drawn.startColumn)))
      report.config.charSet.glyphs.middleUnderbar

theorem isItemAt_natCast {items : List α} {index : Nat} {value : α} :
    IsItemAt items index value ↔ items[index]? = some value := by
  simp [IsItemAt]

theorem isItemAt_columnAt {map : List Int} (hne : map ≠ []) {charColumn : Int}
    (hnonneg : 0 ≤ charColumn) :
    IsItemAt map (min charColumn (map.length - 1)) (columnAt map charColumn) := by
  have hlength := List.length_pos_iff.mpr hne
  have hlt : (min charColumn (map.length - 1 : Int)).toNat < map.length := by omega
  refine ⟨by omega, ?_⟩
  rw [columnAt, List.getD_eq_getElem?_getD, List.getElem?_eq_getElem hlt, Option.getD_some]

theorem isItemAt_markedBar {length index : Int} (hpos : 0 < length) (bar marker : α) :
    IsItemAt (markedBar length index bar marker) (max 0 (min (length - 1) index)) marker := by
  refine ⟨by omega, ?_⟩
  rw [markedBar, List.getElem?_set_self]
  rw [List.length_replicate]
  omega

theorem Source.charColumn_nonneg (source : Source) (line : Line) (column : Int)
    (unit : OffsetUnit) : 0 ≤ source.charColumn line column unit := by
  cases unit with
  | char => exact Int.le_max_left _ _
  | byte => exact Int.natCast_nonneg _

variable {report : Report} {source : Source} {label : Label} {drawn : DrawnLabel}

theorem columns_ne_nil (tabWidth : Int) (text : List Char) : columns tabWidth text ≠ [] := by
  cases text <;> exact List.cons_ne_nil _ _

theorem startColumn_lt_stopColumn (hdrawn : drawLabel report source label = .ok drawn) :
    drawn.startColumn < drawn.stopColumn := by
  obtain ⟨position, -, rfl⟩ := exists_lineAt?_of_drawLabel hdrawn
  exact Int.lt_of_add_one_le (Int.le_max_left _ _)

theorem isItemAt_lookup {unit : OffsetUnit} {offset : Int} {position : Position}
    (hposition : source.lineAt? offset unit = some position) :
    IsItemAt source.lines (source.lines.countP (fun line => line.start unit ≤ offset) - 1)
      position.line := by
  obtain ⟨⟨hnonneg, -⟩, hindex, hline, -⟩ :=
    (source.lineAt?_eq_some_iff unit offset position).mp hposition
  have hpos := source.countP_start_pos unit hnonneg
  have hcount : (source.lines.countP (fun line => line.start unit ≤ offset) - 1 : Int) =
      position.index := by
    rw [hindex, Source.indexAt]
    omega
  rwa [hcount, isItemAt_natCast]

theorem isItemAt_record {line : Line} (hmem : line ∈ source.lines) :
    IsItemAt source.lines (source.lines.countP (fun other => other.offset ≤ line.offset) - 1)
      line := by
  obtain ⟨index, hline⟩ := List.mem_iff_getElem?.mp hmem
  have hcount := source.countP_start_of_line .char hline
  have hindex : (source.lines.countP (fun other => other.offset ≤ line.offset) - 1 : Int) =
      index := by
    change ((source.lines.countP fun other => other.start .char ≤ line.start .char : Nat) : Int)
      - 1 = index
    omega
  rwa [hindex, isItemAt_natCast]

theorem inBounds (report : Report) (source : Source) : InBounds report source where
  tabWidth := Int.ne_of_gt report.config.tabWidth_pos
  lookup unit offset hnonneg hle := by
    obtain ⟨position, hposition⟩ := source.exists_lineAt? unit hnonneg hle
    exact ⟨position, hposition, isItemAt_lookup hposition⟩
  record line hmem := isItemAt_record hmem
  text drawn hmem := by
    obtain ⟨label, -, hdrawn⟩ := mem_drawnLabels.mp hmem
    have hlt := drawLabel_line_lt hdrawn
    rw [source.length_lines] at hlt
    rw [isItemAt_natCast, Source.textAt, List.getElem?_eq_getElem hlt, Option.getD_some]
  column label _ drawn hdrawn := by
    obtain ⟨position, hposition, rfl⟩ := exists_lineAt?_of_drawLabel hdrawn
    have hcolumn := ((source.lineAt?_eq_some_iff _ _ position).mp hposition).2.2.2
    have hne := columns_ne_nil report.config.tabWidth (source.textAt position.index)
    have hread := fun column => isItemAt_columnAt hne
      (source.charColumn_nonneg position.line column report.config.offsetUnit)
    refine ⟨position, _, hposition, ?_, hread _, rfl⟩
    rw [columnIndex, ← hcolumn]
    exact hread position.column
  marker drawn hmem := by
    obtain ⟨label, -, hdrawn⟩ := mem_drawnLabels.mp hmem
    exact isItemAt_markedBar (Int.sub_pos_of_lt (startColumn_lt_stopColumn hdrawn)) _ _

end Diagnostics
