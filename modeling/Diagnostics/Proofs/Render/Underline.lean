import Mathlib.Order.Bounds.Basic
import Diagnostics.Proofs.Render.Expansion
import Diagnostics.Proofs.Render.Margin
import Diagnostics.Proofs.Render.Relabelled
import Diagnostics.Proofs.Source.Bisection
import Diagnostics.Usual

/-!
# Underlines

A label is underlined below the cells that its characters take in the source row, tabs
and all, and its arrow leaves the underline at one of these cells. A label that takes no
cell is underlined as if it took one.
-/

namespace Diagnostics

/-! ### Characters -/

/-- `count` is the least number of characters of the line `text` that reach `offset`, or
the number of all of them if they do not reach it. -/
def IsCharColumn (unit : OffsetUnit) (before text : List Char) (offset : Int)
    (count : Nat) : Prop :=
  IsLeast
    {count | text.length ≤ count ∨ offset ≤ unit.measure (before ++ text.take count)} count

/-- The number of characters of the line `text` before the first one at or after
`offset`. -/
def OffsetUnit.charsUpTo (unit : OffsetUnit) (before text : List Char) (offset : Int) : Nat :=
  unit.charsBefore (offset - unit.measure before) text

theorem OffsetUnit.charsUpTo_le_length (unit : OffsetUnit) (before text : List Char)
    (offset : Int) : unit.charsUpTo before text offset ≤ text.length :=
  unit.charsBefore_le_length _ text

theorem OffsetUnit.charsUpTo_mono (unit : OffsetUnit) (before text : List Char)
    {offset later : Int} (hle : offset ≤ later) :
    unit.charsUpTo before text offset ≤ unit.charsUpTo before text later :=
  unit.charsBefore_mono text (Int.sub_le_sub_right hle _)

theorem isCharColumn_charsUpTo (unit : OffsetUnit) (before text : List Char) (offset : Int) :
    IsCharColumn unit before text offset (unit.charsUpTo before text offset) := by
  have hset : {count | text.length ≤ count ∨ offset ≤ unit.measure (before ++ text.take count)} =
      Set.Ici (unit.charsUpTo before text offset) := by
    ext count
    rw [Set.mem_ofPred_eq, Set.mem_Ici, OffsetUnit.charsUpTo, OffsetUnit.charsBefore_le_iff,
      OffsetUnit.measure_append]
    omega
  rw [IsCharColumn, hset]
  exact isLeast_Ici

/-- The display column of an offset on its line is the length of the expanded text
before it. -/
theorem columnAt_charColumn {source : Source} {index : Nat} {line : Line} {tabWidth : Int}
    (hpos : 0 < tabWidth) (hline : source.lines[index]? = some line) (unit : OffsetUnit)
    (offset : Int) :
    columnAt (columns tabWidth (source.textAt index))
        (source.charColumn line (offset - line.start unit) unit) =
      (expand tabWidth ((source.textAt index).take
        (unit.charsUpTo (source.textBefore index) (source.textAt index) offset))).length := by
  have hstart : line.start unit = unit.measure (source.textBefore index) := by
    rw [source.getElem?_lines_eq_some hline, Line.start_after]
  rw [source.charColumn_of_mem hline, hstart]
  exact columnAt_columns hpos _ (unit.charsUpTo_le_length _ _ offset)

/-! ### Cells -/

/-- The cell at which the arrow leaves an underline of `length` cells from the cell
`left` on. -/
def Attach.cell (attach : Attach) (left length : Nat) : Nat :=
  match attach with
  | .start => left
  | .middle => (left + (left + length)) / 2
  | .stop => left + length - 1

theorem Attach.cell_mem (attach : Attach) (left : Nat) {length : Nat} (hpos : 0 < length) :
    left ≤ attach.cell left length ∧ attach.cell left length < left + length := by
  cases attach <;> simp only [cell] <;> omega

theorem attachColumn_eq_cell (attach : Attach) (left : Nat) {length : Nat} (hpos : 0 < length) :
    attachColumn left (left + length) attach = attach.cell left length := by
  have hmiddle : ((left : Int) + (left + length)).fdiv 2 = (left + (left + length)) / 2 :=
    Int.fdiv_eq_ediv_of_nonneg _ (by decide)
  cases attach <;>
    simp only [attachColumn, Attach.preferred, lastColumn, Attach.cell, hmiddle] <;> omega

theorem markedBar_of_lt (bar marker : α) {length index : Nat} (hlt : index < length) :
    markedBar (length : Int) (index : Int) bar marker =
      (List.replicate length bar).set index marker := by
  have hindex : (max 0 (min ((length : Int) - 1) index)).toNat = index := by omega
  rw [markedBar, hindex, Int.toNat_natCast]

variable {report : Report} {source : Source} {label : Label} {drawn : DrawnLabel}

/-- A drawn label stands below the characters `first` to `stop` of its line, which take
the cells `left` to `right`. -/
structure StandsBelow (report : Report) (source : Source) (label : Label) (drawn : DrawnLabel)
    (first stop left right : Nat) : Prop where
  onLine : ∃ position, source.lineAt? label.span.start report.config.offsetUnit = some position ∧
    position.index = drawn.line
  isFirst : IsCharColumn report.config.offsetUnit (source.textBefore drawn.line)
    (source.textAt drawn.line) label.span.start first
  isStop : IsCharColumn report.config.offsetUnit (source.textBefore drawn.line)
    (source.textAt drawn.line) label.span.stop stop
  isLeft : (columns report.config.tabWidth (source.textAt drawn.line))[first]? = some (left : Int)
  isRight : (columns report.config.tabWidth (source.textAt drawn.line))[stop]? = some (right : Int)
  left_le_right : left ≤ right
  covered : ((expand report.config.tabWidth (source.textAt drawn.line)).drop left).take
      (right - left) =
    expandFrom report.config.tabWidth left (((source.textAt drawn.line).take stop).drop first)

/-- The cells between two columns hold the expansion of the characters between them. -/
theorem take_drop_expand {tabWidth : Int} (hpos : 0 < tabWidth) (text : List Char)
    {first stop : Nat} (hle : first ≤ stop) :
    ((expand tabWidth text).drop (expand tabWidth (text.take first)).length).take
        ((expand tabWidth (text.take stop)).length - (expand tabWidth (text.take first)).length) =
      expandFrom tabWidth (expand tabWidth (text.take first)).length
        ((text.take stop).drop first) := by
  have htake : (text.take stop).take first = text.take first := by
    rw [List.take_take, Nat.min_eq_left hle]
  have happend := expandFrom_append hpos 0 (text.take first) ((text.take stop).drop first)
  rw [← htake, List.take_append_drop, htake, Int.zero_add] at happend
  calc
    ((expand tabWidth text).drop (expand tabWidth (text.take first)).length).take
        ((expand tabWidth (text.take stop)).length - (expand tabWidth (text.take first)).length)
      = ((expand tabWidth text).take (expand tabWidth (text.take stop)).length).drop
          (expand tabWidth (text.take first)).length := by
        rw [List.take_drop, Nat.add_sub_cancel' (length_expand_take_mono hpos text hle)]
    _ = (expand tabWidth (text.take stop)).drop (expand tabWidth (text.take first)).length := by
        rw [← expand_take hpos]
    _ = expandFrom tabWidth (expand tabWidth (text.take first)).length
          ((text.take stop).drop first) := by
        rw [expand, expand, happend, List.drop_left]

theorem columns_placeLabel {position : Position}
    (hposition : source.lineAt? label.span.start report.config.offsetUnit = some position) :
    let text := source.textAt position.index
    let chars := report.config.offsetUnit.charsUpTo (source.textBefore position.index) text
    let drawn := placeLabel report.config source label position
    drawn.startColumn =
        (expand report.config.tabWidth (text.take (chars label.span.start))).length ∧
      drawn.stopColumn = max (drawn.startColumn + 1)
        (expand report.config.tabWidth (text.take (chars label.span.stop))).length ∧
      drawn.attachColumn =
        attachColumn drawn.startColumn drawn.stopColumn report.config.labelAttach := by
  rw [Source.lineAt?_eq_some_iff] at hposition
  obtain ⟨-, -, hline, hcolumn⟩ := hposition
  have hpos : 0 < report.config.tabWidth := report.config.tabWidth_pos
  refine ⟨?_, ?_, rfl⟩
  · rw [← columnAt_charColumn hpos hline, ← hcolumn]
    rfl
  · rw [← columnAt_charColumn hpos hline]
    rfl

/-- The columns of a drawn label are the cells of its characters, but at least one. -/
theorem exists_standsBelow (hdrawn : drawLabel report source label = .ok drawn) :
    ∃ first stop left right, StandsBelow report source label drawn first stop left right ∧
      drawn.startColumn = left ∧
      drawn.stopColumn = (left : Int) + (max 1 (right - left) : Nat) ∧
      drawn.attachColumn = report.config.labelAttach.cell left (max 1 (right - left)) := by
  obtain ⟨position, hposition, rfl⟩ := exists_lineAt?_of_drawLabel hdrawn
  obtain ⟨hstart, hstop, hattach⟩ := columns_placeLabel hposition
  have hpos : 0 < report.config.tabWidth := report.config.tabWidth_pos
  have hle := report.config.offsetUnit.charsUpTo_mono (source.textBefore position.index)
    (source.textAt position.index) label.start_le_stop
  have hmono := length_expand_take_mono hpos (source.textAt position.index) hle
  have hcells : ∀ left right : Nat, left ≤ right →
      max ((left : Int) + 1) right = left + (max 1 (right - left) : Nat) := by omega
  rw [hstart, hcells _ _ hmono] at hstop
  refine ⟨report.config.offsetUnit.charsUpTo (source.textBefore position.index)
      (source.textAt position.index) label.span.start,
    report.config.offsetUnit.charsUpTo (source.textBefore position.index)
      (source.textAt position.index) label.span.stop, _, _, ?_, hstart, hstop, ?_⟩
  · exact
      { onLine := ⟨position, hposition, rfl⟩
        isFirst := isCharColumn_charsUpTo _ _ _ _
        isStop := isCharColumn_charsUpTo _ _ _ _
        isLeft := getElem?_columns hpos _ (OffsetUnit.charsUpTo_le_length _ _ _ _)
        isRight := getElem?_columns hpos _ (OffsetUnit.charsUpTo_le_length _ _ _ _)
        left_le_right := hmono
        covered := take_drop_expand hpos _ hle }
  · rw [hattach, hstart, hstop]
    exact attachColumn_eq_cell _ _ (Nat.le_max_left 1 _)

/-! ### Rows -/

theorem color_of_drawLabel (hcolor : report.config.color = false)
    (hdrawn : drawLabel report source label = .ok drawn) : drawn.color = none := by
  obtain ⟨position, -, rfl⟩ := exists_lineAt?_of_drawLabel hdrawn
  rw [placeLabel, hcolor]
  rfl

variable {pen : Pen} {left length attach : Nat}

theorem rowText_underline_cells (hplain : pen.colored = false) (hnone : drawn.color = none)
    (hstart : drawn.startColumn = left) (hstop : drawn.stopColumn = (left : Int) + length)
    (hattach : drawn.attachColumn = attach) (hle : left ≤ attach) (hlt : attach < left + length) :
    pen.rowText (.underline drawn) =
      List.replicate (pen.width + 1) ' ' ++ pen.glyphs.verticalBar :: ' ' ::
        (List.replicate left ' ' ++
          (List.replicate length pen.glyphs.underline).set (attach - left)
            pen.glyphs.middleUnderbar) := by
  have hlength : drawn.stopColumn - drawn.startColumn = length := by omega
  have hindex : drawn.attachColumn - drawn.startColumn = (attach - left : Nat) := by omega
  rw [Pen.rowText_underline hplain, hnone, paint_none, Pen.underlineGlyphs, hlength, hindex,
    markedBar_of_lt _ _ (by omega), hstart, Int.toNat_natCast]

theorem rowText_arrow_cells (hplain : pen.colored = false) (hnone : drawn.color = none)
    (hattach : drawn.attachColumn = attach) (msg : String) :
    pen.rowText (.arrow drawn msg) =
      List.replicate (pen.width + 1) ' ' ++ pen.glyphs.verticalBar :: ' ' ::
        (List.replicate attach ' ' ++ pen.glyphs.leftBottom ::
          List.replicate (max 1 (25 - attach - 1)) pen.glyphs.horizontalBar ++
            ' ' :: msg.toList) := by
  have htail : (max 1 (messageColumn - attach - 1)).toNat = max 1 (25 - attach - 1) := by
    rw [messageColumn]
    omega
  rw [Pen.rowText_arrow hplain, hnone, paint_none, Pen.arrowGlyphs, hattach, htail,
    Int.toNat_natCast]

/-- Without colours and with escape sequences left in, every source row and label row
has the bar in the same cell, and every drawn label is underlined below the cells of its
characters, with its arrow at the cell that the configuration asks for. -/
theorem render_underlines [Platform] {cache : Cache} (elideAfter : Int)
    (hcolor : report.config.color = false) (hansi : report.config.ansiMode = .on)
    (hfetch : cache.fetch (sourceName report.span.source) = .ok source) :
    (report.config.tabWidth < Platform.memoryBound → source.NumbersFit →
        firstFault? report source = none) ∧
      (firstFault? report source = none → render report cache elideAfter = .ok
        ⟨joinRows ((rows report source elideAfter).map (penOf report source).rowText),
          droppedLabels report source⟩) ∧
      (∀ width, (penOf report source).width ≤ width ↔
        1 ≤ width ∧ ∀ drawn ∈ drawnLabels report source,
          (Text.decimal (source.lineNumber drawn.line)).length ≤ width) ∧
      (∀ number text, .source number text ∈ rows report source elideAfter →
        ∃ drawn ∈ drawnLabels report source,
          Row.source number text = sourceRow report source drawn.line) ∧
      (∀ row ∈ rows report source elideAfter, ∀ number, row.marginNumber? = some number →
        HasMargin (penOf report source).width report.config.charSet.glyphs.verticalBar number
          ((penOf report source).rowText row)) ∧
      ∀ label ∈ report.labels, ∀ drawn, drawLabel report source label = .ok drawn →
        ∃ first stop left right length attach,
          StandsBelow report source label drawn first stop left right ∧
          length = max 1 (right - left) ∧
          attach = report.config.labelAttach.cell left length ∧
          left ≤ attach ∧ attach < left + length ∧
          .source (source.lineNumber drawn.line)
            (Text.trimRight (expand report.config.tabWidth (source.textAt drawn.line))) ∈
              rows report source elideAfter ∧
          .underline drawn ∈ rows report source elideAfter ∧
          (penOf report source).rowText (.underline drawn) =
            List.replicate ((penOf report source).width + 1) ' ' ++
              report.config.charSet.glyphs.verticalBar :: ' ' ::
                (List.replicate left ' ' ++
                  (List.replicate length report.config.charSet.glyphs.underline).set
                    (attach - left) report.config.charSet.glyphs.middleUnderbar) ∧
          ∀ msg, label.msg = some msg → msg ≠ "" →
            .arrow drawn msg ∈ rows report source elideAfter ∧
            (penOf report source).rowText (.arrow drawn msg) =
              List.replicate ((penOf report source).width + 1) ' ' ++
                report.config.charSet.glyphs.verticalBar :: ' ' ::
                  (List.replicate attach ' ' ++ report.config.charSet.glyphs.leftBottom ::
                    List.replicate (max 1 (25 - attach - 1))
                      report.config.charSet.glyphs.horizontalBar ++ ' ' :: msg.toList) := by
  have hplain : (penOf report source).colored = false := hcolor
  refine ⟨firstFault?_eq_none, ?_, penOf_width_le_iff report source,
    fun _ _ => eq_sourceRow_of_mem_rows, ?_, ?_⟩
  · intro hfault
    have htext := text_renderOver report source elideAfter
    rw [report.shown_of_on hansi] at htext
    rw [render_of_no_fault hfetch hfault, ← htext]
    rfl
  · intro row hrow number hnumber
    exact hasMargin_rowText hcolor hrow hnumber
  · intro label hlabel drawn hdrawn
    obtain ⟨first, stop, left, right, hbelow, hstart, hstop, hattach⟩ := exists_standsBelow hdrawn
    have hcell := report.config.labelAttach.cell_mem left (Nat.le_max_left 1 (right - left))
    have hnone := color_of_drawLabel hcolor hdrawn
    have hmem : drawn ∈ drawnLabels report source := mem_drawnLabels.mpr ⟨label, hlabel, hdrawn⟩
    refine ⟨first, stop, left, right, _, _, hbelow, rfl, rfl, hcell.1, hcell.2, ?_, ?_, ?_, ?_⟩
    · exact mem_rows_of_drawn elideAfter hmem (Or.inl rfl)
    · exact mem_rows_of_drawn elideAfter hmem (Or.inr List.mem_cons_self)
    · exact rowText_underline_cells hplain hnone hstart hstop hattach hcell.1 hcell.2
    · intro msg hmsg hpresent
      refine ⟨?_, rowText_arrow_cells hplain hnone hattach msg⟩
      apply mem_rows_of_drawn elideAfter hmem
      right
      rw [labelRows_eq, (msg_and_order_of_drawLabel hdrawn).1, hmsg]
      simp [hpresent]

/-! A label on a tab and the character after it, on a line with a negative number. -/

def tabbedSource : Source := ⟨['x', '\t', 'y', '\n'], -12⟩

def tabbedCache : Cache := .ofList [("tabbed", tabbedSource)]

def tabbedLabel : Label where
  span := ⟨some "tabbed", 1, 3⟩
  msg := some "here"

def tabbedReport : Report where
  span := ⟨some "tabbed", 1, 3⟩
  labels := [tabbedLabel]
  config := { Config.default with color := false }

theorem render_underlines_tabbedReport :
    ∃ drawn left right length attach first stop,
      drawLabel tabbedReport tabbedSource tabbedLabel = .ok drawn ∧
        StandsBelow tabbedReport tabbedSource tabbedLabel drawn first stop left right ∧
        left ≤ attach ∧ attach < left + length ∧
        (penOf tabbedReport tabbedSource).rowText (.underline drawn) =
          List.replicate ((penOf tabbedReport tabbedSource).width + 1) ' ' ++ '│' :: ' ' ::
            (List.replicate left ' ' ++ (List.replicate length '─').set (attach - left) '┬') := by
  have hcolor : tabbedReport.config.color = false := rfl
  have hansi : tabbedReport.config.ansiMode = .on := rfl
  have hfetch : tabbedCache.fetch (sourceName tabbedReport.span.source) = .ok tabbedSource := rfl
  have hdrawn : drawLabel tabbedReport tabbedSource tabbedLabel =
      .ok ⟨0, 1, 5, 3, some "here", 0, none⟩ := by decide
  obtain ⟨-, -, -, -, -, hlabels⟩ := render_underlines 2 hcolor hansi hfetch
  obtain ⟨first, stop, left, right, length, attach, hbelow, -, -, hle, hlt, -, -, hunderline, -⟩ :=
    hlabels tabbedLabel List.mem_cons_self _ hdrawn
  exact ⟨_, left, right, length, attach, first, stop, hdrawn, hbelow, hle, hlt, hunderline⟩

end Diagnostics
