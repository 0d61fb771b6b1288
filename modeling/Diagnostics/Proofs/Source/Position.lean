import Diagnostics.Proofs.Source.Tabulation

/-!
# Positions of offsets

A line holds the offsets from its start up to its end, that of the end excluded. The lines
hold every offset of the text but its end, and each exactly once. Looking an offset up
gives the line that holds it and the distance from its start; the end of the text counts
as held by the last line, which may be empty. Lookups take the lines back to front and
the other way round: they invert the line table, and keep the order of offsets.
-/

namespace Diagnostics

/-- The offset is at or after the start of the line and before its end. -/
def Line.Holds (line : Line) (unit : OffsetUnit) (offset : Int) : Prop :=
  line.start unit ≤ offset ∧ offset < line.start unit + line.length unit

namespace Source

variable (source : Source) (unit : OffsetUnit)

/-- Looking up offsets inverts the line table. -/
structure Invertible : Prop where
  outside : ∀ offset, source.lineAt? offset unit = none ↔
    offset < 0 ∨ source.total unit < offset
  /-- Before the end of the text, an offset is on the only line that holds it. -/
  inside : ∀ offset, 0 ≤ offset → offset < source.total unit →
    ∃ (index : Nat) (line : Line), source.lines[index]? = some line ∧ line.Holds unit offset ∧
      (∀ (other : Nat) (otherLine : Line), source.lines[other]? = some otherLine →
        otherLine.Holds unit offset → other = index) ∧
      source.lineAt? offset unit = some ⟨line, index, offset - line.start unit⟩
  /-- The end of the text is on the last line, also if that line is empty. -/
  atEnd : ∃ line, source.lines[source.lines.length - 1]? = some line ∧
    source.lineAt? (source.total unit) unit =
      some ⟨line, source.lines.length - 1, source.total unit - line.start unit⟩
  /-- Every place on a line is found from its offset. -/
  back : ∀ (index : Nat) (line : Line) (column : Int), source.lines[index]? = some line →
    0 ≤ column → column < line.length unit →
    source.lineAt? (line.start unit + column) unit = some ⟨line, index, column⟩
  /-- A later offset is on a later line, or in a later column of the same line. -/
  increasing : ∀ offset later here there, offset < later →
    source.lineAt? offset unit = some here → source.lineAt? later unit = some there →
    here.index < there.index ∨ here.index = there.index ∧ here.column < there.column

variable {source unit} {index : Nat} {line : Line}

/-! ### Where lines start and end -/

theorem start_add_length (hline : source.lines[index]? = some line) :
    line.start unit + line.length unit = unit.measure (source.textBefore (index + 1)) := by
  rw [source.getElem?_lines_eq_some hline, Line.start_after, Line.length_after, textBefore_succ,
    unit.measure_append]
  exact (Int.natCast_add _ _).symm

theorem start_add_length_eq_start {next : Line} (hline : source.lines[index]? = some line)
    (hnext : source.lines[index + 1]? = some next) :
    line.start unit + line.length unit = next.start unit := by
  rw [start_add_length hline, source.getElem?_lines_eq_some hnext, Line.start_after]

theorem start_add_length_eq_total (hline : source.lines[index]? = some line)
    (hlast : index + 1 = source.lines.length) :
    line.start unit + line.length unit = source.total unit := by
  have htext : source.textBefore (index + 1) = source.text := by
    rw [hlast, length_lines, textBefore, List.take_length]
    exact flatten_splitLines source.text
  rw [start_add_length hline, htext, total_eq_measure]

variable (unit)

theorem start_nonneg (hline : source.lines[index]? = some line) : 0 ≤ line.start unit := by
  rw [source.getElem?_lines_eq_some hline, Line.start_after]
  exact Int.natCast_nonneg _

theorem length_nonneg (hline : source.lines[index]? = some line) : 0 ≤ line.length unit := by
  rw [source.getElem?_lines_eq_some hline, Line.length_after]
  exact Int.natCast_nonneg _

theorem start_add_length_le_total (hline : source.lines[index]? = some line) :
    line.start unit + line.length unit ≤ source.total unit := by
  have hmeasure := congrArg unit.measure (source.textBefore_append_textAt index)
  rw [unit.measure_append, ← textBefore_succ] at hmeasure
  rw [start_add_length hline, total_eq_measure]
  omega

variable {unit}

/-! ### Which line is found -/

theorem indexAt_start (hline : source.lines[index]? = some line) :
    source.indexAt (line.start unit) unit = index := by
  rw [indexAt, source.countP_start_of_line unit hline, Nat.add_sub_cancel]

/-- A line starts at or before an offset exactly if the offset is found on it or further down. -/
theorem start_le_iff (hline : source.lines[index]? = some line) {offset : Int}
    (hnonneg : 0 ≤ offset) : line.start unit ≤ offset ↔ index ≤ source.indexAt offset unit := by
  constructor
  · intro hstart
    rw [← indexAt_start hline]
    exact source.indexAt_mono unit hstart
  · intro hindex
    by_contra hstart
    rw [Int.not_le] at hstart
    have hle := source.indexAt_mono unit (Int.le_of_lt hstart)
    rw [indexAt_start hline] at hle
    have hsame : source.indexAt offset unit = source.indexAt (line.start unit) unit := by
      rw [indexAt_start hline]
      exact Nat.le_antisymm hle hindex
    rw [source.indexAt_eq_indexAt_iff unit hnonneg (Int.le_of_lt hstart)] at hsame
    exact hsame line (List.mem_of_getElem? hline) ⟨hstart, Int.le_refl _⟩

/-- An offset from the start of a line on is found there if all later lines start behind it. -/
theorem indexAt_eq (hline : source.lines[index]? = some line) {offset : Int}
    (hstart : line.start unit ≤ offset)
    (hlater : ∀ later next, index < later → source.lines[later]? = some next →
      offset < next.start unit) :
    source.indexAt offset unit = index := by
  have hnonneg := Int.le_trans (start_nonneg unit hline) hstart
  apply Nat.le_antisymm
  · by_contra hafter
    have hfound := List.getElem?_eq_getElem (source.indexAt_lt_length unit offset)
    have hle := (start_le_iff hfound hnonneg).mpr (Nat.le_refl _)
    exact Int.not_lt.mpr hle (hlater _ _ (Nat.lt_of_not_le hafter) hfound)
  · exact (start_le_iff hline hnonneg).mp hstart

theorem indexAt_of_holds (hline : source.lines[index]? = some line) {offset : Int}
    (hholds : line.Holds unit offset) : source.indexAt offset unit = index :=
  indexAt_eq hline hholds.1 fun _ _ hlt hnext =>
    Int.lt_of_lt_of_le hholds.2 (source.start_add_length_le unit hlt hline hnext)

theorem indexAt_total : source.indexAt (source.total unit) unit = source.lines.length - 1 := by
  have hlt : source.lines.length - 1 < source.lines.length :=
    Nat.sub_one_lt_of_lt (source.indexAt_lt_length unit 0)
  have hline := List.getElem?_eq_getElem hlt
  have hend := start_add_length_le_total unit hline
  have hlength := length_nonneg unit hline
  refine indexAt_eq hline (by omega) fun later next hafter hnext => ?_
  have hbefore := (List.getElem?_eq_some_iff.mp hnext).1
  omega

/-- The line that an offset before the end of the text is found on holds it. -/
theorem holds_of_lineAt? {offset : Int} {position : Position}
    (hfound : source.lineAt? offset unit = some position) (hlt : offset < source.total unit) :
    position.line.Holds unit offset := by
  obtain ⟨⟨hnonneg, -⟩, hindex, hline, -⟩ := (source.lineAt?_eq_some_iff unit _ _).mp hfound
  constructor
  · exact (start_le_iff hline hnonneg).mpr (Nat.le_of_eq hindex)
  · by_contra hend
    rw [Int.not_lt] at hend
    have hbound := (List.getElem?_eq_some_iff.mp hline).1
    rcases (Nat.succ_le_of_lt hbound).eq_or_lt with hlast | hnext
    · rw [start_add_length_eq_total hline hlast] at hend
      exact Int.not_le.mpr hlt hend
    · have hnextLine := List.getElem?_eq_getElem hnext
      rw [start_add_length_eq_start hline hnextLine, start_le_iff hnextLine hnonneg,
        ← hindex] at hend
      exact Nat.not_succ_le_self _ hend

/-- The column of an offset is within its line, or at the end of it. -/
theorem column_bounds {offset : Int} {position : Position}
    (hfound : source.lineAt? offset unit = some position) :
    0 ≤ position.column ∧ position.column ≤ position.line.length unit := by
  obtain ⟨⟨hnonneg, hle⟩, hindex, hline, hcolumn⟩ :=
    (source.lineAt?_eq_some_iff unit _ _).mp hfound
  have hstart := (start_le_iff hline hnonneg).mpr (Nat.le_of_eq hindex)
  refine ⟨by omega, ?_⟩
  rcases Int.lt_or_eq_of_le hle with hlt | rfl
  · have hend := (holds_of_lineAt? hfound hlt).2
    omega
  · rw [indexAt_total] at hindex
    have hbound := (List.getElem?_eq_some_iff.mp hline).1
    have hend : position.line.start unit + position.line.length unit = source.total unit :=
      start_add_length_eq_total hline (by omega)
    omega

theorem lineAt?_of_holds (hline : source.lines[index]? = some line) {offset : Int}
    (hholds : line.Holds unit offset) :
    source.lineAt? offset unit = some ⟨line, index, offset - line.start unit⟩ := by
  have hstart := start_nonneg unit hline
  have hend := start_add_length_le_total unit hline
  obtain ⟨hle, hlt⟩ := hholds
  rw [lineAt?_eq_some_iff]
  exact ⟨⟨by omega, by omega⟩, (indexAt_of_holds hline ⟨hle, hlt⟩).symm, hline, rfl⟩

/-- Lookups invert the line table of every source, in both units. -/
theorem invertible (source : Source) (unit : OffsetUnit) : source.Invertible unit where
  outside := source.lineAt?_eq_none_iff unit
  inside offset hnonneg hlt := by
    obtain ⟨⟨line, index, column⟩, hfound⟩ :=
      source.exists_lineAt? unit hnonneg (Int.le_of_lt hlt)
    have hline := ((source.lineAt?_eq_some_iff unit _ _).mp hfound).2.2.1
    have hholds := holds_of_lineAt? hfound hlt
    refine ⟨index, line, hline, hholds, fun other otherLine hother hotherHolds => ?_,
      lineAt?_of_holds hline hholds⟩
    rw [← indexAt_of_holds hother hotherHolds, indexAt_of_holds hline hholds]
  atEnd := by
    have htotal : 0 ≤ source.total unit := by
      rw [total_eq_measure]
      exact Int.natCast_nonneg _
    obtain ⟨⟨line, index, column⟩, hfound⟩ := source.exists_lineAt? unit htotal (Int.le_refl _)
    obtain ⟨-, hindex, hline, hcolumn⟩ := (source.lineAt?_eq_some_iff unit _ _).mp hfound
    obtain rfl : index = source.lines.length - 1 := hindex.trans indexAt_total
    obtain rfl : column = source.total unit - line.start unit := hcolumn
    exact ⟨line, hline, hfound⟩
  back index line column hline hnonneg hlt := by
    have hholds : line.Holds unit (line.start unit + column) := ⟨by omega, by omega⟩
    have hcolumn : line.start unit + column - line.start unit = column := by omega
    rw [lineAt?_of_holds hline hholds, hcolumn]
  increasing offset later here there hlt hhere hthere := by
    obtain ⟨-, hindex, hline, hcolumn⟩ := (source.lineAt?_eq_some_iff unit _ _).mp hhere
    obtain ⟨-, hotherIndex, hother, hotherColumn⟩ :=
      (source.lineAt?_eq_some_iff unit _ _).mp hthere
    have hle := source.indexAt_mono unit (Int.le_of_lt hlt)
    rw [← hindex, ← hotherIndex] at hle
    rcases Nat.eq_or_lt_of_le hle with heq | hbefore
    · rw [heq, hother] at hline
      have hsame : here.line = there.line := (Option.some.inj hline).symm
      rw [hcolumn, hotherColumn, hsame]
      exact .inr ⟨heq, by omega⟩
    · exact .inl hbefore

end Source

end Diagnostics
