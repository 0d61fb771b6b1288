import Diagnostics.Proofs.Source.Lookup

/-!
# Bisecting the starts of lines

No line but the last one is empty, so that every line starts behind the one before it.
The number of lines that start at or before the start of a line is therefore its place
in the table, and bisecting the starts finds it. The text of a record is found in this way,
and with it the column in characters of a column in bytes.
-/

namespace Diagnostics

theorem countP_le_getElem {starts : List Int} (hsorted : starts.Pairwise (· < ·)) {index : Nat}
    (hlt : index < starts.length) : starts.countP (· ≤ starts[index]) = index + 1 := by
  induction starts generalizing index with
  | nil => cases hlt
  | cons start rest ih =>
      obtain ⟨hfirst, hrest⟩ := List.pairwise_cons.mp hsorted
      cases index with
      | zero =>
          have hnone : rest.countP (· ≤ start) = 0 := by
            rw [List.countP_eq_zero]
            intro other hother
            simpa using hfirst other hother
          rw [List.getElem_cons_zero, List.countP_cons, hnone]
          simp
      | succ index =>
          have hlt' : index < rest.length := Nat.lt_of_succ_lt_succ hlt
          have hle : start ≤ rest[index] := Int.le_of_lt (hfirst _ (List.getElem_mem hlt'))
          rw [List.getElem_cons_succ, List.countP_cons, ih hrest hlt']
          simp [hle]

theorem ne_nil_of_mem_dropLast_splitLines {text piece : List Char}
    (hmem : piece ∈ (splitLines text).dropLast) : piece ≠ [] := by
  fun_induction splitLines text with
  | case1 => cases hmem
  | case2 rest ih =>
      rw [List.dropLast_cons_of_ne_nil (splitLines_ne_nil rest)] at hmem
      rcases List.mem_cons.mp hmem with rfl | hrest
      · exact List.cons_ne_nil _ _
      · exact ih hrest
  | case3 c rest _ _ ih =>
      rw [List.dropLast_cons_of_ne_nil (splitLines_ne_nil rest)] at hmem
      rcases List.mem_cons.mp hmem with rfl | hrest
      · exact List.cons_ne_nil _ _
      · exact ih hrest
  | case4 c rest _ _ ih =>
      cases hlines : splitLines rest with
      | nil => exact absurd hlines (splitLines_ne_nil rest)
      | cons line others =>
          rw [hlines, consFirst] at hmem
          cases others with
          | nil => cases hmem
          | cons second others =>
              rw [hlines] at ih
              rcases List.mem_cons.mp hmem with rfl | hothers
              · exact List.cons_ne_nil _ _
              · exact ih (List.mem_cons_of_mem _ hothers)

namespace OffsetUnit

theorem measure_pos (unit : OffsetUnit) {text : List Char} (hne : text ≠ []) :
    0 < unit.measure text := by
  obtain ⟨c, rest, rfl⟩ := List.exists_cons_of_ne_nil hne
  cases unit with
  | char => exact Nat.succ_pos _
  | byte =>
      have hsize := c.utf8Size_pos
      rw [measure, Utf8.byteLength_cons]
      omega

end OffsetUnit

namespace Source

variable (source : Source) (unit : OffsetUnit)

theorem textAt_ne_nil {index : Nat} (hlt : index + 1 < source.pieces.length) :
    source.textAt index ≠ [] := by
  have hpiece : source.pieces[index]? = some source.pieces[index] :=
    List.getElem?_eq_getElem (by omega)
  have hinit : index < source.pieces.dropLast.length := by
    rw [List.length_dropLast]
    omega
  have hmem : source.pieces[index] ∈ source.pieces.dropLast := by
    rw [← List.getElem_dropLast hinit]
    exact List.getElem_mem hinit
  rw [textAt, hpiece]
  exact ne_nil_of_mem_dropLast_splitLines hmem

/-- A line starts behind every line before it. -/
theorem measure_textBefore_lt {index later : Nat} (hlt : index < later)
    (hlater : later < source.pieces.length) :
    unit.measure (source.textBefore index) < unit.measure (source.textBefore later) := by
  have hprefix : source.pieces.take (index + 1) <+: source.pieces.take later :=
    List.take_prefix_take_left hlt
  obtain ⟨between, hbetween⟩ := hprefix
  have hnext : index + 1 < source.pieces.length := by omega
  have hpos := unit.measure_pos (source.textAt_ne_nil hnext)
  have hlaterText : source.textBefore later =
      source.textBefore index ++ source.textAt index ++ between.flatten := by
    rw [← textBefore_succ, textBefore, textBefore, ← hbetween, List.flatten_append]
  rw [hlaterText, unit.measure_append, unit.measure_append]
  omega

theorem pairwise_starts : (source.lines.map (Line.start · unit)).Pairwise (· < ·) := by
  rw [List.pairwise_iff_getElem]
  intro index later hindex hlater hlt
  rw [List.length_map] at hindex hlater
  have hstart : ∀ place (hplace : place < source.lines.length),
      source.lines[place].start unit = unit.measure (source.textBefore place) := by
    intro place hplace
    rw [source.getElem?_lines_eq_some (List.getElem?_eq_getElem hplace), Line.start_after]
  have hmeasure := source.measure_textBefore_lt unit hlt (by rwa [length_lines] at hlater)
  rw [List.getElem_map, List.getElem_map, hstart, hstart]
  exact Int.ofNat_lt.mpr hmeasure

/-- As many lines start at or before the start of a line as its place and one. -/
theorem countP_start_of_line {index : Nat} {line : Line}
    (hline : source.lines[index]? = some line) :
    source.lines.countP (fun other => other.start unit ≤ line.start unit) = index + 1 := by
  obtain ⟨hlt, rfl⟩ := List.getElem?_eq_some_iff.mp hline
  have hstarts : index < (source.lines.map (Line.start · unit)).length := by
    rwa [List.length_map]
  have hcount := countP_le_getElem (source.pairwise_starts unit) hstarts
  rw [List.getElem_map, List.countP_map] at hcount
  exact hcount

/-- A record is one of the source's exactly if it is found from its own offset. -/
theorem mem_lines_iff_lineUpTo? (line : Line) :
    line ∈ source.lines ↔ source.lineUpTo? line.offset = some line := by
  constructor
  · intro hmem
    obtain ⟨index, hline⟩ := List.mem_iff_getElem?.mp hmem
    have hcount := source.countP_start_of_line .char hline
    have hindex : ((source.lines.countP fun other => other.offset ≤ line.offset : Nat) : Int)
        - 1 = index := by
      change ((source.lines.countP fun other => other.start .char ≤ line.start .char : Nat) : Int)
        - 1 = index
      omega
    rw [lineUpTo?, hindex, line?, if_neg (by omega), Int.toNat_natCast, hline]
  · intro hfound
    rw [lineUpTo?, line?] at hfound
    split at hfound
    · cases hfound
    · exact List.mem_of_getElem? hfound

theorem lineText?_of_mem {index : Nat} {line : Line} (hline : source.lines[index]? = some line) :
    source.lineText? line = some (source.textAt index) := by
  have hfound := (source.mem_lines_iff_lineUpTo? line).mp (List.mem_of_getElem? hline)
  have hrecord := source.getElem?_lines_eq_some hline
  have hoffset : line.offset.toNat = (source.textBefore index).length := by
    simp [hrecord, Line.after]
  have hlength : line.charLength.toNat = (source.textAt index).length := by
    simp [hrecord, Line.after]
  rw [lineText?, if_pos hfound, hoffset, hlength, ← source.textBefore_append_textAt index,
    List.append_assoc, List.drop_left, List.take_left]

theorem lineText?_of_not_mem {line : Line} (hmem : line ∉ source.lines) :
    source.lineText? line = none :=
  if_neg (mt (source.mem_lines_iff_lineUpTo? line).mpr hmem)

theorem charColumn_of_mem {index : Nat} {line : Line} (hline : source.lines[index]? = some line)
    (column : Int) (unit : OffsetUnit) :
    source.charColumn line column unit = unit.charsBefore column (source.textAt index) := by
  cases unit with
  | byte =>
      rw [charColumn, source.lineText?_of_mem hline]
      rfl
  | char =>
      have hlength : line.charLength = (source.textAt index).length := by
        rw [source.getElem?_lines_eq_some hline]
        rfl
      rw [charColumn, OffsetUnit.charsBefore, hlength]
      omega

end Source

end Diagnostics
