import Diagnostics.Proofs.Source.Bisection
import Diagnostics.Proofs.Source.Splitting

/-!
# Parts of a source

A source may be the part of a larger one that follows some full lines. Its records are
those of the larger source, moved by the text before it, and an offset of it that is not
negative is found on the same line and in the same column.
-/

namespace Diagnostics

theorem lineTable_append (offset byteOffset : Nat) (front back : List (List Char)) :
    lineTable offset byteOffset (front ++ back) =
      lineTable offset byteOffset front ++
        lineTable (offset + front.flatten.length) (byteOffset + Utf8.byteLength front.flatten)
          back := by
  induction front generalizing offset byteOffset with
  | nil => simp [lineTable]
  | cons piece rest ih =>
      simp [lineTable, ih, Utf8.byteLength_append, Nat.add_assoc]

/-- The record of the same line with `before` put in front of the text. -/
def Line.moveAfter (before : List Char) (line : Line) : Line :=
  { line with
    offset := line.offset + before.length
    byteOffset := line.byteOffset + Utf8.byteLength before }

theorem Line.start_moveAfter (before : List Char) (line : Line) (unit : OffsetUnit) :
    (line.moveAfter before).start unit = line.start unit + unit.measure before := by
  cases unit <;> rfl

theorem Line.moveAfter_after (before between line : List Char) :
    (Line.after between line).moveAfter before = Line.after (before ++ between) line := by
  simp only [Line.after, Line.moveAfter, List.length_append, Utf8.byteLength_append]
  push_cast
  rw [Int.add_comm, Int.add_comm (Utf8.byteLength between : Int)]

theorem lineTable_moveAfter (before : List Char) (pieces : List (List Char)) :
    lineTable before.length (Utf8.byteLength before) pieces =
      (lineTable 0 0 pieces).map (Line.moveAfter before) := by
  apply List.ext_getElem?
  intro index
  have hmoved := getElem?_lineTable before pieces index
  have hplain := getElem?_lineTable [] pieces index
  rw [List.length_nil, Utf8.byteLength_nil, List.nil_append] at hplain
  rw [List.getElem?_map, hplain, hmoved, Option.map_map]
  congr 1
  funext piece
  exact (Line.moveAfter_after before _ piece).symm

/-- The lines of a text that end with a terminator. -/
def fullLines (text : List Char) : List (List Char) :=
  (splitLines text).dropLast

theorem splitLines_eq_fullLines_append {text : List Char} (hends : EndsLine text) :
    splitLines text = fullLines text ++ [[]] := by
  obtain ⟨front, hfront⟩ := exists_splitLines_eq_append_nil hends
  rw [fullLines, hfront, List.dropLast_concat]

theorem flatten_fullLines {text : List Char} (hends : EndsLine text) :
    (fullLines text).flatten = text := by
  have hflatten := flatten_splitLines text
  rw [splitLines_eq_fullLines_append hends] at hflatten
  simpa using hflatten

/-- The lines of `whole` are those of `before`, all of them full, and then those of
`part`. -/
structure PartOf (before : List Char) (part whole : Source) : Prop where
  text : whole.text = before ++ part.text
  ends : EndsLine before
  apart : ¬SharesTerminator before part.text

/-- The position of the same character with `before` put in front of the text. -/
def Position.moveAfter (before : List Char) (position : Position) : Position :=
  { position with
    line := position.line.moveAfter before
    index := position.index + (fullLines before).length }

namespace PartOf

variable {before : List Char} {part whole : Source} (hpart : PartOf before part whole)
include hpart

theorem pieces_eq : whole.pieces = fullLines before ++ part.pieces := by
  rw [Source.pieces, Source.pieces, hpart.text, splitLines_append _ _ hpart.apart,
    splitLines_eq_fullLines_append hpart.ends, joinLines_append_nil _ (splitLines_ne_nil _)]

theorem textAt_add (line : Nat) :
    whole.textAt (line + (fullLines before).length) = part.textAt line := by
  rw [Source.textAt, Source.textAt, hpart.pieces_eq,
    List.getElem?_append_right (Nat.le_add_left _ _), Nat.add_sub_cancel]

theorem lines_eq : whole.lines =
    lineTable 0 0 (fullLines before) ++ part.lines.map (Line.moveAfter before) := by
  rw [Source.lines, Source.lines, hpart.pieces_eq, lineTable_append,
    flatten_fullLines hpart.ends, Nat.zero_add, Nat.zero_add, lineTable_moveAfter]

theorem getElem?_lines_add (index : Nat) :
    whole.lines[index + (fullLines before).length]? =
      part.lines[index]?.map (Line.moveAfter before) := by
  have hlength := length_lineTable 0 0 (fullLines before)
  rw [hpart.lines_eq, List.getElem?_append_right (by omega), hlength, Nat.add_sub_cancel,
    List.getElem?_map]

/-- The lines before the part start within the text before it. -/
theorem start_le_measure {line : Line} (hline : line ∈ lineTable 0 0 (fullLines before))
    (unit : OffsetUnit) : line.start unit ≤ unit.measure before := by
  obtain ⟨index, hindex⟩ := List.mem_iff_getElem?.mp hline
  have hrecord := getElem?_lineTable [] (fullLines before) index
  rw [List.length_nil, Utf8.byteLength_nil, List.nil_append, hindex] at hrecord
  obtain ⟨piece, -, rfl⟩ := Option.map_eq_some_iff.mp hrecord.symm
  have hsplit : ((fullLines before).take index).flatten ++
      ((fullLines before).drop index).flatten = before := by
    rw [← List.flatten_append, List.take_append_drop, flatten_fullLines hpart.ends]
  have hmeasure := unit.measure_append ((fullLines before).take index).flatten
    ((fullLines before).drop index).flatten
  rw [hsplit] at hmeasure
  rw [Line.start_after]
  omega

theorem indexAt_add {offset : Int} (hnonneg : 0 ≤ offset) (unit : OffsetUnit) :
    whole.indexAt (offset + unit.measure before) unit =
      part.indexAt offset unit + (fullLines before).length := by
  have hfront : (lineTable 0 0 (fullLines before)).countP
      (fun line => line.start unit ≤ offset + unit.measure before) =
        (fullLines before).length := by
    rw [← length_lineTable 0 0 (fullLines before), List.countP_eq_length]
    intro line hline
    have hstart := hpart.start_le_measure hline unit
    rw [decide_eq_true_eq]
    omega
  have hback : (part.lines.map (Line.moveAfter before)).countP
      (fun line => line.start unit ≤ offset + unit.measure before) =
        part.lines.countP (fun line => line.start unit ≤ offset) := by
    rw [List.countP_map]
    apply List.countP_congr
    intro line _
    simp [Line.start_moveAfter]
  have hpos := part.countP_start_pos unit hnonneg
  rw [Source.indexAt, Source.indexAt, hpart.lines_eq, List.countP_append, hfront, hback]
  omega

theorem total_eq (unit : OffsetUnit) :
    whole.total unit = part.total unit + unit.measure before := by
  rw [Source.total_eq_measure, Source.total_eq_measure, hpart.text, OffsetUnit.measure_append]
  push_cast
  omega

theorem lineAt?_add {offset : Int} (hnonneg : 0 ≤ offset) (unit : OffsetUnit) :
    whole.lineAt? (offset + unit.measure before) unit =
      (part.lineAt? offset unit).map (Position.moveAfter before) := by
  have htotal := hpart.total_eq unit
  cases hfound : part.lineAt? offset unit with
  | none =>
      rw [Source.lineAt?_eq_none_iff] at hfound
      rw [Option.map_none, Source.lineAt?_eq_none_iff]
      omega
  | some position =>
      rw [Source.lineAt?_eq_some_iff] at hfound
      obtain ⟨hrange, hindex, hline, hcolumn⟩ := hfound
      rw [Option.map_some, Source.lineAt?_eq_some_iff]
      refine ⟨by omega, ?_, ?_, ?_⟩
      · rw [hpart.indexAt_add hnonneg unit, ← hindex]
        rfl
      · simp only [Position.moveAfter]
        rw [hpart.getElem?_lines_add, hline, Option.map_some]
      · simp only [Position.moveAfter, Line.start_moveAfter]
        omega

/-- A column of a line converts alike in the part and in the whole. -/
theorem charColumn_moveAfter {position : Position}
    (hline : part.lines[position.index]? = some position.line) (column : Int)
    (unit : OffsetUnit) :
    whole.charColumn (position.moveAfter before).line column unit =
      part.charColumn position.line column unit := by
  have hmoved : whole.lines[(position.moveAfter before).index]? =
      some (position.moveAfter before).line := by
    simp only [Position.moveAfter]
    rw [hpart.getElem?_lines_add, hline, Option.map_some]
  rw [whole.charColumn_of_mem hmoved, part.charColumn_of_mem hline, Position.moveAfter,
    hpart.textAt_add]

end PartOf

end Diagnostics
