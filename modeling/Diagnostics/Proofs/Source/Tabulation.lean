import Mathlib.Data.List.Infix
import Mathlib.Algebra.Ring.Int.Defs
import Diagnostics.Proofs.Source.Bisection

/-!
# The line table of a text

The records of a source cut its text into consecutive pieces, in characters and in
bytes alike. Each record gives the piece back, as characters of the text and as bytes of
its encoding. The text of a record is found by bisecting the starts of the lines for its
offset; a record that is none of the source's is not found, whatever its numbers are.
-/

namespace Diagnostics

/-- So many items from an offset on. -/
def slice (items : List α) (offset length : Int) : List α :=
  (items.drop offset.toNat).take length.toNat

theorem slice_append_append (before middle after : List α) :
    slice (before ++ middle ++ after) before.length middle.length = middle := by
  rw [slice, Int.toNat_natCast, Int.toNat_natCast, List.append_assoc, List.drop_left,
    List.take_left]

theorem OffsetUnit.measure_flatten (unit : OffsetUnit) (pieces : List (List Char)) :
    (unit.measure pieces.flatten : Int) =
      (pieces.map fun piece => (unit.measure piece : Int)).sum := by
  induction pieces with
  | nil => exact congrArg Nat.cast unit.measure_nil
  | cons piece rest ih =>
      rw [List.flatten_cons, unit.measure_append, List.map_cons, List.sum_cons, ← ih]
      exact Int.natCast_add _ _

@[simp]
theorem Line.length_after (unit : OffsetUnit) (before line : List Char) :
    (Line.after before line).length unit = unit.measure line := by
  cases unit <;> rfl

namespace Source

variable (source : Source) (unit : OffsetUnit)

/-- The line table of the source is that of its text. -/
structure Tabulated : Prop where
  /-- There is a record for every line of the text. -/
  count : source.lines.length = (splitLines source.text).length
  /-- A line starts where the lines before it end. -/
  start : ∀ unit (index : Nat) line, source.lines[index]? = some line →
    line.start unit = ((source.lines.take index).map (Line.length · unit)).sum
  /-- A line ends before any later line starts, or where it starts. -/
  apart : ∀ unit, source.lines.Pairwise fun line later =>
    line.start unit + line.length unit ≤ later.start unit
  /-- The lengths of the lines add up to the length of the text. -/
  total : ∀ unit, source.total unit = (source.lines.map (Line.length · unit)).sum
  chars : source.total .char = source.text.length
  bytes : source.total .byte = (Utf8.encode source.text).length
  /-- The text of a record is the line at its place, and what the record says of the text
  and of its encoding. -/
  text : ∀ (index : Nat) line, source.lines[index]? = some line →
    ∃ piece, source.lineText? line = some piece ∧
      (splitLines source.text)[index]? = some piece ∧
      piece = slice source.text line.offset line.charLength ∧
      Utf8.encode piece = slice (Utf8.encode source.text) line.byteOffset line.byteLength
  /-- The texts of all records make up the text. -/
  whole : ∃ pieces : List (List Char), source.lines.map source.lineText? = pieces.map some ∧
    pieces.flatten = source.text
  /-- A record that is none of the source's has no text. -/
  stale : ∀ line, line ∉ source.lines → source.lineText? line = none

theorem map_length_lines :
    source.lines.map (Line.length · unit) =
      source.pieces.map fun piece => (unit.measure piece : Int) := by
  apply List.ext_getElem?
  intro index
  rw [List.getElem?_map, List.getElem?_map, getElem?_lines, Option.map_map]
  congr 1
  funext piece
  exact Line.length_after unit _ piece

theorem sum_map_length_take (index : Nat) :
    ((source.lines.take index).map (Line.length · unit)).sum =
      unit.measure (source.textBefore index) := by
  rw [List.map_take, map_length_lines, ← List.map_take, textBefore, unit.measure_flatten]

theorem total_eq_sum_map_length :
    source.total unit = (source.lines.map (Line.length · unit)).sum := by
  have hall := source.sum_map_length_take unit source.lines.length
  rw [List.take_length] at hall
  have htext : source.textBefore source.lines.length = source.text := by
    rw [length_lines, textBefore, List.take_length]
    exact flatten_splitLines source.text
  rw [hall, htext, total_eq_measure]

theorem start_add_length_le {index later : Nat} (hlt : index < later) {line other : Line}
    (hline : source.lines[index]? = some line) (hother : source.lines[later]? = some other) :
    line.start unit + line.length unit ≤ other.start unit := by
  have htake : source.pieces.take (index + 1) <+: source.pieces.take later :=
    List.take_prefix_take_left hlt
  have hprefix : source.textBefore (index + 1) <+: source.textBefore later := htake.flatten
  obtain ⟨between, hbetween⟩ := hprefix
  have hlater : unit.measure (source.textBefore later) =
      unit.measure (source.textBefore index) + unit.measure (source.textAt index) +
        unit.measure between := by
    rw [← hbetween, textBefore_succ, unit.measure_append, unit.measure_append]
  rw [source.getElem?_lines_eq_some hline, source.getElem?_lines_eq_some hother,
    Line.start_after, Line.start_after, Line.length_after, hlater]
  omega

theorem textAt_eq_slice {index : Nat} {line : Line} (hline : source.lines[index]? = some line) :
    source.textAt index = slice source.text line.offset line.charLength := by
  have hslice := slice_append_append (source.textBefore index) (source.textAt index)
    (source.pieces.drop (index + 1)).flatten
  rw [textBefore_append_textAt] at hslice
  rw [source.getElem?_lines_eq_some hline]
  exact hslice.symm

theorem encode_textAt_eq_slice {index : Nat} {line : Line}
    (hline : source.lines[index]? = some line) :
    Utf8.encode (source.textAt index) =
      slice (Utf8.encode source.text) line.byteOffset line.byteLength := by
  have hslice := slice_append_append (Utf8.encode (source.textBefore index))
    (Utf8.encode (source.textAt index))
    (Utf8.encode (source.pieces.drop (index + 1)).flatten)
  rw [← Utf8.encode_append, ← Utf8.encode_append, textBefore_append_textAt,
    Utf8.length_encode, Utf8.length_encode] at hslice
  rw [source.getElem?_lines_eq_some hline]
  exact hslice.symm

theorem getElem?_pieces_of_line {index : Nat} {line : Line}
    (hline : source.lines[index]? = some line) :
    source.pieces[index]? = some (source.textAt index) := by
  rw [getElem?_lines] at hline
  obtain ⟨piece, hpiece, -⟩ := Option.map_eq_some_iff.mp hline
  rw [textAt, hpiece, Option.getD_some]

theorem map_lineText?_lines : source.lines.map source.lineText? = source.pieces.map some := by
  apply List.ext_getElem?
  intro index
  rw [List.getElem?_map, List.getElem?_map]
  cases hline : source.lines[index]? with
  | none =>
      rw [getElem?_lines, Option.map_eq_none_iff] at hline
      rw [hline]
      rfl
  | some line =>
      rw [source.getElem?_pieces_of_line hline, Option.map_some, Option.map_some,
        source.lineText?_of_mem hline]

/-- The line table is that of the text, whatever the text is. -/
theorem tabulated : source.Tabulated where
  count := source.length_lines
  start unit index line hline := by
    rw [source.sum_map_length_take, source.getElem?_lines_eq_some hline, Line.start_after]
  apart unit := by
    rw [List.pairwise_iff_getElem]
    intro index later hindex hlater hlt
    exact source.start_add_length_le unit hlt (List.getElem?_eq_getElem hindex)
      (List.getElem?_eq_getElem hlater)
  total := source.total_eq_sum_map_length
  chars := rfl
  bytes := by rw [Utf8.length_encode]; rfl
  text index line hline :=
    ⟨source.textAt index, source.lineText?_of_mem hline, source.getElem?_pieces_of_line hline,
      source.textAt_eq_slice hline, source.encode_textAt_eq_slice hline⟩
  whole := ⟨source.pieces, source.map_lineText?_lines, flatten_splitLines source.text⟩
  stale _ := source.lineText?_of_not_mem

end Source

end Diagnostics
