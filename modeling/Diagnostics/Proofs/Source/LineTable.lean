import Diagnostics.Render.Drawn

/-!
# Records and the text they stand for

A record of the line table is fixed by two texts: what stands before the line, and the
line itself. Every question about offsets is thereby one about prefixes of the text, in
either unit. The lookup of an offset is decided by which lines start at or before it,
and the conversion of a column by which prefixes of the line reach it.
-/

namespace Diagnostics

namespace OffsetUnit

/-- The length of a text in the unit. -/
def measure : OffsetUnit → List Char → Nat
  | .char, text => text.length
  | .byte, text => Utf8.byteLength text

/-- The number of characters of `text` before the first one that starts at or after
`column`. -/
def charsBefore : OffsetUnit → Int → List Char → Nat
  | .char, column, text => (min column text.length).toNat
  | .byte, column, text => Source.charsBefore column text

@[simp]
theorem measure_nil (unit : OffsetUnit) : unit.measure [] = 0 := by
  cases unit <;> rfl

theorem measure_append (unit : OffsetUnit) (left right : List Char) :
    unit.measure (left ++ right) = unit.measure left + unit.measure right := by
  cases unit with
  | byte => exact Utf8.byteLength_append left right
  | char => exact List.length_append

end OffsetUnit

theorem Source.charsBefore_le_iff (column : Int) (text : List Char) (count : Nat) :
    Source.charsBefore column text ≤ count ↔
      text.length ≤ count ∨ column ≤ Utf8.byteLength (text.take count) := by
  induction text generalizing column count with
  | nil => simp [Source.charsBefore]
  | cons c rest ih =>
      by_cases hcolumn : column ≤ 0
      · have hreached : column ≤ Utf8.byteLength ((c :: rest).take count) := by omega
        simp [Source.charsBefore, hcolumn, hreached]
      · cases count with
        | zero => simp [Source.charsBefore, hcolumn]
        | succ count =>
            simp only [Source.charsBefore, hcolumn, if_false, Nat.add_le_add_iff_right,
              List.length_cons, List.take_succ_cons, Utf8.byteLength_cons]
            rw [ih]
            push_cast
            constructor <;> intro h <;> omega

/-- The least number of characters that reach a column, or all of them if the column is
past the end. -/
theorem OffsetUnit.charsBefore_le_iff (unit : OffsetUnit) (column : Int) (text : List Char)
    (count : Nat) :
    unit.charsBefore column text ≤ count ↔
      text.length ≤ count ∨ column ≤ unit.measure (text.take count) := by
  cases unit with
  | byte => exact Source.charsBefore_le_iff column text count
  | char =>
      simp only [charsBefore, measure, List.length_take]
      omega

theorem OffsetUnit.charsBefore_le_length (unit : OffsetUnit) (column : Int) (text : List Char) :
    unit.charsBefore column text ≤ text.length := by
  rw [OffsetUnit.charsBefore_le_iff]
  exact Or.inl (Nat.le_refl _)

theorem OffsetUnit.charsBefore_mono (unit : OffsetUnit) {column later : Int} (text : List Char)
    (hle : column ≤ later) : unit.charsBefore column text ≤ unit.charsBefore later text := by
  rw [OffsetUnit.charsBefore_le_iff]
  rcases (unit.charsBefore_le_iff later text _).mp (Nat.le_refl _) with hend | hreached
  · exact Or.inl hend
  · exact Or.inr (Int.le_trans hle hreached)

/-- The record of a line that stands after the text `before`. -/
def Line.after (before line : List Char) : Line :=
  ⟨before.length, line.length, Utf8.byteLength before, Utf8.byteLength line⟩

@[simp]
theorem Line.start_after (unit : OffsetUnit) (before line : List Char) :
    (Line.after before line).start unit = unit.measure before := by
  cases unit <;> rfl

theorem getElem?_lineTable (before : List Char) (pieces : List (List Char)) (index : Nat) :
    (lineTable before.length (Utf8.byteLength before) pieces)[index]? =
      pieces[index]?.map (Line.after (before ++ (pieces.take index).flatten)) := by
  induction pieces generalizing before index with
  | nil => simp [lineTable]
  | cons piece rest ih =>
      cases index with
      | zero => simp [lineTable, Line.after]
      | succ index =>
          have htail := ih (before ++ piece) index
          rw [List.length_append, Utf8.byteLength_append] at htail
          simpa [lineTable] using htail

namespace Source

variable (source : Source)

/-- The text before the line at `index`. -/
def textBefore (index : Nat) : List Char :=
  (source.pieces.take index).flatten

theorem total_eq_measure (unit : OffsetUnit) :
    source.total unit = unit.measure source.text := by
  cases unit <;> rfl

theorem getElem?_lines (index : Nat) :
    source.lines[index]? = source.pieces[index]?.map (Line.after (source.textBefore index)) := by
  simpa [lines, textBefore] using getElem?_lineTable [] source.pieces index

theorem getElem?_lines_eq_some {index : Nat} {line : Line}
    (hline : source.lines[index]? = some line) :
    line = Line.after (source.textBefore index) (source.textAt index) := by
  rw [getElem?_lines] at hline
  obtain ⟨piece, hpiece, rfl⟩ := Option.map_eq_some_iff.mp hline
  simp [textAt, hpiece]

theorem mem_lines_iff (line : Line) :
    line ∈ source.lines ↔ ∃ index < source.pieces.length,
      line = Line.after (source.textBefore index) (source.textAt index) := by
  rw [List.mem_iff_getElem?]
  constructor
  · rintro ⟨index, hline⟩
    have hlt := (List.getElem?_eq_some_iff.mp hline).1
    rw [length_lines] at hlt
    exact ⟨index, hlt, source.getElem?_lines_eq_some hline⟩
  · rintro ⟨index, hlt, rfl⟩
    refine ⟨index, ?_⟩
    rw [getElem?_lines, List.getElem?_eq_getElem hlt]
    simp [textAt, hlt]

theorem textBefore_succ (index : Nat) :
    source.textBefore (index + 1) = source.textBefore index ++ source.textAt index := by
  rw [textBefore, textBefore, textAt, List.take_add_one, List.flatten_append]
  cases source.pieces[index]? <;> simp

/-- The text before a line, the line, and what follows make up the whole text. -/
theorem textBefore_append_textAt (index : Nat) :
    source.textBefore index ++ source.textAt index ++ (source.pieces.drop (index + 1)).flatten =
      source.text := by
  have htext : source.pieces.flatten = source.text := flatten_splitLines source.text
  rw [← textBefore_succ, textBefore, ← List.flatten_append, List.take_append_drop, htext]

end Source

end Diagnostics
