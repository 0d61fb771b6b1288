import Mathlib.Order.Bounds.Basic
import Diagnostics.Proofs.Source.ByteOffset
import Diagnostics.Proofs.Source.Position

/-!
# Bytes as characters

A byte counts as the first character that starts at or after it. The characters of a line
are counted up to that one; counted from the start of the line, they give the character
that the text as a whole has there. So it is for a byte in the middle of a terminator too,
which is on the line of the terminator and counts as the start of the next line.
-/

namespace Diagnostics

/-- `count` is the least number of characters at the start of the text that take up so many
bytes. -/
def RoundsUpTo (text : List Char) (bytes : Int) (count : Nat) : Prop :=
  IsLeast {count | count ≤ text.length ∧ bytes ≤ Utf8.byteLength (text.take count)} count

/-- Byte offsets and byte columns of the source are rounded up to the next character. -/
structure Source.RoundsUp (source : Source) : Prop where
  /-- The line and the column of a byte lead to the next character of the text. -/
  offset : ∀ byte, 0 ≤ byte → byte ≤ source.total .byte →
    ∃ position count, source.lineAt? byte .byte = some position ∧
      position.line.offset + source.charColumn position.line position.column .byte =
        (count : Nat) ∧
      RoundsUpTo source.text byte count
  /-- A byte at which a character starts, or the text ends, is found where that character is. -/
  boundary : ∀ count ≤ source.text.length, ∃ position,
    source.lineAt? (Utf8.byteLength (source.text.take count)) .byte = some position ∧
      source.lineAt? count .char = some
        { position with column := source.charColumn position.line position.column .byte }
  /-- A column of a line leads to the next character of its text, or to its end if there is
  none. -/
  column : ∀ line ∈ source.lines, ∃ text, source.lineText? line = some text ∧
    text.length = line.charLength ∧
    ∀ column, ∃ count : Nat, source.charColumn line column .byte = count ∧
      (RoundsUpTo text column count ∨
        (∀ other ≤ text.length, Utf8.byteLength (text.take other) < column) ∧
          count = text.length)
  mono : ∀ line ∈ source.lines, ∀ column later, column ≤ later →
    source.charColumn line column .byte ≤ source.charColumn line later .byte
  start : ∀ line ∈ source.lines, ∀ column ≤ 0, source.charColumn line column .byte = 0
  stop : ∀ line ∈ source.lines, ∀ column, line.byteLength ≤ column →
    source.charColumn line column .byte = line.charLength

/-! ### Characters of one text -/

theorem byteLength_take_le (text : List Char) (count : Nat) :
    Utf8.byteLength (text.take count) ≤ Utf8.byteLength text := by
  have happend := Utf8.byteLength_append (text.take count) (text.drop count)
  rw [List.take_append_drop] at happend
  omega

namespace Source

variable {text left right : List Char} {column : Int}

theorem charsBefore_le_length (column : Int) (text : List Char) :
    charsBefore column text ≤ text.length :=
  OffsetUnit.byte.charsBefore_le_length column text

theorem roundsUpTo_charsBefore (hle : column ≤ Utf8.byteLength text) :
    RoundsUpTo text column (charsBefore column text) := by
  refine ⟨⟨charsBefore_le_length column text, ?_⟩, ?_⟩
  · rcases (charsBefore_le_iff column text _).mp (Nat.le_refl _) with hall | hreached
    · rwa [List.take_of_length_le hall]
    · exact hreached
  · rintro count ⟨-, hreached⟩
    exact (charsBefore_le_iff column text count).mpr (Or.inr hreached)

theorem charsBefore_of_byteLength_le (hle : Utf8.byteLength text ≤ column) :
    charsBefore column text = text.length := by
  apply Nat.le_antisymm (charsBefore_le_length column text)
  rcases (charsBefore_le_iff column text _).mp (Nat.le_refl _) with hall | hreached
  · exact hall
  · -- One character more would take up more bytes than the whole text.
    by_contra hlt
    have hnext := byteLength_take_lt_succ text (Nat.lt_of_not_le hlt)
    have hbound := byteLength_take_le text (charsBefore column text + 1)
    omega

theorem charsBefore_of_nonpos (hle : column ≤ 0) : charsBefore column text = 0 := by
  rw [← Nat.le_zero, charsBefore_le_iff]
  exact Or.inr (by simpa using hle)

theorem charsBefore_append_of_le (hle : column ≤ Utf8.byteLength left) :
    charsBefore column (left ++ right) = charsBefore column left := by
  induction left generalizing column with
  | nil =>
      have hnonpos : column ≤ 0 := by simpa using hle
      rw [charsBefore_of_nonpos hnonpos, charsBefore_of_nonpos hnonpos]
  | cons c rest ih =>
      rw [Utf8.byteLength_cons] at hle
      rw [List.cons_append, charsBefore, charsBefore, ih (by omega)]

theorem charsBefore_append_of_ge (hle : Utf8.byteLength left ≤ column) :
    charsBefore column (left ++ right) =
      left.length + charsBefore (column - Utf8.byteLength left) right := by
  induction left generalizing column with
  | nil => simp
  | cons c rest ih =>
      have hsize := c.utf8Size_pos
      rw [Utf8.byteLength_cons] at hle ⊢
      have hrest := ih (show Utf8.byteLength rest ≤ column - c.utf8Size by omega)
      have hsub : column - c.utf8Size - Utf8.byteLength rest =
          column - (c.utf8Size + Utf8.byteLength rest : Nat) := by omega
      rw [List.cons_append, charsBefore, if_neg (by omega), hrest, hsub, List.length_cons,
        Nat.add_right_comm]

/-! ### Lines of a source -/

variable {source : Source} {index : Nat} {line : Line}

/-- The characters before a byte column of a line are, with those before the line, the
characters before the byte. -/
theorem charsBefore_text (hline : source.lines[index]? = some line) (hnonneg : 0 ≤ column)
    (hle : column ≤ line.byteLength) :
    charsBefore (line.byteOffset + column) source.text =
      (source.textBefore index).length + charsBefore column (source.textAt index) := by
  obtain rfl := source.getElem?_lines_eq_some hline
  simp only [Line.after] at hle ⊢
  have hsub : Utf8.byteLength (source.textBefore index) + column -
      Utf8.byteLength (source.textBefore index) = column := by omega
  rw [← source.textBefore_append_textAt index, List.append_assoc,
    charsBefore_append_of_ge (by omega), hsub, charsBefore_append_of_le hle]

theorem offset_add_charColumn {byte : Int} {position : Position}
    (hfound : source.lineAt? byte .byte = some position) :
    position.line.offset + source.charColumn position.line position.column .byte =
      charsBefore byte source.text := by
  obtain ⟨hnonneg, hle⟩ := column_bounds hfound
  obtain ⟨-, -, hline, hcolumn⟩ := (source.lineAt?_eq_some_iff _ _ _).mp hfound
  have hbyte : byte = position.line.byteOffset + position.column := by
    rw [hcolumn, Line.start]
    omega
  have hoffset : position.line.offset = (source.textBefore position.index).length := by
    rw [source.getElem?_lines_eq_some hline]
    rfl
  rw [hbyte, charsBefore_text hline hnonneg hle, source.charColumn_of_mem hline, hoffset]
  exact (Int.natCast_add _ _).symm

/-- The byte column of a character is converted to its character column. -/
theorem charColumn_byteOffset {offset : Int} {position : Position}
    (hfound : source.lineAt? offset .char = some position) :
    source.charColumn position.line
        (byteOffset source.text offset - position.line.start .byte) .byte =
      position.column := by
  obtain ⟨hnonneg, hle⟩ := column_bounds hfound
  obtain ⟨-, -, hline, hcolumn⟩ := (source.lineAt?_eq_some_iff _ _ _).mp hfound
  rw [source.getElem?_lines_eq_some hline, Line.length_after, OffsetUnit.measure] at hle
  rw [source.charColumn_of_mem hline, source.charsBefore_byteOffset hline, ← hcolumn,
    OffsetUnit.charsBefore]
  omega

/-- A line has a text that is as long as its record says and in which its byte columns are
converted. -/
theorem exists_text_of_mem (hmem : line ∈ source.lines) :
    ∃ text, source.lineText? line = some text ∧ text.length = line.charLength ∧
      Utf8.byteLength text = line.byteLength ∧
      ∀ column, source.charColumn line column .byte = charsBefore column text := by
  obtain ⟨index, hline⟩ := List.mem_iff_getElem?.mp hmem
  have hrecord := source.getElem?_lines_eq_some hline
  refine ⟨source.textAt index, source.lineText?_of_mem hline, ?_, ?_, ?_⟩
  · rw [hrecord]
    rfl
  · rw [hrecord]
    rfl
  · exact fun column => source.charColumn_of_mem hline column .byte

/-- Byte offsets and byte columns are rounded up in every source. -/
theorem roundsUp (source : Source) : source.RoundsUp where
  offset byte hnonneg hle := by
    obtain ⟨position, hfound⟩ := source.exists_lineAt? .byte hnonneg hle
    exact ⟨position, _, hfound, offset_add_charColumn hfound, roundsUpTo_charsBefore hle⟩
  boundary count hcount := by
    have hcast : (count : Int) ≤ source.total .char := Int.ofNat_le.mpr hcount
    obtain ⟨position, hfound⟩ := source.exists_lineAt? .char (Int.natCast_nonneg count) hcast
    have hbyte := source.lineAt?_byteOffset count
    have hcolumn := charColumn_byteOffset hfound
    rw [hfound, byteOffset_natCast source.text hcount] at hbyte
    rw [byteOffset_natCast source.text hcount] at hcolumn
    exact ⟨_, hbyte, by simp only [hcolumn, hfound]⟩
  column line hmem := by
    obtain ⟨text, htext, hlength, -, hcolumn⟩ := exists_text_of_mem hmem
    refine ⟨text, htext, hlength, fun column => ⟨_, hcolumn column, ?_⟩⟩
    rcases le_or_gt column (Utf8.byteLength text : Int) with hle | hlt
    · exact Or.inl (roundsUpTo_charsBefore hle)
    · refine Or.inr ⟨fun other _ => ?_, charsBefore_of_byteLength_le (Int.le_of_lt hlt)⟩
      have hbound := byteLength_take_le text other
      omega
  mono line hmem column later hle := by
    obtain ⟨text, -, -, -, hcolumn⟩ := exists_text_of_mem hmem
    rw [hcolumn, hcolumn]
    exact Int.ofNat_le.mpr (OffsetUnit.byte.charsBefore_mono text hle)
  start line hmem column hle := by
    obtain ⟨text, -, -, -, hcolumn⟩ := exists_text_of_mem hmem
    rw [hcolumn, charsBefore_of_nonpos hle]
    rfl
  stop line hmem column hle := by
    obtain ⟨text, -, hlength, hbytes, hcolumn⟩ := exists_text_of_mem hmem
    rw [hcolumn, charsBefore_of_byteLength_le (hbytes ▸ hle), hlength]

end Source

end Diagnostics
