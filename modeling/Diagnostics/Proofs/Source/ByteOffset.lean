import Mathlib.Order.Monotone.Basic
import Diagnostics.Proofs.Source.Bisection

/-!
# Character offsets as byte offsets

The byte offset of a character offset is the size of the text before it. Outside the
text the two units run alike, so that an offset which is outside by some amount stays
so. The map is strictly increasing and hits the start of every line; a lookup in bytes
is thereby the lookup in characters of the last character that starts at or before the
byte.
-/

namespace Diagnostics

def byteOffset (text : List Char) (offset : Int) : Int :=
  if offset < 0 then offset
  else if offset ≤ text.length then Utf8.byteLength (text.take offset.toNat)
  else Utf8.byteLength text + (offset - text.length)

variable (text : List Char)

theorem byteOffset_natCast {count : Nat} (hle : count ≤ text.length) :
    byteOffset text count = Utf8.byteLength (text.take count) := by
  have hnonneg : ¬((count : Int) < 0) := by omega
  have hcast : (count : Int) ≤ text.length := by exact_mod_cast hle
  rw [byteOffset, if_neg hnonneg, if_pos hcast, Int.toNat_natCast]

theorem byteOffset_of_length_le {offset : Int} (hle : text.length ≤ offset) :
    byteOffset text offset = Utf8.byteLength text + (offset - text.length) := by
  rcases hle.eq_or_lt with heq | hlt
  · rw [← heq, byteOffset_natCast text (Nat.le_refl _), List.take_length]
    omega
  · rw [byteOffset, if_neg (by omega), if_neg (by omega)]

@[simp]
theorem byteOffset_zero : byteOffset text 0 = 0 := by
  simpa using byteOffset_natCast text (Nat.zero_le _)

theorem byteLength_take_lt_succ {count : Nat} (hlt : count < text.length) :
    Utf8.byteLength (text.take count) < Utf8.byteLength (text.take (count + 1)) := by
  have hsize := (text[count]).utf8Size_pos
  rw [List.take_add_one, List.getElem?_eq_getElem hlt, Utf8.byteLength_append]
  simp only [Option.toList_some, Utf8.byteLength_cons, Utf8.byteLength_nil]
  omega

theorem byteOffset_lt_succ (offset : Int) :
    byteOffset text offset < byteOffset text (offset + 1) := by
  rcases lt_or_ge offset 0 with hneg | hnonneg
  · have hhere : byteOffset text offset = offset := by rw [byteOffset, if_pos hneg]
    rcases (show offset + 1 ≤ 0 by omega).eq_or_lt with hzero | hbefore
    · rw [hhere, hzero, byteOffset_zero]
      exact hneg
    · rw [hhere, byteOffset, if_pos hbefore]
      omega
  · obtain ⟨count, rfl⟩ := Int.eq_ofNat_of_zero_le hnonneg
    rcases lt_or_ge count text.length with hlt | hge
    · have hnext := byteOffset_natCast text (Nat.succ_le_of_lt hlt)
      push_cast at hnext
      rw [byteOffset_natCast text hlt.le, hnext]
      exact_mod_cast byteLength_take_lt_succ text hlt
    · rw [byteOffset_of_length_le text (by omega), byteOffset_of_length_le text (by omega)]
      omega

theorem byteOffset_lt_byteOffset_iff (left right : Int) :
    byteOffset text left < byteOffset text right ↔ left < right :=
  (strictMono_int_of_lt_succ (byteOffset_lt_succ text)).lt_iff_lt

theorem byteOffset_le_byteOffset_iff (left right : Int) :
    byteOffset text left ≤ byteOffset text right ↔ left ≤ right :=
  (strictMono_int_of_lt_succ (byteOffset_lt_succ text)).le_iff_le

namespace Source

variable (source : Source)

/-- Within a line, the byte offset of a character counts the bytes of the line before
it. -/
theorem byteOffset_textBefore_add {index count : Nat}
    (hcount : count ≤ (source.textAt index).length) :
    byteOffset source.text ((source.textBefore index).length + count) =
      Utf8.byteLength (source.textBefore index) +
        Utf8.byteLength ((source.textAt index).take count) := by
  have hsplit := source.textBefore_append_textAt index
  have hle : (source.textBefore index).length + count ≤ source.text.length := by
    rw [← hsplit]
    simp only [List.length_append]
    omega
  have htake : source.text.take ((source.textBefore index).length + count) =
      source.textBefore index ++ (source.textAt index).take count := by
    rw [← hsplit, List.append_assoc, List.take_length_add_append,
      List.take_append_of_le_length hcount]
  have hcast := byteOffset_natCast source.text hle
  rw [htake, Utf8.byteLength_append] at hcast
  exact_mod_cast hcast

theorem byteOffset_start {line : Line} (hline : line ∈ source.lines) :
    byteOffset source.text (line.start .char) = line.start .byte := by
  obtain ⟨index, -, rfl⟩ := (source.mem_lines_iff line).mp hline
  simpa [OffsetUnit.measure] using source.byteOffset_textBefore_add (Nat.zero_le _)

/-- A byte column of a line reaches as many of its characters as the character column
does. -/
theorem charsBefore_byteOffset {index : Nat} {line : Line}
    (hline : source.lines[index]? = some line) (offset : Int) :
    OffsetUnit.byte.charsBefore (byteOffset source.text offset - line.start .byte)
        (source.textAt index) =
      OffsetUnit.char.charsBefore (offset - line.start .char) (source.textAt index) := by
  apply eq_of_forall_ge_iff
  intro count
  rw [OffsetUnit.charsBefore_le_iff, OffsetUnit.charsBefore_le_iff]
  rcases le_or_gt (source.textAt index).length count with hend | hinside
  · simp [hend]
  · have hadd := source.byteOffset_textBefore_add hinside.le
    have hiff := byteOffset_le_byteOffset_iff source.text offset
      ((source.textBefore index).length + count)
    rw [hadd] at hiff
    rw [source.getElem?_lines_eq_some hline]
    simp only [Line.start_after, OffsetUnit.measure, List.length_take]
    omega

/-- If the characters that start at or before a byte are those up to some character, the
byte is found where that character is. -/
theorem lineAt?_byte {byte offset : Int}
    (hreach : ∀ other : Int, byteOffset source.text other ≤ byte ↔ other ≤ offset) :
    source.lineAt? byte .byte =
      (source.lineAt? offset .char).map fun position =>
        { position with column := byte - position.line.start .byte } := by
  have htotal : byteOffset source.text (source.text.length + 1) = source.total .byte + 1 := by
    rw [byteOffset_of_length_le source.text (by omega)]
    simp only [total, byteTotal]
    omega
  have hzero := hreach 0
  have hend := hreach (source.text.length + 1)
  have hchars : source.total .char = source.text.length := rfl
  rw [byteOffset_zero] at hzero
  rw [htotal] at hend
  have hindex : source.indexAt byte .byte = source.indexAt offset .char := by
    apply source.indexAt_congr
    intro line hline
    rw [← source.byteOffset_start hline]
    exact hreach _
  cases hfound : source.lineAt? offset .char with
  | none =>
      rw [lineAt?_eq_none_iff] at hfound
      rw [Option.map_none, lineAt?_eq_none_iff]
      omega
  | some position =>
      rw [lineAt?_eq_some_iff] at hfound
      rw [Option.map_some, lineAt?_eq_some_iff]
      obtain ⟨hrange, hat, hline, -⟩ := hfound
      refine ⟨by omega, ?_, hline, rfl⟩
      rw [hindex]
      exact hat

theorem lineAt?_byteOffset (offset : Int) :
    source.lineAt? (byteOffset source.text offset) .byte =
      (source.lineAt? offset .char).map fun position =>
        { position with
          column := byteOffset source.text offset - position.line.start .byte } :=
  source.lineAt?_byte fun other => byteOffset_le_byteOffset_iff source.text other offset

end Source

end Diagnostics
