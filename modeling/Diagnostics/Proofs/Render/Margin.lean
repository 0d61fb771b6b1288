import Diagnostics.Proofs.Render.Body

/-!
# The margin

The margin is as wide as the widest line number that is shown. Every source row has its
number right-aligned in it, every row of a label leaves it blank, and the bar is in the
same cell in all of them.
-/

namespace Diagnostics

theorem foldl_max_le_iff (numbers : List Nat) (first bound : Nat) :
    numbers.foldl max first ≤ bound ↔ first ≤ bound ∧ ∀ number ∈ numbers, number ≤ bound := by
  induction numbers generalizing first with
  | nil => simp
  | cons number rest ih =>
      rw [List.foldl_cons, ih, Nat.max_le, List.forall_mem_cons, and_assoc]

theorem numberWidth_le_iff (source : Source) (lines : List Nat) (width : Nat) :
    numberWidth source lines ≤ width ↔
      1 ≤ width ∧ ∀ line ∈ lines, (Text.decimal (source.lineNumber line)).length ≤ width := by
  rw [numberWidth, foldl_max_le_iff, List.forall_mem_map]

/-- The line numbers fit in as few cells as those of the drawn labels take, but no less
than one. -/
theorem penOf_width_le_iff (report : Report) (source : Source) (width : Nat) :
    (penOf report source).width ≤ width ↔
      1 ≤ width ∧ ∀ drawn ∈ drawnLabels report source,
        (Text.decimal (source.lineNumber drawn.line)).length ≤ width := by
  rw [penOf, numberWidth_le_iff]
  simp only [mem_labelledLines, forall_exists_index, and_imp, forall_apply_eq_imp_iff₂]

/-- `text` has the bar behind a margin of `width` cells, in which `number` is
right-aligned, and a blank. -/
structure HasMargin (width : Nat) (bar : Char) (number text : List Char) : Prop where
  fits : number.length ≤ width
  number : text.take (width + 1) = List.replicate (width - number.length) ' ' ++ number ++ [' ']
  bar : text[width + 1]? = some bar
  blank : text[width + 2]? = some ' '

theorem hasMargin_padLeft {width : Nat} {number : List Char} (bar : Char) (text : List Char)
    (hfits : number.length ≤ width) :
    HasMargin width bar number (Text.padLeft width number ++ ' ' :: bar :: ' ' :: text) := by
  have hlength : (Text.padLeft width number).length = width := by
    rw [Text.padLeft, List.length_append, List.length_replicate, Nat.sub_add_cancel hfits]
  refine ⟨hfits, ?_, ?_, ?_⟩
  · rw [List.take_append, hlength, List.take_of_length_le (by omega), Text.padLeft]
    simp
  · rw [List.getElem?_append_right (by omega), hlength]
    simp
  · rw [List.getElem?_append_right (by omega), hlength]
    simp

theorem hasMargin_replicate (width : Nat) (bar : Char) (text : List Char) :
    HasMargin width bar [] (List.replicate (width + 1) ' ' ++ bar :: ' ' :: text) := by
  have hfits : ([] : List Char).length ≤ width := Nat.zero_le width
  have hmargin := hasMargin_padLeft bar text hfits
  rw [List.replicate_succ', List.append_assoc]
  simpa [Text.padLeft] using hmargin

namespace Pen

variable {pen : Pen}

theorem margin_of_plain (hplain : pen.colored = false) (text : List Char) :
    pen.margin text = text := by
  rw [margin, hplain]
  rfl

theorem gutter_of_plain (hplain : pen.colored = false) :
    pen.gutter = List.replicate (pen.width + 1) ' ' ++ [pen.glyphs.verticalBar] := by
  rw [gutter, indent, margin_of_plain hplain]

theorem rowText_source (hplain : pen.colored = false) (number : Int) (text : List Char) :
    pen.rowText (.source number text) =
      Text.padLeft pen.width (Text.decimal number) ++
        ' ' :: pen.glyphs.verticalBar :: ' ' :: text := by
  rw [rowText, margin_of_plain hplain]
  simp

theorem rowText_underline (hplain : pen.colored = false) (label : DrawnLabel) :
    pen.rowText (.underline label) =
      List.replicate (pen.width + 1) ' ' ++ pen.glyphs.verticalBar :: ' ' ::
        (List.replicate label.startColumn.toNat ' ' ++
          paint label.color (pen.underlineGlyphs label)) := by
  rw [rowText, gutter_of_plain hplain]
  simp

theorem rowText_arrow (hplain : pen.colored = false) (label : DrawnLabel) (msg : String) :
    pen.rowText (.arrow label msg) =
      List.replicate (pen.width + 1) ' ' ++ pen.glyphs.verticalBar :: ' ' ::
        (List.replicate label.attachColumn.toNat ' ' ++
          paint label.color (pen.arrowGlyphs label) ++ ' ' :: msg.toList) := by
  rw [rowText, gutter_of_plain hplain]
  simp

end Pen

/-- What stands right-aligned in the margin of a row with a bar: the number of a source
row, and nothing for a label. -/
def Row.marginNumber? : Row → Option (List Char)
  | .source number _ => some (Text.decimal number)
  | .underline _ => some []
  | .arrow _ _ => some []
  | _ => none

/-- The bar is in the same cell of all source rows and label rows. -/
theorem hasMargin_rowText {report : Report} {source : Source} {elideAfter : Int} {row : Row}
    {number : List Char} (hcolor : report.config.color = false)
    (hrow : row ∈ rows report source elideAfter) (hnumber : row.marginNumber? = some number) :
    HasMargin (penOf report source).width report.config.charSet.glyphs.verticalBar number
      ((penOf report source).rowText row) := by
  have hplain : (penOf report source).colored = false := hcolor
  cases row with
  | source shown text =>
      obtain rfl := Option.some.inj hnumber
      have hfits : (Text.decimal shown).length ≤ (penOf report source).width := by
        obtain ⟨drawn, hdrawn, heq⟩ := eq_sourceRow_of_mem_rows hrow
        have hshown : shown = source.lineNumber drawn.line := (Row.source.inj heq).1
        rw [hshown]
        exact ((penOf_width_le_iff report source _).mp (Nat.le_refl _)).2 drawn hdrawn
      rw [Pen.rowText_source hplain]
      exact hasMargin_padLeft _ _ hfits
  | underline label =>
      obtain rfl := Option.some.inj hnumber
      rw [Pen.rowText_underline hplain]
      exact hasMargin_replicate _ _ _
  | arrow label msg =>
      obtain rfl := Option.some.inj hnumber
      rw [Pen.rowText_arrow hplain]
      exact hasMargin_replicate _ _ _
  | header | location | gutter | elision | border | note | help => cases hnumber

end Diagnostics
