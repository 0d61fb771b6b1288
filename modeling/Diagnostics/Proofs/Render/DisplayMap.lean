import Mathlib.Order.Bounds.Basic
import Diagnostics.Proofs.Render.Expansion
import Diagnostics.Usual

/-!
# Expanded lines as display maps

The column map cuts an expanded line into one piece for each character: the character itself, a
space for a blank, and for a tab spaces up to the next tab stop. The columns increase from zero to
the length of the expanded line, and the start of a text is mapped in the same way whatever follows
it.
-/

namespace Diagnostics

/-- What is shown of a character from one column up to another. -/
structure CellShows (tabWidth : Int) (c : Char) (start stop : Int) (shown : List Char) : Prop where
  plain : Text.isBlank c = false → shown = [c]
  blank : Text.isBlank c → c ≠ '\t' → shown = [' ']
  tab : c = '\t' → (∀ glyph ∈ shown, glyph = ' ') ∧
    IsLeast {column | start < column ∧ tabWidth ∣ column} stop

structure IsDisplayMap (tabWidth : Int) (text out : List Char) (columns : List Int) : Prop where
  length_eq : columns.length = text.length + 1
  head : columns.head? = some 0
  increasing : columns.Pairwise (· < ·)
  last : columns.getLast? = some (out.length : Int)
  cells : ∀ (index : Nat) (c : Char) (start stop : Int), text[index]? = some c →
    columns[index]? = some start → columns[index + 1]? = some stop →
    CellShows tabWidth c start stop (out.extract start.toNat stop.toNat)
  blanks : ∀ glyph ∈ out, Text.isBlank glyph → glyph = ' '

variable {tabWidth : Int}

/-! ### Columns -/

theorem le_of_mem_columnsFrom (hpos : 0 < tabWidth) {column start : Int} {text : List Char}
    (hmem : column ∈ columnsFrom tabWidth start text) : start ≤ column := by
  induction text generalizing start with
  | nil => exact Int.le_of_eq (List.mem_singleton.mp hmem).symm
  | cons c rest ih =>
      obtain rfl | hlater := List.mem_cons.mp hmem
      · exact Int.le_refl _
      · have hwidth := cell_width_pos hpos start c
        have hle := ih hlater
        omega

theorem pairwise_columnsFrom (hpos : 0 < tabWidth) (start : Int) (text : List Char) :
    (columnsFrom tabWidth start text).Pairwise (· < ·) := by
  induction text generalizing start with
  | nil => exact List.pairwise_singleton _ start
  | cons c rest ih =>
      refine List.pairwise_cons.mpr ⟨fun column hmem => ?_, ih _⟩
      have hwidth := cell_width_pos hpos start c
      have hle := le_of_mem_columnsFrom hpos hmem
      omega

/-- The columns of a text do not depend on what follows it. -/
theorem columnsFrom_prefix (start : Int) (before after : List Char) :
    columnsFrom tabWidth start before <+: columnsFrom tabWidth start (before ++ after) := by
  induction before generalizing start with
  | nil =>
      cases after with
      | nil => exact List.prefix_rfl
      | cons c rest => exact List.prefix_cons_inj start |>.mpr List.nil_prefix
  | cons c rest ih => exact (List.prefix_cons_inj start).mpr (ih _)

theorem getLast?_columns (hpos : 0 < tabWidth) (text : List Char) :
    (columns tabWidth text).getLast? = some ((expand tabWidth text).length : Int) := by
  have hlength : (columns tabWidth text).length = text.length + 1 :=
    length_columnsFrom tabWidth 0 text
  rw [List.getLast?_eq_getElem?, hlength, Nat.add_sub_cancel,
    getElem?_columns hpos text (Nat.le_refl _), List.take_length]

/-! ### Cells -/

/-- The next tab stop is the least multiple of the tab width behind the column. -/
theorem isLeast_tabStop (hpos : 0 < tabWidth) (start : Int) :
    IsLeast {column | start < column ∧ tabWidth ∣ column} (start + tabStride tabWidth start) := by
  have hstop : start + tabStride tabWidth start = (start.fdiv tabWidth + 1) * tabWidth := by
    rw [tabStride]
    omega
  rw [hstop]
  refine ⟨⟨Int.lt_fdiv_add_one_mul_self start hpos, Int.dvd_mul_left _ _⟩, ?_⟩
  rintro _ ⟨hlt, factor, rfl⟩
  have hfactor : start.fdiv tabWidth < factor := by
    rw [Int.fdiv_eq_ediv_of_nonneg start (Int.le_of_lt hpos)]
    exact Int.ediv_lt_of_lt_mul hpos (Int.mul_comm tabWidth factor ▸ hlt)
  rw [Int.mul_comm tabWidth factor]
  exact Int.mul_le_mul_of_nonneg_right hfactor (Int.le_of_lt hpos)

theorem cellShows_replicate (hpos : 0 < tabWidth) (c : Char) (start : Int) :
    CellShows tabWidth c start (start + (cell tabWidth start c).2)
      (List.replicate (cell tabWidth start c).2.toNat (cell tabWidth start c).1) where
  plain hplain := by
    have htab : c ≠ '\t' := by
      rintro rfl
      cases hplain
    rw [cell, if_neg htab, hplain]
    rfl
  blank hblank htab := by
    rw [cell, if_neg htab, if_pos hblank]
    rfl
  tab htab := by
    rw [cell, if_pos htab]
    exact ⟨fun glyph hglyph => List.eq_of_mem_replicate hglyph, isLeast_tabStop hpos start⟩

/-- A character is expanded between the texts on both sides. -/
theorem expand_append_cons (hpos : 0 < tabWidth) (before : List Char) (c : Char)
    (after : List Char) :
    expand tabWidth (before ++ c :: after) = expand tabWidth before ++
      (List.replicate (cell tabWidth (expand tabWidth before).length c).2.toNat
          (cell tabWidth (expand tabWidth before).length c).1 ++
        expandFrom tabWidth ((expand tabWidth before).length +
          (cell tabWidth (expand tabWidth before).length c).2) after) := by
  rw [expand, expandFrom_append hpos, Int.zero_add, expandFrom]
  rfl

theorem extract_append (front middle back : List Char) :
    (front ++ (middle ++ back)).extract front.length (front.length + middle.length) = middle := by
  simp [List.extract_eq_take_drop]

/-- From the column of a character up to the next column there is what is shown of it. -/
theorem cellShows_of_getElem? (hpos : 0 < tabWidth) {text : List Char} {index : Nat} {c : Char}
    {start stop : Int} (hc : text[index]? = some c)
    (hstart : (columns tabWidth text)[index]? = some start)
    (hstop : (columns tabWidth text)[index + 1]? = some stop) :
    CellShows tabWidth c start stop
      ((expand tabWidth text).extract start.toNat stop.toNat) := by
  obtain ⟨hindex, hget⟩ := List.getElem?_eq_some_iff.mp hc
  rw [getElem?_columns hpos text (Nat.le_of_lt hindex)] at hstart
  rw [getElem?_columns hpos text hindex, List.take_add_one, hc, Option.toList_some,
    expand_append_cons hpos, expandFrom, List.append_nil, List.length_append] at hstop
  obtain rfl := Option.some.inj hstart
  obtain rfl := Option.some.inj hstop
  have hwidth := cell_width_pos hpos (expand tabWidth (text.take index)).length c
  have hcolumn : (((expand tabWidth (text.take index)).length +
      (List.replicate (cell tabWidth (expand tabWidth (text.take index)).length c).2.toNat
        (cell tabWidth (expand tabWidth (text.take index)).length c).1).length : Nat) : Int) =
      (expand tabWidth (text.take index)).length +
        (cell tabWidth (expand tabWidth (text.take index)).length c).2 := by
    rw [List.length_replicate]
    omega
  have hexpand := expand_append_cons hpos (text.take index) c (text.drop (index + 1))
  rw [← hget, ← List.drop_eq_getElem_cons hindex, List.take_append_drop, hget] at hexpand
  rw [Int.toNat_natCast, Int.toNat_natCast, hexpand, extract_append, hcolumn]
  exact cellShows_replicate hpos c _

theorem isDisplayMap_expand (hpos : 0 < tabWidth) (text : List Char) :
    IsDisplayMap tabWidth text (expand tabWidth text) (columns tabWidth text) where
  length_eq := length_columnsFrom tabWidth 0 text
  head := by cases text <;> rfl
  increasing := pairwise_columnsFrom hpos 0 text
  last := getLast?_columns hpos text
  cells _ _ _ _ hc hstart hstop := cellShows_of_getElem? hpos hc hstart hstop
  blanks glyph hglyph hblank := by
    refine (isBlank_of_mem_expandFrom tabWidth 0 text hglyph).resolve_right ?_
    rw [hblank]
    exact Bool.noConfusion

/-! ### Texts that fit -/

section Platform

variable [Platform]

theorem TabsFit.of_append {before after : List Char} (hfits : TabsFit tabWidth (before ++ after)) :
    TabsFit tabWidth before := by
  rintro front back rfl
  exact hfits front (back ++ after) (by simp)

theorem expandLine_of_tabsFit (hpos : 0 < tabWidth) {text : List Char}
    (hfits : TabsFit tabWidth text) :
    expandLine tabWidth text = .ok (expand tabWidth text, columns tabWidth text) := by
  rw [expandLine, (expansionFault?_eq_none_iff hpos text).mpr hfits]

/-- Unless the spaces for a tab do not fit the memory, a line is expanded and its column map
is a display map, of which the start of the line yields the start. -/
theorem expandLine_isDisplayMap (hpos : 1 ≤ tabWidth) (text : List Char) :
    (TabsFit tabWidth text → ∃ out columns,
        expandLine tabWidth text = .ok (out, columns) ∧
          IsDisplayMap tabWidth text out columns ∧
          ∀ before after, text = before ++ after → ∃ front start,
            expandLine tabWidth before = .ok (front, start) ∧ front <+: out ∧
              start <+: columns) ∧
      (¬TabsFit tabWidth text → expandLine tabWidth text = .error .tooLong ∨
        expandLine tabWidth text = .error .outOfMemory) ∧
      (tabWidth < Platform.memoryBound → TabsFit tabWidth text) := by
  refine ⟨fun hfits => ?_, fun hfits => ?_, fun hbound => tabsFit_of_lt hpos hbound text⟩
  · refine ⟨_, _, expandLine_of_tabsFit hpos hfits, isDisplayMap_expand hpos text, ?_⟩
    rintro before after rfl
    refine ⟨_, _, expandLine_of_tabsFit hpos hfits.of_append, ?_, columnsFrom_prefix 0 before after⟩
    rw [expand, expand, expandFrom_append hpos]
    exact List.prefix_append _ _
  · rw [← expansionFault?_eq_none_iff hpos] at hfits
    obtain ⟨fault, hfault⟩ := Option.ne_none_iff_exists'.mp hfits
    rw [expandLine, hfault]
    obtain rfl | rfl := expansionFaultFrom?_eq_some (Int.ne_of_gt hpos) hfault
    · exact .inl rfl
    · exact .inr rfl

end Platform

def tabbedText : List Char :=
  ['a', '\t', 'é', '\u2028', '\t', '\r', '\n']

theorem expandLine_isDisplayMap_tabbedText :
    (TabsFit 4 tabbedText ∧ ∃ out columns, expandLine 4 tabbedText = .ok (out, columns) ∧
        IsDisplayMap 4 tabbedText out columns ∧ ∃ front start,
          expandLine 4 (tabbedText.take 3) = .ok (front, start) ∧ front <+: out ∧
            start <+: columns) ∧
      ¬TabsFit 18446744073709551616 tabbedText ∧
      (expandLine 18446744073709551616 tabbedText = .error .tooLong ∨
        expandLine 18446744073709551616 tabbedText = .error .outOfMemory) := by
  have hpos : (1 : Int) ≤ 4 := by decide
  have hpos' : (1 : Int) ≤ 18446744073709551616 := by decide
  obtain ⟨hreturns, -, hsmall⟩ := expandLine_isDisplayMap hpos tabbedText
  obtain ⟨-, hfails, -⟩ := expandLine_isDisplayMap hpos' tabbedText
  have hfits := hsmall (by decide)
  have hwide : ¬TabsFit 18446744073709551616 tabbedText := by
    rw [← expansionFault?_eq_none_iff hpos']
    exact fun hnone => Option.some_ne_none _ hnone
  obtain ⟨out, columns, hexpand, hmap, hfronts⟩ := hreturns hfits
  have hfront := hfronts (tabbedText.take 3) (tabbedText.drop 3) (List.take_append_drop 3 _).symm
  exact ⟨⟨hfits, out, columns, hexpand, hmap, hfront⟩, hwide, hfails hwide⟩

/-- A tab that is wider than any machine word cannot be expanded. -/
theorem expandLine_wideTab :
    (1 : Int) ≤ 18446744073709551616 ∧
      ∀ out columns, expandLine 18446744073709551616 ['a', '\t'] ≠ .ok (out, columns) := by
  refine ⟨by decide, fun out columns hexpand => ?_⟩
  have hfault : expandLine 18446744073709551616 ['a', '\t'] = .error .tooLong := rfl
  rw [hfault] at hexpand
  cases hexpand

end Diagnostics
