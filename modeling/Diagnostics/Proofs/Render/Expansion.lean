import Diagnostics.Proofs.Source.LineTable

/-!
# The column map of an expanded line

With a positive tab width every character fills at least one column. The column map then
gives, for each character of a line, how long the expansion of the text before it is, so
that columns cut the expanded line exactly where characters start. No blank but the
space is left in it.
-/

namespace Diagnostics

theorem cell_width_pos {tabWidth : Int} (hpos : 0 < tabWidth) (column : Int) (c : Char) :
    0 < (cell tabWidth column c).2 := by
  unfold cell
  split
  · exact tabStride_pos column hpos
  · split <;> exact Int.one_pos

theorem length_expandFrom_cons {tabWidth : Int} (hpos : 0 < tabWidth) (column : Int) (c : Char)
    (rest : List Char) :
    ((expandFrom tabWidth column (c :: rest)).length : Int) = (cell tabWidth column c).2 +
      (expandFrom tabWidth (column + (cell tabWidth column c).2) rest).length := by
  have hwidth := cell_width_pos hpos column c
  simp only [expandFrom, List.length_append, List.length_replicate]
  omega

theorem expandFrom_append {tabWidth : Int} (hpos : 0 < tabWidth) (column : Int)
    (left right : List Char) :
    expandFrom tabWidth column (left ++ right) =
      expandFrom tabWidth column left ++
        expandFrom tabWidth (column + (expandFrom tabWidth column left).length) right := by
  induction left generalizing column with
  | nil => simp [expandFrom]
  | cons c rest ih =>
      rw [length_expandFrom_cons hpos, ← Int.add_assoc]
      simp only [List.cons_append, expandFrom, ih, List.append_assoc]

theorem getElem?_columnsFrom {tabWidth : Int} (hpos : 0 < tabWidth) (column : Int)
    (text : List Char) {count : Nat} (hle : count ≤ text.length) :
    (columnsFrom tabWidth column text)[count]? =
      some (column + (expandFrom tabWidth column (text.take count)).length) := by
  induction text generalizing column count with
  | nil =>
      obtain rfl := Nat.le_zero.mp hle
      simp [columnsFrom, expandFrom]
  | cons c rest ih =>
      cases count with
      | zero => simp [columnsFrom, expandFrom]
      | succ count =>
          rw [List.take_succ_cons, length_expandFrom_cons hpos, ← Int.add_assoc, columnsFrom,
            List.getElem?_cons_succ]
          exact ih _ (Nat.le_of_succ_le_succ hle)

/-- The column at which a character starts is the length of the expanded text before it.
-/
theorem getElem?_columns {tabWidth : Int} (hpos : 0 < tabWidth) (text : List Char) {count : Nat}
    (hle : count ≤ text.length) :
    (columns tabWidth text)[count]? = some ((expand tabWidth (text.take count)).length : Int) := by
  have hcolumn := getElem?_columnsFrom hpos 0 text hle
  rwa [Int.zero_add] at hcolumn

theorem columnAt_columns {tabWidth : Int} (hpos : 0 < tabWidth) (text : List Char) {count : Nat}
    (hle : count ≤ text.length) :
    columnAt (columns tabWidth text) count = (expand tabWidth (text.take count)).length := by
  have hlength : (columns tabWidth text).length = text.length + 1 :=
    length_columnsFrom tabWidth 0 text
  have hindex : (min (count : Int) ((columns tabWidth text).length - 1)).toNat = count := by
    omega
  rw [columnAt, hindex, List.getD_eq_getElem?_getD, getElem?_columns hpos text hle,
    Option.getD_some]

/-- The expansion of the start of a text is the start of its expansion. -/
theorem expand_take {tabWidth : Int} (hpos : 0 < tabWidth) (text : List Char) (count : Nat) :
    expand tabWidth (text.take count) =
      (expand tabWidth text).take (expand tabWidth (text.take count)).length := by
  have happend := expandFrom_append hpos 0 (text.take count) (text.drop count)
  rw [List.take_append_drop] at happend
  simp only [expand, happend, List.take_left]

theorem length_expand_take_mono {tabWidth : Int} (hpos : 0 < tabWidth) (text : List Char)
    {fewer count : Nat} (hle : fewer ≤ count) :
    (expand tabWidth (text.take fewer)).length ≤ (expand tabWidth (text.take count)).length := by
  have htake : (text.take count).take fewer = text.take fewer := by
    rw [List.take_take, Nat.min_eq_left hle]
  have hstart := expand_take hpos (text.take count) fewer
  rw [htake] at hstart
  have hlength := congrArg List.length hstart
  rw [List.length_take] at hlength
  omega

theorem tabStride_le {tabWidth : Int} (hpos : 0 < tabWidth) (column : Int) :
    tabStride tabWidth column ≤ tabWidth := by
  have hle := Int.mul_fdiv_self_le (x := column) hpos
  rw [tabStride, Int.add_mul, Int.one_mul, Int.mul_comm]
  omega

/-- What is not a space in an expanded text is no blank at all. -/
theorem isBlank_of_mem_expandFrom (tabWidth column : Int) (text : List Char) {c : Char}
    (hmem : c ∈ expandFrom tabWidth column text) : c = ' ' ∨ Text.isBlank c = false := by
  induction text generalizing column with
  | nil => simp [expandFrom] at hmem
  | cons first rest ih =>
      rw [expandFrom, List.mem_append] at hmem
      rcases hmem with hhere | hlater
      · rw [List.eq_of_mem_replicate hhere, cell]
        split
        · exact Or.inl rfl
        · split
          · exact Or.inl rfl
          · case isFalse hblank => exact Or.inr (by simpa using hblank)
      · exact ih _ hlater

variable [Platform]

/-- Every tab of the text is expanded to spaces that fit the memory. -/
def TabsFit (tabWidth : Int) (text : List Char) : Prop :=
  ∀ before after, text = before ++ '\t' :: after →
    tabStride tabWidth (expand tabWidth before).length < Platform.memoryBound

theorem cellFault?_eq_none_iff {tabWidth : Int} (hpos : 0 < tabWidth) (column : Int) (c : Char) :
    cellFault? tabWidth column c = none ↔
      (c = '\t' → tabStride tabWidth column < Platform.memoryBound) := by
  have hstride := tabStride_pos column hpos
  rw [cellFault?]
  split
  · case isTrue htab =>
      rw [if_neg (Int.ne_of_gt hpos), repetitionFault?_eq_none_iff, wordBound]
      simp only [htab, forall_const]
      omega
  · case isFalse htab => simp [htab]

theorem expansionFaultFrom?_eq_none_iff {tabWidth : Int} (hpos : 0 < tabWidth) (column : Int)
    (text : List Char) :
    expansionFaultFrom? tabWidth column text = none ↔
      ∀ before after, text = before ++ '\t' :: after →
        tabStride tabWidth (column + (expandFrom tabWidth column before).length) <
          Platform.memoryBound := by
  induction text generalizing column with
  | nil => simp [expansionFaultFrom?]
  | cons c rest ih =>
      have hstep : expansionFaultFrom? tabWidth column (c :: rest) = none ↔
          cellFault? tabWidth column c = none ∧
            expansionFaultFrom? tabWidth (column + (cell tabWidth column c).2) rest = none := by
        rw [expansionFaultFrom?]
        cases cellFault? tabWidth column c <;> simp
      rw [hstep, cellFault?_eq_none_iff hpos, ih]
      constructor
      · rintro ⟨hhere, hlater⟩ before after htext
        cases before with
        | nil =>
            obtain ⟨rfl, -⟩ := List.cons.inj htext
            simpa [expandFrom] using hhere rfl
        | cons first before =>
            obtain ⟨rfl, rfl⟩ := List.cons.inj htext
            rw [length_expandFrom_cons hpos, ← Int.add_assoc]
            exact hlater before after rfl
      · intro hfits
        constructor
        · rintro rfl
          simpa [expandFrom] using hfits [] rest rfl
        · rintro before after rfl
          have htab := hfits (c :: before) after rfl
          rwa [length_expandFrom_cons hpos, ← Int.add_assoc] at htab

/-- Nothing but a tab of more spaces than fit the memory keeps a text from being
expanded. -/
theorem expansionFault?_eq_none_iff {tabWidth : Int} (hpos : 0 < tabWidth) (text : List Char) :
    expansionFault? tabWidth text = none ↔ TabsFit tabWidth text := by
  simp only [expansionFault?, expansionFaultFrom?_eq_none_iff hpos, TabsFit, expand, Int.zero_add]

theorem tabsFit_of_lt {tabWidth : Int} (hpos : 0 < tabWidth)
    (hfits : tabWidth < Platform.memoryBound) (text : List Char) : TabsFit tabWidth text :=
  fun _ _ _ => Int.lt_of_le_of_lt (tabStride_le hpos _) hfits

theorem cellFault?_eq_some {tabWidth column : Int} {c : Char} {fault : Fault}
    (hne : tabWidth ≠ 0) (hfault : cellFault? tabWidth column c = some fault) :
    fault = .tooLong ∨ fault = .outOfMemory := by
  rw [cellFault?, if_neg hne] at hfault
  split at hfault
  · rw [repetitionFault?] at hfault
    split at hfault
    · exact Or.inl (Option.some.inj hfault).symm
    · split at hfault
      · exact Or.inr (Option.some.inj hfault).symm
      · cases hfault
  · cases hfault

/-- What cannot be expanded is too long for a machine word or for the memory. -/
theorem expansionFaultFrom?_eq_some {tabWidth column : Int} {text : List Char} {fault : Fault}
    (hne : tabWidth ≠ 0) (hfault : expansionFaultFrom? tabWidth column text = some fault) :
    fault = .tooLong ∨ fault = .outOfMemory := by
  induction text generalizing column with
  | nil => cases hfault
  | cons c rest ih =>
      rw [expansionFaultFrom?] at hfault
      split at hfault
      · case h_1 first hcell =>
          obtain rfl := Option.some.inj hfault
          exact cellFault?_eq_some hne hcell
      · exact ih hfault

end Diagnostics
