import Diagnostics.Proofs.Source.LineTable

/-!
# Looking up offsets

An offset within the text is on the last line that starts at or before it. Two offsets
are therefore on one line exactly if no line starts between them, and a lookup is known
once it is known which lines start where.
-/

namespace Diagnostics

/-- If one predicate implies another, the two hold equally often only if they agree. -/
theorem countP_eq_countP_iff {p q : α → Bool} {items : List α}
    (himp : ∀ item ∈ items, p item → q item) :
    items.countP p = items.countP q ↔ ∀ item ∈ items, q item → p item := by
  constructor
  · intro hcount
    induction items with
    | nil => simp
    | cons item rest ih =>
        have hrest : ∀ other ∈ rest, p other → q other := fun other hother =>
          himp other (List.mem_cons_of_mem _ hother)
        have hle : rest.countP p ≤ rest.countP q := List.countP_mono_left hrest
        have hitem := himp item List.mem_cons_self
        rw [List.countP_cons, List.countP_cons] at hcount
        have htail : rest.countP p = rest.countP q := by
          by_cases hp : p item
          · rw [if_pos hp, if_pos (hitem hp)] at hcount
            exact Nat.add_right_cancel hcount
          · rw [if_neg hp] at hcount
            exact Nat.le_antisymm hle (by omega)
        have hhead : q item → p item := by
          intro hq
          cases hp : p item with
          | true => rfl
          | false => simp [hq, hp, htail] at hcount
        intro other hother
        rcases List.mem_cons.mp hother with rfl | hother
        · exact hhead
        · exact ih hrest htail other hother
  · intro hback
    exact List.countP_congr fun item hitem => ⟨himp item hitem, hback item hitem⟩

namespace Source

variable (source : Source) (unit : OffsetUnit)

theorem exists_line_start_zero : ∃ line ∈ source.lines, line.start unit = 0 := by
  have hpos : 0 < source.pieces.length := List.length_pos_iff.mpr source.pieces_ne_nil
  refine ⟨_, (source.mem_lines_iff _).mpr ⟨0, hpos, rfl⟩, ?_⟩
  simp [textBefore]

theorem indexAt_lt_length (offset : Int) : source.indexAt offset unit < source.lines.length := by
  have hpos : 0 < source.lines.length := by
    rw [length_lines]
    exact List.length_pos_iff.mpr source.pieces_ne_nil
  have hle : source.lines.countP (fun line => line.start unit ≤ offset) ≤ source.lines.length :=
    List.countP_le_length
  rw [indexAt]
  omega

theorem countP_start_pos {offset : Int} (hnonneg : 0 ≤ offset) :
    0 < source.lines.countP (fun line => line.start unit ≤ offset) := by
  rw [List.countP_pos_iff]
  obtain ⟨line, hmem, hzero⟩ := source.exists_line_start_zero unit
  exact ⟨line, hmem, by simpa [hzero] using hnonneg⟩

theorem indexAt_mono {offset later : Int} (hle : offset ≤ later) :
    source.indexAt offset unit ≤ source.indexAt later unit := by
  apply Nat.sub_le_sub_right
  apply List.countP_mono_left
  intro line _ hstart
  simp only [decide_eq_true_eq] at hstart ⊢
  omega

/-- Two offsets are on one line if and only if no line starts after the first of them
and not after the second. -/
theorem indexAt_eq_indexAt_iff {offset later : Int} (hnonneg : 0 ≤ offset) (hle : offset ≤ later) :
    source.indexAt offset unit = source.indexAt later unit ↔
      ∀ line ∈ source.lines, ¬(offset < line.start unit ∧ line.start unit ≤ later) := by
  have hpos := source.countP_start_pos unit hnonneg
  have hposLater := source.countP_start_pos unit (Int.le_trans hnonneg hle)
  have himp : ∀ line ∈ source.lines,
      decide (line.start unit ≤ offset) → decide (line.start unit ≤ later) := by
    intro line _ hstart
    simp only [decide_eq_true_eq] at hstart ⊢
    omega
  have hindex : source.indexAt offset unit = source.indexAt later unit ↔
      source.lines.countP (fun line => line.start unit ≤ offset) =
        source.lines.countP (fun line => line.start unit ≤ later) := by
    rw [indexAt, indexAt]
    omega
  rw [hindex, countP_eq_countP_iff himp]
  apply forall_congr'
  intro line
  apply forall_congr'
  intro _
  simp only [decide_eq_true_eq]
  omega

/-- Lookups agree on the line if the same lines start at or before the two offsets. -/
theorem indexAt_congr {offset other : Int} {otherUnit : OffsetUnit}
    (hstart : ∀ line ∈ source.lines, line.start unit ≤ offset ↔ line.start otherUnit ≤ other) :
    source.indexAt offset unit = source.indexAt other otherUnit := by
  rw [indexAt, indexAt]
  congr 1
  apply List.countP_congr
  intro line hline
  simpa using hstart line hline

theorem lineAt?_eq_none_iff (offset : Int) :
    source.lineAt? offset unit = none ↔ offset < 0 ∨ source.total unit < offset := by
  rw [lineAt?]
  split
  · case isTrue hout => simp [hout]
  · case isFalse hin =>
      have hline : source.lines[source.indexAt offset unit]?.isSome := by
        simpa using source.indexAt_lt_length unit offset
      obtain ⟨line, hline⟩ := Option.isSome_iff_exists.mp hline
      simp [hline, hin]

theorem lineAt?_eq_some_iff (offset : Int) (position : Position) :
    source.lineAt? offset unit = some position ↔
      (0 ≤ offset ∧ offset ≤ source.total unit) ∧
        position.index = source.indexAt offset unit ∧
        source.lines[position.index]? = some position.line ∧
        position.column = offset - position.line.start unit := by
  rw [lineAt?]
  split
  · case isTrue hout =>
      constructor
      · simp
      · omega
  · case isFalse hin =>
      have hrange : 0 ≤ offset ∧ offset ≤ source.total unit := by omega
      simp only [hrange, Option.map_eq_some_iff]
      constructor
      · rintro ⟨line, hline, rfl⟩
        exact ⟨⟨trivial, trivial⟩, rfl, hline, rfl⟩
      · obtain ⟨line, index, column⟩ := position
        rintro ⟨-, hindex, hline, hcolumn⟩
        simp only at hindex hline hcolumn
        subst hindex hcolumn
        exact ⟨line, hline, rfl⟩

/-- An offset within the text is found. -/
theorem exists_lineAt? {offset : Int} (hnonneg : 0 ≤ offset) (hle : offset ≤ source.total unit) :
    ∃ position, source.lineAt? offset unit = some position := by
  rw [← Option.ne_none_iff_exists', Ne, lineAt?_eq_none_iff]
  omega

end Source

end Diagnostics
