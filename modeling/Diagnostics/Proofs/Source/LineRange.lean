import Mathlib.Order.Bounds.Basic
import Diagnostics.Proofs.Source.Position

/-!
# Lines of a range

A range of offsets touches the lines on which its offsets within the text are found. The
range of lines is made from two lookups, of which each may fail and is then replaced by
one end of the table. It is that of the touched lines nevertheless: a range that reaches
over an end of the text covers that end, later offsets are not found on earlier lines,
and every line between two touched ones starts at an offset of the range.
-/

namespace Diagnostics.Source

variable (source : Source) (unit : OffsetUnit)

/-- The offset is within the text and in the range; an empty range stands for its start. -/
def Covers (start stop offset : Int) : Prop :=
  (start ≤ offset ∧ offset < stop ∨ stop ≤ start ∧ offset = start) ∧
    0 ≤ offset ∧ offset ≤ source.total unit

/-- An offset that the range covers is found on the line at `index`. -/
def Touches (start stop : Int) (index : Nat) : Prop :=
  ∃ offset position, source.Covers unit start stop offset ∧
    source.lineAt? offset unit = some position ∧ position.index = index

theorem indexAt_zero : source.indexAt 0 unit = 0 := by
  have hpos := Nat.zero_lt_of_lt (source.indexAt_lt_length unit 0)
  have hfirst := List.getElem?_eq_getElem hpos
  have hstart : source.lines[0].start unit = 0 := by
    rw [source.getElem?_lines_eq_some hfirst, Line.start_after]
    simp [textBefore]
  rw [← indexAt_start hfirst, hstart]

variable {source unit} {start stop : Int}

/-- A start before the text counts as the start of the text. -/
theorem fst_lineRange (hstart : start ≤ source.total unit) :
    (source.lineRange start stop unit).1 = source.indexAt (max 0 start) unit := by
  rw [lineRange]
  cases hfound : source.lineAt? start unit with
  | none =>
      have hneg := (source.lineAt?_eq_none_iff unit start).mp hfound
      have hzero : max 0 start = 0 := by omega
      rw [hzero, indexAt_zero]
      rfl
  | some position =>
      obtain ⟨⟨hnonneg, -⟩, hindex, -⟩ := (source.lineAt?_eq_some_iff unit _ _).mp hfound
      rw [Int.max_eq_right hnonneg, ← hindex]
      rfl

/-- A last offset past the text counts as the end of the text. -/
theorem snd_lineRange (hlast : 0 ≤ max start (stop - 1)) :
    (source.lineRange start stop unit).2 =
      source.indexAt (min (source.total unit) (max start (stop - 1))) unit + 1 := by
  rw [lineRange]
  cases hfound : source.lineAt? (max start (stop - 1)) unit with
  | none =>
      have hpast := (source.lineAt?_eq_none_iff unit _).mp hfound
      have hend : min (source.total unit) (max start (stop - 1)) = source.total unit := by omega
      rw [hend, indexAt_total]
      exact (Nat.sub_one_add_one (Nat.ne_zero_of_lt (source.indexAt_lt_length unit 0))).symm
  | some position =>
      obtain ⟨⟨-, hle⟩, hindex, -⟩ := (source.lineAt?_eq_some_iff unit _ _).mp hfound
      rw [Int.min_eq_right hle, ← hindex]
      rfl

/-! ### The touched lines -/

theorem touches_iff {index : Nat} : source.Touches unit start stop index ↔
    ∃ offset, source.Covers unit start stop offset ∧ source.indexAt offset unit = index := by
  constructor
  · rintro ⟨offset, position, hcovers, hfound, rfl⟩
    exact ⟨offset, hcovers, ((source.lineAt?_eq_some_iff unit _ _).mp hfound).2.1.symm⟩
  · rintro ⟨offset, hcovers, rfl⟩
    obtain ⟨position, hfound⟩ := source.exists_lineAt? unit hcovers.2.1 hcovers.2.2
    exact ⟨offset, position, hcovers, hfound,
      ((source.lineAt?_eq_some_iff unit _ _).mp hfound).2.1⟩

theorem covers_iff {offset : Int} : source.Covers unit start stop offset ↔
    max 0 start ≤ offset ∧ offset ≤ min (source.total unit) (max start (stop - 1)) := by
  rw [Covers]
  omega

/-- The lines between those of two offsets are the lines of the offsets between them. -/
theorem exists_indexAt_iff {first last : Int} (hnonneg : 0 ≤ first) (hle : first ≤ last)
    {index : Nat} :
    (∃ offset, (first ≤ offset ∧ offset ≤ last) ∧ source.indexAt offset unit = index) ↔
      source.indexAt first unit ≤ index ∧ index ≤ source.indexAt last unit := by
  constructor
  · rintro ⟨offset, ⟨hfirst, hlast⟩, rfl⟩
    exact ⟨source.indexAt_mono unit hfirst, source.indexAt_mono unit hlast⟩
  · rintro ⟨hfirst, hlast⟩
    rcases hfirst.eq_or_lt with heq | hlt
    · exact ⟨first, ⟨Int.le_refl _, hle⟩, heq⟩
    · -- The line starts behind the first offset, which is on an earlier line.
      have hbound := Nat.lt_of_le_of_lt hlast (source.indexAt_lt_length unit last)
      have hline := List.getElem?_eq_getElem hbound
      have hstop := (start_le_iff hline (Int.le_trans hnonneg hle)).mpr hlast
      have hstart : ¬source.lines[index].start unit ≤ first :=
        (start_le_iff hline hnonneg).not.mpr (Nat.not_le.mpr hlt)
      exact ⟨source.lines[index].start unit, ⟨by omega, hstop⟩, indexAt_start hline⟩

/-- The range of lines of a range that covers an offset is that of the touched lines. -/
theorem touches_iff_mem_lineRange (hcovers : ∃ offset, source.Covers unit start stop offset)
    (index : Nat) :
    source.Touches unit start stop index ↔
      (source.lineRange start stop unit).1 ≤ index ∧
        index < (source.lineRange start stop unit).2 := by
  obtain ⟨offset, hoffset⟩ := hcovers
  obtain ⟨hfirst, hlast⟩ := covers_iff.mp hoffset
  have hstart : start ≤ source.total unit := by omega
  have hstop : 0 ≤ max start (stop - 1) := by omega
  rw [touches_iff, fst_lineRange hstart, snd_lineRange hstop, Nat.lt_succ_iff,
    ← exists_indexAt_iff (Int.le_max_left 0 start) (Int.le_trans hfirst hlast)]
  simp only [covers_iff]

theorem lineRange_of_not_covers (hcovers : ¬∃ offset, source.Covers unit start stop offset) :
    source.lineRange start stop unit = (0, source.lines.length) := by
  have hout : ∀ offset, start ≤ offset ∧ offset ≤ max start (stop - 1) →
      source.lineAt? offset unit = none := by
    intro offset hrange
    rw [lineAt?_eq_none_iff]
    by_contra hin
    exact hcovers ⟨offset, covers_iff.mpr (by omega)⟩
  rw [lineRange, hout start (by omega), hout (max start (stop - 1)) (by omega)]
  rfl

/-- Every offset that a range covers is found on a line. The range of lines goes from the
first line that is touched in this way to the last one, and all lines between them are
touched. It is the whole table if the range covers nothing. -/
theorem lineRange_touched (source : Source) (unit : OffsetUnit) (start stop : Int) :
    (∀ offset, source.Covers unit start stop offset →
        ∃ position, source.lineAt? offset unit = some position) ∧
      ((∃ offset, source.Covers unit start stop offset) →
        ∃ first last, source.lineRange start stop unit = (first, last + 1) ∧
          IsLeast {index | source.Touches unit start stop index} first ∧
          IsGreatest {index | source.Touches unit start stop index} last ∧
          ∀ index, first ≤ index → index < last + 1 → source.Touches unit start stop index) ∧
      ((¬∃ offset, source.Covers unit start stop offset) →
        source.lineRange start stop unit = (0, source.lines.length)) := by
  refine ⟨fun _ hcovers => source.exists_lineAt? unit hcovers.2.1 hcovers.2.2, fun hcovers => ?_,
    lineRange_of_not_covers⟩
  have htouches := touches_iff_mem_lineRange hcovers
  obtain ⟨offset, hoffset⟩ := hcovers
  have htouched := (htouches _).mp (touches_iff.mpr ⟨offset, hoffset, rfl⟩)
  generalize source.lineRange start stop unit = range at htouches htouched
  obtain ⟨first, next⟩ := range
  obtain ⟨last, rfl⟩ := Nat.exists_eq_add_one_of_ne_zero (Nat.ne_zero_of_lt htouched.2)
  have hle : first ≤ last := Nat.le_trans htouched.1 (Nat.le_of_lt_succ htouched.2)
  refine ⟨first, last, rfl, ⟨?_, ?_⟩, ⟨?_, ?_⟩, ?_⟩
  · exact (htouches first).mpr ⟨Nat.le_refl _, Nat.lt_succ_of_le hle⟩
  · exact fun index hindex => ((htouches index).mp hindex).1
  · exact (htouches last).mpr ⟨hle, Nat.lt_succ_self _⟩
  · exact fun index hindex => Nat.le_of_lt_succ ((htouches index).mp hindex).2
  · exact fun index hfirst hlast => (htouches index).mpr ⟨hfirst, hlast⟩

end Diagnostics.Source
