import Mathlib.Data.List.Chain
import Diagnostics.Proofs.Render.Body
import Diagnostics.Proofs.Render.Outcome
import Diagnostics.Usual

/-!
# Marks for lines left out

A mark stands for the lines between two labelled ones of which no label is drawn, directly above
the source row behind them, if there are enough of them. A higher threshold takes away the marks of
the gaps below it and changes nothing else.
-/

namespace Diagnostics

/-- `previous` is the last line with a label before `line`, which has one as well. -/
structure Follows (drawn : List DrawnLabel) (previous line : Nat) : Prop where
  previous_mem : ∃ label ∈ drawn, label.line = previous
  mem : ∃ label ∈ drawn, label.line = line
  lt : previous < line
  between : ∀ label ∈ drawn, label.line ≤ previous ∨ line ≤ label.line

/-- The row is the source row of a line, with so many lines between it and the line before it that
has a label. -/
def GapAbove (report : Report) (source : Source) (gap : Int) (row : Row) : Prop :=
  ∃ previous line : Nat, Follows (drawnLabels report source) previous line ∧
    gap = (line : Int) - previous - 1 ∧ row = sourceRow report source line

/-- A row, and for a mark the number of lines that it stands for. -/
structure SizedRow where
  row : Row
  gap : Option Int := none

def Row.isSource : Row → Bool
  | .source _ _ => true
  | _ => false

/-- The marks come with the sizes of their gaps, and no other row comes with a size. -/
structure SizesMarks (report : Report) (source : Source) (sized : List SizedRow) : Prop where
  chain : sized.IsChain fun entry next => ∀ gap,
    entry.gap = some gap ↔ entry.row = .elision ∧ GapAbove report source gap next.row
  last : ∀ entry ∈ sized.getLast?, entry.gap = none

/-- The gap is below the threshold `higher` but not below `lower`. -/
def SizedRow.liesBetween (lower higher : Int) (entry : SizedRow) : Bool :=
  entry.gap.any fun gap => lower ≤ gap && gap < higher

/-- The rows of a report are marked at its wide gaps. -/
structure MarksWideGaps (report : Report) (source : Source) : Prop where
  /-- A mark stands above the source row behind a wide gap. -/
  marks : ∀ elideAfter, (rows report source elideAfter).IsChain fun row next =>
    row = .elision ↔ ∃ gap, elideAfter ≤ gap ∧ GapAbove report source gap next
  first : ∀ elideAfter, (rows report source elideAfter).head? = some (headerRow report)
  last : ∀ elideAfter, (rows report source elideAfter).getLast? ≠ some .elision
  /-- There is one source row for each line with a label. -/
  sources : ∃ lines : List Nat, lines.Pairwise (· < ·) ∧
    (∀ line, line ∈ lines ↔ ∃ label ∈ drawnLabels report source, label.line = line) ∧
    ∀ elideAfter, (rows report source elideAfter).filter Row.isSource =
      lines.map (sourceRow report source)
  /-- Raising the threshold takes away the marks of gaps that it passes over. -/
  thinned : ∀ lower higher, lower ≤ higher → ∃ sized : List SizedRow,
    sized.map SizedRow.row = rows report source lower ∧ SizesMarks report source sized ∧
      rows report source higher =
        (sized.filter fun entry => !entry.liesBetween lower higher).map SizedRow.row

/-! ### Neighbouring lines -/

theorem sourceRow_injective (report : Report) (source : Source) :
    Function.Injective (sourceRow report source) := by
  intro line other hsame
  have hnumber := (Row.source.inj hsame).1
  simp only [Source.lineNumber] at hnumber
  omega

/-- What a line follows is what stands before it among all labelled lines. -/
theorem follows_iff {drawn : List DrawnLabel} {before rest : List Nat} {line previous : Nat}
    (hlines : labelledLines drawn = before ++ line :: rest) :
    Follows drawn previous line ↔ before.getLast? = some previous := by
  have hpairwise := labelledLines_pairwise drawn
  have hmem : ∀ {other}, other ∈ before ++ line :: rest ↔ ∃ label ∈ drawn, label.line = other := by
    intro other
    rw [← hlines, mem_labelledLines]
  rw [hlines, List.pairwise_append, List.pairwise_cons] at hpairwise
  obtain ⟨hbefore, ⟨hrest, -⟩, hacross⟩ := hpairwise
  constructor
  · intro hfollows
    have hprevious : previous ∈ before := by
      rcases List.mem_append.mp (hmem.mpr hfollows.previous_mem) with hbefore | hlater
      · exact hbefore
      · rcases List.mem_cons.mp hlater with rfl | hlater
        · exact absurd hfollows.lt (Nat.lt_irrefl _)
        · exact absurd hfollows.lt (Nat.lt_asymm (hrest _ hlater))
    obtain ⟨init, last, rfl⟩ : ∃ init last, before = init ++ [last] :=
      (List.eq_nil_or_concat' before).resolve_left (List.ne_nil_of_mem hprevious)
    obtain ⟨label, hlabel, hline⟩ := hmem.mp (show last ∈ init ++ [last] ++ line :: rest by simp)
    have hlast := hacross last (by simp) line List.mem_cons_self
    have hle : last ≤ previous := by
      have hbetween := hfollows.between label hlabel
      omega
    rcases List.mem_append.mp hprevious with hinit | heq
    · have hlt := (List.pairwise_append.mp hbefore).2.2 previous hinit last (by simp)
      omega
    · rw [List.mem_singleton.mp heq, List.getLast?_concat]
  · intro hlast
    obtain ⟨init, rfl⟩ := List.getLast?_eq_some_iff.mp hlast
    refine ⟨hmem.mp (by simp), hmem.mp (by simp),
      hacross previous (by simp) line List.mem_cons_self, fun label hlabel => ?_⟩
    rcases List.mem_append.mp (hmem.mpr ⟨label, hlabel, rfl⟩) with hinit | hlater
    · left
      rcases List.mem_append.mp hinit with hinit | heq
      · exact Nat.le_of_lt ((List.pairwise_append.mp hbefore).2.2 _ hinit previous (by simp))
      · exact Nat.le_of_eq (List.mem_singleton.mp heq)
    · right
      rcases List.mem_cons.mp hlater with heq | hlater
      · exact Nat.le_of_eq heq.symm
      · exact Nat.le_of_lt (hrest _ hlater)

variable {report : Report} {source : Source}

theorem gapAbove_sourceRow_iff {before rest : List Nat} {line : Nat} {gap : Int}
    (hlines : labelledLines (drawnLabels report source) = before ++ line :: rest) :
    GapAbove report source gap (sourceRow report source line) ↔
      ∃ previous : Nat, before.getLast? = some previous ∧ gap = (line : Int) - previous - 1 := by
  constructor
  · rintro ⟨previous, other, hfollows, hgap, hsame⟩
    obtain rfl := sourceRow_injective report source hsame
    exact ⟨previous, (follows_iff hlines).mp hfollows, hgap⟩
  · rintro ⟨previous, hlast, hgap⟩
    exact ⟨previous, line, (follows_iff hlines).mpr hlast, hgap, rfl⟩

theorem not_gapAbove_of_isSource {gap : Int} {row : Row} (hrow : row.isSource = false) :
    ¬GapAbove report source gap row := by
  rintro ⟨_, line, -, -, rfl⟩
  cases hrow

/-! ### Rows with sizes -/

/-- The mark of a gap together with its size. -/
def sizedMarks (elideAfter : Int) (previous : Option Nat) (line : Nat) : List SizedRow :=
  match previous with
  | none => []
  | some last =>
      if elideAfter ≤ (line : Int) - last - 1 then [⟨.elision, some ((line : Int) - last - 1)⟩]
      else []

def unsized (rows : List Row) : List SizedRow :=
  rows.map fun row => { row }

def sizedBody (report : Report) (source : Source) (elideAfter : Int) (labels : List DrawnLabel) :
    (previous : Option Nat) → List Nat → List SizedRow
  | _, [] => []
  | previous, line :: rest =>
      sizedMarks elideAfter previous line ++ unsized (blockRows report source labels line) ++
        sizedBody report source elideAfter labels (some line) rest

/-- The rows below the labelled lines. -/
def rowsBelowBody (report : Report) : List Row :=
  .border :: (report.notes.map (fun note => .note (noteText note)) ++
    report.help.map fun help => .help (noteText help))

def sizedRows (report : Report) (source : Source) (elideAfter : Int) : List SizedRow :=
  let labels := orderedLabels (drawnLabels report source)
  unsized [headerRow report, .location (locationReference report source), .gutter] ++
    sizedBody report source elideAfter labels none (labelledLines labels) ++
    unsized (rowsBelowBody report)

@[simp]
theorem map_row_unsized (rows : List Row) : (unsized rows).map SizedRow.row = rows := by
  rw [unsized, List.map_map]
  exact List.map_id rows

theorem map_row_sizedMarks (elideAfter : Int) (previous : Option Nat) (line : Nat) :
    (sizedMarks elideAfter previous line).map SizedRow.row =
      elisionRows elideAfter previous line := by
  cases previous with
  | none => rfl
  | some last =>
      rw [sizedMarks, elisionRows]
      split <;> rfl

theorem map_row_sizedBody (elideAfter : Int) (labels : List DrawnLabel) (previous : Option Nat)
    (lines : List Nat) :
    (sizedBody report source elideAfter labels previous lines).map SizedRow.row =
      bodyRows report source elideAfter labels previous lines := by
  induction lines generalizing previous with
  | nil => rfl
  | cons line rest ih =>
      rw [sizedBody, bodyRows, List.map_append, List.map_append, map_row_sizedMarks,
        map_row_unsized, ih]

theorem map_row_sizedRows (report : Report) (source : Source) (elideAfter : Int) :
    (sizedRows report source elideAfter).map SizedRow.row = rows report source elideAfter := by
  simp only [sizedRows, List.map_append, map_row_unsized, map_row_sizedBody, rows, rowsBelowBody]
  simp

/-! ### Where marks stand -/

/-- A row that is no mark and comes without a size. -/
def SizedRow.IsPlain (entry : SizedRow) : Prop :=
  entry.row ≠ .elision ∧ entry.gap = none

/-- A row that is neither a mark nor one to stand below a mark. -/
structure Row.StandsApart (row : Row) : Prop where
  ne_elision : row ≠ .elision
  isSource : row.isSource = false

/-- What the marks have to do with the rows below them. -/
def MarkedAt (report : Report) (source : Source) (elideAfter : Int) (entry next : SizedRow) :
    Prop :=
  (entry.row = .elision ↔ ∃ gap, elideAfter ≤ gap ∧ GapAbove report source gap next.row) ∧
    ∀ gap, entry.gap = some gap ↔ entry.row = .elision ∧ GapAbove report source gap next.row

theorem markedAt_of_isPlain {elideAfter : Int} {entry next : SizedRow} (hplain : entry.IsPlain)
    (hnarrow : ∀ gap, GapAbove report source gap next.row → gap < elideAfter) :
    MarkedAt report source elideAfter entry next := by
  refine ⟨iff_of_false hplain.1 ?_, fun gap => iff_of_false ?_ fun hmark => hplain.1 hmark.1⟩
  · rintro ⟨gap, hle, habove⟩
    exact absurd (hnarrow gap habove) (Int.not_lt.mpr hle)
  · rw [hplain.2]
    nofun

theorem markedAt_of_not_isSource {elideAfter : Int} {entry next : SizedRow}
    (hplain : entry.IsPlain) (hnext : next.row.isSource = false) :
    MarkedAt report source elideAfter entry next :=
  markedAt_of_isPlain hplain fun _ habove => absurd habove (not_gapAbove_of_isSource hnext)

/-- `rest` may stand below any row that is no mark. -/
def Continues (report : Report) (source : Source) (elideAfter : Int) (rest : List SizedRow) :
    Prop :=
  ∀ entry : SizedRow, entry.IsPlain →
    (entry :: rest).IsChain (MarkedAt report source elideAfter)

theorem continues_nil (elideAfter : Int) : Continues report source elideAfter [] :=
  fun entry _ => .singleton entry

theorem Continues.unsized_append {elideAfter : Int} {rest : List SizedRow}
    (hrest : Continues report source elideAfter rest) {block : List Row}
    (hblock : ∀ row ∈ block, row.StandsApart) :
    Continues report source elideAfter (unsized block ++ rest) := by
  induction block with
  | nil => exact hrest
  | cons row block ih =>
      obtain ⟨hrow, hothers⟩ := List.forall_mem_cons.mp hblock
      intro entry hentry
      exact List.isChain_cons_cons.mpr
        ⟨markedAt_of_not_isSource hentry hrow.isSource, ih hothers { row } ⟨hrow.ne_elision, rfl⟩⟩

theorem standsApart_of_mem_labelRows {labels : List DrawnLabel} {row : Row}
    (hrow : row ∈ labels.flatMap labelRows) : row.StandsApart := by
  obtain ⟨label, -, hlabel⟩ := List.mem_flatMap.mp hrow
  rw [labelRows, List.mem_cons, List.mem_map] at hlabel
  rcases hlabel with rfl | ⟨msg, -, rfl⟩
  · exact ⟨by simp, rfl⟩
  · exact ⟨by simp, rfl⟩

/-- A mark stands above a source row if the gap there is wide, and only then. -/
theorem Continues.sizedMarks_append {elideAfter : Int} {rest : List SizedRow}
    {before after : List Nat} {line : Nat}
    (hlines : labelledLines (drawnLabels report source) = before ++ line :: after)
    (hrest : Continues report source elideAfter rest) :
    Continues report source elideAfter
      (sizedMarks elideAfter before.getLast? line ++ { row := sourceRow report source line } ::
        rest) := by
  have hbelow := hrest { row := sourceRow report source line } ⟨nofun, rfl⟩
  intro entry hentry
  cases hlast : before.getLast? with
  | none =>
      refine List.isChain_cons_cons.mpr ⟨markedAt_of_isPlain hentry fun gap habove => ?_, hbelow⟩
      rw [gapAbove_sourceRow_iff hlines, hlast] at habove
      simp at habove
  | some previous =>
      have habove : ∀ gap, GapAbove report source gap (sourceRow report source line) ↔
          gap = (line : Int) - previous - 1 := by
        intro gap
        rw [gapAbove_sourceRow_iff hlines, hlast]
        simp
      rw [sizedMarks]
      by_cases hwide : elideAfter ≤ (line : Int) - previous - 1
      · rw [if_pos hwide]
        refine List.isChain_cons_cons.mpr ⟨markedAt_of_not_isSource hentry rfl,
          List.isChain_cons_cons.mpr ⟨⟨?_, fun gap => ?_⟩, hbelow⟩⟩
        · exact iff_of_true rfl ⟨_, hwide, (habove _).mpr rfl⟩
        · rw [habove, Option.some.injEq, eq_comm]
          exact (and_iff_right rfl).symm
      · rw [if_neg hwide]
        refine List.isChain_cons_cons.mpr ⟨markedAt_of_isPlain hentry fun gap hgap => ?_, hbelow⟩
        rw [(habove gap).mp hgap]
        exact Int.not_le.mp hwide

theorem Continues.sizedBody_append {elideAfter : Int} {rest : List SizedRow}
    (hrest : Continues report source elideAfter rest) (labels : List DrawnLabel)
    {before lines : List Nat}
    (hlines : labelledLines (drawnLabels report source) = before ++ lines) :
    Continues report source elideAfter
      (sizedBody report source elideAfter labels before.getLast? lines ++ rest) := by
  induction lines generalizing before with
  | nil => exact hrest
  | cons line lines ih =>
      have hnext : labelledLines (drawnLabels report source) = (before ++ [line]) ++ lines := by
        simpa using hlines
      have hlater := ih hnext
      rw [List.getLast?_concat] at hlater
      have hlabels : ∀ row ∈ (labels.filter (·.line = line)).flatMap labelRows,
          row.StandsApart := fun _ => standsApart_of_mem_labelRows
      have hblock := hlater.unsized_append hlabels
      have hmarked := Continues.sizedMarks_append hlines hblock
      simpa [sizedBody, blockRows, unsized] using hmarked

theorem standsApart_of_mem_rowsBelowBody (report : Report) :
    ∀ row ∈ rowsBelowBody report, row.StandsApart := by
  simp only [rowsBelowBody, List.forall_mem_cons, List.forall_mem_append, List.forall_mem_map]
  exact ⟨⟨nofun, rfl⟩, fun _ _ => ⟨nofun, rfl⟩, fun _ _ => ⟨nofun, rfl⟩⟩

theorem isChain_sizedRows (report : Report) (source : Source) (elideAfter : Int) :
    (sizedRows report source elideAfter).IsChain (MarkedAt report source elideAfter) := by
  have hbelow : Continues report source elideAfter (unsized (rowsBelowBody report)) := by
    simpa using (continues_nil elideAfter).unsized_append (standsApart_of_mem_rowsBelowBody report)
  have hbody := hbelow.sizedBody_append (orderedLabels (drawnLabels report source))
    (List.nil_append (labelledLines (drawnLabels report source))).symm
  have habove : ∀ row ∈ [.location (locationReference report source), .gutter],
      Row.StandsApart row :=
    List.forall_mem_cons.mpr ⟨⟨nofun, rfl⟩, List.forall_mem_singleton.mpr ⟨nofun, rfl⟩⟩
  have hrows := hbody.unsized_append habove { row := headerRow report } ⟨nofun, rfl⟩
  rw [← labelledLines_orderedLabels] at hrows
  simpa [sizedRows, unsized] using hrows

theorem getLast?_sizedRows (report : Report) (source : Source) (elideAfter : Int) :
    ∃ row ∈ rowsBelowBody report,
      (sizedRows report source elideAfter).getLast? = some { row } := by
  have hne : rowsBelowBody report ≠ [] := List.cons_ne_nil _ _
  refine ⟨(rowsBelowBody report).getLast hne, List.getLast_mem hne, ?_⟩
  rw [sizedRows, List.getLast?_append, unsized, List.getLast?_map,
    List.getLast?_eq_some_getLast hne]
  rfl

theorem sizesMarks_sizedRows (report : Report) (source : Source) (elideAfter : Int) :
    SizesMarks report source (sizedRows report source elideAfter) where
  chain := (isChain_sizedRows report source elideAfter).imp fun _ _ hmarked => hmarked.2
  last := by
    obtain ⟨row, -, hlast⟩ := getLast?_sizedRows report source elideAfter
    rw [hlast]
    rintro entry ⟨rfl⟩
    rfl

/-! ### Source rows -/

theorem filter_isSource_bodyRows (elideAfter : Int) (labels : List DrawnLabel)
    (previous : Option Nat) (lines : List Nat) :
    (bodyRows report source elideAfter labels previous lines).filter Row.isSource =
      lines.map (sourceRow report source) := by
  induction lines generalizing previous with
  | nil => rfl
  | cons line rest ih =>
      have hmarks : (elisionRows elideAfter previous line).filter Row.isSource = [] := by
        rcases elisionRows_eq elideAfter previous line with hnone | hmark
        · rw [hnone, List.filter_nil]
        · rw [hmark]
          rfl
      have hlabels : ((labels.filter (·.line = line)).flatMap labelRows).filter Row.isSource =
          [] := by
        rw [List.filter_eq_nil_iff]
        intro row hrow
        simp [(standsApart_of_mem_labelRows hrow).isSource]
      have hsource : (sourceRow report source line).isSource = true := rfl
      rw [bodyRows, List.filter_append, List.filter_append, hmarks, ih, blockRows,
        List.filter_cons_of_pos hsource, hlabels]
      rfl

theorem filter_isSource_rows (report : Report) (source : Source) (elideAfter : Int) :
    (rows report source elideAfter).filter Row.isSource =
      (labelledLines (drawnLabels report source)).map (sourceRow report source) := by
  have hbelow : (rowsBelowBody report).filter Row.isSource = [] := by
    rw [List.filter_eq_nil_iff]
    intro row hrow
    simp [(standsApart_of_mem_rowsBelowBody report row hrow).isSource]
  rw [← map_row_sizedRows]
  simp only [sizedRows, List.map_append, map_row_unsized, map_row_sizedBody, List.filter_append,
    filter_isSource_bodyRows, hbelow, labelledLines_orderedLabels]
  simp [Row.isSource, headerRow]

/-! ### Two thresholds -/

theorem filter_unsized (keep : SizedRow → Bool) (hkeep : ∀ row, keep { row } = true)
    (rows : List Row) : (unsized rows).filter keep = unsized rows := by
  rw [List.filter_eq_self, unsized, List.forall_mem_map]
  exact fun row _ => hkeep row

section Thresholds

variable {lower higher : Int} (hle : lower ≤ higher)
include hle

theorem filter_sizedMarks (previous : Option Nat) (line : Nat) :
    (sizedMarks lower previous line).filter (fun entry => !entry.liesBetween lower higher) =
      sizedMarks higher previous line := by
  cases previous with
  | none => rfl
  | some last =>
      rw [sizedMarks, sizedMarks]
      by_cases hlower : lower ≤ (line : Int) - last - 1
      · by_cases hhigher : higher ≤ (line : Int) - last - 1
        · simp [hlower, hhigher, SizedRow.liesBetween, Int.not_lt.mpr hhigher]
        · simp [hlower, hhigher, SizedRow.liesBetween, Int.not_le.mp hhigher]
      · have hhigher : ¬higher ≤ (line : Int) - last - 1 := fun h => hlower (Int.le_trans hle h)
        simp [hlower, hhigher]

theorem filter_sizedBody (labels : List DrawnLabel) (previous : Option Nat) (lines : List Nat) :
    (sizedBody report source lower labels previous lines).filter
        (fun entry => !entry.liesBetween lower higher) =
      sizedBody report source higher labels previous lines := by
  induction lines generalizing previous with
  | nil => rfl
  | cons line rest ih =>
      rw [sizedBody, sizedBody, List.filter_append, List.filter_append, filter_sizedMarks hle,
        filter_unsized _ fun _ => rfl, ih]

theorem filter_sizedRows (report : Report) (source : Source) :
    (sizedRows report source lower).filter (fun entry => !entry.liesBetween lower higher) =
      sizedRows report source higher := by
  rw [sizedRows, sizedRows, List.filter_append, List.filter_append, filter_sizedBody hle,
    filter_unsized _ fun _ => rfl, filter_unsized _ fun _ => rfl]

end Thresholds

theorem marksWideGaps (report : Report) (source : Source) : MarksWideGaps report source where
  marks elideAfter := by
    rw [← map_row_sizedRows, List.isChain_map]
    exact (isChain_sizedRows report source elideAfter).imp fun _ _ hmarked => hmarked.1
  first _ := rfl
  last elideAfter := by
    obtain ⟨row, hrow, hlast⟩ := getLast?_sizedRows report source elideAfter
    rw [← map_row_sizedRows, List.getLast?_map, hlast]
    have hrow := standsApart_of_mem_rowsBelowBody report row hrow
    exact fun hmark => hrow.ne_elision (Option.some.inj hmark)
  sources := ⟨_, labelledLines_pairwise _, fun _ => mem_labelledLines,
    filter_isSource_rows report source⟩
  thinned lower higher hle := ⟨sizedRows report source lower, map_row_sizedRows _ _ _,
    sizesMarks_sizedRows report source lower, by
      rw [filter_sizedRows hle, map_row_sizedRows]⟩

/-- The threshold decides about the marks and about nothing else that a rendering shows. -/
theorem render_marks_wide_gaps [Platform] {cache : Cache}
    (hfetch : cache.fetch (sourceName report.span.source) = .ok source) :
    MarksWideGaps report source ∧
      (penOf report source).rowText .elision =
        paint (Role.skippedMargin.colorIf report.config.color) "...".toList ∧
      (report.config.tabWidth < Platform.memoryBound → source.NumbersFit →
        firstFault? report source = none) ∧
      ∀ elideAfter, render report cache elideAfter =
        match firstFault? report source with
        | some fault => .error (.ofFault report source fault)
        | none =>
            .ok ⟨report.shown
                (joinRows ((rows report source elideAfter).map (penOf report source).rowText)),
              droppedLabels report source⟩ := by
  refine ⟨marksWideGaps report source, rfl, firstFault?_eq_none, fun elideAfter => ?_⟩
  cases hfault : firstFault? report source with
  | some fault => exact render_of_fault hfetch hfault elideAfter
  | none =>
      rw [render_of_no_fault hfetch hfault, ← text_renderOver]
      rfl

/-! Between the labelled lines of this report lie no line, one line, and three lines. -/

def gappySource : Source :=
  .ofString "a\nb\nc\nd\ne\nf\ng\nh\n"

def gappyCache : Cache :=
  .ofList [("gappy", gappySource)]

def gappyReport : Report where
  span := ⟨some "gappy", 0, 1⟩
  labels := [{ span := ⟨some "gappy", 14, 15⟩ }, { span := ⟨some "gappy", 0, 1⟩ },
    { span := ⟨some "gappy", 6, 7⟩ }, { span := ⟨some "gappy", 2, 3⟩, msg := some "b" }]

/-- The mark above line 3 stands for one line, so it goes from one threshold to the next. -/
theorem render_marks_wide_gaps_gappyReport :
    gappyCache.fetch (sourceName gappyReport.span.source) = .ok gappySource ∧
      GapAbove gappyReport gappySource 1 (sourceRow gappyReport gappySource 3) ∧
      (∃ sized : List SizedRow, sized.map SizedRow.row = rows gappyReport gappySource 1 ∧
        SizesMarks gappyReport gappySource sized ∧
        rows gappyReport gappySource 2 =
          (sized.filter fun entry => !entry.liesBetween 1 2).map SizedRow.row) ∧
      ∃ rendering, render gappyReport gappyCache 2 = .ok rendering := by
  have hfetch : gappyCache.fetch (sourceName gappyReport.span.source) = .ok gappySource := rfl
  have hfollows : Follows (drawnLabels gappyReport gappySource) 1 3 :=
    ⟨by decide +kernel, by decide +kernel, by decide, by decide +kernel⟩
  obtain ⟨hmarks, -, hfits, hrender⟩ := render_marks_wide_gaps hfetch
  have hnumbers : gappySource.NumbersFit := Source.numbersFit_of_isWord (by decide) (by decide)
  have hrendering := hrender 2
  rw [hfits (by decide) hnumbers] at hrendering
  exact ⟨hfetch, ⟨1, 3, hfollows, by decide, rfl⟩, hmarks.thinned 1 2 (by decide), _, hrendering⟩

end Diagnostics
