import Mathlib.Data.List.FinRange
import Diagnostics.Proofs.Render.Layout
import Diagnostics.Proofs.Render.Outcome
import Diagnostics.Proofs.Source.Cache
import Diagnostics.Usual

/-!
# Labels in another order

The order in which labels were added is read off a rendered text only where labels are
tied, that is of the same order value and drawn on the same line. Sorting goes over all
labels at once, by order value and line; what is drawn below a line are its labels by
order value, and these are the same for every arrangement that keeps ties in their order.
-/

namespace Diagnostics

/-- The line on which the label is drawn, if it is drawn. -/
def Report.lineOf? (report : Report) (cache : Cache) (label : Label) : Option Nat :=
  match cache.fetch (sourceName report.span.source) with
  | .ok source => (drawLabel report source label).toOption.map DrawnLabel.line
  | .error _ => none

/-- The labels have the same order value and are drawn on the same line. -/
def Report.Tied (report : Report) (cache : Cache) (a b : Label) : Prop :=
  a.order = b.order ∧ report.lineOf? cache a ≠ none ∧
    report.lineOf? cache a = report.lineOf? cache b

instance (report : Report) (cache : Cache) (a b : Label) : Decidable (report.Tied cache a b) :=
  inferInstanceAs (Decidable (_ ∧ _ ∧ _))

/-- The report with the labels from the given positions, in the order of the positions. -/
def Report.rearrange (report : Report) (positions : List (Fin report.labels.length)) : Report :=
  { report with labels := positions.map report.labels.get }

/-- Every position occurs once, and those of tied labels occur in their order. -/
structure Report.KeepsTies (report : Report) (cache : Cache)
    (positions : List (Fin report.labels.length)) : Prop where
  perm : positions.Perm (List.finRange report.labels.length)
  ordered : positions.Pairwise fun i j =>
    report.Tied cache (report.labels.get i) (report.labels.get j) → i < j

/-! ### Lists in another order -/

/-- Items whose positions stay in order are not moved past each other. -/
theorem filter_map_get {items : List α} {positions : List (Fin items.length)}
    (hperm : positions.Perm (List.finRange items.length)) (keep : α → Bool)
    (hordered : (positions.filter (keep ∘ items.get)).Pairwise (· < ·)) :
    (positions.map items.get).filter keep = items.filter keep := by
  have hsame : positions.filter (keep ∘ items.get) =
      (List.finRange items.length).filter (keep ∘ items.get) :=
    hordered.eq_of_mem_iff ((List.pairwise_lt_finRange _).filter _)
      fun i => (hperm.filter _).mem_iff
  calc
    (positions.map items.get).filter keep =
        (positions.filter (keep ∘ items.get)).map items.get := List.filter_map
    _ = ((List.finRange items.length).filter (keep ∘ items.get)).map items.get := by rw [hsame]
    _ = ((List.finRange items.length).map items.get).filter keep := List.filter_map.symm
    _ = items.filter keep := by rw [List.map_get_finRange]

theorem perm_map_get {items : List α} {positions : List (Fin items.length)}
    (hperm : positions.Perm (List.finRange items.length)) :
    (positions.map items.get).Perm items := by
  have hitems := hperm.map items.get
  rwa [List.map_get_finRange] at hitems

/-! ### Drawn labels in another order -/

/-- `other` has the same labels drawn on each line as `report`, and below each line in the
same order. -/
structure DrawnAlike (report other : Report) (source : Source) : Prop where
  style : report.SameStyle other
  location : locationReference other source = locationReference report source
  startNumber? : other.startNumber? source = report.startNumber? source
  perm : (drawnLabels other source).Perm (drawnLabels report source)
  below : ∀ line,
    (orderedLabels (drawnLabels other source)).filter (·.line = line) =
      (orderedLabels (drawnLabels report source)).filter (·.line = line)

namespace DrawnAlike

variable {report other : Report} {source : Source} (halike : DrawnAlike report other source)
include halike

theorem labelledLines_eq :
    labelledLines (drawnLabels other source) = labelledLines (drawnLabels report source) := by
  apply Diagnostics.labelledLines_eq (labelledLines_pairwise _)
  intro line
  rw [mem_labelledLines]
  simp only [halike.perm.mem_iff]

theorem penOf_eq : penOf other source = penOf report source := by
  rw [penOf, penOf, halike.labelledLines_eq, halike.style.charSet, halike.style.color]

theorem bodyRows_eq (elideAfter : Int) (previous : Option Nat) (lines : List Nat) :
    bodyRows other source elideAfter (orderedLabels (drawnLabels other source)) previous lines =
      bodyRows report source elideAfter (orderedLabels (drawnLabels report source)) previous
        lines := by
  induction lines generalizing previous with
  | nil => rfl
  | cons line rest ih =>
      have hsource : sourceRow other source line = sourceRow report source line := by
        rw [sourceRow, sourceRow, halike.style.tabWidth]
      rw [bodyRows, bodyRows, blockRows, blockRows, hsource, halike.below line, ih]

theorem rows_eq (elideAfter : Int) :
    rows other source elideAfter = rows report source elideAfter := by
  simp only [rows, labelledLines_orderedLabels, halike.style.headerRow_eq, halike.location,
    halike.labelledLines_eq, halike.bodyRows_eq, halike.style.notes, halike.style.help]

theorem text_eq (elideAfter : Int) :
    (renderOver other source elideAfter).text = (renderOver report source elideAfter).text := by
  rw [text_renderOver, text_renderOver, halike.rows_eq, halike.penOf_eq, halike.style.shown_eq]

variable [Platform]

/-- Of several lines that cannot be drawn another one may be met first. -/
theorem drawingFault?_eq_none_iff :
    drawingFault? other source = none ↔ drawingFault? report source = none := by
  rw [Diagnostics.drawingFault?_eq_none_iff, Diagnostics.drawingFault?_eq_none_iff, ExpandsTabs,
    ExpandsTabs, halike.style.tabWidth]
  simp only [halike.perm.mem_iff]

theorem firstFault?_eq_none_iff :
    firstFault? other source = none ↔ firstFault? report source = none := by
  have hmargin : marginFault? other source = marginFault? report source := by
    rw [marginFault?, marginFault?, halike.labelledLines_eq]
  simp only [firstFault?, Option.orElse_eq_orElse, Option.orElse_eq_or, Option.or_eq_none_iff,
    locationFault?_congr halike.startNumber?, halike.drawingFault?_eq_none_iff, hmargin]

end DrawnAlike

/-! ### Arrangements that keep ties -/

section Arrangement

variable {report : Report} {cache : Cache} {source : Source}

/-- The labels of one order value that are drawn on one line. -/
theorem filter_drawnLabels (hfetch : cache.fetch (sourceName report.span.source) = .ok source)
    (line : Nat) (value : Int) :
    ((drawnLabels report source).filter fun drawn => drawn.order = value && drawn.line = line) =
      (report.labels.filter fun label => label.order = value &&
        report.lineOf? cache label = some line).filterMap
          fun label => (drawLabel report source label).toOption := by
  rw [drawnLabels, List.filter_filterMap, List.filterMap_filter]
  congr 1
  funext label
  rw [Report.lineOf?, hfetch]
  cases hdrawn : drawLabel report source label with
  | error dropped => simp [Except.toOption]
  | ok drawn =>
      simp [hdrawn, Except.toOption, Option.filter, (msg_and_order_of_drawLabel hdrawn).2]

variable {positions : List (Fin report.labels.length)}

/-- Tied labels stand in the arrangement as they were added. -/
theorem Report.KeepsTies.filter_eq (hkeeps : report.KeepsTies cache positions) (line : Nat)
    (value : Int) :
    ((report.rearrange positions).labels.filter fun label => label.order = value &&
        report.lineOf? cache label = some line) =
      report.labels.filter fun label => label.order = value &&
        report.lineOf? cache label = some line := by
  apply filter_map_get hkeeps.perm
  apply (hkeeps.ordered.filter _).imp_of_mem
  intro i j hi hj hordered
  simp only [List.mem_filter, Function.comp_apply, Bool.and_eq_true, decide_eq_true_eq] at hi hj
  apply hordered
  refine ⟨hi.2.1.trans hj.2.1.symm, ?_, hi.2.2.trans hj.2.2.symm⟩
  rw [hi.2.2]
  exact Option.some_ne_none line

theorem Report.KeepsTies.drawnAlike (hkeeps : report.KeepsTies cache positions)
    (hfetch : cache.fetch (sourceName report.span.source) = .ok source) :
    DrawnAlike report (report.rearrange positions) source where
  style := ⟨rfl, rfl, rfl, rfl, rfl, rfl, rfl, rfl, rfl⟩
  location := rfl
  startNumber? := rfl
  perm := (perm_map_get hkeeps.perm).filterMap _
  below line := by
    apply (stablySorted_labelsOn _ line).unique (stablySorted_labelsOn _ line)
    intro value
    have hfetched : cache.fetch (sourceName (report.rearrange positions).span.source) =
        .ok source := hfetch
    rw [List.filter_filter, List.filter_filter, filter_drawnLabels hfetched,
      filter_drawnLabels hfetch]
    exact congrArg (List.filterMap _) (hkeeps.filter_eq line value)

/-- The labels of a report may be put into any order in which tied labels keep theirs. A text,
which there is if the source is registered, tabs fit the memory and the numbers of the lines
can be written, stays the same, and the same labels are dropped, though maybe in another
order. If there is no text, there is none for the other order either, although of several
lines that cannot be drawn another one may be met first. -/
theorem render_rearrange [Platform] (hkeeps : report.KeepsTies cache positions) (elideAfter : Int) :
    (cache.contains (sourceName report.span.source) →
        report.config.tabWidth < Platform.memoryBound →
        (∀ source, cache.fetch (sourceName report.span.source) = .ok source →
          source.NumbersFit) →
        ∃ rendering, render report cache elideAfter = .ok rendering) ∧
      (∀ rendering, render report cache elideAfter = .ok rendering →
        ∃ dropped, dropped.Perm rendering.dropped ∧
          render (report.rearrange positions) cache elideAfter = .ok ⟨rendering.text, dropped⟩) ∧
      (∀ cause, render report cache elideAfter = .error (.missing cause) →
        render (report.rearrange positions) cache elideAfter = .error (.missing cause)) ∧
      ∀ fault dropped, render report cache elideAfter = .error (.broken fault dropped) →
        ∃ other droppedBefore, render (report.rearrange positions) cache elideAfter =
          .error (.broken other droppedBefore) := by
  cases hfetch : cache.fetch (sourceName report.span.source) with
  | error missing =>
      have hother : cache.fetch (sourceName (report.rearrange positions).span.source) =
          .error missing := hfetch
      have habsent := ((cache.fetch_eq_error_iff _ missing).mp hfetch).2
      rw [render_of_missing hfetch, render_of_missing hother, habsent]
      exact ⟨nofun, nofun, fun _ => id, nofun⟩
  | ok source =>
      have hfetched : cache.fetch (sourceName (report.rearrange positions).span.source) =
          .ok source := hfetch
      have halike := hkeeps.drawnAlike hfetch
      cases hfault : firstFault? report source with
      | none =>
          rw [render_of_no_fault hfetch hfault,
            render_of_no_fault hfetched (halike.firstFault?_eq_none_iff.mpr hfault)]
          refine ⟨fun _ _ _ => ⟨_, rfl⟩, ?_, nofun, nofun⟩
          rintro rendering ⟨⟩
          refine ⟨droppedLabels (report.rearrange positions) source,
            (perm_map_get hkeeps.perm).filterMap _, ?_⟩
          rw [← halike.text_eq elideAfter]
          rfl
      | some fault =>
          have hbroken : firstFault? (report.rearrange positions) source ≠ none := by
            rw [Ne, halike.firstFault?_eq_none_iff, hfault]
            exact Option.some_ne_none fault
          obtain ⟨other, hother⟩ := Option.ne_none_iff_exists'.mp hbroken
          rw [render_of_fault hfetch hfault, render_of_fault hfetched hother]
          refine ⟨fun _ hfits hnumbers => ?_, nofun, nofun, fun _ _ _ => ⟨_, _, rfl⟩⟩
          rw [firstFault?_eq_none hfits (hnumbers source rfl)] at hfault
          cases hfault

end Arrangement

/-! Two tied labels, a label on the same line that is drawn before them, one on another line
and two that are dropped. -/

def tiedSource : Source := .ofString "ab\ncd"

def tiedCache : Cache := .ofList [("tied", tiedSource)]

def tiedReport : Report where
  span := ⟨some "tied", 0, 1⟩
  labels :=
    [{ span := ⟨some "tied", 0, 1⟩, msg := some "first" },
      { span := ⟨some "tied", 3, 4⟩, msg := some "below" },
      { span := ⟨some "tied", 0, 9⟩ },
      { span := ⟨some "tied", 1, 2⟩, msg := some "second" },
      { span := ⟨some "elsewhere", 0, 1⟩ },
      { span := ⟨some "tied", 0, 2⟩, order := -1 }]

def tiedArrangement : List (Fin tiedReport.labels.length) :=
  ([5, 4, 0, 3, 2, 1] : List (Fin 6))

theorem render_rearrange_tiedReport :
    tiedReport.KeepsTies tiedCache tiedArrangement ∧
      (tiedReport.rearrange tiedArrangement).labels ≠ tiedReport.labels ∧
      ∃ text dropped moved, moved.Perm dropped ∧
        render tiedReport tiedCache 2 = .ok ⟨text, dropped⟩ ∧
        render (tiedReport.rearrange tiedArrangement) tiedCache 2 = .ok ⟨text, moved⟩ := by
  have hkeeps : tiedReport.KeepsTies tiedCache tiedArrangement := ⟨by decide, by decide +kernel⟩
  obtain ⟨hexists, htext, -⟩ := render_rearrange hkeeps 2
  have hnumbers : tiedSource.NumbersFit := Source.numbersFit_of_isWord (by decide) (by decide)
  obtain ⟨rendering, hrender⟩ := hexists rfl (by decide) fun _ hfetch => by
    cases hfetch
    exact hnumbers
  obtain ⟨moved, hmoved, hother⟩ := htext rendering hrender
  exact ⟨hkeeps, by decide +kernel, _, _, moved, hmoved, hrender, hother⟩

end Diagnostics
