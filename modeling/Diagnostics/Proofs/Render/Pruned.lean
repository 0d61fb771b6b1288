import Diagnostics.Proofs.Render.Relabelled
import Diagnostics.Proofs.Render.SourceRow
import Diagnostics.Usual

/-!
# Labels that are left out

A label is either drawn on its line or dropped with one message. Dropped labels leave no
trace in the rendered text, so a report can be pruned to its drawn labels.
-/

namespace Diagnostics

/-- Whether the label is drawn. -/
def Report.draws (report : Report) (source : Source) (label : Label) : Bool :=
  (drawLabel report source label).toOption.isSome

/-- The report with its drawn labels only. -/
def Report.prune (report : Report) (source : Source) : Report :=
  { report with labels := report.labels.filter (report.draws source) }

/-- `drawn` stands for `label`, on the line of every offset that the label covers. -/
structure Shows (report : Report) (source : Source) (label : Label)
    (drawn : DrawnLabel) : Prop where
  msg : drawn.msg = label.msg
  order : drawn.order = label.order
  line : ∀ offset, label.span.start ≤ offset → offset ≤ label.span.lastOffset →
    ∃ position, source.lineAt? offset report.config.offsetUnit = some position ∧
      position.index = drawn.line

/-- The labels that are drawn and what is drawn for them, one by one. -/
def ShowsDrawn (report : Report) (source : Source) (labels : List Label)
    (drawn : List DrawnLabel) : Prop :=
  List.Forall₂ (Shows report source) (labels.filter (report.draws source)) drawn

/-- The labels that are not drawn and the entries made for them, one by one. -/
def DropsUndrawn (report : Report) (source : Source) (labels : List Label)
    (dropped : List DroppedLabel) : Prop :=
  List.Forall₂
    (fun label entry => drawLabel report source label = .error entry ∧ entry.span = label.span)
    (labels.filter fun label => !report.draws source label) dropped

variable {report : Report} {source : Source} {label : Label}

theorem draws_iff :
    report.draws source label ↔ ∃ drawn, drawLabel report source label = .ok drawn := by
  rw [Report.draws]
  cases drawLabel report source label <;> simp [Except.toOption]

theorem draws_eq_false_iff :
    report.draws source label = false ↔
      ∃ entry, drawLabel report source label = .error entry := by
  rw [Report.draws]
  cases drawLabel report source label <;> simp [Except.toOption]

theorem shows_of_drawLabel {drawn : DrawnLabel}
    (hdrawn : drawLabel report source label = .ok drawn) : Shows report source label drawn where
  msg := (msg_and_order_of_drawLabel hdrawn).1
  order := (msg_and_order_of_drawLabel hdrawn).2
  line _ hstart hlast := lineAt?_of_drawLabel hdrawn hstart hlast

/-- The items at which `f` is defined and its values there, one by one. -/
theorem forall₂_filterMap (f : α → Option β) (items : List α) :
    List.Forall₂ (fun item value => f item = some value)
      (items.filter fun item => (f item).isSome) (items.filterMap f) := by
  induction items with
  | nil => exact .nil
  | cons item rest ih =>
      cases hitem : f item with
      | none =>
          rw [List.filter_cons_of_neg (by simp [hitem]), List.filterMap_cons_none hitem]
          exact ih
      | some value =>
          rw [List.filter_cons_of_pos (by simp [hitem]), List.filterMap_cons_some hitem]
          exact .cons hitem ih

theorem showsDrawn_drawnLabels (report : Report) (source : Source) :
    ShowsDrawn report source report.labels (drawnLabels report source) := by
  apply (forall₂_filterMap _ report.labels).imp
  intro label drawn hdrawn
  cases hresult : drawLabel report source label with
  | error entry => simp [hresult, Except.toOption] at hdrawn
  | ok placed =>
      simp only [hresult, Except.toOption, Option.some.injEq] at hdrawn
      subst hdrawn
      exact shows_of_drawLabel hresult

theorem dropsUndrawn_filterMap (report : Report) (source : Source) (labels : List Label) :
    DropsUndrawn report source labels (labels.filterMap (dropOf? report source)) := by
  have hundrawn : (fun label => !report.draws source label) =
      fun label => (dropOf? report source label).isSome := by
    funext label
    rw [Report.draws, dropOf?]
    cases drawLabel report source label <;> rfl
  rw [DropsUndrawn, hundrawn]
  apply (forall₂_filterMap _ labels).imp
  intro label entry hentry
  cases hresult : drawLabel report source label with
  | ok drawn => simp [dropOf?, hresult] at hentry
  | error dropped =>
      simp only [dropOf?, hresult, Option.some.injEq] at hentry
      subst hentry
      exact ⟨rfl, span_of_drawLabel hresult⟩

/-! ### Pruned reports -/

/-- What becomes of a label does not depend on the other labels. -/
theorem drawLabel_prune (label : Label) :
    drawLabel (report.prune source) source label = drawLabel report source label := rfl

/-- What reads nothing off an undrawn label reads the same off a pruned report. -/
theorem filterMap_prune (f : Label → Option α)
    (hundrawn : ∀ label, report.draws source label = false → f label = none) :
    (report.prune source).labels.filterMap f = report.labels.filterMap f := by
  rw [Report.prune, List.filterMap_filter]
  apply List.filterMap_congr
  intro label _
  cases hdraws : report.draws source label with
  | true => simp
  | false => simp [hundrawn label hdraws]

theorem drawnLabels_prune (report : Report) (source : Source) :
    drawnLabels (report.prune source) source = drawnLabels report source := by
  apply filterMap_prune
  intro label hdraws
  obtain ⟨entry, hentry⟩ := draws_eq_false_iff.mp hdraws
  rw [drawLabel_prune, hentry]
  rfl

theorem droppedLabels_prune (report : Report) (source : Source) :
    droppedLabels (report.prune source) source = [] := by
  rw [droppedLabels_eq_filterMap, List.filterMap_eq_nil_iff]
  intro label hlabel
  obtain ⟨drawn, hdrawn⟩ := draws_iff.mp (List.mem_filter.mp hlabel).2
  rw [dropOf?, drawLabel_prune, hdrawn]

theorem movedDown_prune (report : Report) (source : Source) :
    MovedDown report source (report.prune source) source 0 where
  style := ⟨rfl, rfl, rfl, rfl, rfl, rfl, rfl, rfl, rfl⟩
  drawn := by
    rw [drawnLabels_prune]
    exact (List.map_id _).symm
  lineNumber _ := rfl
  textAt _ _ := rfl

theorem renderOver_prune (report : Report) (source : Source) (elideAfter : Int) :
    renderOver (report.prune source) source elideAfter =
      ⟨(renderOver report source elideAfter).text, []⟩ := by
  have htext := (movedDown_prune report source).text_eq rfl elideAfter
  rw [← htext, ← droppedLabels_prune report source]
  rfl

section Platform

variable [Platform]

theorem drawingFault?_prune (report : Report) (source : Source) :
    drawingFault? (report.prune source) source = drawingFault? report source := by
  rw [drawingFault?, drawingFault?, ← List.head?_filterMap, ← List.head?_filterMap]
  apply congrArg
  apply filterMap_prune
  intro label hdraws
  obtain ⟨entry, hentry⟩ := draws_eq_false_iff.mp hdraws
  rw [labelFault?, drawLabel_prune, hentry]

theorem firstFault?_prune (report : Report) (source : Source) :
    firstFault? (report.prune source) source = firstFault? report source := by
  have hlocation : locationFault? (report.prune source) source = locationFault? report source := rfl
  rw [firstFault?, firstFault?, marginFault?, marginFault?, drawnLabels_prune, drawingFault?_prune,
    hlocation]

/-- The labels before a fault are all drawn if the undrawn ones are left out. -/
theorem dropOf?_reachedLabels_prune (report : Report) (source : Source) :
    (reachedLabels (report.prune source) source).filterMap (dropOf? (report.prune source) source) =
      [] := by
  have hnone := droppedLabels_prune report source
  rw [droppedLabels_eq_filterMap, List.filterMap_eq_nil_iff] at hnone
  rw [List.filterMap_eq_nil_iff]
  intro label hlabel
  exact hnone label (reachedLabels_subset _ _ hlabel)

/-- Every label is drawn on its own line or dropped. The lines of the drawn labels are
shown in ascending order, each once, with their labels below them; every other label
makes one entry and is not needed for the text. -/
theorem render_shows_each_label {cache : Cache} (elideAfter : Int)
    (hfetch : cache.fetch (sourceName report.span.source) = .ok source) :
    (∀ label, report.draws source label ↔
      label.span.source = report.span.source ∧
        0 ≤ label.span.start ∧ label.span.start ≤ source.total report.config.offsetUnit ∧
        max (label.span.stop - 1) label.span.start ≤ source.total report.config.offsetUnit ∧
        ∀ line ∈ source.lines, ¬(label.span.start < line.start report.config.offsetUnit ∧
          line.start report.config.offsetUnit ≤ max (label.span.stop - 1) label.span.start)) ∧
      ShowsDrawn report source report.labels (drawnLabels report source) ∧
      (∃ lines body, rows report source elideAfter =
          [headerRow report, .location (locationReference report source), .gutter] ++ body ++
            .border :: (report.notes.map (fun note => .note (noteText note)) ++
              report.help.map fun help => .help (noteText help)) ∧
        lines.Pairwise (· < ·) ∧
        (∀ line, line ∈ lines ↔ ∃ drawn ∈ drawnLabels report source, drawn.line = line) ∧
        ShowsLines report source (drawnLabels report source) lines body) ∧
      (∀ drawn, labelRows drawn = .underline drawn ::
        match drawn.msg with
        | none => []
        | some msg => if msg = "" then [] else [.arrow drawn msg]) ∧
      (∀ number text, .source number text ∈ rows report source elideAfter →
        OneLine ((penOf report source).rowText (.source number text))) ∧
      (report.config.tabWidth < Platform.memoryBound → source.NumbersFit →
        firstFault? report source = none) ∧
      (firstFault? report source = none → ∃ text dropped,
        text = report.shown
            (joinRows ((rows report source elideAfter).map (penOf report source).rowText)) ∧
          DropsUndrawn report source report.labels dropped ∧
          render report cache elideAfter = .ok ⟨text, dropped⟩ ∧
          render (report.prune source) cache elideAfter = .ok ⟨text, []⟩) ∧
      ∀ fault, firstFault? report source = some fault → ∃ dropped,
        DropsUndrawn report source (reachedLabels report source) dropped ∧
          render report cache elideAfter = .error (.broken fault dropped) ∧
          render (report.prune source) cache elideAfter = .error (.broken fault []) := by
  have hfetchPrune : cache.fetch (sourceName (report.prune source).span.source) = .ok source :=
    hfetch
  refine ⟨?_, showsDrawn_drawnLabels report source, ?_, labelRows_eq, ?_, ?_, ?_, ?_⟩
  · intro label
    rw [draws_iff, exists_drawLabel_iff]
    rfl
  · obtain ⟨body, hrows, hshows⟩ := exists_body report source elideAfter
    exact ⟨_, body, hrows, labelledLines_pairwise _, fun _ => mem_labelledLines, hshows⟩
  · intro number text hmem
    exact oneLine_rowText_of_mem_rows hmem
  · exact firstFault?_eq_none
  · intro hfault
    have hfaultPrune : firstFault? (report.prune source) source = none := by
      rw [firstFault?_prune, hfault]
    have hpruned : render (report.prune source) cache elideAfter =
        .ok ⟨(renderOver report source elideAfter).text, []⟩ := by
      rw [render_of_no_fault hfetchPrune hfaultPrune, renderOver_prune]
    exact ⟨_, droppedLabels report source, text_renderOver report source elideAfter,
      dropsUndrawn_filterMap report source report.labels,
      render_of_no_fault hfetch hfault elideAfter, hpruned⟩
  · intro fault hfault
    have hfaultPrune : firstFault? (report.prune source) source = some fault := by
      rw [firstFault?_prune, hfault]
    refine ⟨_, dropsUndrawn_filterMap report source _, render_of_fault hfetch hfault elideAfter, ?_⟩
    rw [render_of_fault hfetchPrune hfaultPrune, dropOf?_reachedLabels_prune]

end Platform

/-! A report with two labels on one line, one in the middle of a terminator, one on two
lines, one past the end, and one on another source. -/

def crowdedSource : Source := ⟨['a', 'b', '\r', '\n', 'c'], 0⟩

def crowdedCache : Cache := .ofList [("crowded", crowdedSource)]

def crowdedReport : Report where
  span := ⟨some "crowded", 0, 5⟩
  labels := [
    { span := ⟨some "crowded", 3, 4⟩, msg := some "in the terminator", order := 1 },
    { span := ⟨some "crowded", 1, 5⟩ },
    { span := ⟨some "crowded", 0, 1⟩, msg := some "first" },
    { span := ⟨some "crowded", 5, 7⟩ },
    { span := ⟨some "other", 0, 1⟩ },
    { span := ⟨some "crowded", 5, 6⟩, msg := some "at the end" }]

theorem render_shows_each_label_of_crowdedReport :
    ∃ text dropped,
      render crowdedReport crowdedCache 2 = .ok ⟨text, dropped⟩ ∧
        DropsUndrawn crowdedReport crowdedSource crowdedReport.labels dropped ∧
        render (crowdedReport.prune crowdedSource) crowdedCache 2 = .ok ⟨text, []⟩ := by
  have hfetch : crowdedCache.fetch (sourceName crowdedReport.span.source) = .ok crowdedSource := rfl
  have hnumbers : crowdedSource.NumbersFit :=
    Source.numbersFit_of_isWord (by decide) (by decide)
  obtain ⟨-, -, -, -, -, hfits, hrender, -⟩ := render_shows_each_label 2 hfetch
  obtain ⟨text, dropped, -, hdropped, hok, hprune⟩ := hrender (hfits (by decide) hnumbers)
  exact ⟨text, dropped, hok, hdropped, hprune⟩

end Diagnostics
