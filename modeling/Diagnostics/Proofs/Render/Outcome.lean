import Diagnostics.Proofs.Extent
import Diagnostics.Proofs.Render.Expansion
import Diagnostics.Proofs.Render.Order
import Diagnostics.Proofs.Render.Placement

/-!
# How a rendering ends

A rendering fails if the source of the report is not registered, breaks off at the first
number that cannot be written and at the first label of which the line cannot be drawn,
and otherwise gives the text of the report over that source. Nothing else of the cache is
read.
-/

namespace Diagnostics

theorem sourceName_of_ne {id : String} (hid : id ≠ "") : sourceName (some id) = id := by
  rw [sourceName, if_neg hid]

/-- What is said of the label if it is dropped. -/
def dropOf? (report : Report) (source : Source) (label : Label) : Option DroppedLabel :=
  match drawLabel report source label with
  | .ok _ => none
  | .error dropped => some dropped

theorem droppedLabels_eq_filterMap (report : Report) (source : Source) :
    droppedLabels report source = report.labels.filterMap (dropOf? report source) := rfl

/-- The number of the line on which the report starts. -/
def Report.startNumber? (report : Report) (source : Source) : Option Int :=
  (source.lineAt? report.span.start report.config.offsetUnit).map fun position =>
    source.lineNumber position.index

variable [Platform]

theorem reachedLabels_subset (report : Report) (source : Source) :
    reachedLabels report source ⊆ report.labels := by
  rw [reachedLabels]
  split
  · exact List.nil_subset _
  · exact (List.takeWhile_sublist _).subset

theorem render_of_missing {report : Report} {cache : Cache} {cause : MissingSource}
    (hfetch : cache.fetch (sourceName report.span.source) = .error cause) (elideAfter : Int) :
    render report cache elideAfter = .error (.missing cause) := by
  simp only [render, hfetch]

theorem render_of_fault {report : Report} {cache : Cache} {source : Source} {fault : Fault}
    (hfetch : cache.fetch (sourceName report.span.source) = .ok source)
    (hfault : firstFault? report source = some fault) (elideAfter : Int) :
    render report cache elideAfter =
      .error (.broken fault ((reachedLabels report source).filterMap (dropOf? report source))) := by
  simp only [render, hfetch, hfault]
  rfl

theorem render_of_no_fault {report : Report} {cache : Cache} {source : Source}
    (hfetch : cache.fetch (sourceName report.span.source) = .ok source)
    (hfault : firstFault? report source = none) (elideAfter : Int) :
    render report cache elideAfter = .ok (renderOver report source elideAfter) := by
  simp only [render, hfetch, hfault]

theorem render_eq_missing_iff (report : Report) (cache : Cache) (elideAfter : Int)
    (cause : MissingSource) :
    render report cache elideAfter = .error (.missing cause) ↔
      cache.fetch (sourceName report.span.source) = .error cause := by
  cases hfetch : cache.fetch (sourceName report.span.source) with
  | error other => simp [render_of_missing hfetch]
  | ok source =>
      cases hfault : firstFault? report source with
      | some fault => simp [render_of_fault hfetch hfault]
      | none => simp [render_of_no_fault hfetch hfault]

/-- What is registered under other ids does not matter. -/
theorem render_congr {report : Report} {cache other : Cache}
    (hfetch : other.fetch (sourceName report.span.source) =
      cache.fetch (sourceName report.span.source)) (elideAfter : Int) :
    render report other elideAfter = render report cache elideAfter := by
  rw [render, render, hfetch]

/-- A rendering that succeeds is that over the registered source. -/
theorem eq_renderOver_of_render {report : Report} {cache : Cache} {source : Source}
    {elideAfter : Int} {rendering : Rendering}
    (hfetch : cache.fetch (sourceName report.span.source) = .ok source)
    (hrender : render report cache elideAfter = .ok rendering) :
    rendering = renderOver report source elideAfter := by
  cases hfault : firstFault? report source with
  | some fault =>
      rw [render_of_fault hfetch hfault] at hrender
      cases hrender
  | none =>
      rw [render_of_no_fault hfetch hfault] at hrender
      exact (Except.ok.inj hrender).symm

/-! ### Faults -/

/-- Every line number that a rendering shows can be written. -/
structure WritesNumbers (report : Report) (source : Source) : Prop where
  location : ∀ position,
    source.lineAt? report.span.start report.config.offsetUnit = some position →
      FitsDigits (source.lineNumber position.index)
  margin : ∀ drawn ∈ drawnLabels report source, FitsDigits (source.lineNumber drawn.line)

/-- Every tab on the line of a drawn label fits the memory. -/
def ExpandsTabs (report : Report) (source : Source) : Prop :=
  ∀ drawn ∈ drawnLabels report source,
    TabsFit report.config.tabWidth (source.textAt drawn.line)

theorem locationFault?_congr {report other : Report} {source target : Source}
    (hstart : other.startNumber? target = report.startNumber? source) :
    locationFault? other target = locationFault? report source := by
  have hfault := congrArg (Option.bind · numberFault?) hstart
  simp only [Report.startNumber?, Option.bind_map] at hfault
  exact hfault

theorem locationFault?_eq_none_iff (report : Report) (source : Source) :
    locationFault? report source = none ↔ ∀ position,
      source.lineAt? report.span.start report.config.offsetUnit = some position →
        FitsDigits (source.lineNumber position.index) := by
  simp only [locationFault?, Option.bind_eq_none_iff, lineNumberFault?, numberFault?_eq_none_iff]

theorem marginFault?_eq_none_iff (report : Report) (source : Source) :
    marginFault? report source = none ↔
      ∀ drawn ∈ drawnLabels report source, FitsDigits (source.lineNumber drawn.line) := by
  simp only [marginFault?, List.findSome?_eq_none_iff, mem_labelledLines, lineNumberFault?,
    numberFault?_eq_none_iff]
  constructor
  · intro hfits drawn hdrawn
    exact hfits drawn.line ⟨drawn, hdrawn, rfl⟩
  · rintro hfits line ⟨drawn, hdrawn, rfl⟩
    exact hfits drawn hdrawn

theorem drawingFault?_eq_none_iff (report : Report) (source : Source) :
    drawingFault? report source = none ↔ ExpandsTabs report source := by
  have hpos : 0 < report.config.tabWidth := report.config.tabWidth_pos
  simp only [drawingFault?, ExpandsTabs, List.findSome?_eq_none_iff, mem_drawnLabels,
    ← expansionFault?_eq_none_iff hpos]
  constructor
  · rintro hnone drawn ⟨label, hlabel, hdrawn⟩
    have hfault := hnone label hlabel
    rwa [labelFault?, hdrawn] at hfault
  · intro hfits label hlabel
    rw [labelFault?]
    cases hdrawn : drawLabel report source label with
    | error dropped => rfl
    | ok drawn => exact hfits drawn ⟨label, hlabel, hdrawn⟩

/-- Nothing but a number with too many digits and a tab that does not fit the memory stands
in the way of a rendering. -/
theorem firstFault?_eq_none_iff (report : Report) (source : Source) :
    firstFault? report source = none ↔ WritesNumbers report source ∧ ExpandsTabs report source := by
  simp only [firstFault?, Option.orElse_eq_orElse, Option.orElse_eq_or, Option.or_eq_none_iff,
    locationFault?_eq_none_iff, drawingFault?_eq_none_iff, marginFault?_eq_none_iff]
  exact ⟨fun ⟨hlocation, htabs, hmargin⟩ => ⟨⟨hlocation, hmargin⟩, htabs⟩,
    fun ⟨⟨hlocation, hmargin⟩, htabs⟩ => ⟨hlocation, htabs, hmargin⟩⟩

/-- The numbers of all lines can be written. -/
def Source.NumbersFit (source : Source) : Prop :=
  ∀ index < source.lines.length, FitsDigits (source.lineNumber index)

/-- It is enough that the number before the first line and that of the last are machine words. -/
theorem Source.numbersFit_of_isWord {source : Source} (hfirst : isWord source.displayOffset)
    (hlast : isWord (source.displayOffset + source.lines.length)) : source.NumbersFit := by
  intro index hindex
  apply fitsDigits_of_isWord
  simp only [isWord, Bool.and_eq_true, decide_eq_true_eq] at hfirst hlast ⊢
  rw [lineNumber]
  omega

theorem firstFault?_eq_none {report : Report} {source : Source}
    (hfits : report.config.tabWidth < Platform.memoryBound) (hnumbers : source.NumbersFit) :
    firstFault? report source = none := by
  rw [firstFault?_eq_none_iff]
  refine ⟨⟨?_, ?_⟩, fun _ _ => tabsFit_of_lt report.config.tabWidth_pos hfits _⟩
  · intro position hposition
    obtain ⟨-, -, hline, -⟩ := (source.lineAt?_eq_some_iff _ _ _).mp hposition
    exact hnumbers _ (List.getElem?_eq_some_iff.mp hline).1
  · intro drawn hdrawn
    obtain ⟨label, -, hlabel⟩ := mem_drawnLabels.mp hdrawn
    exact hnumbers _ (drawLabel_line_lt hlabel)

theorem locationFault?_eq_some {report : Report} {source : Source} {fault : Fault}
    (hfault : locationFault? report source = some fault) : fault = .unprintable := by
  obtain ⟨position, -, hnumber⟩ := Option.bind_eq_some_iff.mp hfault
  exact numberFault?_eq_some hnumber

theorem marginFault?_eq_some {report : Report} {source : Source} {fault : Fault}
    (hfault : marginFault? report source = some fault) : fault = .unprintable := by
  obtain ⟨line, -, hnumber⟩ := List.exists_of_findSome?_eq_some hfault
  exact numberFault?_eq_some hnumber

theorem drawingFault?_eq_some {report : Report} {source : Source} {fault : Fault}
    (hfault : drawingFault? report source = some fault) :
    fault = .tooLong ∨ fault = .outOfMemory := by
  have hne : report.config.tabWidth ≠ 0 := Int.ne_of_gt report.config.tabWidth_pos
  obtain ⟨label, -, hlabel⟩ := List.exists_of_findSome?_eq_some hfault
  rw [labelFault?] at hlabel
  split at hlabel
  · exact expansionFaultFrom?_eq_some hne hlabel
  · cases hlabel

/-- Which fault it is tells what stands in the way. -/
theorem firstFault?_eq_some {report : Report} {source : Source} {fault : Fault}
    (hfault : firstFault? report source = some fault) :
    (fault = .unprintable ∧ ¬WritesNumbers report source) ∨
      ((fault = .tooLong ∨ fault = .outOfMemory) ∧ ¬ExpandsTabs report source) := by
  simp only [firstFault?, Option.orElse_eq_orElse, Option.orElse_eq_or,
    Option.or_eq_some_iff] at hfault
  obtain hlocation | ⟨-, hdrawing | ⟨-, hmargin⟩⟩ := hfault
  · refine Or.inl ⟨locationFault?_eq_some hlocation, fun hnumbers => ?_⟩
    rw [(locationFault?_eq_none_iff report source).mpr hnumbers.location] at hlocation
    cases hlocation
  · refine Or.inr ⟨drawingFault?_eq_some hdrawing, fun htabs => ?_⟩
    rw [(drawingFault?_eq_none_iff report source).mpr htabs] at hdrawing
    cases hdrawing
  · refine Or.inl ⟨marginFault?_eq_some hmargin, fun hnumbers => ?_⟩
    rw [(marginFault?_eq_none_iff report source).mpr hnumbers.margin] at hmargin
    cases hmargin

end Diagnostics
