import Mathlib.Data.List.Basic
import Diagnostics.Proofs.Render.Outcome

/-!
# Reports with labels drawn alike

If the labels of a report are exchanged one by one for others that are drawn in another
way on lines of the same text and number, or dropped with another entry, then the drawn
labels and the entries of the whole report are exchanged likewise, and the first thing
that keeps it from being rendered is the same.
-/

namespace Diagnostics

theorem filterMap_map_congr {items : List α} {f : α → β} {g : β → Option γ} {h : α → Option γ}
    (heq : ∀ item ∈ items, g (f item) = h item) :
    (items.map f).filterMap g = items.filterMap h := by
  rw [List.filterMap_map]
  exact List.filterMap_congr heq

theorem findSome?_map_congr {items : List α} {f : α → β} {g : β → Option γ} {h : α → Option γ}
    (heq : ∀ item ∈ items, g (f item) = h item) :
    (items.map f).findSome? g = items.findSome? h := by
  induction items with
  | nil => rfl
  | cons item rest ih =>
      have hrest := ih fun other hother => heq other (List.mem_cons_of_mem _ hother)
      rw [List.map_cons, List.findSome?_cons, List.findSome?_cons, heq item List.mem_cons_self,
        hrest]

theorem takeWhile_map_congr {items : List α} {f : α → β} {p : β → Bool} {q : α → Bool}
    (heq : ∀ item ∈ items, p (f item) = q item) :
    (items.map f).takeWhile p = (items.takeWhile q).map f := by
  induction items with
  | nil => rfl
  | cons item rest ih =>
      have hrest := ih fun other hother => heq other (List.mem_cons_of_mem _ hother)
      rw [List.map_cons, List.takeWhile_cons, List.takeWhile_cons, heq item List.mem_cons_self]
      cases q item with
      | true => simp [hrest]
      | false => simp

/-- The labels of `other` over `target` are drawn like those of `report` over `source`,
up to `redraw`, and dropped alike, up to `restate`. Lines keep their numbers. -/
structure Redrawn (report : Report) (source : Source) (other : Report) (target : Source)
    (relabel : Label → Label) (redraw : DrawnLabel → DrawnLabel)
    (restate : DroppedLabel → DroppedLabel) : Prop where
  labels : other.labels = report.labels.map relabel
  drawLabel : ∀ label ∈ report.labels, drawLabel other target (relabel label) =
    ((drawLabel report source label).map redraw).mapError restate
  tabWidth : other.config.tabWidth = report.config.tabWidth
  textAt : ∀ drawn ∈ drawnLabels report source,
    target.textAt (redraw drawn).line = source.textAt drawn.line
  lineNumber : ∀ drawn : DrawnLabel,
    target.lineNumber (redraw drawn).line = source.lineNumber drawn.line
  startNumber? : other.startNumber? target = report.startNumber? source

namespace Redrawn

variable {report other : Report} {source target : Source} {relabel : Label → Label}
variable {redraw : DrawnLabel → DrawnLabel} {restate : DroppedLabel → DroppedLabel}
variable (hredrawn : Redrawn report source other target relabel redraw restate)
include hredrawn

theorem drawnLabels_eq :
    drawnLabels other target = (drawnLabels report source).map redraw := by
  rw [drawnLabels, drawnLabels, hredrawn.labels, List.map_filterMap]
  apply filterMap_map_congr
  intro label hlabel
  rw [hredrawn.drawLabel label hlabel]
  cases Diagnostics.drawLabel report source label <;> rfl

theorem dropOf?_eq {label : Label} (hlabel : label ∈ report.labels) :
    dropOf? other target (relabel label) = (dropOf? report source label).map restate := by
  rw [dropOf?, dropOf?, hredrawn.drawLabel label hlabel]
  cases Diagnostics.drawLabel report source label <;> rfl

theorem droppedLabels_eq :
    droppedLabels other target = (droppedLabels report source).map restate := by
  rw [droppedLabels_eq_filterMap, droppedLabels_eq_filterMap, hredrawn.labels, List.map_filterMap]
  exact filterMap_map_congr fun label hlabel => hredrawn.dropOf?_eq hlabel

variable [Platform]

theorem labelFault?_eq {label : Label} (hlabel : label ∈ report.labels) :
    labelFault? other target (relabel label) = labelFault? report source label := by
  rw [labelFault?, labelFault?, hredrawn.drawLabel label hlabel]
  cases hdrawn : Diagnostics.drawLabel report source label with
  | error dropped => rfl
  | ok drawn =>
      change expansionFault? other.config.tabWidth (target.textAt (redraw drawn).line) = _
      rw [hredrawn.tabWidth, hredrawn.textAt drawn (mem_drawnLabels.mpr ⟨label, hlabel, hdrawn⟩)]

theorem drawingFault?_eq : drawingFault? other target = drawingFault? report source := by
  rw [drawingFault?, drawingFault?, hredrawn.labels]
  exact findSome?_map_congr fun label hlabel => hredrawn.labelFault?_eq hlabel

theorem locationFault?_eq : locationFault? other target = locationFault? report source :=
  locationFault?_congr hredrawn.startNumber?

/-- All numbers that cannot be written are faults of one kind, so it does not matter which of them
is met first. -/
theorem marginFault?_eq : marginFault? other target = marginFault? report source := by
  have hnone : marginFault? other target = none ↔ marginFault? report source = none := by
    simp only [marginFault?_eq_none_iff, hredrawn.drawnLabels_eq, List.forall_mem_map,
      hredrawn.lineNumber]
  cases hother : marginFault? other target with
  | none => exact (hnone.mp hother).symm
  | some fault =>
      cases hreport : marginFault? report source with
      | none =>
          rw [hnone.mpr hreport] at hother
          cases hother
      | some first => rw [marginFault?_eq_some hother, marginFault?_eq_some hreport]

theorem firstFault?_eq : firstFault? other target = firstFault? report source := by
  rw [firstFault?, firstFault?, hredrawn.locationFault?_eq, hredrawn.drawingFault?_eq,
    hredrawn.marginFault?_eq]

/-- The labels before the fault are dropped alike. -/
theorem dropOf?_reachedLabels_eq :
    (reachedLabels other target).filterMap (dropOf? other target) =
      ((reachedLabels report source).filterMap (dropOf? report source)).map restate := by
  have hsound : soundLabels other target = (soundLabels report source).map relabel := by
    rw [soundLabels, soundLabels, hredrawn.labels]
    apply takeWhile_map_congr
    intro label hlabel
    rw [hredrawn.labelFault?_eq hlabel]
  rw [reachedLabels, reachedLabels, hredrawn.locationFault?_eq, hsound]
  split
  · rfl
  · rw [List.map_filterMap]
    apply filterMap_map_congr
    intro label hlabel
    exact hredrawn.dropOf?_eq ((List.takeWhile_sublist _).subset hlabel)

/-- Rendering breaks off at the same label, or drops the same labels. -/
theorem render_eq {cache targetCache : Cache} (elideAfter : Int)
    (hfetch : cache.fetch (sourceName report.span.source) = .ok source)
    (htarget : targetCache.fetch (sourceName other.span.source) = .ok target) :
    render other targetCache elideAfter =
      match render report cache elideAfter with
      | .ok rendering =>
          .ok ⟨(renderOver other target elideAfter).text, rendering.dropped.map restate⟩
      | .error (.broken fault dropped) => .error (.broken fault (dropped.map restate))
      | .error (.missing cause) => .error (.missing cause) := by
  have hsame := hredrawn.firstFault?_eq
  cases hfault : firstFault? report source with
  | some fault =>
      rw [hfault] at hsame
      rw [render_of_fault hfetch hfault, render_of_fault htarget hsame,
        hredrawn.dropOf?_reachedLabels_eq]
  | none =>
      rw [hfault] at hsame
      rw [render_of_no_fault hfetch hfault, render_of_no_fault htarget hsame]
      have hrendering : renderOver other target elideAfter =
          ⟨(renderOver other target elideAfter).text,
            (renderOver report source elideAfter).dropped.map restate⟩ :=
        congrArg (Rendering.mk _) hredrawn.droppedLabels_eq
      exact congrArg Except.ok hrendering

end Redrawn

variable [Platform]

/-- Reports on one source that are drawn and dropped alike over every text are rendered
alike, if their texts are. -/
theorem render_eq_map_of_redrawn {report other : Report} {relabel : Label → Label}
    {redraw : DrawnLabel → DrawnLabel} {f : List Char → List Char} {elideAfter : Int}
    (hredrawn : ∀ source, Redrawn report source other source relabel redraw id)
    (htext : ∀ source, (renderOver other source elideAfter).text =
      f (renderOver report source elideAfter).text)
    (hname : other.span.source = report.span.source) (cache : Cache) :
    render other cache elideAfter =
      (render report cache elideAfter).map fun rendering =>
        ⟨f rendering.text, rendering.dropped⟩ := by
  cases hfetch : cache.fetch (sourceName report.span.source) with
  | error cause =>
      have hother : cache.fetch (sourceName other.span.source) = .error cause := by
        rw [hname, hfetch]
      rw [render_of_missing hfetch, render_of_missing hother]
      rfl
  | ok source =>
      have hother : cache.fetch (sourceName other.span.source) = .ok source := by
        rw [hname, hfetch]
      rw [(hredrawn source).render_eq elideAfter hfetch hother]
      cases hfault : firstFault? report source with
      | some fault =>
          rw [render_of_fault hfetch hfault]
          simp only [List.map_id]
          rfl
      | none =>
          rw [render_of_no_fault hfetch hfault]
          simp only [htext, List.map_id]
          rfl

end Diagnostics
