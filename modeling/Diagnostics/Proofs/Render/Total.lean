import Diagnostics.Proofs.Config.Overlay
import Diagnostics.Proofs.Render.Bounds
import Diagnostics.Proofs.Render.Outcome
import Diagnostics.Proofs.Source.Cache
import Diagnostics.Usual

/-!
# Every report can be rendered

A report of which the source is registered is rendered, whatever its spans, its labels
and the text. There are two exceptions. A tab on the line of a drawn label may be expanded
to more spaces than fit the memory, since the width of tabs has no upper limit; and the
number of a line that is shown may have more digits than can be written, since there is
no limit to what is added to line numbers.
-/

namespace Diagnostics

section Platform

variable [Platform]

theorem exists_render_eq_ok_iff {report : Report} {cache : Cache} {source : Source}
    (hfetch : cache.fetch (sourceName report.span.source) = .ok source) (elideAfter : Int) :
    (∃ rendering, render report cache elideAfter = .ok rendering) ↔
      WritesNumbers report source ∧ ExpandsTabs report source := by
  rw [← firstFault?_eq_none_iff]
  cases hfault : firstFault? report source with
  | none => simp [render_of_no_fault hfetch hfault]
  | some fault => simp [render_of_fault hfetch hfault]

theorem fault_of_render_eq_broken {report : Report} {cache : Cache} {source : Source}
    {elideAfter : Int} {fault : Fault} {dropped : List DroppedLabel}
    (hfetch : cache.fetch (sourceName report.span.source) = .ok source)
    (hbroken : render report cache elideAfter = .error (.broken fault dropped)) :
    (fault = .unprintable ∧ ¬WritesNumbers report source) ∨
      ((fault = .tooLong ∨ fault = .outOfMemory) ∧ ¬ExpandsTabs report source) := by
  cases hfault : firstFault? report source with
  | none =>
      rw [render_of_no_fault hfetch hfault] at hbroken
      cases hbroken
  | some first =>
      rw [render_of_fault hfetch hfault] at hbroken
      cases hbroken
      exact firstFault?_eq_some hfault

/-- Rendering fails for want of the source exactly if it is not registered. With its
source registered a report is rendered, without an access out of bounds, unless a line
number cannot be written or a tab is too wide for the memory. What else is registered does
not matter. -/
theorem render_total (report : Report) (cache : Cache) (elideAfter : Int) :
    (∀ cause, render report cache elideAfter = .error (.missing cause) ↔
      cause.id = sourceName report.span.source ∧
        cache.contains (sourceName report.span.source) = false) ∧
      (∀ source, cache.fetch (sourceName report.span.source) = .ok source →
        ((∃ rendering, render report cache elideAfter = .ok rendering) ↔
          WritesNumbers report source ∧ ExpandsTabs report source) ∧
        (∀ fault dropped, render report cache elideAfter = .error (.broken fault dropped) →
          (fault = .unprintable ∧ ¬WritesNumbers report source) ∨
            ((fault = .tooLong ∨ fault = .outOfMemory) ∧ ¬ExpandsTabs report source)) ∧
        InBounds report source) ∧
      ∀ other : Cache, other.fetch (sourceName report.span.source) =
          cache.fetch (sourceName report.span.source) →
        render report other elideAfter = render report cache elideAfter := by
  refine ⟨?_, ?_, fun _ hfetch => render_congr hfetch elideAfter⟩
  · intro cause
    rw [render_eq_missing_iff, Cache.fetch_eq_error_iff]
  · intro source hfetch
    exact ⟨exists_render_eq_ok_iff hfetch elideAfter,
      fun _ _ => fault_of_render_eq_broken hfetch, inBounds report source⟩

/-- A report that starts on a line of which the number cannot be written breaks off there. -/
theorem render_of_start {report : Report} {cache : Cache} {source : Source} {position : Position}
    (hfetch : cache.fetch (sourceName report.span.source) = .ok source)
    (hposition : source.lineAt? report.span.start report.config.offsetUnit = some position)
    (hlong : ¬FitsDigits (source.lineNumber position.index)) (elideAfter : Int) :
    render report cache elideAfter = .error (.broken .unprintable []) := by
  cases hlocation : locationFault? report source with
  | none =>
      have hfits := (locationFault?_eq_none_iff report source).mp hlocation position hposition
      exact absurd hfits hlong
  | some fault =>
      obtain rfl := locationFault?_eq_some hlocation
      have hfirst : firstFault? report source = some .unprintable := by
        rw [firstFault?, hlocation]
        rfl
      rw [render_of_fault hfetch hfirst, reachedLabels, hlocation]
      rfl

end Platform

/-! A tab stop that no machine word reaches. -/

def farTabStop : Int := 2 * wordBound

def farConfig : Config :=
  { Config.default with color := false, tabWidth := farTabStop, tabWidth_pos := by decide }

def farRequest : ReportRequest where
  span := ⟨some "far", 0, 1⟩
  labels := [{ span := ⟨some "far", 0, 1⟩ }]
  config := .settings [("color", .bool false), ("tab_width", .int farTabStop)]

def farReport : Report where
  span := ⟨some "far", 0, 1⟩
  labels := [{ span := ⟨some "far", 0, 1⟩ }]
  config := farConfig

def farCache : Cache := .ofList [("far", .ofString "a\t")]

/-- The least number with too many digits is one more. -/
def farDown : Int := 10 ^ Platform.digitLimit - 1

def farDownSource : Source := ⟨"a".toList, farDown⟩

def farDownCache : Cache := .ofList [("far", farDownSource)]

theorem build_farRequest : farRequest.build = .ok farReport := by
  have hknown : unknownNames [("color", .bool false), ("tab_width", .int farTabStop)] = [] := by
    decide +kernel
  have hconfig : farRequest.config.read = .ok farConfig := by
    change Config.ofSettings [("color", .bool false), ("tab_width", .int farTabStop)] = _
    rw [Config.ofSettings, Options.overlay, hknown]
    rfl
  rw [ReportRequest.build, buildConfig, hconfig]
  rfl

theorem not_fitsDigits_farDown : ¬FitsDigits (farDownSource.lineNumber 0) := by
  have hnumber : farDownSource.lineNumber 0 = 10 ^ Platform.digitLimit := by
    rw [Source.lineNumber, farDownSource, farDown, Int.zero_add, Int.add_comm, Int.sub_add_cancel]
  rw [hnumber]
  exact not_fitsDigits_pow

theorem render_farReport :
    farRequest.build = .ok farReport ∧
      (farCache.contains "far" ∧ render farReport farCache 2 = .error (.broken .tooLong [])) ∧
      farDownCache.contains "far" ∧
        render farReport farDownCache 2 = .error (.broken .unprintable []) := by
  have hfetch : farCache.fetch (sourceName farReport.span.source) = .ok (.ofString "a\t") := rfl
  have hfetchDown : farDownCache.fetch (sourceName farReport.span.source) = .ok farDownSource := rfl
  have hstart : farDownSource.lineAt? farReport.span.start farReport.config.offsetUnit =
      some ⟨⟨0, 1, 0, 1⟩, 0, 0⟩ := rfl
  exact ⟨build_farRequest, ⟨rfl, render_of_fault hfetch (by decide) 2⟩, rfl,
    render_of_start hfetchDown hstart not_fitsDigits_farDown 2⟩

end Diagnostics
