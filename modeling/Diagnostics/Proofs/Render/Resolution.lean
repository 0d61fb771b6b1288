import Diagnostics.Proofs.Config.Overlay
import Diagnostics.Proofs.Render.Outcome
import Diagnostics.Proofs.Report.Document
import Diagnostics.Proofs.Source.Cache
import Diagnostics.Report.Single
import Diagnostics.Usual

/-!
# Resolving the source of a report

A report that names its source is located and drawn over the source registered under
that name and over no other one: nothing registered under another name can change what
is rendered. An empty name is no name. A report that gives it is looked up where a
report without any is, even if the caller registered its source under the empty name.
-/

namespace Diagnostics

/-- The source of the report was found, whatever became of the rendering then. -/
def Resolved (outcome : Except RenderError Rendering) : Prop :=
  ∀ cause, outcome ≠ .error (.missing cause)

section Platform

variable [Platform]

section Named

variable {report : Report} {name : String} (hname : sourceName report.span.source = name)
include hname

theorem render_eq_missing_iff_of_name (cache : Cache) (elideAfter : Int) (cause : MissingSource) :
    render report cache elideAfter = .error (.missing cause) ↔
      cause.id = name ∧ cache.contains name = false := by
  rw [render_eq_missing_iff, hname, Cache.fetch_eq_error_iff]

theorem render_congr_of_name {cache other : Cache} (hfetch : other.fetch name = cache.fetch name)
    (elideAfter : Int) : render report other elideAfter = render report cache elideAfter := by
  apply render_congr
  rwa [hname]

/-- Of all that is registered, only the source under the name is read. -/
theorem render_eq_ofList_singleton {cache : Cache} {source : Source}
    (hfetch : cache.fetch name = .ok source) (elideAfter : Int) :
    render report cache elideAfter = render report (.ofList [(name, source)]) elideAfter := by
  refine (render_congr_of_name hname ?_ elideAfter).symm
  rw [Cache.fetch_ofList_singleton, hfetch]

theorem resolved_ofList_singleton (source : Source) (elideAfter : Int) :
    Resolved (render report (.ofList [(name, source)]) elideAfter) := by
  intro cause hmissing
  rw [render_eq_missing_iff, hname, Cache.fetch_ofList_singleton] at hmissing
  cases hmissing

end Named

namespace SingleRequest

variable {request : SingleRequest}

/-- With a kind and a configuration that can be read, the label is all that can fail. -/
theorem exists_report_eq_ok {kind : Kind} {config : Config} (hkind : request.kind.build = .ok kind)
    (hconfig : request.config.read = .ok config)
    (hlabel : request.labelSpan.start ≤ request.labelSpan.stop) :
    ∃ report, request.report = .ok report ∧ report.span.source = some request.fileName := by
  obtain ⟨label, hmake⟩ := (Label.make_eq_ok_iff request.labelSpan request.label
    (some (.basic .red)) 0 0).mpr hlabel
  let built : Report :=
    { span := ⟨some request.fileName, request.start, request.stop⟩
      kind
      msg := some request.msg
      labels := [label]
      config }
  refine ⟨built, ?_, rfl⟩
  rw [report, hkind, buildConfig, hconfig, hmake]
  rfl

end SingleRequest

/-- Reports that name their source are rendered over what is registered under the name,
and only over that. A single text is found under its file name, and reports that are read
from a document under the name that the reader gives them. -/
theorem render_over_named_source {id : String} (hid : id ≠ "") :
    (∀ report cache elideAfter, report.span.source = some id →
      (∀ cause, render report cache elideAfter = .error (.missing cause) ↔
        cause.id = id ∧ cache.contains id = false) ∧
      (∀ source, cache.fetch id = .ok source →
        render report cache elideAfter = render report (.ofList [(id, source)]) elideAfter) ∧
      ∀ other, other ≠ id →
        (∀ source,
          render report (cache.add other source) elideAfter = render report cache elideAfter) ∧
        render report (cache.remove other) elideAfter = render report cache elideAfter) ∧
    (∀ (request : SingleRequest) kind config, request.fileName = id →
      request.kind.build = .ok kind → request.config.read = .ok config →
      request.labelSpan.start ≤ request.labelSpan.stop →
      ∃ outcome, Resolved outcome ∧ request.render = outcome.mapError .rendering) ∧
    ∀ (reader : DocumentReader) config bytes reports, reader.source = id →
      reader.readBytes config bytes = .ok reports →
      ∀ report ∈ reports, ∀ source elideAfter,
        Resolved (render report (.ofList [(id, source)]) elideAfter) := by
  have hname : ∀ report : Report, report.span.source = some id →
      sourceName report.span.source = id := by
    intro report hsource
    rw [hsource, sourceName_of_ne hid]
  refine ⟨?_, ?_, ?_⟩
  · intro report cache elideAfter hsource
    refine ⟨render_eq_missing_iff_of_name (hname report hsource) cache elideAfter, ?_, ?_⟩
    · intro source hfetch
      exact render_eq_ofList_singleton (hname report hsource) hfetch elideAfter
    · intro other hother
      have hsame := fun {changed : Cache} (hfetch : changed.fetch id = cache.fetch id) =>
        render_congr_of_name (hname report hsource) hfetch elideAfter
      exact ⟨fun source => hsame (cache.fetch_add_of_ne source hother),
        hsame (cache.fetch_remove_of_ne hother)⟩
  · rintro request kind config rfl hkind hconfig hlabel
    obtain ⟨report, hreport, hsource⟩ := request.exists_report_eq_ok hkind hconfig hlabel
    refine ⟨render report request.cache defaultElision,
      resolved_ofList_singleton (hname report hsource) _ _, ?_⟩
    rw [SingleRequest.render, hreport]
    rfl
  · rintro reader config bytes reports rfl hread report hmem source elideAfter
    have hon := DocumentReader.on_of_readBytes hread report hmem
    exact resolved_ofList_singleton (hname report hon.1) source elideAfter

end Platform

/-! A single text and a document that give their source a name. -/

def namedRequest : SingleRequest where
  fileName := "main.src"
  text := "let a"
  msg := "unexpected"
  start := 4
  stop := 5

def namedReader : DocumentReader where
  path := "diagnostics.toml"
  source := "main.src"

def documentBytes : List UInt8 :=
  "[[report]]\nspan = [4, 5]\n".toUTF8.toList

def documentReport : Report where
  span := ⟨some "main.src", 4, 5⟩

theorem readBytes_documentBytes :
    namedReader.readBytes Config.default documentBytes = .ok [documentReport] := by
  have hread : (namedReader.readBytes Config.default documentBytes).toOption =
      some [documentReport] := by decide +kernel
  cases hresult : namedReader.readBytes Config.default documentBytes with
  | error cause =>
      rw [hresult] at hread
      cases hread
  | ok reports =>
      rw [hresult] at hread
      exact congrArg Except.ok (Option.some.inj hread)

theorem render_over_named_source_mainSource :
    (∃ outcome, Resolved outcome ∧ namedRequest.render = outcome.mapError .rendering) ∧
      (∀ source, Resolved (render documentReport (.ofList [("main.src", source)]) 2)) ∧
      render documentReport (.ofList [(unknownSource, .ofString "let a")]) 2 =
        .error (.missing ⟨"main.src"⟩) := by
  obtain ⟨hreport, hrequest, hdocument⟩ :=
    render_over_named_source (show "main.src" ≠ "" by decide)
  refine ⟨?_, ?_, ?_⟩
  · exact hrequest namedRequest _ _ rfl rfl (Config.default.overlay_nil) (by decide)
  · intro source
    exact hdocument namedReader _ _ _ rfl readBytes_documentBytes documentReport
      (List.mem_singleton_self _) source 2
  · obtain ⟨hmissing, -⟩ := hreport documentReport
      (.ofList [(unknownSource, .ofString "let a")]) 2 rfl
    exact (hmissing ⟨"main.src"⟩).mpr ⟨rfl, by decide⟩

/-- A report that gives an empty name is located and drawn over what is registered for
reports without a name. -/
theorem render_of_empty_name [Platform] {report : Report} (hempty : report.span.source = some "")
    (cache : Cache) (elideAfter : Int) :
    (∀ cause, render report cache elideAfter = .error (.missing cause) ↔
      cause.id = unknownSource ∧ cache.contains unknownSource = false) ∧
    ∀ source, cache.fetch unknownSource = .ok source →
      render report cache elideAfter =
        render report (.ofList [(unknownSource, source)]) elideAfter := by
  have hname : sourceName report.span.source = unknownSource := by
    rw [hempty]
    rfl
  exact ⟨render_eq_missing_iff_of_name hname cache elideAfter,
    fun source hfetch => render_eq_ofList_singleton hname hfetch elideAfter⟩

def namelessRequest : SingleRequest :=
  { namedRequest with fileName := "" }

theorem render_namelessRequest :
    namelessRequest.cache.contains namelessRequest.fileName ∧
      namelessRequest.render = .error (.rendering (.missing ⟨unknownSource⟩)) := by
  refine ⟨rfl, ?_⟩
  obtain ⟨report, hreport, hsource⟩ := namelessRequest.exists_report_eq_ok rfl
    Config.default.overlay_nil (by decide)
  obtain ⟨hmissing, -⟩ := render_of_empty_name hsource namelessRequest.cache defaultElision
  rw [SingleRequest.render, hreport]
  exact congrArg (Except.mapError SingleError.rendering)
    ((hmissing ⟨unknownSource⟩).mpr ⟨rfl, by decide⟩)

end Diagnostics
