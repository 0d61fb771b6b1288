import Diagnostics.Render.Basic

/-!
# One-label reports

Rendering a single offending place of a text that is not registered anywhere.
-/

namespace Diagnostics

/-- A report about `[start, stop)` of one text with one label, which covers the same range unless
its ends are given. -/
structure SingleRequest where
  fileName : String
  text : String
  msg : String
  start : Int
  stop : Int
  label : Option String := none
  labelStart : Option Int := none
  labelStop : Option Int := none
  kind : KindRequest := .fixed .error
  config : Config.Base := .settings []

inductive SingleError where
  | report (cause : ReportError)
  | rendering (cause : RenderError)

namespace SingleRequest

variable [Platform]

def labelSpan (request : SingleRequest) : Span where
  source := some request.fileName
  start := request.labelStart.getD request.start
  stop := request.labelStop.getD request.stop

def cache (request : SingleRequest) : Cache :=
  Cache.ofList [(request.fileName, Source.ofString request.text)]

/-- Reads the kind, then the settings, then the label. -/
def report (request : SingleRequest) : Except ReportError Report := do
  let kind ← request.kind.build
  let config ← buildConfig request.config
  let label ←
    (Label.make request.labelSpan request.label (some (.basic .red)) 0 0).mapError
      fun cause => .label cause.raised
  pure
    { span := ⟨some request.fileName, request.start, request.stop⟩
      kind
      msg := some request.msg
      labels := [label]
      config }

def render (request : SingleRequest) : Except SingleError Rendering := do
  let report ← request.report.mapError .report
  (Diagnostics.render report request.cache defaultElision).mapError .rendering

end SingleRequest

end Diagnostics
