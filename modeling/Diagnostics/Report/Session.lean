import Diagnostics.Render.Basic

/-!
# Sessions

A session holds a report under construction, the sources it can be rendered over, and snapshots of
earlier states by name. Steps work on it in place: what a step has changed before it fails stays
changed. So a step reads what it is given before it changes anything, except for labels that are
made one by one while they are added.
-/

namespace Diagnostics

structure Session where
  cache : Cache
  report : Report
  snapshots : Keyed Report := []

/-- Labels that are added together. -/
inductive Batch where
  /-- All labels are made before they are handed over. -/
  | list (labels : List LabelRequest)
  /-- A label is made when the one before it has been added. -/
  | stream (labels : List LabelRequest)
  deriving Repr

inductive Step where
  | setField (assignment : Assignment Field.Input)
  | addLabel (label : LabelRequest)
  | addLabels (batch : Batch)
  | withNote (note : Option String)
  | withHelp (help : Option String)
  | setConfig (base : Config.Base)
  | render (snapshot : Option String) (elideAfter : Int)
  | snapshot (name : String)
  | showSnapshot (name : String)
  | addSource (id : String) (source : Source)
  | setDisplayOffset (id : String) (offset : Int)

inductive Answer where
  | state (report : Report)
  | rendering (rendering : Rendering)
  | size (count : Nat)
  | offset (value : Int)

inductive StepError where
  | report (cause : ReportError)
  | source (cause : MissingSource)
  | rendering (cause : RenderError)
  | snapshot (name : String)
  deriving Repr

/-- Work on a session that may fail on the way and leaves the session as it is by then. -/
abbrev SessionM := ExceptT StepError (StateM Session)

namespace Session

def orFail (result : Except ε α) (toError : ε → StepError) : SessionM α :=
  match result with
  | .ok a => pure a
  | .error cause => throw (toError cause)

/-- The report as it is now. -/
def state : SessionM Answer := do
  pure (.state (← get).report)

def setField (assignment : Assignment Field.Content) : SessionM Unit := do
  let session ← get
  let report ← orFail (session.report.setField assignment) fun cause => .report (.field cause)
  set { session with report }

/-- Adds labels one after the other, up to the first that could not be made. -/
def addLabels : List (Except ReportError Label) → SessionM Unit
  | [] => pure ()
  | made :: rest => do
      let label ← orFail made .report
      setField (.known .labels label)
      addLabels rest

def snapshot? (session : Session) (name : String) : Except StepError Report :=
  match Keyed.find? session.snapshots name with
  | some report => .ok report
  | none => .error (.snapshot name)

/-- The report itself, or a snapshot if one is named. -/
def subject (session : Session) : Option String → Except StepError Report
  | none => .ok session.report
  | some name => session.snapshot? name

variable [Platform]

def step : Step → SessionM Answer
  | .setField assignment => do
      let built ← orFail assignment.build .report
      setField built
      state
  | .addLabel label => do
      let built ← orFail label.build .report
      modify fun session => { session with report := session.report.addLabel built }
      state
  | .addLabels (.list labels) => do
      let built ← orFail (labels.mapM LabelRequest.build) .report
      addLabels (built.map .ok)
      state
  | .addLabels (.stream labels) => do
      addLabels (labels.map LabelRequest.build)
      state
  | .withNote note => do
      setField (.known .notes note)
      state
  | .withHelp help => do
      setField (.known .help help)
      state
  | .setConfig base => do
      let session ← get
      let report ← orFail (session.report.setConfig base) .report
      set { session with report }
      state
  | .render snapshot elideAfter => do
      let session ← get
      let report ← orFail (session.subject snapshot) id
      let rendering ← orFail (Diagnostics.render report session.cache elideAfter) .rendering
      pure (.rendering rendering)
  | .snapshot name => do
      modify fun session =>
        { session with snapshots := Keyed.put session.snapshots name session.report }
      state
  | .showSnapshot name => do
      let report ← orFail ((← get).snapshot? name) id
      pure (.state report)
  | .addSource id source => do
      modify fun session => { session with cache := session.cache.add id source }
      pure (.size (← get).cache.size)
  | .setDisplayOffset id offset => do
      let session ← get
      let source ← orFail (session.cache.fetch id) .source
      let shifted := { source with displayOffset := offset }
      set { session with cache := session.cache.add id shifted }
      pure (.offset offset)

/-- The answer of a step and the session after it. -/
def perform (session : Session) (step : Step) : Except StepError Answer × Session :=
  (Session.step step).run.run session

/-- The answers of all steps in order; each starts from what the one before it left. -/
def run (session : Session) : List Step → List (Except StepError Answer)
  | [] => []
  | first :: rest =>
      let (answer, next) := session.perform first
      answer :: run next rest

end Session

end Diagnostics
