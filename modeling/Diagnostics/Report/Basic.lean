import Diagnostics.Color.Role
import Diagnostics.Config.Overlay
import Diagnostics.Label

/-!
# Reports

A report is one diagnostic: its kind, the span it is about, and what is to be shown with it. Notes,
helps and labels only grow; every other part is replaced. A report always has a complete
configuration.
-/

namespace Diagnostics

inductive Kind where
  | error
  | warning
  | advice
  /-- A kind of the caller's own with a colour for the header. -/
  | styled (name : String) (color : Option Color)
  /-- A bare name, drawn without colour. -/
  | plain (name : String)
  deriving DecidableEq, Repr

namespace Kind

def name : Kind → String
  | error => "Error"
  | warning => "Warning"
  | advice => "Advice"
  | styled name _ => name
  | plain name => name

def color (kind : Kind) (enabled : Bool) : Option Color :=
  match kind with
  | error => Role.error.colorIf enabled
  | warning => Role.warning.colorIf enabled
  | advice => Role.advice.colorIf enabled
  | styled _ color => if enabled then color else none
  | plain _ => none

end Kind

structure Report where
  span : Span
  kind : Kind := .error
  code : Option String := none
  msg : Option String := none
  notes : List (Option String) := []
  help : List (Option String) := []
  labels : List Label := []
  config : Config := Config.default
  deriving DecidableEq, Repr

/-- What a caller gives for the kind of a report; its colour is not read yet. -/
inductive KindRequest where
  | fixed (kind : Kind)
  | styled (name : String) (color : Value)
  deriving Repr

structure ReportRequest where
  span : Span
  kind : KindRequest := .fixed .error
  code : Option String := none
  msg : Option String := none
  notes : List (Option String) := []
  help : List (Option String) := []
  labels : List LabelRequest := []
  config : Config.Base := .settings []
  deriving Repr

/-- The fields of a report that can be set by name. -/
inductive Field where
  | span
  | kind
  | code
  | msg
  | notes
  | help
  | labels
  deriving DecidableEq, Repr

namespace Field

def names : List (String × Field) :=
  [("span", .span), ("kind", .kind), ("code", .code), ("msg", .msg), ("notes", .notes),
    ("help", .help), ("labels", .labels)]

/-- What a field is set to, or what is added to it if it grows. -/
abbrev Content : Field → Type
  | span => Span
  | kind => Kind
  | labels => Label
  | _ => Option String

/-- What a caller gives for a field; colours are not read yet. -/
abbrev Input : Field → Type
  | span => Span
  | kind => KindRequest
  | labels => LabelRequest
  | _ => Option String

end Field

/-- A name and what it is to be set to, which is of the type of the field with that name. With a
name of no field it does not matter. -/
inductive Assignment (content : Field → Type) where
  | known (field : Field) (value : content field)
  | unknown (name : String) (hname : Keyed.find? Field.names name = none)

/-- A name under which nothing can be set. -/
inductive FieldError where
  | config
  | unknown (name : String)
  deriving DecidableEq, Repr

def FieldError.message : FieldError → String
  | .config => "config cannot be set as a field; use set_config()"
  | .unknown name => "unknown report field: " ++ Text.quoted name

def FieldError.ofName (name : String) : FieldError :=
  if name = "config" then .config else .unknown name

/-- Why a report cannot be built or changed. -/
inductive ReportError where
  | color (cause : ColorError)
  | label (cause : Failure LabelError)
  | config (cause : Failure ConfigError)
  | field (cause : FieldError)
  deriving Repr

variable [Platform]

def LabelRequest.build (request : LabelRequest) : Except ReportError Label :=
  match Color.readOptional request.color with
  | .error cause => .error (.color cause)
  | .ok color =>
      (Label.make request.span request.msg color request.order request.priority).mapError
        fun cause => .label cause.raised

def KindRequest.build : KindRequest → Except ReportError Kind
  | .fixed kind => .ok kind
  | .styled name color => ((Color.readOptional color).map (Kind.styled name)).mapError .color

/-- Reads what is given for a field. -/
def Field.build : (field : Field) → field.Input → Except ReportError field.Content
  | .span, value => .ok value
  | .kind, value => value.build
  | .labels, value => value.build
  | .code, value => .ok value
  | .msg, value => .ok value
  | .notes, value => .ok value
  | .help, value => .ok value

def Assignment.build : Assignment Field.Input → Except ReportError (Assignment Field.Content)
  | .known field value => (field.build value).map (.known field)
  | .unknown name hname => .ok (.unknown name hname)

/-- Makes a configuration of what is given for one. -/
def buildConfig (base : Config.Base) : Except ReportError Config :=
  base.read.mapError fun cause => .config cause.raised

/-- Reads the kind, then each label, then the settings. -/
def ReportRequest.build (request : ReportRequest) : Except ReportError Report := do
  let kind ← request.kind.build
  let labels ← request.labels.mapM LabelRequest.build
  let config ← buildConfig request.config
  pure
    { span := request.span
      kind
      code := request.code
      msg := request.msg
      notes := request.notes
      help := request.help
      labels
      config }

namespace Report

def addLabel (report : Report) (label : Label) : Report :=
  { report with labels := report.labels ++ [label] }

def addLabels (report : Report) (labels : List Label) : Report :=
  { report with labels := report.labels ++ labels }

def withNote (report : Report) (note : Option String) : Report :=
  { report with notes := report.notes ++ [note] }

def withHelp (report : Report) (help : Option String) : Report :=
  { report with help := report.help ++ [help] }

def setConfig (report : Report) (base : Config.Base) : Except ReportError Report :=
  (buildConfig base).map fun config => { report with config }

/-- Adds to a field that grows and replaces any other. -/
def put (report : Report) : (field : Field) → field.Content → Report
  | .span, value => { report with span := value }
  | .kind, value => { report with kind := value }
  | .code, value => { report with code := value }
  | .msg, value => { report with msg := value }
  | .notes, value => report.withNote value
  | .help, value => report.withHelp value
  | .labels, value => report.addLabel value

def setField (report : Report) : Assignment Field.Content → Except FieldError Report
  | .known field value => .ok (report.put field value)
  | .unknown name _ => .error (.ofName name)

end Report

end Diagnostics
