import Diagnostics.Failure
import Diagnostics.Report.Basic
import Diagnostics.Toml.Document

/-!
# Diagnostics documents

A document describes reports in its array of tables `report`. All their spans are on one source.
Reports are read one after the other, the labels of a report before its other parts, and reading
stops at the first thing that is not as it should be.
-/

namespace Diagnostics

/-- Which part of a document is complained about; reports and labels count from one. -/
inductive Place where
  | document
  | report (number : Nat)
  | label (report number : Nat)
  | notes (report : Nat)
  | help (report : Nat)
  deriving DecidableEq, Repr

inductive Complaint where
  | notTables
  | notTable
  | labelNotTable
  | span
  | kind
  | color (cause : InvalidColor)
  | notText (key : String)
  | notInteger (key : String)
  | notTexts
  deriving DecidableEq, Repr

inductive DocumentError where
  | invalid (path complaint : String)
  | malformed (path : String) (place : Place) (complaint : Complaint)
  | label (cause : LabelError)
  deriving DecidableEq, Repr

variable [Platform]

/-- The name of a place, with what separates it from the complaint. -/
def Place.lead : Place → String
  | document => ""
  | report n => "report " ++ toString n ++ ": "
  | label r n => "report " ++ toString r ++ ", label " ++ toString n ++ ": "
  | notes r => "report " ++ toString r ++ ", notes: "
  | help r => "report " ++ toString r ++ ", help: "

def Complaint.message : Complaint → String
  | notTables => "'report' must be an array of tables"
  | notTable => "must be a table"
  | labelNotTable => "label must be a table"
  | span => "span must be [start, end]"
  | kind => "kind must be a string"
  | color cause => cause.message
  | notText key => key ++ " must be a string"
  | notInteger key => key ++ " must be an integer"
  | notTexts => "expected a list of strings"

def DocumentError.message : DocumentError → String
  | .invalid path complaint => path ++ ": " ++ complaint
  | .malformed path place complaint => path ++ ": " ++ place.lead ++ complaint.message
  | .label cause => cause.message

/-- The kind that a name stands for; the fixed kinds are recognised in any letter case. -/
def Kind.ofName (name : String) : Kind :=
  let lowered := Text.lower name
  if lowered = "error" then .error
  else if lowered = "warning" then .warning
  else if lowered = "advice" then .advice
  else .plain name

/-- Reading a document named `path`, with all spans on `source`. -/
structure DocumentReader where
  path : String
  source : String

namespace DocumentReader

abbrev Result := Except (Failure DocumentError)

variable (reader : DocumentReader)

def complain (place : Place) (complaint : Complaint) : Result α :=
  .error (.reported (.malformed reader.path place complaint))

def readColor (place : Place) (value : Toml.Value) : Result Color :=
  match Color.read value.toOption with
  | .ok color => .ok color
  | .error (.reported cause) => reader.complain place (.color cause)
  | .error (.abrupt fault) => .error (.abrupt fault)

def readSpan (place : Place) (value : Option Toml.Value) : Result Span :=
  match value with
  | some (.array [.int start, .int stop]) => .ok ⟨some reader.source, start, stop⟩
  | _ => reader.complain place .span

def readText (place : Place) (entry : Toml.Table) (key : String) : Result (Option String) :=
  match Keyed.find? entry key with
  | none => .ok none
  | some (.text text) => .ok (some text)
  | some _ => reader.complain place (.notText key)

def readInt (place : Place) (entry : Toml.Table) (key : String) : Result Int :=
  match Keyed.find? entry key with
  | none => .ok 0
  | some (.int n) => .ok n
  | some _ => reader.complain place (.notInteger key)

/-- The texts of a list that holds nothing else. -/
def textItems? : List Toml.Value → Option (List String)
  | [] => some []
  | .text text :: rest => (textItems? rest).map (text :: ·)
  | _ :: _ => none

def readTexts (place : Place) (value : Option Toml.Value) : Result (List (Option String)) :=
  match value with
  | none => .ok []
  | some (.array items) =>
      match textItems? items with
      | some texts => .ok (texts.map some)
      | none => reader.complain place .notTexts
  | some _ => reader.complain place .notTexts

/-- A name alone is looked up; a name with a colour is always a kind of its own. -/
def readKind (place : Place) (entry : Toml.Table) : Result Kind := do
  let name ←
    match Keyed.find? entry "kind" with
    | none => pure "Error"
    | some (.text name) => pure name
    | some _ => reader.complain place .kind
  match Keyed.find? entry "color" with
  | none => pure (Kind.ofName name)
  | some value => do
      let color ← reader.readColor place value
      pure (.styled name (some color))

def readOptionalColor (place : Place) (entry : Toml.Table) : Result (Option Color) :=
  match Keyed.find? entry "color" with
  | none => .ok none
  | some value => (reader.readColor place value).map some

def readLabel (place : Place) : Toml.Value → Result Label
  | .table entry => do
      let color ← reader.readOptionalColor place entry
      let span ← reader.readSpan place (Keyed.find? entry "span")
      let msg ← reader.readText place entry "msg"
      let order ← reader.readInt place entry "order"
      let priority ← reader.readInt place entry "priority"
      (Label.make span msg color order priority).mapError fun cause => cause.raised.map .label
  | _ => reader.complain place .labelNotTable

/-- The elements of a value: the items of an array, the keys of a table, the characters of a
text. -/
def elements? : Toml.Value → Option (List Toml.Value)
  | .array items => some items
  | .table entries => some (entries.map fun entry => .text entry.1)
  | .text text => some (text.toList.map fun c => .text (String.singleton c))
  | _ => none

/-- Reads labels of which the first is the `number`-th of the report. -/
def readLabels (report : Nat) : (number : Nat) → List Toml.Value → Result (List Label)
  | _, [] => .ok []
  | number, value :: rest => do
      let label ← reader.readLabel (.label report number) value
      let labels ← readLabels report (number + 1) rest
      pure (label :: labels)

def labelElements (entry : Toml.Table) : Result (List Toml.Value) :=
  match Keyed.find? entry "labels" with
  | none => .ok []
  | some value =>
      match elements? value with
      | some items => .ok items
      | none => .error (.abrupt .notIterable)

def readReport (config : Config) (number : Nat) : Toml.Value → Result Report
  | .table entry => do
      let labels ← reader.readLabels number 1 (← labelElements entry)
      let span ← reader.readSpan (.report number) (Keyed.find? entry "span")
      let kind ← reader.readKind (.report number) entry
      let code ← reader.readText (.report number) entry "code"
      let msg ← reader.readText (.report number) entry "msg"
      let notes ← reader.readTexts (.notes number) (Keyed.find? entry "notes")
      let help ← reader.readTexts (.help number) (Keyed.find? entry "help")
      pure { span, kind, code, msg, notes, help, labels, config }
  | _ => reader.complain (.report number) .notTable

/-- Reads reports of which the first is the `number`-th of the document. -/
def readReports (config : Config) : (number : Nat) → List Toml.Value → Result (List Report)
  | _, [] => .ok []
  | number, value :: rest => do
      let report ← reader.readReport config number value
      let reports ← readReports config (number + 1) rest
      pure (report :: reports)

/-- The reports of a parsed document. -/
def readDocument (config : Config) (document : Toml.Table) : Result (List Report) :=
  match Keyed.find? document "report" with
  | none => .ok []
  | some (.array items) => reader.readReports config 1 items
  | some _ => reader.complain .document .notTables

/-- The reports that the bytes of a file describe. -/
def readBytes (config : Config) (bytes : List UInt8) : Result (List Report) :=
  match Toml.read bytes with
  | .ok document => reader.readDocument config document
  | .error cause =>
      .error (cause.failure (.invalid reader.path (Platform.documentComplaint bytes)))

end DocumentReader

end Diagnostics
