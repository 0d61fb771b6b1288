import Mathlib.Data.List.Forall2
import Diagnostics.Proofs.Report.Document
import Diagnostics.Proofs.Text.LowerCase
import Diagnostics.Proofs.Text.Numeral

/-!
# Reports as they are written in documents

The relation between reports and the documents that describe them. Names of colours and
of the fixed kinds may be in any letter case, palette entries may be integers or digits,
and what has a default may be left out. Only the keys that are named here matter: a
table may have any others, in any order. Every report that can be written at all has a
plain way of being written, in which nothing is left out but what is absent.
-/

namespace Diagnostics

/-- What stands under a key that may be left out for the default. -/
def OrDefault (isDefault : Prop) (written : Toml.Value → Prop) : Option Toml.Value → Prop
  | none => isDefault
  | some value => written value

/-- An array with a table for each of the values. -/
def WrittenAll (written : α → Toml.Table → Prop) (values : List α) (value : Toml.Value) : Prop :=
  ∃ tables : List Toml.Table, value = .array (tables.map .table) ∧
    List.Forall₂ written values tables

def TextWritten (text : String) (value : Toml.Value) : Prop :=
  value = .text text

def TextsWritten (texts : List (Option String)) (value : Toml.Value) : Prop :=
  ∃ items : List String, texts = items.map some ∧ value = .array (items.map .text)

def SpanWritten (span : Span) (value : Option Toml.Value) : Prop :=
  value = some (.array [.int span.start, .int span.stop])

namespace Color

inductive Written [Platform] : Color → Toml.Value → Prop
  | name {color : BasicColor} {text : String} (hname : Text.SameLetters text color.name) :
      Written (.basic color) (.text text)
  | index (index : Fin 256) : Written (.palette index) (.int index)
  | digits {index : Fin 256} {text : String} (hdigits : Text.IsNumeral text.toList index)
      (hcount : text.toList.length ≤ Platform.digitLimit) : Written (.palette index) (.text text)

def toToml : Color → Toml.Value
  | .basic color => .text color.name
  | .palette index => .int index

theorem written_toToml [Platform] (color : Color) : color.Written color.toToml := by
  cases color with
  | basic color => exact .name (.refl _)
  | palette index => exact .index index

end Color

namespace Kind

/-- The names of the kinds that are no other kinds, in lower case. -/
def fixedNames : List String :=
  ["error", "warning", "advice"]

def isFixed : Kind → Bool
  | error => true
  | warning => true
  | advice => true
  | _ => false

/-- The kind can be written: a name of its own is no fixed one, and a style has a colour. -/
def Writable : Kind → Prop
  | plain name => Text.lower name ∉ fixedNames
  | styled _ color => color.isSome
  | _ => True

/-- What stands under the keys for the kind and for its colour. -/
inductive Written [Platform] : Kind → Option Toml.Value → Option Toml.Value → Prop
  | unnamed : Written .error none none
  | fixed {kind : Kind} {text : String} (hfixed : kind.isFixed)
      (hname : Text.SameLetters text kind.name) : Written kind (some (.text text)) none
  | plain {name : String} (hname : Text.lower name ∉ fixedNames) :
      Written (.plain name) (some (.text name)) none
  | unnamedStyle {color : Color} {value : Toml.Value} (hcolor : color.Written value) :
      Written (.styled "Error" (some color)) none (some value)
  | styled {name : String} {color : Color} {value : Toml.Value} (hcolor : color.Written value) :
      Written (.styled name (some color)) (some (.text name)) (some value)

/-- The colour that a kind brings along. -/
def ownColor : Kind → Option Color
  | styled _ color => color
  | _ => none

theorem written_toToml [Platform] {kind : Kind} (hkind : kind.Writable) :
    kind.Written (some (.text kind.name)) (kind.ownColor.map Color.toToml) := by
  cases kind with
  | styled name color =>
      obtain ⟨color, rfl⟩ := Option.isSome_iff_exists.mp hkind
      exact .styled color.written_toToml
  | plain name => exact .plain hkind
  | _ => exact .fixed rfl (.refl _)

end Kind

/-- The table of the keys that have a value. -/
def tableOf (fields : List (String × Option Toml.Value)) : Toml.Table :=
  fields.filterMap fun field => field.2.map fun value => (field.1, value)

theorem find?_tableOf_of_not_mem {fields : List (String × Option Toml.Value)} {key : String}
    (hkey : key ∉ fields.map Prod.fst) : Keyed.find? (tableOf fields) key = none := by
  induction fields with
  | nil => rfl
  | cons field rest ih =>
      rw [List.map_cons, List.mem_cons, not_or] at hkey
      obtain ⟨name, value⟩ := field
      cases value with
      | none => exact ih hkey.2
      | some value => exact (if_neg fun heq => hkey.1 heq.symm).trans (ih hkey.2)

/-- If no key is given twice, each has its own value in the table. -/
theorem find?_tableOf {fields : List (String × Option Toml.Value)}
    (hdistinct : (fields.map Prod.fst).Nodup) :
    ∀ field ∈ fields, Keyed.find? (tableOf fields) field.1 = field.2 := by
  induction fields with
  | nil => exact List.forall_mem_nil _
  | cons first rest ih =>
      obtain ⟨hfirst, hrest⟩ := List.nodup_cons.mp hdistinct
      obtain ⟨name, value⟩ := first
      rw [List.forall_mem_cons]
      cases value with
      | none =>
          have hnone : Keyed.find? (tableOf rest) name = none := find?_tableOf_of_not_mem hfirst
          exact ⟨hnone, ih hrest⟩
      | some value =>
          refine ⟨if_pos rfl, fun field hfield => ?_⟩
          have hne : name ≠ field.1 := fun heq =>
            hfirst (List.mem_map.mpr ⟨field, hfield, heq.symm⟩)
          exact (if_neg hne).trans (ih hrest field hfield)

theorem rel_textWritten (text : Option String) :
    Option.Rel TextWritten text (text.map .text) := by
  cases text with
  | none => exact .none
  | some text => exact .some rfl

theorem writtenAll_map {written : α → Toml.Table → Prop} {values : List α} {table : α → Toml.Table}
    (hwritten : ∀ value ∈ values, written value (table value)) :
    WrittenAll written values (.array (values.map fun value => .table (table value))) := by
  refine ⟨values.map table, by rw [List.map_map]; rfl, ?_⟩
  rw [List.forall₂_map_right_iff, List.forall₂_same]
  exact hwritten

theorem textsWritten_reduceOption {texts : List (Option String)}
    (htexts : ∀ text ∈ texts, text.isSome) :
    TextsWritten texts (.array (texts.reduceOption.map .text)) := by
  refine ⟨texts.reduceOption, ?_, rfl⟩
  induction texts with
  | nil => rfl
  | cons text rest ih =>
      obtain ⟨htext, hrest⟩ := List.forall_mem_cons.mp htexts
      obtain ⟨text, rfl⟩ := Option.isSome_iff_exists.mp htext
      exact congrArg (some text :: ·) (ih hrest)

namespace Span

def toToml (span : Span) : Toml.Value :=
  .array [.int span.start, .int span.stop]

end Span

namespace Label

/-- The table describes the label, which is on the source. -/
structure Written [Platform] (source : String) (label : Label) (table : Toml.Table) : Prop where
  on : label.span.source = some source
  span : SpanWritten label.span (Keyed.find? table "span")
  msg : Option.Rel TextWritten label.msg (Keyed.find? table "msg")
  color : Option.Rel Color.Written label.color (Keyed.find? table "color")
  order : OrDefault (label.order = 0) (· = .int label.order) (Keyed.find? table "order")
  priority :
    OrDefault (label.priority = 0) (· = .int label.priority) (Keyed.find? table "priority")

def fields (label : Label) : List (String × Option Toml.Value) :=
  [("span", some label.span.toToml), ("msg", label.msg.map .text),
    ("color", label.color.map Color.toToml), ("order", some (.int label.order)),
    ("priority", some (.int label.priority))]

def toToml (label : Label) : Toml.Table :=
  tableOf label.fields

theorem written_toToml [Platform] {source : String} {label : Label}
    (hon : label.span.source = some source) : label.Written source label.toToml := by
  have hfind := find?_tableOf (show (label.fields.map Prod.fst).Nodup by simp [fields])
  simp only [fields, List.forall_mem_cons] at hfind
  obtain ⟨hspan, hmsg, hcolor, horder, hpriority, -⟩ := hfind
  constructor
  case on => exact hon
  case span => exact hspan
  case msg =>
    rw [toToml, fields, hmsg]
    exact rel_textWritten label.msg
  case color =>
    rw [toToml, fields, hcolor]
    cases label.color with
    | none => exact .none
    | some color => exact .some color.written_toToml
  case order =>
    rw [toToml, fields, horder]
    rfl
  case priority =>
    rw [toToml, fields, hpriority]
    rfl

end Label

namespace Report

/-- The table describes the report, which is on the source with all its labels. -/
structure Written [Platform] (source : String) (report : Report) (table : Toml.Table) : Prop where
  on : report.span.source = some source
  span : SpanWritten report.span (Keyed.find? table "span")
  kind : report.kind.Written (Keyed.find? table "kind") (Keyed.find? table "color")
  code : Option.Rel TextWritten report.code (Keyed.find? table "code")
  msg : Option.Rel TextWritten report.msg (Keyed.find? table "msg")
  notes : OrDefault (report.notes = []) (TextsWritten report.notes) (Keyed.find? table "notes")
  help : OrDefault (report.help = []) (TextsWritten report.help) (Keyed.find? table "help")
  labels : OrDefault (report.labels = []) (WrittenAll (Label.Written source) report.labels)
    (Keyed.find? table "labels")

/-- The report can be written in a document about the source. -/
structure Writable (source : String) (report : Report) : Prop where
  on : report.On source
  kind : report.kind.Writable
  notes : ∀ note ∈ report.notes, note.isSome
  help : ∀ help ∈ report.help, help.isSome

def fields (report : Report) : List (String × Option Toml.Value) :=
  [("span", some report.span.toToml), ("kind", some (.text report.kind.name)),
    ("color", report.kind.ownColor.map Color.toToml), ("code", report.code.map .text),
    ("msg", report.msg.map .text), ("notes", some (.array (report.notes.reduceOption.map .text))),
    ("help", some (.array (report.help.reduceOption.map .text))),
    ("labels", some (.array (report.labels.map fun label => .table label.toToml)))]

def toToml (report : Report) : Toml.Table :=
  tableOf report.fields

theorem written_toToml [Platform] {source : String} {report : Report}
    (hreport : report.Writable source) :
    report.Written source report.toToml := by
  have hfind := find?_tableOf (show (report.fields.map Prod.fst).Nodup by simp [fields])
  simp only [fields, List.forall_mem_cons] at hfind
  obtain ⟨hspan, hkind, hcolor, hcode, hmsg, hnotes, hhelp, hlabels, -⟩ := hfind
  constructor
  case on => exact hreport.on.1
  case span => exact hspan
  case kind =>
    rw [toToml, fields, hkind, hcolor]
    exact Kind.written_toToml hreport.kind
  case code =>
    rw [toToml, fields, hcode]
    exact rel_textWritten report.code
  case msg =>
    rw [toToml, fields, hmsg]
    exact rel_textWritten report.msg
  case notes =>
    rw [toToml, fields, hnotes]
    exact textsWritten_reduceOption hreport.notes
  case help =>
    rw [toToml, fields, hhelp]
    exact textsWritten_reduceOption hreport.help
  case labels =>
    rw [toToml, fields, hlabels]
    exact writtenAll_map fun label hlabel => Label.written_toToml (hreport.on.2 label hlabel)

end Report

/-- The document describes the reports, all of them on the source. -/
def DocumentWritten [Platform] (source : String) (reports : List Report)
    (document : Toml.Table) : Prop :=
  OrDefault (reports = []) (WrittenAll (Report.Written source) reports)
    (Keyed.find? document "report")

/-- The plain way of writing reports. -/
def documentOf (reports : List Report) : Toml.Table :=
  [("report", .array (reports.map fun report => .table report.toToml))]

theorem documentWritten_documentOf [Platform] {source : String} {reports : List Report}
    (hreports : ∀ report ∈ reports, report.Writable source) :
    DocumentWritten source reports (documentOf reports) :=
  writtenAll_map fun report hreport => Report.written_toToml (hreports report hreport)

end Diagnostics
