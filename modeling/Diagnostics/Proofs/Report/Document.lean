import Diagnostics.Proofs.Except
import Diagnostics.Report.Document

/-!
# The source of a document

Whoever reads a document says which source it is about; the document itself cannot name
another one. The main spans of all reports that are read, and the spans of all their
labels, are on that source. The same goes for the configuration of the reports.
-/

namespace Diagnostics

/-- The report and all its labels are on the source of that id. -/
def Report.On (report : Report) (id : String) : Prop :=
  report.span.source = some id ∧ ∀ label ∈ report.labels, label.span.source = some id

namespace DocumentReader

variable {reader : DocumentReader}

theorem source_of_readSpan {place : Place} {value : Option Toml.Value} {span : Span}
    (hread : reader.readSpan place value = .ok span) : span.source = some reader.source := by
  unfold readSpan at hread
  split at hread
  · obtain rfl := Except.ok.inj hread
    rfl
  · cases hread

variable [Platform]

theorem readsEach_readLabels (reader : DocumentReader) (report : Nat) :
    ReadsEach (fun n => reader.readLabel (.label report n)) (reader.readLabels report) :=
  ⟨fun _ => rfl, fun _ _ _ => rfl⟩

theorem readsEach_readReports (reader : DocumentReader) (config : Config) :
    ReadsEach (reader.readReport config) (reader.readReports config) :=
  ⟨fun _ => rfl, fun _ _ _ => rfl⟩

theorem source_of_readLabel {place : Place} {value : Toml.Value} {label : Label}
    (hread : reader.readLabel place value = .ok label) :
    label.span.source = some reader.source := by
  cases value with
  | table entry =>
      simp only [readLabel, bind_eq_ok_iff] at hread
      obtain ⟨color, -, span, hspan, msg, -, order, -, priority, -, hmake⟩ := hread
      have hmake := mapError_eq_ok_iff.mp hmake
      have hlabel : label.span = span := by
        unfold Label.make at hmake
        split at hmake
        · obtain rfl := Except.ok.inj hmake
          rfl
        · cases hmake
      rw [hlabel]
      exact source_of_readSpan hspan
  | _ => cases hread

theorem source_of_readLabels {report number : Nat} {values : List Toml.Value}
    {labels : List Label} (hread : reader.readLabels report number values = .ok labels) :
    ∀ label ∈ labels, label.span.source = some reader.source :=
  (reader.readsEach_readLabels report).forall_mem source_of_readLabel hread

theorem on_of_readReport {config : Config} {number : Nat} {value : Toml.Value} {report : Report}
    (hread : reader.readReport config number value = .ok report) : report.On reader.source := by
  cases value with
  | table entry =>
      simp only [readReport, bind_eq_ok_iff] at hread
      obtain ⟨items, -, labels, hlabels, span, hspan, kind, -, code, -, msg, -, notes, -, help, -,
        hreport⟩ := hread
      obtain rfl := Except.ok.inj hreport
      exact ⟨source_of_readSpan hspan, source_of_readLabels hlabels⟩
  | _ => cases hread

theorem config_of_readReport {config : Config} {number : Nat} {value : Toml.Value}
    {report : Report} (hread : reader.readReport config number value = .ok report) :
    report.config = config := by
  cases value with
  | table entry =>
      simp only [readReport, bind_eq_ok_iff] at hread
      obtain ⟨items, -, labels, -, span, -, kind, -, code, -, msg, -, notes, -, help, -,
        hreport⟩ := hread
      obtain rfl := Except.ok.inj hreport
      rfl
  | _ => cases hread

theorem readBytes_eq_ok_iff {config : Config} {bytes : List UInt8} {reports : List Report} :
    reader.readBytes config bytes = .ok reports ↔
      ∃ document, Toml.read bytes = .ok document ∧
        reader.readDocument config document = .ok reports := by
  rw [readBytes]
  split <;> simp [*]

/-- What holds of every report that is read holds of all reports of a document. -/
theorem forall_of_readBytes {config : Config} {p : Report → Prop}
    (hreport : ∀ {number value report}, reader.readReport config number value = .ok report →
      p report) {bytes : List UInt8} {reports : List Report}
    (hread : reader.readBytes config bytes = .ok reports) : ∀ report ∈ reports, p report := by
  obtain ⟨document, -, hread⟩ := readBytes_eq_ok_iff.mp hread
  unfold readDocument at hread
  split at hread
  · obtain rfl := Except.ok.inj hread
    exact List.forall_mem_nil _
  · exact (reader.readsEach_readReports config).forall_mem hreport hread
  · cases hread

theorem on_of_readBytes {config : Config} {bytes : List UInt8} {reports : List Report}
    (hread : reader.readBytes config bytes = .ok reports) :
    ∀ report ∈ reports, report.On reader.source :=
  forall_of_readBytes on_of_readReport hread

theorem config_of_readBytes {config : Config} {bytes : List UInt8} {reports : List Report}
    (hread : reader.readBytes config bytes = .ok reports) :
    ∀ report ∈ reports, report.config = config :=
  forall_of_readBytes config_of_readReport hread

/-! ### Another configuration -/

variable (reader) (config other : Config)

theorem readReport_config (number : Nat) (value : Toml.Value) :
    reader.readReport other number value =
      (reader.readReport config number value).map fun report =>
        { report with config := other } := by
  cases value with
  | table entry => simp only [readReport, map_bind_eq]; rfl
  | _ => rfl

theorem readReports_config (number : Nat) (values : List Toml.Value) :
    reader.readReports other number values =
      (reader.readReports config number values).map
        (List.map fun report => { report with config := other }) := by
  induction values generalizing number with
  | nil => rfl
  | cons value rest ih =>
      rw [readReports, readReports, readReport_config reader config other, ih]
      simp only [bind_map_eq, map_bind_eq]
      rfl

/-- The configuration is handed to the reports and decides about nothing that is read. -/
theorem readBytes_config (bytes : List UInt8) :
    reader.readBytes other bytes =
      (reader.readBytes config bytes).map
        (List.map fun report => { report with config := other }) := by
  unfold readBytes
  split
  case h_1 document hread =>
    unfold readDocument
    split
    case h_1 => rfl
    case h_2 items hfind => exact readReports_config reader config other 1 items
    case h_3 => rfl
  all_goals rfl

end DocumentReader

end Diagnostics
