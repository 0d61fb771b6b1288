import Diagnostics.Proofs.Report.Unforeseen
import Diagnostics.Usual

/-!
# Well-formed documents

What may stand under which key of a document. Reading gives reports exactly if all of it
is of that form: one report for every entry, with one label for every element of its
labels. What is read as labels is looser than everything else: an empty text and an empty
table have no elements either, and so they pass for an empty array.
-/

namespace Diagnostics

namespace Toml.Value

def IsText (value : Toml.Value) : Prop :=
  ∃ text, value = .text text

def IsInt (value : Toml.Value) : Prop :=
  ∃ n, value = .int n

/-- An array that holds nothing but texts. -/
def IsTexts (value : Toml.Value) : Prop :=
  ∃ items, value = .array items ∧ ∀ item ∈ items, item.IsText

/-- An integer, or a text that a colour can be read from. -/
inductive IsColor [Platform] : Toml.Value → Prop
  | int (n : Int) : IsColor (.int n)
  | text {text : String} {color : Color} (hread : Color.read (.text text) = .ok color) :
      IsColor (.text text)

end Toml.Value

/-- The form of the table of a label. -/
structure LabelForm [Platform] (table : Toml.Table) : Prop where
  span : ∃ start stop, Keyed.find? table "span" = some (.array [.int start, .int stop]) ∧
    start ≤ stop
  msg : ∀ value ∈ Keyed.find? table "msg", value.IsText
  color : ∀ value ∈ Keyed.find? table "color", value.IsColor
  order : ∀ value ∈ Keyed.find? table "order", value.IsInt
  priority : ∀ value ∈ Keyed.find? table "priority", value.IsInt

/-- The form of what stands for the labels of a report. -/
inductive LabelsForm [Platform] : Toml.Value → Prop
  | tables {tables : List Toml.Table} (htables : ∀ table ∈ tables, LabelForm table) :
      LabelsForm (.array (tables.map .table))
  | emptyText : LabelsForm (.text "")
  | emptyTable : LabelsForm (.table [])

/-- The form of the table of a report. -/
structure ReportForm [Platform] (table : Toml.Table) : Prop where
  span : ∃ start stop, Keyed.find? table "span" = some (.array [.int start, .int stop])
  kind : ∀ value ∈ Keyed.find? table "kind", value.IsText
  color : ∀ value ∈ Keyed.find? table "color", value.IsColor
  code : ∀ value ∈ Keyed.find? table "code", value.IsText
  msg : ∀ value ∈ Keyed.find? table "msg", value.IsText
  notes : ∀ value ∈ Keyed.find? table "notes", value.IsTexts
  help : ∀ value ∈ Keyed.find? table "help", value.IsTexts
  labels : ∀ value ∈ Keyed.find? table "labels", LabelsForm value

/-- The form of a document: its reports, if there are any, are an array of tables. -/
def DocumentForm [Platform] (document : Toml.Table) : Prop :=
  ∀ value ∈ Keyed.find? document "report", ∃ tables : List Toml.Table,
    value = .array (tables.map .table) ∧ ∀ table ∈ tables, ReportForm table

/-- The items of the array under a key. -/
def itemsAt (table : Toml.Table) (key : String) : List Toml.Value :=
  match Keyed.find? table key with
  | some (.array items) => items
  | _ => []

/-! ### Arrays of tables -/

theorem forall_table_iff {items : List Toml.Value} {form : Toml.Table → Prop} :
    (∀ item ∈ items, ∃ table, item = .table table ∧ form table) ↔
      ∃ tables : List Toml.Table, items = tables.map .table ∧ ∀ table ∈ tables, form table := by
  constructor
  · intro hitems
    induction items with
    | nil => exact ⟨[], rfl, List.forall_mem_nil _⟩
    | cons item rest ih =>
        obtain ⟨⟨table, rfl, htable⟩, hrest⟩ := List.forall_mem_cons.mp hitems
        obtain ⟨tables, rfl, htables⟩ := ih hrest
        exact ⟨table :: tables, rfl, List.forall_mem_cons.mpr ⟨htable, htables⟩⟩
  · rintro ⟨tables, rfl, htables⟩
    exact List.forall_mem_map.mpr fun table hmem => ⟨table, rfl, htables table hmem⟩

/-! ### Single values -/

namespace DocumentReader

variable {reader : DocumentReader} {place : Place} {table : Toml.Table} {key : String}

theorem readSpan_eq_ok_iff {value : Option Toml.Value} {span : Span} :
    reader.readSpan place value = .ok span ↔
      span.source = some reader.source ∧
        value = some (.array [.int span.start, .int span.stop]) := by
  constructor
  · intro hread
    unfold readSpan at hread
    split at hread
    · obtain rfl := Except.ok.inj hread
      exact ⟨rfl, rfl⟩
    · cases hread
  · obtain ⟨source, start, stop⟩ := span
    rintro ⟨rfl, rfl⟩
    rfl

theorem exists_readText_iff :
    (∃ text, reader.readText place table key = .ok text) ↔
      ∀ value ∈ Keyed.find? table key, value.IsText := by
  simp only [readText]
  cases Keyed.find? table key with
  | none => simp
  | some value => cases value <;> simp [Toml.Value.IsText, complain]

theorem exists_readInt_iff :
    (∃ n, reader.readInt place table key = .ok n) ↔
      ∀ value ∈ Keyed.find? table key, value.IsInt := by
  simp only [readInt]
  cases Keyed.find? table key with
  | none => simp
  | some value => cases value <;> simp [Toml.Value.IsInt, complain]

theorem exists_textItems?_iff {items : List Toml.Value} :
    (∃ texts, textItems? items = some texts) ↔ ∀ item ∈ items, item.IsText := by
  induction items with
  | nil => simp [textItems?]
  | cons item rest ih =>
      rw [List.forall_mem_cons, ← ih]
      cases item <;> simp [textItems?, Toml.Value.IsText]

theorem exists_readTexts_iff {value : Option Toml.Value} :
    (∃ texts, reader.readTexts place value = .ok texts) ↔ ∀ given ∈ value, given.IsTexts := by
  cases value with
  | none => simp [readTexts]
  | some given =>
      cases given with
      | array items =>
          simp only [readTexts, Option.mem_some_iff, forall_eq', Toml.Value.IsTexts,
            Toml.Value.array.injEq, exists_eq_left', ← exists_textItems?_iff]
          cases textItems? items <;> simp [complain]
      | _ => simp [readTexts, Toml.Value.IsTexts, complain]

end DocumentReader

section Platform

variable [Platform]

/-! ### Colours -/

theorem Color.exists_read_iff {value : Toml.Value} :
    (∃ color, read value.toOption = .ok color) ↔ value.IsColor := by
  constructor
  · rintro ⟨color, hread⟩
    cases value with
    | int n => exact .int n
    | text text => exact .text hread
    | _ => cases hread
  · rintro (n | hread)
    · exact ⟨_, rfl⟩
    · exact ⟨_, hread⟩

namespace DocumentReader

variable {reader : DocumentReader} {place : Place} {table : Toml.Table}

theorem exists_readColor_iff {value : Toml.Value} :
    (∃ color, reader.readColor place value = .ok color) ↔ value.IsColor := by
  rw [← Color.exists_read_iff]
  simp only [readColor]
  cases Color.read value.toOption with
  | ok color => simp
  | error failure => cases failure <;> simp [complain]

theorem exists_readOptionalColor_iff :
    (∃ color, reader.readOptionalColor place table = .ok color) ↔
      ∀ value ∈ Keyed.find? table "color", value.IsColor := by
  simp only [readOptionalColor]
  cases Keyed.find? table "color" with
  | none => simp
  | some value => simp [map_eq_ok_iff, exists_readColor_iff]

theorem exists_kindOf_iff {name : String} :
    (∃ kind, reader.kindOf place table name = .ok kind) ↔
      ∀ value ∈ Keyed.find? table "color", value.IsColor := by
  simp only [kindOf]
  cases Keyed.find? table "color" with
  | none => simp
  | some value => simp [map_eq_ok_iff, exists_readColor_iff]

theorem exists_readKind_iff :
    (∃ kind, reader.readKind place table = .ok kind) ↔
      (∀ value ∈ Keyed.find? table "kind", value.IsText) ∧
        ∀ value ∈ Keyed.find? table "color", value.IsColor := by
  simp only [readKind_eq]
  cases Keyed.find? table "kind" with
  | none => simp [exists_kindOf_iff]
  | some value => cases value <;> simp [exists_kindOf_iff, Toml.Value.IsText, complain]

/-! ### Labels -/

theorem exists_readLabel_iff {value : Toml.Value} :
    (∃ label, reader.readLabel place value = .ok label) ↔
      ∃ table, value = .table table ∧ LabelForm table := by
  cases value with
  | table table =>
      simp only [Toml.Value.table.injEq, exists_eq_left']
      constructor
      · rintro ⟨label, hread⟩
        simp only [readLabel, bind_eq_ok_iff, mapError_eq_ok_iff] at hread
        obtain ⟨color, hcolor, span, hspan, msg, hmsg, order, horder, priority, hpriority, hmake⟩ :=
          hread
        exact
          { span := ⟨span.start, span.stop, (readSpan_eq_ok_iff.mp hspan).2,
              (Label.make_eq_ok_iff span msg color order priority).mp ⟨label, hmake⟩⟩
            msg := exists_readText_iff.mp ⟨msg, hmsg⟩
            color := exists_readOptionalColor_iff.mp ⟨color, hcolor⟩
            order := exists_readInt_iff.mp ⟨order, horder⟩
            priority := exists_readInt_iff.mp ⟨priority, hpriority⟩ }
      · intro hform
        obtain ⟨start, stop, hvalue, hle⟩ := hform.span
        have hspan : reader.readSpan place (Keyed.find? table "span") =
            .ok ⟨some reader.source, start, stop⟩ := readSpan_eq_ok_iff.mpr ⟨rfl, hvalue⟩
        obtain ⟨color, hcolor⟩ := exists_readOptionalColor_iff.mpr hform.color
        obtain ⟨msg, hmsg⟩ := exists_readText_iff.mpr hform.msg
        obtain ⟨order, horder⟩ := exists_readInt_iff.mpr hform.order
        obtain ⟨priority, hpriority⟩ := exists_readInt_iff.mpr hform.priority
        obtain ⟨label, hmake⟩ :=
          (Label.make_eq_ok_iff ⟨some reader.source, start, stop⟩ msg color order priority).mpr hle
        refine ⟨label, ?_⟩
        simp only [readLabel, bind_eq_ok_iff, mapError_eq_ok_iff]
        exact ⟨color, hcolor, _, hspan, msg, hmsg, order, horder, priority, hpriority, hmake⟩
  | _ => simp [readLabel, complain]

theorem labelsForm_array_iff {items : List Toml.Value} :
    LabelsForm (.array items) ↔ ∀ item ∈ items, ∃ table, item = .table table ∧ LabelForm table := by
  rw [forall_table_iff]
  constructor
  · intro hform
    cases hform with
    | tables htables => exact ⟨_, rfl, htables⟩
  · rintro ⟨tables, rfl, htables⟩
    exact .tables htables

/-- The elements of an empty text and of an empty table are none, and those of others are
no tables. -/
theorem labelsForm_iff_of_elements? {value : Toml.Value} {items : List Toml.Value}
    (helements : elements? value = some items) :
    LabelsForm value ↔ ∀ item ∈ items, ∃ table, item = .table table ∧ LabelForm table := by
  cases value with
  | array given =>
      obtain rfl := Option.some.inj helements
      exact labelsForm_array_iff
  | text text =>
      obtain rfl := Option.some.inj helements
      constructor
      · intro hform
        cases hform
        exact List.forall_mem_nil _
      · intro hitems
        obtain rfl : text = "" := by
          rw [← String.toList_eq_nil_iff]
          by_contra hne
          obtain ⟨c, rest, htext⟩ := List.exists_cons_of_ne_nil hne
          simp [htext] at hitems
        exact .emptyText
  | table entries =>
      obtain rfl := Option.some.inj helements
      constructor
      · intro hform
        cases hform
        exact List.forall_mem_nil _
      · intro hitems
        cases entries with
        | nil => exact .emptyTable
        | cons entry rest => simp at hitems
  | _ => cases helements

theorem exists_readLabels_iff {report : Nat} :
    (∃ items labels, labelElements table = .ok items ∧
      reader.readLabels report 1 items = .ok labels) ↔
      ∀ value ∈ Keyed.find? table "labels", LabelsForm value := by
  simp only [labelElements]
  cases Keyed.find? table "labels" with
  | none => simp [readLabels]
  | some value =>
      cases helements : elements? value with
      | none =>
          have hnone : ¬LabelsForm value := by
            rintro (_ | _ | _) <;> cases helements
          simp [helements, hnone]
      | some items =>
          simp only [helements, Except.ok.injEq, exists_and_left, exists_eq_left',
            Option.mem_some_iff, forall_eq', labelsForm_iff_of_elements? helements]
          exact (reader.readsEach_readLabels report).exists_eq_ok_iff fun _ _ =>
            exists_readLabel_iff

/-! ### Reports -/

theorem exists_readReport_iff {config : Config} {number : Nat} {value : Toml.Value} :
    (∃ report, reader.readReport config number value = .ok report) ↔
      ∃ table, value = .table table ∧ ReportForm table := by
  cases value with
  | table table =>
      simp only [Toml.Value.table.injEq, exists_eq_left', readReport, bind_eq_ok_iff]
      constructor
      · rintro ⟨report, items, hitems, labels, hlabels, span, hspan, kind, hkind, code, hcode, msg,
          hmsg, notes, hnotes, help, hhelp, -⟩
        obtain ⟨hkindForm, hcolorForm⟩ := exists_readKind_iff.mp ⟨kind, hkind⟩
        exact
          { span := ⟨span.start, span.stop, (readSpan_eq_ok_iff.mp hspan).2⟩
            kind := hkindForm
            color := hcolorForm
            code := exists_readText_iff.mp ⟨code, hcode⟩
            msg := exists_readText_iff.mp ⟨msg, hmsg⟩
            notes := exists_readTexts_iff.mp ⟨notes, hnotes⟩
            help := exists_readTexts_iff.mp ⟨help, hhelp⟩
            labels := exists_readLabels_iff.mp ⟨items, labels, hitems, hlabels⟩ }
      · intro hform
        obtain ⟨items, labels, hitems, hlabels⟩ := exists_readLabels_iff.mpr hform.labels
        obtain ⟨start, stop, hvalue⟩ := hform.span
        have hspan : reader.readSpan (.report number) (Keyed.find? table "span") =
            .ok ⟨some reader.source, start, stop⟩ := readSpan_eq_ok_iff.mpr ⟨rfl, hvalue⟩
        obtain ⟨kind, hkind⟩ := exists_readKind_iff.mpr ⟨hform.kind, hform.color⟩
        obtain ⟨code, hcode⟩ := exists_readText_iff.mpr hform.code
        obtain ⟨msg, hmsg⟩ := exists_readText_iff.mpr hform.msg
        obtain ⟨notes, hnotes⟩ := exists_readTexts_iff.mpr hform.notes
        obtain ⟨help, hhelp⟩ := exists_readTexts_iff.mpr hform.help
        exact ⟨_, items, hitems, labels, hlabels, _, hspan, kind, hkind, code, hcode, msg, hmsg,
          notes, hnotes, help, hhelp, rfl⟩
  | _ => simp [readReport, complain]

/-- As many labels as there are elements, which are those of an array or none. -/
theorem length_of_labelElements {report : Nat} {items : List Toml.Value} {labels : List Label}
    (hitems : labelElements table = .ok items)
    (hlabels : reader.readLabels report 1 items = .ok labels) :
    labels.length = (itemsAt table "labels").length := by
  have hform := exists_readLabels_iff.mp ⟨items, labels, hitems, hlabels⟩
  have hsame : items = itemsAt table "labels" := by
    simp only [labelElements] at hitems
    rw [itemsAt]
    cases hvalue : Keyed.find? table "labels" with
    | none =>
        rw [hvalue] at hitems
        exact (Except.ok.inj hitems).symm
    | some value =>
        rw [hvalue] at hitems
        cases hform value hvalue <;> exact (Except.ok.inj hitems).symm
  have hread : List.Forall₂ (fun _ _ => True) items labels :=
    (reader.readsEach_readLabels report).forall₂ (fun _ => trivial) hlabels
  rw [← hsame, hread.length_eq]

theorem length_labels_of_readReport {config : Config} {number : Nat} {value : Toml.Value}
    {report : Report} (hread : reader.readReport config number value = .ok report) :
    ∃ table, value = .table table ∧
      report.labels.length = (itemsAt table "labels").length := by
  obtain ⟨table, rfl, -⟩ := exists_readReport_iff.mp ⟨report, hread⟩
  simp only [readReport, bind_eq_ok_iff] at hread
  obtain ⟨items, hitems, labels, hlabels, span, -, kind, -, code, -, msg, -, notes, -, help, -,
    hreport⟩ := hread
  obtain rfl := Except.ok.inj hreport
  exact ⟨table, rfl, length_of_labelElements hitems hlabels⟩

theorem exists_readDocument_iff {config : Config} {document : Toml.Table} :
    (∃ reports, reader.readDocument config document = .ok reports) ↔ DocumentForm document := by
  simp only [readDocument, DocumentForm]
  cases Keyed.find? document "report" with
  | none => simp
  | some value =>
      cases value with
      | array items =>
          simp only [Option.mem_some_iff, forall_eq', Toml.Value.array.injEq, ← forall_table_iff]
          exact (reader.readsEach_readReports config).exists_eq_ok_iff fun _ _ =>
            exists_readReport_iff
      | _ => simp [complain]

/-- What holds of every report and of what it is read from holds along the whole document. -/
theorem forall₂_of_readDocument {config : Config} {r : Toml.Value → Report → Prop}
    (hreport : ∀ {number value report}, reader.readReport config number value = .ok report →
      r value report) {document : Toml.Table} {reports : List Report}
    (hread : reader.readDocument config document = .ok reports) :
    List.Forall₂ r (itemsAt document "report") reports := by
  rw [readDocument] at hread
  rw [itemsAt]
  split at hread
  case h_1 hnone =>
    obtain rfl := Except.ok.inj hread
    rw [hnone]
    exact .nil
  case h_2 items hitems =>
    rw [hitems]
    exact (reader.readsEach_readReports config).forall₂ hreport hread
  case h_3 => cases hread

/-- Reading a document gives reports exactly if it is well formed: one for every item of
its array, with one label for every item of an array of labels. -/
theorem readDocument_accepts (reader : DocumentReader) (config : Config)
    (document : Toml.Table) :
    ((∃ reports, reader.readDocument config document = .ok reports) ↔ DocumentForm document) ∧
      ∀ reports, reader.readDocument config document = .ok reports →
        List.Forall₂ (fun item report => ∃ table, item = .table table ∧
          report.labels.length = (itemsAt table "labels").length) (itemsAt document "report")
          reports :=
  ⟨exists_readDocument_iff, fun _ => forall₂_of_readDocument length_labels_of_readReport⟩

end DocumentReader

end Platform

namespace DocumentReader

def mixedLabelTables : List Toml.Table :=
  [[("span", .array [.int 11, .int 17]), ("color", .text "Red"), ("order", .int (-2))],
    [("span", .array [.int 23, .int 23]), ("msg", .text "here")]]

/-- Two reports of which the first has two labels and the other one a reversed span. -/
def mixedDocument : Toml.Table :=
  [("report", .array
    [.table [("span", .array [.int 11, .int 23]), ("kind", .text "warning"),
      ("labels", .array (mixedLabelTables.map .table))],
    .table [("span", .array [.int 5, .int 4]), ("notes", .array [.text "a", .text "b"])]])]

def mixedReports : List Report :=
  [{ span := ⟨some "main.src", 11, 23⟩, kind := .warning
     labels :=
      [{ span := ⟨some "main.src", 11, 17⟩, color := some (.basic .red), order := -2 },
        { span := ⟨some "main.src", 23, 23⟩, msg := some "here" }] },
    { span := ⟨some "main.src", 5, 4⟩, notes := [some "a", some "b"] }]

theorem readDocument_accepts_mixedDocument :
    DocumentForm mixedDocument ∧
      List.Forall₂ (fun item report => ∃ table, item = .table table ∧
        report.labels.length = (itemsAt table "labels").length) (itemsAt mixedDocument "report")
        mixedReports := by
  have hread : readDocument ⟨"d.toml", "main.src"⟩ Config.default mixedDocument =
      .ok mixedReports := by decide +kernel
  obtain ⟨hform, hlengths⟩ :=
    readDocument_accepts ⟨"d.toml", "main.src"⟩ Config.default mixedDocument
  exact ⟨hform.mp ⟨mixedReports, hread⟩, hlengths mixedReports hread⟩

/-- The labels of the report are an empty text. -/
def vacantTable : Toml.Table :=
  [("span", .array [.int 0, .int 1]), ("labels", .text "")]

/-- Labels that are no array are not complained about. -/
theorem readDocument_vacantTable :
    (∃ reports, readDocument ⟨"d.toml", "main.src"⟩ Config.default
        [("report", .array [.table vacantTable])] = .ok reports) ∧
      ∃ value, Keyed.find? vacantTable "labels" = some value ∧ ∀ items, value ≠ .array items :=
  ⟨⟨[{ span := ⟨some "main.src", 0, 1⟩ }], by decide +kernel⟩, .text "", rfl, nofun⟩

end DocumentReader

end Diagnostics
