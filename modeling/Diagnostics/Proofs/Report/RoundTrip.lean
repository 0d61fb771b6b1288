import Diagnostics.Proofs.Except
import Diagnostics.Proofs.Report.Written
import Diagnostics.Proofs.Toml.Equality
import Diagnostics.Usual

/-!
# Reading reports that were written

Reading a document gives back the reports that are written in it, in their order and
with the configuration of the reader, in whichever way they are written. The proof
follows the reader: each of its functions returns what is written under its keys.
-/

namespace Diagnostics

namespace Color

theorem clamped_natCast (index : Fin 256) : clamped index = .palette index := by
  have hlt := index.isLt
  rw [clamped, palette.injEq]
  apply Fin.ext
  change (max 0 (min 255 ((index : Nat) : Int))).toNat = index
  omega

theorem isAscii_name (color : BasicColor) : Text.IsAscii color.name := by
  cases color <;> decide

theorem ofName_of_sameLetters {color : BasicColor} {text : String}
    (hname : Text.SameLetters text color.name) : ofName text = .ok (.basic color) := by
  have hlower : Text.lower color.name = color.name := by
    rw [Text.lower_of_ascii (isAscii_name color)]
    cases color <;> rfl
  rw [ofName, Text.lower_of_sameLetters hname (isAscii_name color), hlower,
    BasicColor.ofName?_name]

/-- A text with the letters of the name of a colour is no text of digits. -/
theorem all_isDigit_of_sameLetters {color : BasicColor} {text : String}
    (hname : Text.SameLetters text color.name) : text.toList.all Text.isDigit = false := by
  have hletters : (color.name.toList.map Char.toLower).any Char.isDigit = false := by
    cases color <;> decide
  have hne : color.name.toList.map Char.toLower ≠ [] := by
    cases color <;> decide
  rw [← hname] at hletters hne
  obtain ⟨c, rest, htext⟩ := List.exists_cons_of_ne_nil fun hnil =>
    hne (List.map_eq_nil_iff.mpr hnil)
  have hc : c ∈ text.toList := htext ▸ List.mem_cons_self
  have hascii := hname.isAscii (isAscii_name color) c hc
  rw [Bool.eq_false_iff]
  intro hdigits
  rw [List.all_eq_true] at hdigits
  have hdigit := Text.isDigit_of_ascii hascii (hdigits c hc)
  have hletter := List.any_eq_false.mp hletters c.toLower (List.mem_map_of_mem hc)
  rw [Text.toLower_of_isDigit hdigit] at hletter
  exact hletter hdigit

theorem read_of_written [Platform] {color : Color} {value : Toml.Value}
    (hwritten : color.Written value) :
    read value.toOption = .ok color := by
  cases hwritten with
  | name hname =>
      rw [Toml.Value.toOption, read, all_isDigit_of_sameLetters hname, Bool.and_false]
      exact ofName_of_sameLetters hname
  | index index => exact congrArg Except.ok (clamped_natCast index)
  | digits hdigits hcount =>
      rename_i index text
      have hne : text ≠ "" := by
        rintro rfl
        exact hdigits.ne_nil rfl
      rw [Toml.Value.toOption, read, Text.isDigit_of_isNumeral hdigits, decide_eq_true hne]
      change ofNumeral text = _
      rw [ofNumeral, Text.readInteger_of_isNumeral hdigits, if_neg (Nat.not_lt.mpr hcount)]
      exact congrArg Except.ok (clamped_natCast index)

end Color

namespace Kind

theorem ofName_of_sameLetters {kind : Kind} {text : String} (hfixed : kind.isFixed)
    (hname : Text.SameLetters text kind.name) : ofName text = kind := by
  have hascii : Text.IsAscii kind.name := by
    cases kind with
    | styled name color => cases hfixed
    | plain name => cases hfixed
    | _ => decide
  rw [ofName, Text.lower_of_sameLetters hname hascii, Text.lower_of_ascii hascii]
  cases kind with
  | styled name color => cases hfixed
  | plain name => cases hfixed
  | _ => rfl

theorem ofName_of_not_mem {name : String} (hname : Text.lower name ∉ fixedNames) :
    ofName name = .plain name := by
  simp only [fixedNames, List.mem_cons, List.not_mem_nil, or_false, not_or] at hname
  obtain ⟨herror, hwarning, hadvice⟩ := hname
  simp only [ofName, herror, hwarning, hadvice, if_false]

end Kind

namespace DocumentReader

variable (reader : DocumentReader) {table : Toml.Table}

theorem readSpan_of_written (place : Place) {span : Span} {value : Option Toml.Value}
    (hon : span.source = some reader.source) (hspan : SpanWritten span value) :
    reader.readSpan place value = .ok span := by
  obtain ⟨source, start, stop⟩ := span
  obtain rfl : source = some reader.source := hon
  rw [hspan, readSpan]

theorem readText_of_written (place : Place) {key : String} {text : Option String}
    (htext : Option.Rel TextWritten text (Keyed.find? table key)) :
    reader.readText place table key = .ok text := by
  rw [readText]
  generalize Keyed.find? table key = value at htext ⊢
  cases htext with
  | none => rfl
  | some htext => rw [htext]

theorem readInt_of_written (place : Place) {key : String} {n : Int}
    (hint : OrDefault (n = 0) (· = .int n) (Keyed.find? table key)) :
    reader.readInt place table key = .ok n := by
  rw [readInt]
  cases hvalue : Keyed.find? table key with
  | none =>
      rw [hvalue] at hint
      exact congrArg Except.ok hint.symm
  | some value =>
      rw [hvalue] at hint
      obtain rfl := hint
      rfl

theorem textItems?_map_text (items : List String) :
    textItems? (items.map .text) = some items := by
  induction items with
  | nil => rfl
  | cons item rest ih =>
      rw [List.map_cons, textItems?, ih]
      rfl

theorem readTexts_of_written (place : Place) {texts : List (Option String)}
    {value : Option Toml.Value} (htexts : OrDefault (texts = []) (TextsWritten texts) value) :
    reader.readTexts place value = .ok texts := by
  cases value with
  | none => exact congrArg Except.ok htexts.symm
  | some value =>
      obtain ⟨items, rfl, rfl⟩ := htexts
      rw [readTexts, textItems?_map_text]

theorem make_self (label : Label) :
    Label.make label.span label.msg label.color label.order label.priority = .ok label :=
  dif_pos label.start_le_stop

variable [Platform]

theorem readColor_of_written (place : Place) {color : Color} {value : Toml.Value}
    (hcolor : color.Written value) : reader.readColor place value = .ok color := by
  rw [readColor, Color.read_of_written hcolor]

theorem readOptionalColor_of_written (place : Place) {color : Option Color}
    (hcolor : Option.Rel Color.Written color (Keyed.find? table "color")) :
    reader.readOptionalColor place table = .ok color := by
  rw [readOptionalColor]
  generalize Keyed.find? table "color" = value at hcolor ⊢
  cases hcolor with
  | none => rfl
  | some hcolor =>
      simp only [reader.readColor_of_written place hcolor]
      rfl

theorem readKind_of_written (place : Place) {kind : Kind}
    (hkind : kind.Written (Keyed.find? table "kind") (Keyed.find? table "color")) :
    reader.readKind place table = .ok kind := by
  rw [readKind]
  generalize Keyed.find? table "kind" = name at hkind ⊢
  generalize Keyed.find? table "color" = color at hkind ⊢
  cases hkind with
  | unnamed => exact congrArg Except.ok (Kind.ofName_of_sameLetters rfl (.refl _))
  | fixed hfixed hname => exact congrArg Except.ok (Kind.ofName_of_sameLetters hfixed hname)
  | plain hname => exact congrArg Except.ok (Kind.ofName_of_not_mem hname)
  | unnamedStyle hcolor => exact bind_of_eq_ok (reader.readColor_of_written place hcolor)
  | styled hcolor => exact bind_of_eq_ok (reader.readColor_of_written place hcolor)

theorem readLabel_of_written (place : Place) {label : Label}
    (hlabel : label.Written reader.source table) :
    reader.readLabel place (.table table) = .ok label := by
  rw [readLabel, bind_of_eq_ok (reader.readOptionalColor_of_written place hlabel.color),
    bind_of_eq_ok (reader.readSpan_of_written place hlabel.on hlabel.span),
    bind_of_eq_ok (reader.readText_of_written place hlabel.msg),
    bind_of_eq_ok (reader.readInt_of_written place hlabel.order),
    bind_of_eq_ok (reader.readInt_of_written place hlabel.priority), make_self]
  rfl

theorem readLabels_of_written (report number : Nat) {labels : List Label}
    {tables : List Toml.Table}
    (hlabels : List.Forall₂ (Label.Written reader.source) labels tables) :
    reader.readLabels report number (tables.map .table) = .ok labels := by
  induction hlabels generalizing number with
  | nil => rfl
  | cons hlabel _ ih =>
      rw [List.map_cons, readLabels, bind_of_eq_ok (reader.readLabel_of_written _ hlabel),
        bind_of_eq_ok (ih (number + 1))]
      rfl

theorem labelElements_of_written {labels : List Label}
    (hlabels : OrDefault (labels = []) (WrittenAll (Label.Written reader.source) labels)
      (Keyed.find? table "labels")) :
    ∃ tables, labelElements table = .ok (tables.map .table) ∧
      List.Forall₂ (Label.Written reader.source) labels tables := by
  rw [labelElements]
  cases hvalue : Keyed.find? table "labels" with
  | none =>
      rw [hvalue] at hlabels
      obtain rfl : labels = [] := hlabels
      exact ⟨[], rfl, .nil⟩
  | some value =>
      rw [hvalue] at hlabels
      obtain ⟨tables, rfl, htables⟩ := hlabels
      exact ⟨tables, rfl, htables⟩

theorem readReport_of_written (config : Config) (number : Nat) {report : Report}
    (hreport : report.Written reader.source table) :
    reader.readReport config number (.table table) = .ok { report with config } := by
  obtain ⟨tables, helements, htables⟩ := reader.labelElements_of_written hreport.labels
  rw [readReport, bind_of_eq_ok helements,
    bind_of_eq_ok (reader.readLabels_of_written number 1 htables),
    bind_of_eq_ok (reader.readSpan_of_written _ hreport.on hreport.span),
    bind_of_eq_ok (reader.readKind_of_written _ hreport.kind),
    bind_of_eq_ok (reader.readText_of_written _ hreport.code),
    bind_of_eq_ok (reader.readText_of_written _ hreport.msg),
    bind_of_eq_ok (reader.readTexts_of_written _ hreport.notes),
    bind_of_eq_ok (reader.readTexts_of_written _ hreport.help)]
  rfl

theorem readReports_of_written (config : Config) (number : Nat) {reports : List Report}
    {tables : List Toml.Table}
    (hreports : List.Forall₂ (Report.Written reader.source) reports tables) :
    reader.readReports config number (tables.map .table) =
      .ok (reports.map fun report => { report with config }) := by
  induction hreports generalizing number with
  | nil => rfl
  | cons hreport _ ih =>
      rw [List.map_cons, readReports, bind_of_eq_ok (reader.readReport_of_written config _ hreport),
        bind_of_eq_ok (ih (number + 1))]
      rfl

theorem readDocument_of_written (config : Config) {reports : List Report}
    {document : Toml.Table} (hdocument : DocumentWritten reader.source reports document) :
    reader.readDocument config document =
      .ok (reports.map fun report => { report with config }) := by
  rw [DocumentWritten] at hdocument
  rw [readDocument]
  cases hvalue : Keyed.find? document "report" with
  | none =>
      rw [hvalue] at hdocument
      obtain rfl : reports = [] := hdocument
      rfl
  | some value =>
      rw [hvalue] at hdocument
      obtain ⟨tables, rfl, htables⟩ := hdocument
      exact reader.readReports_of_written config 1 htables

/-- Reports that can be written are read back from every document that they are written
in, and there is one. -/
theorem read_written (config : Config) {reports : List Report}
    (hreports : ∀ report ∈ reports, report.Writable reader.source) :
    (∃ document, DocumentWritten reader.source reports document) ∧
      ∀ document, DocumentWritten reader.source reports document →
        reader.readDocument config document =
            .ok (reports.map fun report => { report with config }) ∧
          ∀ bytes, Toml.read bytes = .ok document →
            reader.readBytes config bytes =
              .ok (reports.map fun report => { report with config }) := by
  refine ⟨⟨_, documentWritten_documentOf hreports⟩, fun document hdocument => ?_⟩
  have hread := reader.readDocument_of_written config hdocument
  refine ⟨hread, fun bytes hbytes => ?_⟩
  rw [readBytes, hbytes]
  exact hread

end DocumentReader

/-! Two reports, written with what may be left out left out, names in mixed letter case, a palette
entry in digits, and a key that means nothing. -/

def looseReader : DocumentReader where
  path := "loose.toml"
  source := "main.src"

def looseReports : List Report :=
  [{ span := ⟨some "main.src", 0, 3⟩
     kind := .warning
     labels := [{ span := ⟨some "main.src", 0, 1⟩, color := some (.palette ⟨7, by decide⟩) }] },
    { span := ⟨some "main.src", 4, 4⟩, kind := .styled "Error" (some (.basic .red)) }]

def looseBytes : List UInt8 :=
  ("[[report]]\nspan=[0,3]\nkind='wArNiNg'\nx=1\nlabels=[\x7bspan=[0,1],color='007'\x7d]\n" ++
    "[[report]]\nspan=[4,4]\ncolor='REd'\n").toUTF8.toList

def looseLabelTable : Toml.Table :=
  [("span", .array [.int 0, .int 1]), ("color", .text "007")]

def looseTables : List Toml.Table :=
  [[("span", .array [.int 0, .int 3]), ("kind", .text "wArNiNg"), ("x", .int 1),
      ("labels", .array [.table looseLabelTable])],
    [("span", .array [.int 4, .int 4]), ("color", .text "REd")]]

def looseDocument : Toml.Table :=
  [("report", .array (looseTables.map .table))]

theorem writable_looseReports : ∀ report ∈ looseReports, report.Writable looseReader.source := by
  have hon : ∀ report ∈ looseReports, report.On looseReader.source := by
    simp [looseReports, looseReader, Report.On]
  intro report hreport
  refine ⟨hon report hreport, ?_, ?_, ?_⟩
  · rcases List.mem_pair.mp hreport with rfl | rfl
    · trivial
    · rfl
  all_goals
    rcases List.mem_pair.mp hreport with rfl | rfl <;> exact List.forall_mem_nil _

theorem written_looseLabel : Label.Written "main.src"
    { span := ⟨some "main.src", 0, 1⟩, color := some (.palette ⟨7, by decide⟩) }
    looseLabelTable where
  on := rfl
  span := rfl
  msg := .none
  color := .some (.digits ⟨by decide, [0, 0, 7], by decide, by decide⟩ (by decide))
  order := rfl
  priority := rfl

theorem documentWritten_looseDocument :
    DocumentWritten looseReader.source looseReports looseDocument := by
  have hkind : Text.SameLetters "wArNiNg" Kind.warning.name := by
    simp [Text.SameLetters, Kind.name]
  have hcolor : Text.SameLetters "REd" BasicColor.red.name := by
    simp [Text.SameLetters, BasicColor.name]
  refine ⟨looseTables, rfl, .cons ?_ (.cons ?_ .nil)⟩
  · exact
      { on := rfl
        span := rfl
        kind := .fixed rfl hkind
        code := .none
        msg := .none
        notes := rfl
        help := rfl
        labels := ⟨[looseLabelTable], rfl, .cons written_looseLabel .nil⟩ }
  · exact
      { on := rfl
        span := rfl
        kind := .unnamedStyle (.name hcolor)
        code := .none
        msg := .none
        notes := rfl
        help := rfl
        labels := rfl }

theorem read_written_looseReports :
    looseReader.readBytes Config.default looseBytes = .ok looseReports := by
  have hread : Toml.read looseBytes = .ok looseDocument :=
    Toml.read_of_reads (by decide +kernel)
  have hwritten := (looseReader.read_written Config.default writable_looseReports).2
    looseDocument documentWritten_looseDocument
  exact hwritten.2 looseBytes hread

end Diagnostics
