import Diagnostics.Proofs.Report.Document
import Diagnostics.Proofs.Toml.Breaks
import Diagnostics.Proofs.Wording

/-!
# Documents on which reading breaks off

Reading a document either gives reports or a complaint, except where a value is of a kind
that no rule speaks of: labels that have no elements, and colours that are no texts,
integers or truth values; and where a label is reversed of which the ends cannot be
written. Reading comes to such a value only if there is nothing to complain about before
it. It also breaks off if the document itself cannot be taken in.
-/

namespace Diagnostics

/-- Values of the kinds in which no colour is written. -/
inductive Toml.Value.Colorless : Toml.Value → Prop
  | float (value : Binary64) : Colorless (.float value)
  | moment (value : Moment) : Colorless (.moment value)
  | array (items : List Toml.Value) : Colorless (.array items)
  | table (entries : List (String × Toml.Value)) : Colorless (.table entries)

/-- Values without elements to go through. -/
inductive Toml.Value.Elementless : Toml.Value → Prop
  | bool (value : Bool) : Elementless (.bool value)
  | int (value : Int) : Elementless (.int value)
  | float (value : Binary64) : Elementless (.float value)
  | moment (value : Moment) : Elementless (.moment value)

variable {fault : Fault}

theorem Color.ofName_ne_abrupt (name : String) : ofName name ≠ .error (.abrupt fault) := by
  rw [ofName]
  split <;> simp

namespace DocumentReader

variable {reader : DocumentReader} {place : Place}

theorem complain_ne_abrupt {α : Type} (complaint : Complaint) :
    (reader.complain place complaint : Result α) ≠ .error (.abrupt fault) :=
  nofun

theorem readSpan_ne_abrupt (value : Option Toml.Value) :
    reader.readSpan place value ≠ .error (.abrupt fault) := by
  unfold readSpan
  split
  · simp
  · exact complain_ne_abrupt _

theorem readText_ne_abrupt (entry : Toml.Table) (key : String) :
    reader.readText place entry key ≠ .error (.abrupt fault) := by
  unfold readText
  split
  · simp
  · simp
  · exact complain_ne_abrupt _

theorem readInt_ne_abrupt (entry : Toml.Table) (key : String) :
    reader.readInt place entry key ≠ .error (.abrupt fault) := by
  unfold readInt
  split
  · simp
  · simp
  · exact complain_ne_abrupt _

theorem readTexts_ne_abrupt (value : Option Toml.Value) :
    reader.readTexts place value ≠ .error (.abrupt fault) := by
  unfold readTexts
  split
  · simp
  · split
    · simp
    · exact complain_ne_abrupt _
  · exact complain_ne_abrupt _

theorem elements?_eq_none_iff {value : Toml.Value} :
    elements? value = none ↔ value.Elementless := by
  constructor
  · intro hnone
    cases value with
    | bool value => exact .bool value
    | int n => exact .int n
    | float value => exact .float value
    | moment value => exact .moment value
    | _ => cases hnone
  · intro helementless
    cases helementless <;> rfl

theorem labelElements_eq_abrupt_iff {entry : Toml.Table} :
    labelElements entry = .error (.abrupt fault) ↔
      ∃ value, Keyed.find? entry "labels" = some value ∧ value.Elementless ∧
        fault = .notIterable := by
  rw [labelElements]
  cases Keyed.find? entry "labels" with
  | none => simp
  | some value =>
      cases helements : elements? value with
      | none => simp [helements, elements?_eq_none_iff.mp helements, eq_comm]
      | some items =>
          have hnot : ¬value.Elementless := by
            rw [← elements?_eq_none_iff, helements]
            simp
          simp [helements, hnot]

end DocumentReader

variable [Platform]

theorem Color.ofNumeral_ne_abrupt (text : String) : ofNumeral text ≠ .error (.abrupt fault) := by
  rw [ofNumeral]
  split <;> simp

theorem Color.read_eq_abrupt_iff {value : Toml.Value} :
    read value.toOption = .error (.abrupt fault) ↔ value.Colorless ∧ fault = .notAColor := by
  constructor
  · intro hread
    cases value with
    | bool value => cases hread
    | int n => cases hread
    | text text =>
        rw [Toml.Value.toOption, read] at hread
        split at hread
        · exact absurd hread (ofNumeral_ne_abrupt text)
        · exact absurd hread (ofName_ne_abrupt text)
    | float value => exact ⟨.float value, (Failure.abrupt.inj (Except.error.inj hread)).symm⟩
    | moment value => exact ⟨.moment value, (Failure.abrupt.inj (Except.error.inj hread)).symm⟩
    | array items => exact ⟨.array items, (Failure.abrupt.inj (Except.error.inj hread)).symm⟩
    | table entries => exact ⟨.table entries, (Failure.abrupt.inj (Except.error.inj hread)).symm⟩
  · rintro ⟨hcolorless, rfl⟩
    cases hcolorless <;> rfl

namespace DocumentReader

variable {reader : DocumentReader} {place : Place}

theorem readColor_eq_abrupt_iff {value : Toml.Value} :
    reader.readColor place value = .error (.abrupt fault) ↔
      value.Colorless ∧ fault = .notAColor := by
  rw [← Color.read_eq_abrupt_iff, readColor]
  cases Color.read value.toOption with
  | ok color => simp
  | error failure =>
      cases failure with
      | reported cause => simpa using complain_ne_abrupt _
      | abrupt other => simp

theorem readOptionalColor_eq_abrupt_iff {entry : Toml.Table} :
    reader.readOptionalColor place entry = .error (.abrupt fault) ↔
      ∃ value, Keyed.find? entry "color" = some value ∧ value.Colorless ∧ fault = .notAColor := by
  rw [readOptionalColor]
  cases Keyed.find? entry "color" with
  | none => simp
  | some value => simp [map_eq_error_iff, readColor_eq_abrupt_iff]

/-- What a kind and its colour are, once its name is known. -/
def kindOf (reader : DocumentReader) (place : Place) (entry : Toml.Table) (name : String) :
    Result Kind :=
  match Keyed.find? entry "color" with
  | none => .ok (Kind.ofName name)
  | some value => (reader.readColor place value).map fun color => .styled name (some color)

theorem kindOf_eq_abrupt_iff {entry : Toml.Table} {name : String} :
    reader.kindOf place entry name = .error (.abrupt fault) ↔
      ∃ value, Keyed.find? entry "color" = some value ∧ value.Colorless ∧ fault = .notAColor := by
  rw [kindOf]
  cases Keyed.find? entry "color" with
  | none => simp
  | some value => simp [map_eq_error_iff, readColor_eq_abrupt_iff]

/-- The name of a kind is read before its colour. -/
theorem readKind_eq (place : Place) (entry : Toml.Table) :
    reader.readKind place entry =
      match Keyed.find? entry "kind" with
      | none => reader.kindOf place entry "Error"
      | some (.text name) => reader.kindOf place entry name
      | some _ => reader.complain place .kind := by
  rw [readKind]
  cases Keyed.find? entry "kind" with
  | none => rfl
  | some value => cases value <;> rfl

theorem readKind_eq_abrupt_iff {entry : Toml.Table} :
    reader.readKind place entry = .error (.abrupt fault) ↔
      (∀ value, Keyed.find? entry "kind" = some value → ∃ name, value = .text name) ∧
        ∃ value, Keyed.find? entry "color" = some value ∧ value.Colorless ∧
          fault = .notAColor := by
  rw [readKind_eq]
  cases Keyed.find? entry "kind" with
  | none => simp [kindOf_eq_abrupt_iff]
  | some value => cases value <;> simp [kindOf_eq_abrupt_iff, complain_ne_abrupt]

theorem readLabels_eq_error_iff {report number : Nat} {values : List Toml.Value}
    {cause : Failure DocumentError} :
    reader.readLabels report number values = .error cause ↔
      ∃ front bad back labels, values = front ++ bad :: back ∧
        reader.readLabels report number front = .ok labels ∧
        reader.readLabel (.label report (number + front.length)) bad = .error cause :=
  (reader.readsEach_readLabels report).eq_error_iff

theorem readReports_eq_error_iff {config : Config} {number : Nat} {values : List Toml.Value}
    {cause : Failure DocumentError} :
    reader.readReports config number values = .error cause ↔
      ∃ front bad back reports, values = front ++ bad :: back ∧
        reader.readReports config number front = .ok reports ∧
        reader.readReport config (number + front.length) bad = .error cause :=
  (reader.readsEach_readReports config).eq_error_iff

/-- Reading the table of a label breaks off. -/
inductive LabelBreaks (reader : DocumentReader) (place : Place) (entry : Toml.Table) :
    Fault → Prop
  /-- Its colour is none. -/
  | color {color} (hcolor : Keyed.find? entry "color" = some color)
      (hcolorless : color.Colorless) : LabelBreaks reader place entry .notAColor
  /-- Everything in it can be read, but its ends are reversed and cannot be written. -/
  | ends {color span msg order priority}
      (hcolor : reader.readOptionalColor place entry = .ok color)
      (hspan : reader.readSpan place (Keyed.find? entry "span") = .ok span)
      (hmsg : reader.readText place entry "msg" = .ok msg)
      (horder : reader.readInt place entry "order" = .ok order)
      (hpriority : reader.readInt place entry "priority" = .ok priority)
      (hreversed : span.stop < span.start)
      (hlost : ¬(FitsDigits span.start ∧ FitsDigits span.stop)) :
      LabelBreaks reader place entry .unprintable

/-- A label that cannot be made is complained about if its ends can be written. -/
theorem make_eq_abrupt_iff {span : Span} {msg : Option String} {color : Option Color}
    {order priority : Int} :
    (Label.make span msg color order priority).mapError
        (fun cause => cause.raised.map DocumentError.label) = .error (.abrupt fault) ↔
      span.stop < span.start ∧ ¬(FitsDigits span.start ∧ FitsDigits span.stop) ∧
        fault = .unprintable := by
  rw [Label.make]
  by_cases hle : span.start ≤ span.stop
  · rw [dif_pos hle]
    constructor
    · rintro ⟨⟩
    · rintro ⟨hreversed, -⟩
      exact absurd hreversed (Int.not_lt.mpr hle)
  · rw [dif_neg hle, mapError_eq_error_iff]
    simp only [Except.error.injEq, exists_eq_left', Int.lt_of_not_ge hle, true_and]
    by_cases hfits : FitsDigits span.start ∧ FitsDigits span.stop
    · rw [LabelError.raised_of_fits hfits.1 hfits.2]
      simp [Failure.map, hfits]
    · rw [LabelError.raised_of_not_fits hfits]
      simp [Failure.map, hfits, eq_comm]

theorem readLabel_eq_abrupt_iff {value : Toml.Value} :
    reader.readLabel place value = .error (.abrupt fault) ↔
      ∃ entry, value = .table entry ∧ LabelBreaks reader place entry fault := by
  cases value with
  | table entry =>
      simp only [Toml.Value.table.injEq, exists_eq_left', readLabel]
      constructor
      · intro hread
        obtain hcolor | ⟨color, hcolor, hread⟩ := bind_eq_error_iff.mp hread
        · obtain ⟨value, hvalue, hcolorless, rfl⟩ := readOptionalColor_eq_abrupt_iff.mp hcolor
          exact .color hvalue hcolorless
        obtain hspan | ⟨span, hspan, hread⟩ := bind_eq_error_iff.mp hread
        · exact absurd hspan (readSpan_ne_abrupt _)
        obtain hmsg | ⟨msg, hmsg, hread⟩ := bind_eq_error_iff.mp hread
        · exact absurd hmsg (readText_ne_abrupt _ _)
        obtain horder | ⟨order, horder, hread⟩ := bind_eq_error_iff.mp hread
        · exact absurd horder (readInt_ne_abrupt _ _)
        obtain hpriority | ⟨priority, hpriority, hread⟩ := bind_eq_error_iff.mp hread
        · exact absurd hpriority (readInt_ne_abrupt _ _)
        obtain ⟨hreversed, hlost, rfl⟩ := make_eq_abrupt_iff.mp hread
        exact .ends hcolor hspan hmsg horder hpriority hreversed hlost
      · intro hbreaks
        cases hbreaks with
        | color hcolor hcolorless =>
            exact bind_eq_error_iff.mpr
              (.inl (readOptionalColor_eq_abrupt_iff.mpr ⟨_, hcolor, hcolorless, rfl⟩))
        | ends hcolor hspan hmsg horder hpriority hreversed hlost =>
            rw [bind_of_eq_ok hcolor, bind_of_eq_ok hspan, bind_of_eq_ok hmsg,
              bind_of_eq_ok horder, bind_of_eq_ok hpriority]
            exact make_eq_abrupt_iff.mpr ⟨hreversed, hlost, rfl⟩
  | _ => simp [readLabel, complain_ne_abrupt]

end DocumentReader

/-- Reading the entries of a report breaks off. -/
inductive EntryBreaks (reader : DocumentReader) (number : Nat) (entry : Toml.Table) : Fault → Prop
  /-- Its labels have no elements. -/
  | labels {value} (hlabels : Keyed.find? entry "labels" = some value)
      (hvalue : value.Elementless) : EntryBreaks reader number entry .notIterable
  /-- Reading breaks off in the first of its labels that cannot be read. -/
  | label {front label back labels fault}
      (helements : DocumentReader.labelElements entry = .ok (front ++ .table label :: back))
      (hfront : reader.readLabels number 1 front = .ok labels)
      (hlabel : reader.LabelBreaks (.label number (1 + front.length)) label fault) :
      EntryBreaks reader number entry fault
  /-- It has a colour that is none itself, and its labels, its span and its kind can be read. -/
  | color {elements labels span color}
      (helements : DocumentReader.labelElements entry = .ok elements)
      (hlabels : reader.readLabels number 1 elements = .ok labels)
      (hspan : reader.readSpan (.report number) (Keyed.find? entry "span") = .ok span)
      (hkind : ∀ value, Keyed.find? entry "kind" = some value → ∃ name, value = .text name)
      (hcolor : Keyed.find? entry "color" = some color) (hcolorless : color.Colorless) :
      EntryBreaks reader number entry .notAColor

namespace DocumentReader

variable {reader : DocumentReader}

theorem readReport_eq_abrupt_iff {config : Config} {number : Nat} {value : Toml.Value} :
    reader.readReport config number value = .error (.abrupt fault) ↔
      ∃ entry, value = .table entry ∧ EntryBreaks reader number entry fault := by
  cases value with
  | table entry =>
      simp only [Toml.Value.table.injEq, exists_eq_left', readReport]
      constructor
      · intro hread
        obtain helements | ⟨elements, helements, hread⟩ := bind_eq_error_iff.mp hread
        · obtain ⟨labels, hlabels, hvalue, rfl⟩ := labelElements_eq_abrupt_iff.mp helements
          exact .labels hlabels hvalue
        obtain hlabels | ⟨labels, hlabels, hread⟩ := bind_eq_error_iff.mp hread
        · obtain ⟨front, bad, back, labels, rfl, hfront, hbad⟩ :=
            readLabels_eq_error_iff.mp hlabels
          obtain ⟨label, rfl, hlabel⟩ := readLabel_eq_abrupt_iff.mp hbad
          exact .label helements hfront hlabel
        obtain hspan | ⟨span, hspan, hread⟩ := bind_eq_error_iff.mp hread
        · exact absurd hspan (readSpan_ne_abrupt _)
        obtain hkind | ⟨kind, -, hread⟩ := bind_eq_error_iff.mp hread
        · obtain ⟨hname, color, hcolor, hcolorless, rfl⟩ := readKind_eq_abrupt_iff.mp hkind
          exact .color helements hlabels hspan hname hcolor hcolorless
        · simp [bind_eq_error_iff, readText_ne_abrupt, readTexts_ne_abrupt, pure,
            Except.pure] at hread
      · intro hbreaks
        cases hbreaks with
        | labels hlabels hvalue =>
            exact bind_eq_error_iff.mpr
              (.inl (labelElements_eq_abrupt_iff.mpr ⟨_, hlabels, hvalue, rfl⟩))
        | label helements hfront hlabel =>
            rw [bind_of_eq_ok helements]
            refine bind_eq_error_iff.mpr
              (.inl (readLabels_eq_error_iff.mpr ⟨_, _, _, _, rfl, hfront, ?_⟩))
            exact readLabel_eq_abrupt_iff.mpr ⟨_, rfl, hlabel⟩
        | color helements hlabels hspan hkind hcolor hcolorless =>
            rw [bind_of_eq_ok helements, bind_of_eq_ok hlabels, bind_of_eq_ok hspan]
            exact bind_eq_error_iff.mpr
              (.inl (readKind_eq_abrupt_iff.mpr ⟨hkind, _, hcolor, hcolorless, rfl⟩))
  | _ => simp [readReport, complain_ne_abrupt]

end DocumentReader

/-- Reading the bytes of a document breaks off. -/
inductive DocumentBreaks (reader : DocumentReader) (config : Config) (bytes : List UInt8) :
    Fault → Prop
  /-- The bytes are no text, or the document is refused without a message. -/
  | reading {fault : Fault} (hbreaks : Toml.Breaks bytes fault) :
      DocumentBreaks reader config bytes fault
  /-- Reading breaks off in the first of its reports that cannot be read. -/
  | entry {document front entry back reports fault} (hread : Toml.read bytes = .ok document)
      (hreport : Keyed.find? document "report" = some (.array (front ++ .table entry :: back)))
      (hfront : reader.readReports config 1 front = .ok reports)
      (hentry : EntryBreaks reader (1 + front.length) entry fault) :
      DocumentBreaks reader config bytes fault

namespace DocumentReader

variable {reader : DocumentReader}

theorem readDocument_eq_abrupt_iff {config : Config} {document : Toml.Table} :
    reader.readDocument config document = .error (.abrupt fault) ↔
      ∃ front entry back reports,
        Keyed.find? document "report" = some (.array (front ++ .table entry :: back)) ∧
          reader.readReports config 1 front = .ok reports ∧
          EntryBreaks reader (1 + front.length) entry fault := by
  rw [readDocument]
  constructor
  · intro hread
    split at hread
    case h_1 => cases hread
    case h_2 items hitems =>
      obtain ⟨front, bad, back, reports, rfl, hfront, hbad⟩ := readReports_eq_error_iff.mp hread
      obtain ⟨entry, rfl, hentry⟩ := readReport_eq_abrupt_iff.mp hbad
      exact ⟨front, entry, back, reports, hitems, hfront, hentry⟩
    case h_3 => exact absurd hread (complain_ne_abrupt _)
  · rintro ⟨front, entry, back, reports, hitems, hfront, hentry⟩
    simp only [hitems]
    refine readReports_eq_error_iff.mpr ⟨front, _, back, reports, rfl, hfront, ?_⟩
    exact readReport_eq_abrupt_iff.mpr ⟨entry, rfl, hentry⟩

theorem readBytes_eq_abrupt_iff {config : Config} {bytes : List UInt8} :
    reader.readBytes config bytes = .error (.abrupt fault) ↔
      DocumentBreaks reader config bytes fault := by
  unfold readBytes
  constructor
  · intro hread
    split at hread
    case h_1 document hdocument =>
      obtain ⟨front, entry, back, reports, hitems, hfront, hentry⟩ :=
        readDocument_eq_abrupt_iff.mp hread
      exact .entry hdocument hitems hfront hentry
    case h_2 cause hcause =>
      exact .reading ((Toml.failure_eq_abrupt_iff hcause).mp (Except.error.inj hread))
  · intro hbreaks
    cases hbreaks with
    | reading hbreaks =>
        obtain ⟨cause, hcause⟩ := hbreaks.exists_read
        rw [hcause]
        exact congrArg Except.error ((Toml.failure_eq_abrupt_iff hcause).mpr hbreaks)
    | entry hread hreport hfront hentry =>
        rw [hread]
        exact readDocument_eq_abrupt_iff.mpr ⟨_, _, _, _, hreport, hfront, hentry⟩

end DocumentReader

end Diagnostics
