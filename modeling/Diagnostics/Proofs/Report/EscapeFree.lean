import Mathlib.Tactic.SplitIfs
import Diagnostics.Proofs.Render.Painted
import Diagnostics.Proofs.Report.Unforeseen
import Diagnostics.Proofs.Text.Shown
import Diagnostics.Proofs.Toml.Texts

/-!
# Reports of documents without escape characters

From a document without an escape character no report gets one, and what is said about a document
that cannot be read holds none either: it shows the path of the document, places in it, and values
in their quoted form.
-/

namespace Diagnostics

/-- The keys that a complaint names. -/
def Complaint.keys : Complaint → List String
  | notText key => [key]
  | notInteger key => [key]
  | _ => []

namespace DocumentReader

/-! ### Texts that are shown -/

theorem escapeChar_not_mem_lead (place : Place) : escapeChar ∉ place.lead.toList := by
  have hreport : ∀ n : Nat, escapeChar ∉ ("report " ++ toString n).toList := fun n =>
    escapeChar_not_mem_append (by decide) (Text.escapeChar_not_mem_toString_nat n)
  cases place with
  | document => exact List.not_mem_nil
  | report n => exact escapeChar_not_mem_append (hreport n) (by decide)
  | label r n =>
      exact escapeChar_not_mem_append (escapeChar_not_mem_append
        (escapeChar_not_mem_append (hreport r) (by decide))
        (Text.escapeChar_not_mem_toString_nat n)) (by decide)
  | notes r => exact escapeChar_not_mem_append (hreport r) (by decide)
  | help r => exact escapeChar_not_mem_append (hreport r) (by decide)

theorem escapeChar_not_mem_labelError (cause : LabelError) :
    escapeChar ∉ cause.message.toList := by
  have hstart := escapeChar_not_mem_append (show escapeChar ∉ "label start (".toList by decide)
    (Text.escapeChar_not_mem_toString_int cause.start)
  have hmiddle := escapeChar_not_mem_append hstart
    (show escapeChar ∉ ") must not be after its end (".toList by decide)
  exact escapeChar_not_mem_append (escapeChar_not_mem_append hmiddle
    (Text.escapeChar_not_mem_toString_int cause.stop)) (by decide)

theorem mem_of_textItems? {items : List Toml.Value} {texts : List String}
    (htexts : textItems? items = some texts) {text : String} (htext : text ∈ texts) :
    .text text ∈ items := by
  induction items generalizing texts with
  | nil =>
      obtain rfl := Option.some.inj htexts
      cases htext
  | cons item rest ih =>
      cases item with
      | text first =>
          obtain ⟨others, hothers, rfl⟩ := Option.map_eq_some_iff.mp htexts
          obtain rfl | hlater := List.mem_cons.mp htext
          · exact List.mem_cons_self
          · exact List.mem_cons_of_mem _ (ih hothers hlater)
      | _ => cases htexts

theorem escapeChar_not_mem_name_ofName {name : String} (hname : escapeChar ∉ name.toList) :
    escapeChar ∉ (Kind.ofName name).name.toList := by
  rw [Kind.ofName]
  split_ifs
  · decide
  · decide
  · decide
  · exact hname

theorem escapeFree_of_elements? {value : Toml.Value} (hvalue : value.EscapeFree)
    {items : List Toml.Value} (hitems : elements? value = some items) :
    ∀ item ∈ items, item.EscapeFree := by
  cases value with
  | array inside =>
      obtain rfl := Option.some.inj hitems
      exact fun item hitem => hvalue.item hitem
  | table entries =>
      obtain rfl := Option.some.inj hitems
      refine List.forall_mem_map.mpr fun entry hentry => ?_
      exact Toml.Value.EscapeFree.text.mpr (hvalue.entry hentry).1
  | text text =>
      obtain rfl := Option.some.inj hitems
      refine List.forall_mem_map.mpr fun c hc => ?_
      rw [Toml.Value.EscapeFree.text, String.toList_singleton, List.mem_singleton]
      rintro rfl
      exact Toml.Value.EscapeFree.text.mp hvalue hc
  | _ => cases hitems

variable [Platform]

theorem escapeChar_not_mem_invalidColor (cause : InvalidColor) :
    escapeChar ∉ cause.message.toList := by
  cases cause with
  | boolean value =>
      have hshown : escapeChar ∉ (String.ofList (boolText value)).toList := by
        cases value <;> decide
      exact escapeChar_not_mem_append (by decide) hshown
  | unknownName name =>
      exact escapeChar_not_mem_append (by decide) (Text.escapeChar_not_mem_quoted name)
  | numeral text =>
      have hquoted : escapeChar ∉
          (String.ofList ((Text.quotedChars text.toList).take 200)).toList := by
        rw [String.toList_ofList]
        exact fun hmem =>
          Text.escapeChar_not_mem_quotedChars text.toList (List.mem_of_mem_take hmem)
      exact escapeChar_not_mem_append (by decide) hquoted
  | overlong count =>
      have hcomplaint := Platform.escapeChar_not_mem_digitComplaint (some count)
      exact hcomplaint
  | notANumber =>
      have hword : escapeChar ∉ "cannot convert float NaN to integer".toList := by decide
      exact hword

theorem escapeChar_not_mem_complaint {complaint : Complaint}
    (hkeys : ∀ key ∈ complaint.keys, escapeChar ∉ key.toList) :
    escapeChar ∉ complaint.message.toList := by
  cases complaint with
  | color cause => exact escapeChar_not_mem_invalidColor cause
  | notText key | notInteger key =>
      have hkey := hkeys key List.mem_cons_self
      rw [Complaint.message]
      exact escapeChar_not_mem_append hkey (by decide)
  | _ =>
      rw [Complaint.message]
      decide

theorem escapeFree_labelError (cause : LabelError) :
    cause.raised.EscapeFree LabelError.message := by
  rw [LabelError.raised]
  cases numberFault? cause.start <|> numberFault? cause.stop with
  | none => exact escapeChar_not_mem_labelError cause
  | some fault => trivial

/-! ### Parts of a report -/

/-- What is read has the property; what is reported instead holds no escape character. -/
def Clean (p : α → Prop) (result : Result α) : Prop :=
  Ends p (Failure.EscapeFree DocumentError.message) result

theorem clean_labelElements {entry : Toml.Table}
    (hentry : Toml.Value.EscapeFree (.table entry)) :
    Clean (fun items => ∀ item ∈ items, item.EscapeFree) (labelElements entry) := by
  rw [labelElements]
  split
  case h_1 => exact List.forall_mem_nil _
  case h_2 value hfind =>
    split
    case h_1 items hitems => exact escapeFree_of_elements? (hentry.find? hfind) hitems
    case h_2 => trivial

variable {reader : DocumentReader} {p : α → Prop}

section

variable (hpath : escapeChar ∉ reader.path.toList)
include hpath

theorem clean_complain (place : Place) {complaint : Complaint}
    (hkeys : ∀ key ∈ complaint.keys, escapeChar ∉ key.toList) :
    Clean p (reader.complain place complaint : Result α) := by
  have hname := escapeChar_not_mem_append hpath (show escapeChar ∉ ": ".toList by decide)
  exact escapeChar_not_mem_append
    (escapeChar_not_mem_append hname (escapeChar_not_mem_lead place))
    (escapeChar_not_mem_complaint hkeys)

theorem clean_readColor (place : Place) (value : Toml.Value) :
    Clean (fun _ => True) (reader.readColor place value) := by
  rw [readColor]
  split
  case h_1 => trivial
  case h_2 cause hcause => exact clean_complain hpath place (List.forall_mem_nil _)
  case h_3 => trivial

theorem clean_readOptionalColor (place : Place) (entry : Toml.Table) :
    Clean (fun _ => True) (reader.readOptionalColor place entry) := by
  rw [readOptionalColor]
  split
  · trivial
  · exact (clean_readColor hpath place _).map fun _ _ => trivial

theorem clean_readSpan (place : Place) (value : Option Toml.Value) :
    Clean (fun span => span.source = some reader.source) (reader.readSpan place value) := by
  unfold readSpan
  split
  · rfl
  · exact clean_complain hpath place (by decide)

variable {entry : Toml.Table}

theorem clean_readInt (place : Place) {key : String} (hkey : escapeChar ∉ key.toList) :
    Clean (fun _ => True) (reader.readInt place entry key) := by
  rw [readInt]
  split
  · trivial
  · trivial
  · exact clean_complain hpath place (List.forall_mem_singleton.mpr hkey)

theorem clean_readTexts (place : Place) {value : Option Toml.Value}
    (hfree : ∀ given ∈ value, given.EscapeFree) :
    Clean (fun texts => ∀ text ∈ texts, ∀ given ∈ text, escapeChar ∉ given.toList)
      (reader.readTexts place value) := by
  have hcomplain : Clean (fun texts => ∀ text ∈ texts, ∀ given ∈ text, escapeChar ∉ given.toList)
      (reader.complain place .notTexts : Result (List (Option String))) :=
    clean_complain hpath place (by decide)
  unfold readTexts
  split
  case h_1 => exact List.forall_mem_nil _
  case h_2 items =>
    split
    case h_1 texts htexts =>
      refine List.forall_mem_map.mpr fun text htext => ?_
      rintro given ⟨⟩
      exact Toml.Value.EscapeFree.text.mp ((hfree _ rfl).item (mem_of_textItems? htexts htext))
    case h_2 => exact hcomplain
  case h_3 => exact hcomplain

theorem clean_readText (hentry : Toml.Value.EscapeFree (.table entry)) (place : Place)
    {key : String} (hkey : escapeChar ∉ key.toList) :
    Clean (fun text => ∀ given ∈ text, escapeChar ∉ given.toList)
      (reader.readText place entry key) := by
  rw [readText]
  split
  case h_1 => exact nofun
  case h_2 text hfind =>
    rintro given ⟨⟩
    exact Toml.Value.EscapeFree.text.mp (hentry.find? hfind)
  case h_3 =>
    exact clean_complain hpath place (List.forall_mem_singleton.mpr hkey)

theorem clean_readKind (hentry : Toml.Value.EscapeFree (.table entry)) (place : Place) :
    Clean (fun kind => escapeChar ∉ kind.name.toList) (reader.readKind place entry) := by
  have hkindOf : ∀ {name : String}, escapeChar ∉ name.toList →
      Clean (fun kind => escapeChar ∉ kind.name.toList) (reader.kindOf place entry name) := by
    intro name hname
    rw [kindOf]
    split
    · exact escapeChar_not_mem_name_ofName hname
    · exact (clean_readColor hpath place _).map fun _ _ => hname
  rw [readKind_eq]
  split
  case h_1 => exact hkindOf (by decide)
  case h_2 name hfind => exact hkindOf (Toml.Value.EscapeFree.text.mp (hentry.find? hfind))
  case h_3 => exact clean_complain hpath place (by decide)

theorem clean_readLabel (place : Place) {value : Toml.Value} (hvalue : value.EscapeFree) :
    Clean (fun label => ∀ msg ∈ label.msg, escapeChar ∉ msg.toList)
      (reader.readLabel place value) := by
  cases value with
  | table entry =>
      rw [readLabel]
      apply (clean_readOptionalColor hpath place entry).bind
      intro color _
      apply (clean_readSpan hpath place _).bind
      intro span _
      apply (clean_readText hpath hvalue place (by decide)).bind
      intro msg hmsg
      apply (clean_readInt hpath place (by decide)).bind
      intro order _
      apply (clean_readInt hpath place (by decide)).bind
      intro priority _
      rw [Label.make]
      split
      case isTrue => exact hmsg
      case isFalse => exact (escapeFree_labelError _).map fun _ => rfl
  | _ => exact clean_complain hpath place (by decide)

theorem clean_readLabels (report number : Nat) {values : List Toml.Value}
    (hvalues : ∀ value ∈ values, value.EscapeFree) :
    Clean (fun labels => ∀ label ∈ labels, ∀ msg ∈ label.msg, escapeChar ∉ msg.toList)
      (reader.readLabels report number values) := by
  induction values generalizing number with
  | nil => exact List.forall_mem_nil _
  | cons value rest ih =>
      obtain ⟨hvalue, hrest⟩ := List.forall_mem_cons.mp hvalues
      exact (clean_readLabel hpath _ hvalue).cons fun _ => ih (number + 1) hrest

/-! ### Whole documents -/

variable (hsource : escapeChar ∉ reader.source.toList)
include hsource

theorem clean_readReport (config : Config) (number : Nat) {value : Toml.Value}
    (hvalue : value.EscapeFree) :
    Clean Report.EscapeFree (reader.readReport config number value) := by
  cases value with
  | table entry =>
      have hlist : ∀ key, ∀ given ∈ Keyed.find? entry key, given.EscapeFree :=
        fun _ _ hfind => hvalue.find? hfind
      rw [readReport]
      apply (clean_labelElements hvalue).bind
      intro items hitems
      apply (clean_readLabels hpath number 1 hitems).bind
      intro labels hlabels
      apply (clean_readSpan hpath _ _).bind
      intro span hspan
      apply (clean_readKind hpath hvalue _).bind
      intro kind hkind
      apply (clean_readText hpath hvalue _ (by decide)).bind
      intro code hcode
      apply (clean_readText hpath hvalue _ (by decide)).bind
      intro msg hmsg
      apply (clean_readTexts hpath _ (hlist "notes")).bind
      intro notes hnotes
      apply (clean_readTexts hpath _ (hlist "help")).bind
      intro help hhelp
      have hname : escapeChar ∉ (sourceName span.source).toList := by
        rw [hspan, sourceName]
        split
        · decide
        · exact hsource
      exact ⟨hname, hkind, hcode, hmsg, hnotes, hhelp, hlabels⟩
  | _ => exact clean_complain hpath _ (by decide)

theorem clean_readReports (config : Config) (number : Nat) {values : List Toml.Value}
    (hvalues : ∀ value ∈ values, value.EscapeFree) :
    Clean (fun reports => ∀ report ∈ reports, report.EscapeFree)
      (reader.readReports config number values) := by
  induction values generalizing number with
  | nil => exact List.forall_mem_nil _
  | cons value rest ih =>
      obtain ⟨hvalue, hrest⟩ := List.forall_mem_cons.mp hvalues
      exact (clean_readReport hpath hsource config number hvalue).cons fun _ =>
        ih (number + 1) hrest

/-- A document hands none of its own escape characters to its reports or to its complaints. -/
theorem clean_readBytes (config : Config) {bytes : List UInt8}
    (hbytes : Toml.EscapeFree bytes) :
    Clean (fun reports => ∀ report ∈ reports, report.EscapeFree)
      (reader.readBytes config bytes) := by
  unfold readBytes
  split
  case h_1 document hread =>
    unfold readDocument
    split
    case h_1 => exact List.forall_mem_nil _
    case h_2 items hfind =>
      have hitems := (hbytes.table hread).find? hfind
      exact clean_readReports hpath hsource config 1 fun value hvalue => hitems.item hvalue
    case h_3 => exact clean_complain hpath _ (by decide)
  case h_2 cause hcause =>
    have hinvalid : escapeChar ∉
        (DocumentError.invalid reader.path (Platform.documentComplaint bytes)).message.toList :=
      escapeChar_not_mem_append (escapeChar_not_mem_append hpath (by decide))
        (Platform.escapeChar_not_mem_documentComplaint bytes)
    exact cause.escapeFree_failure hinvalid

end

end DocumentReader

end Diagnostics
