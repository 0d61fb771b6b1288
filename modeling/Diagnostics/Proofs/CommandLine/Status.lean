import Diagnostics.Proofs.CommandLine.Completion
import Diagnostics.Proofs.Report.WellFormed
import Diagnostics.Proofs.Text.LowerCase

/-!
# The status of a rendering

A rendering that comes to its end has the status 1 or 0, and which one can be told from its
document alone: there is an entry of the kind of errors or there is none. The name of a kind
counts in any letter case, and one that is left out is that of errors. A colour makes an entry
a style of its own, which is no error even if it is named like one.
-/

namespace Diagnostics

/-- The kind of the entry is left out, or is the name of errors in any letter case. -/
def NamesError (entry : Toml.Table) : Prop :=
  ∀ value ∈ Keyed.find? entry "kind", ∃ name, value = .text name ∧ Text.SameLetters name "Error"

/-- The entry of a report is that of an error. -/
structure IsErrorEntry (entry : Toml.Table) : Prop where
  named : NamesError entry
  uncolored : Keyed.find? entry "color" = none

/-- One of the entries of a document is that of an error. -/
def HasError (document : Toml.Table) : Prop :=
  ∃ item ∈ itemsAt document "report", ∃ entry, item = .table entry ∧ IsErrorEntry entry

theorem exists_mem_iff_of_forall₂ {α β : Type} {p : α → Prop} {q : β → Prop} {left : List α}
    {right : List β} (hforall : List.Forall₂ (fun a b => p a ↔ q b) left right) :
    (∃ a ∈ left, p a) ↔ ∃ b ∈ right, q b := by
  induction hforall with
  | nil => simp
  | cons hfirst _ ih => rw [List.exists_mem_cons_iff, List.exists_mem_cons_iff, hfirst, ih]

theorem Kind.ofName_eq_error_iff {name : String} :
    ofName name = .error ↔ Text.SameLetters name "Error" := by
  have hlowered : Text.lower "Error" = "error" := by decide +kernel
  have hkelvin : 'k' ∉ (Text.lower "Error").toList := by
    rw [hlowered]
    decide
  rw [← Text.lower_eq_lower_iff (by decide) hkelvin, hlowered, ofName]
  by_cases herror : Text.lower name = "error"
  · simp [herror]
  · rw [if_neg herror]
    split_ifs <;> simp [herror]

section Platform

variable [Platform]

namespace DocumentReader

variable {reader : DocumentReader} {place : Place} {entry : Toml.Table}

theorem kindOf_eq_error_iff {name : String} {kind : Kind}
    (hread : reader.kindOf place entry name = .ok kind) :
    kind = .error ↔ Text.SameLetters name "Error" ∧ Keyed.find? entry "color" = none := by
  rw [kindOf] at hread
  cases hcolor : Keyed.find? entry "color" with
  | none =>
      rw [hcolor] at hread
      obtain rfl := Except.ok.inj hread
      simp [Kind.ofName_eq_error_iff]
  | some value =>
      rw [hcolor] at hread
      obtain ⟨color, -, rfl⟩ := map_eq_ok_iff.mp hread
      simp

theorem kind_eq_error_iff_of_readKind {kind : Kind}
    (hread : reader.readKind place entry = .ok kind) : kind = .error ↔ IsErrorEntry entry := by
  rw [readKind_eq] at hread
  have hentry : IsErrorEntry entry ↔ NamesError entry ∧ Keyed.find? entry "color" = none :=
    ⟨fun h => ⟨h.named, h.uncolored⟩, fun h => ⟨h.1, h.2⟩⟩
  rw [hentry, NamesError]
  cases hvalue : Keyed.find? entry "kind" with
  | none =>
      rw [hvalue] at hread
      simp [kindOf_eq_error_iff hread, Text.SameLetters.refl]
  | some value =>
      rw [hvalue] at hread
      cases value with
      | text name => simp [kindOf_eq_error_iff hread]
      | _ => cases hread

theorem kind_eq_error_iff_of_readReport {config : Config} {number : Nat} {value : Toml.Value}
    {report : Report} (hread : reader.readReport config number value = .ok report) :
    (∃ entry, value = .table entry ∧ IsErrorEntry entry) ↔ report.kind = .error := by
  cases value with
  | table entry =>
      simp only [readReport, bind_eq_ok_iff] at hread
      obtain ⟨items, -, labels, -, span, -, kind, hkind, code, -, msg, -, notes, -, help, -,
        hreport⟩ := hread
      obtain rfl := Except.ok.inj hreport
      simp [kind_eq_error_iff_of_readKind hkind]
  | _ => cases hread

theorem hasError_iff_of_readDocument {config : Config} {document : Toml.Table}
    {reports : List Report} (hread : reader.readDocument config document = .ok reports) :
    HasError document ↔ ∃ report ∈ reports, report.kind = .error :=
  exists_mem_iff_of_forall₂ (forall₂_of_readDocument kind_eq_error_iff_of_readReport hread)

end DocumentReader

end Platform

namespace CommandLine

/-- The status of a rendering that comes to its end is 1 if its document has an error, and 0
if it has none. -/
theorem status_of_rendered [Platform] {tree : FileTree} {args : List String}
    {arguments : RenderArguments}
    (haccepted : Accepted tree args (.render arguments)) {source bytes : List UInt8}
    (hsource : tree.bytesAt? arguments.source = some source)
    (hbytes : tree.bytesAt? arguments.diagnostics = some bytes)
    {rendered : List Report × List Rendering}
    (hrender : renderReports tree arguments source bytes = .ok rendered)
    (terminals : Terminals) :
    ∃ document output, Toml.read bytes = .ok document ∧
      run tree terminals args = .finished output ∧
      (output.status = 1 ↔ HasError document) ∧ (output.status = 0 ↔ ¬HasError document) := by
  obtain ⟨reports, renderings⟩ := rendered
  have hrun : run tree terminals args =
      .finished (outputOf terminals arguments.verbose reports renderings) := by
    simp only [run_of_accepted haccepted, runCommand, hsource, hbytes, bind_of_eq_ok hrender]
    rfl
  simp only [renderReports, bind_eq_ok_iff] at hrender
  obtain ⟨config, -, decoded, -, read, hread, drawn, -, hpure⟩ := hrender
  obtain ⟨rfl, -⟩ := Prod.mk.inj (Except.ok.inj hpure)
  obtain ⟨document, hdocument, hreports⟩ :=
    DocumentReader.readBytes_eq_ok_iff.mp (mapError_eq_ok_iff.mp hread)
  refine ⟨document, _, hdocument, hrun, ?_⟩
  rw [outputOf_eq, DocumentReader.hasError_iff_of_readDocument hreports]
  simp

/-! ### Two documents -/

/-- A source and a document. -/
def treeOf (document : String) : FileTree where
  files :=
    [(["main.src"], Utf8.encode "let a".toList), (["d.toml"], Utf8.encode document.toList)]

def sampleArgs : List String :=
  ["render", "--no-color", "main.src", "d.toml"]

def sampleArguments : RenderArguments where
  source := "main.src"
  diagnostics := "d.toml"
  noColor := true

theorem accepted_sampleArgs_of_fine {tree : FileTree}
    (hfine : CommandName.render.form.judge tree
      [.flag "--no-color", .operand "main.src", .operand "d.toml"] = .fine) :
    Accepted tree sampleArgs (.render sampleArguments) :=
  ⟨.render, [.flag "--no-color", .operand "main.src", .operand "d.toml"], by decide, hfine,
    by decide⟩

/-- A warning, a style that is named like an error, and an error. -/
def motleyText : String :=
  "[[report]]\nspan = [0, 1]\nkind = 'Warning'\n" ++
    "[[report]]\nspan = [0, 1]\nkind = 'Error'\ncolor = 'red'\n" ++
    "[[report]]\nspan = [4, 5]\nkind = 'eRRoR'\n"

def motleyEntries : List Toml.Table :=
  [[("span", .array [.int 0, .int 1]), ("kind", .text "Warning")],
    [("span", .array [.int 0, .int 1]), ("kind", .text "Error"), ("color", .text "red")],
    [("span", .array [.int 4, .int 5]), ("kind", .text "eRRoR")]]

theorem status_of_rendered_motleyText :
    ∃ output, run (treeOf motleyText) ⟨false, false⟩ sampleArgs = .finished output ∧
      output.status = 1 := by
  have haccepted : Accepted (treeOf motleyText) sampleArgs (.render sampleArguments) :=
    accepted_sampleArgs_of_fine (by decide +kernel)
  have hread : Toml.read (Utf8.encode motleyText.toList) =
      .ok [("report", .array (motleyEntries.map .table))] := Toml.read_of_reads (by decide +kernel)
  have hrendered : (renderReports (treeOf motleyText) sampleArguments
      (Utf8.encode "let a".toList) (Utf8.encode motleyText.toList)).toOption.isSome := by
    decide +kernel
  cases hrender : renderReports (treeOf motleyText) sampleArguments
      (Utf8.encode "let a".toList) (Utf8.encode motleyText.toList) with
  | error stop =>
      rw [hrender] at hrendered
      cases hrendered
  | ok rendered =>
      obtain ⟨document, output, hdocument, hrun, hone, -⟩ :=
        status_of_rendered haccepted (by decide +kernel) (by decide +kernel) hrender ⟨false, false⟩
      obtain rfl := Except.ok.inj (hread.symm.trans hdocument)
      refine ⟨output, hrun, hone.mpr ⟨_, .tail _ (.tail _ (.head _)), _, rfl, ?_, rfl⟩⟩
      intro value hvalue
      obtain rfl := Option.some.inj hvalue
      exact ⟨"eRRoR", rfl, by simp [Text.SameLetters]⟩

def reddenedText : String :=
  "[[report]]\nspan = [0, 1]\nkind = \x22Error\x22\ncolor = \x22red\x22\n"

def reddenedEntry : Toml.Table :=
  [("span", .array [.int 0, .int 1]), ("kind", .text "Error"), ("color", .text "red")]

/-- A report that is named like an error is rendered, and the status is 0. -/
theorem run_reddenedText :
    Accepted (treeOf reddenedText) sampleArgs (.render sampleArguments) ∧
      Toml.read (Utf8.encode reddenedText.toList) =
        .ok [("report", .array [.table reddenedEntry])] ∧
      NamesError reddenedEntry ∧
      run (treeOf reddenedText) ⟨false, false⟩ sampleArgs = .finished
        { status := 0, stdout := "Error: \n  ╭─[main.src:1:1]\n  │\n──╯\n".toList } := by
  refine ⟨accepted_sampleArgs_of_fine (by decide +kernel),
    Toml.read_of_reads (by decide +kernel), ?_, by decide +kernel⟩
  intro value hvalue
  obtain rfl := Option.some.inj hvalue
  exact ⟨"Error", rfl, Text.SameLetters.refl _⟩

end CommandLine

end Diagnostics
