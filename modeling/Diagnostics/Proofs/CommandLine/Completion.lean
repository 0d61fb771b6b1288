import Diagnostics.Proofs.CommandLine.Effective
import Diagnostics.Proofs.Render.Outcome
import Diagnostics.Proofs.Report.Unforeseen
import Diagnostics.Proofs.Source.Cache
import Diagnostics.Usual

/-!
# How commands end

A command with accepted arguments writes its full output, or one line about what is wrong
and nothing else. A rendering breaks off without a word where its files are of a kind that
nothing was foreseen for. It is said exactly when that is; the other commands never do.
-/

namespace Diagnostics.CommandLine

section Platform

variable [Platform]

/-- A rendering has its options and its source, and comes to its document. -/
structure Ready (tree : FileTree) (arguments : RenderArguments) (config : Config)
    (source : Source) (document : List UInt8) : Prop where
  config : effectiveConfig tree arguments = .ok config
  source : ∃ bytes text, tree.bytesAt? arguments.source = some bytes ∧
    Utf8.decode bytes = .ok text ∧ source = { text, displayOffset := arguments.lineOffset }
  document : tree.bytesAt? arguments.diagnostics = some document

/-- The reader of the document of a rendering. -/
def RenderArguments.reader (arguments : RenderArguments) : DocumentReader :=
  ⟨arguments.diagnostics, arguments.source⟩

/-- The full output of a command. -/
inductive FullOutput (tree : FileTree) (terminals : Terminals) : Command → Output → Prop
  | lines {file bytes text} (hbytes : tree.bytesAt? file = some bytes)
      (hdecode : Utf8.decode bytes = .ok text) :
      FullOutput tree terminals (.lines file)
        { status := 0, stdout := (dumpRows { text }).flatMap (echo terminals.stdout) }
  | locate {file offset unit bytes text} (hbytes : tree.bytesAt? file = some bytes)
      (hdecode : Utf8.decode bytes = .ok text) :
      FullOutput tree terminals (.locate file offset unit)
        { status := 0, stdout := echo terminals.stdout (locationText { text } offset unit) }
  /-- All reports of the document are rendered; the status tells of errors among them. -/
  | render {arguments config source document reports renderings}
      (hready : Ready tree arguments config source document)
      (hread : arguments.reader.readBytes config document = .ok reports)
      (hrender : List.Forall₂ (fun report rendering =>
        render report (.ofList [(arguments.source, source)]) defaultElision = .ok rendering)
        reports renderings) :
      FullOutput tree terminals (.render arguments)
        { status := if ∃ report ∈ reports, report.kind = .error then 1 else 0
          stdout :=
            echo terminals.stdout
              ((renderings.map Rendering.text).intersperse ['\n', '\n']).flatten
          stderr := logged arguments.verbose (renderings.flatMap Rendering.dropped) }

/-- What is wrong with the files of a command. -/
inductive Refused (tree : FileTree) : Command → CommandError → Prop
  | lines {file bytes cause} (hbytes : tree.bytesAt? file = some bytes)
      (hdecode : Utf8.decode bytes = .error cause) :
      Refused tree (.lines file) (.sourceEncoding file cause)
  | locate {file offset unit bytes cause} (hbytes : tree.bytesAt? file = some bytes)
      (hdecode : Utf8.decode bytes = .error cause) :
      Refused tree (.locate file offset unit) (.sourceEncoding file cause)
  | config {arguments name bytes cause} (hsearch : ¬SearchBreaks tree arguments)
      (hselected : Selected tree arguments (some (name, bytes)))
      (hfile : Config.ofFile name bytes = .error (.reported cause)) :
      Refused tree (.render arguments) (.configFile cause)
  | source {arguments config bytes cause} (hconfig : effectiveConfig tree arguments = .ok config)
      (hbytes : tree.bytesAt? arguments.source = some bytes)
      (hdecode : Utf8.decode bytes = .error cause) :
      Refused tree (.render arguments) (.sourceEncoding arguments.source cause)
  | document {arguments config source document cause}
      (hready : Ready tree arguments config source document)
      (hread : arguments.reader.readBytes config document = .error (.reported cause)) :
      Refused tree (.render arguments) (.document cause)

/-- A command comes to something that nothing was foreseen for. -/
inductive Unforeseen (tree : FileTree) : Command → Fault → Prop
  | search {arguments} (hbreaks : SearchBreaks tree arguments) :
      Unforeseen tree (.render arguments) .nameTooLong
  | config {arguments name bytes fault} (hsearch : ¬SearchBreaks tree arguments)
      (hselected : Selected tree arguments (some (name, bytes)))
      (hbreaks : Config.Breaks bytes fault) : Unforeseen tree (.render arguments) fault
  | document {arguments config source document fault}
      (hready : Ready tree arguments config source document)
      (hbreaks : DocumentBreaks arguments.reader config document fault) :
      Unforeseen tree (.render arguments) fault
  /-- A report shows a line number with too many digits or a tab too wide for the memory. -/
  | rendering {arguments config source document reports fault}
      (hready : Ready tree arguments config source document)
      (hread : arguments.reader.readBytes config document = .ok reports)
      (hfault : reports.findSome? (firstFault? · source) = some fault) :
      Unforeseen tree (.render arguments) fault

/-! ### Rendering all reports -/

theorem renderAll_of_no_fault {cache : Cache} {source : Source} (verbose : Bool)
    {reports : List Report}
    (hfetch : ∀ report ∈ reports, cache.fetch (sourceName report.span.source) = .ok source)
    (hfault : reports.findSome? (firstFault? · source) = none) :
    ∃ renderings, renderAll cache verbose reports = .ok renderings ∧
      List.Forall₂ (fun report rendering => render report cache defaultElision = .ok rendering)
        reports renderings := by
  induction reports with
  | nil => exact ⟨[], rfl, .nil⟩
  | cons report rest ih =>
      obtain ⟨hreport, hrest⟩ := List.forall_mem_cons.mp hfetch
      obtain ⟨hnone, hothers⟩ := List.forall_mem_cons.mp (List.findSome?_eq_none_iff.mp hfault)
      have hrender := render_of_no_fault hreport hnone defaultElision
      obtain ⟨renderings, hall, hforall⟩ := ih hrest (List.findSome?_eq_none_iff.mpr hothers)
      exact ⟨_ :: renderings, by rw [renderAll, hrender, hall]; rfl, .cons hrender hforall⟩

theorem renderAll_of_fault {cache : Cache} {source : Source} (verbose : Bool)
    {reports : List Report} {fault : Fault}
    (hfetch : ∀ report ∈ reports, cache.fetch (sourceName report.span.source) = .ok source)
    (hfault : reports.findSome? (firstFault? · source) = some fault) :
    ∃ written, renderAll cache verbose reports = .error ⟨.abrupt fault, written⟩ := by
  induction reports with
  | nil => cases hfault
  | cons report rest ih =>
      obtain ⟨hreport, hrest⟩ := List.forall_mem_cons.mp hfetch
      rw [List.findSome?_cons] at hfault
      cases hfirst : firstFault? report source with
      | some first =>
          rw [hfirst] at hfault
          obtain rfl := Option.some.inj hfault
          rw [renderAll, render_of_fault hreport hfirst]
          exact ⟨_, rfl⟩
      | none =>
          rw [hfirst] at hfault
          obtain ⟨written, hall⟩ := ih hrest hfault
          rw [renderAll, render_of_no_fault hreport hfirst, hall]
          exact ⟨_, rfl⟩

variable {tree : FileTree} {arguments : RenderArguments} {args : List String}

/-- All reports are on the source of the command, which is the one in the cache. -/
theorem fetch_of_readBytes {config : Config} {document : List UInt8} {reports : List Report}
    (hname : arguments.source ≠ "")
    (hread : arguments.reader.readBytes config document = .ok reports) (source : Source) :
    ∀ report ∈ reports,
      (Cache.ofList [(arguments.source, source)]).fetch (sourceName report.span.source) =
        .ok source := by
  intro report hreport
  have hon := DocumentReader.on_of_readBytes hread report hreport
  have hid : sourceName report.span.source = arguments.source := by
    rw [hon.1]
    exact sourceName_of_ne hname
  rw [hid, Cache.fetch_ofList_singleton]

/-- What is left of a rendering once it comes to its document. -/
def renderDocument (arguments : RenderArguments) (terminals : Terminals) (config : Config)
    (source : Source) (document : List UInt8) : Result Output := do
  let reports ←
    (arguments.reader.readBytes config document).mapError fun failure =>
      ⟨failure.map .document, []⟩
  let renderings ← renderAll (.ofList [(arguments.source, source)]) arguments.verbose reports
  pure (outputOf terminals arguments.verbose reports renderings)

theorem run_of_ready {config : Config} {source : Source} {document : List UInt8}
    (haccepted : Accepted tree args (.render arguments))
    (hready : Ready tree arguments config source document) (terminals : Terminals) :
    run tree terminals args =
      finish terminals (renderDocument arguments terminals config source document) := by
  obtain ⟨bytes, text, hbytes, hdecode, rfl⟩ := hready.source
  have hsource : readSource arguments.source bytes = .ok { text } := by
    simp only [readSource, hdecode]
  simp only [run_of_accepted haccepted, runCommand, hbytes, hready.document, renderReports,
    bind_of_eq_ok hready.config, bind_of_eq_ok hsource, renderDocument, bind_assoc, pure_bind]
  rfl

theorem outputOf_eq (terminals : Terminals) (verbose : Bool) (reports : List Report)
    (renderings : List Rendering) :
    outputOf terminals verbose reports renderings =
      { status := if ∃ report ∈ reports, report.kind = .error then 1 else 0
        stdout :=
          echo terminals.stdout ((renderings.map Rendering.text).intersperse ['\n', '\n']).flatten
        stderr := logged verbose (renderings.flatMap Rendering.dropped) } := by
  rw [outputOf]
  simp only [List.any_eq_true, decide_eq_true_eq]

theorem renderDocument_of_no_fault (terminals : Terminals) {config : Config} {source : Source}
    {document : List UInt8} {reports : List Report}
    (hready : Ready tree arguments config source document) (hname : arguments.source ≠ "")
    (hread : arguments.reader.readBytes config document = .ok reports)
    (hfault : reports.findSome? (firstFault? · source) = none) :
    ∃ output, FullOutput tree terminals (.render arguments) output ∧
      renderDocument arguments terminals config source document = .ok output := by
  obtain ⟨renderings, hall, hrender⟩ :=
    renderAll_of_no_fault arguments.verbose (fetch_of_readBytes hname hread source) hfault
  refine ⟨_, .render hready hread hrender, ?_⟩
  rw [renderDocument, hread, ← outputOf_eq]
  exact bind_of_eq_ok hall

theorem renderDocument_of_fault (terminals : Terminals) {config : Config} {source : Source}
    {document : List UInt8} {reports : List Report} {fault : Fault} (hname : arguments.source ≠ "")
    (hread : arguments.reader.readBytes config document = .ok reports)
    (hfault : reports.findSome? (firstFault? · source) = some fault) :
    ∃ written, renderDocument arguments terminals config source document =
      .error ⟨.abrupt fault, written⟩ := by
  obtain ⟨written, hall⟩ :=
    renderAll_of_fault arguments.verbose (fetch_of_readBytes hname hread source) hfault
  refine ⟨written, ?_⟩
  rw [renderDocument, hread]
  exact (bind_of_eq_ok rfl).trans (bind_eq_error_iff.mpr (.inl hall))

theorem renderDocument_of_unread (terminals : Terminals) {config : Config} (source : Source)
    {document : List UInt8} {failure : Failure DocumentError}
    (hread : arguments.reader.readBytes config document = .error failure) :
    renderDocument arguments terminals config source document =
      .error ⟨failure.map .document, []⟩ := by
  rw [renderDocument, hread]
  rfl

/-! ### All commands -/

/-- How a command ends: with its full output, with what is wrong, or broken off. -/
inductive Ending (tree : FileTree) (terminals : Terminals) (command : Command) : Outcome → Prop
  | full {output} (houtput : FullOutput tree terminals command output) :
      Ending tree terminals command (.finished output)
  | refused {cause} (hrefused : Refused tree command cause) :
      Ending tree terminals command
        (.finished
          { status := 1, stderr := echo terminals.stderr ("error: " ++ cause.message).toList })
  | broken {fault written} (hunforeseen : Unforeseen tree command fault) :
      Ending tree terminals command (.broken fault written)

theorem ending_of_ready {config : Config} {source : Source} {document : List UInt8}
    (haccepted : Accepted tree args (.render arguments))
    (hready : Ready tree arguments config source document) (terminals : Terminals) :
    Ending tree terminals (.render arguments) (run tree terminals args) := by
  have hname : arguments.source ≠ "" := by
    obtain ⟨bytes, hbytes⟩ := haccepted.sound.source
    exact tree.ne_empty_of_bytesAt? hbytes
  rw [run_of_ready haccepted hready]
  cases hread : arguments.reader.readBytes config document with
  | error failure =>
      rw [renderDocument_of_unread terminals source hread]
      cases failure with
      | reported cause => exact .refused (.document hready hread)
      | abrupt fault =>
          exact .broken (.document hready (DocumentReader.readBytes_eq_abrupt_iff.mp hread))
  | ok reports =>
      cases hfault : reports.findSome? (firstFault? · source) with
      | none =>
          obtain ⟨output, houtput, hdone⟩ :=
            renderDocument_of_no_fault terminals hready hname hread hfault
          rw [hdone]
          exact .full houtput
      | some fault =>
          obtain ⟨written, hdone⟩ := renderDocument_of_fault terminals hname hread hfault
          rw [hdone]
          exact .broken (.rendering hready hread hfault)

theorem ending_of_render (haccepted : Accepted tree args (.render arguments))
    (terminals : Terminals) :
    Ending tree terminals (.render arguments) (run tree terminals args) := by
  have hsound : arguments.Sound tree := haccepted.sound
  cases hconfig : effectiveConfig tree arguments with
  | error stop =>
      rw [run_of_effectiveConfig_error haccepted hconfig]
      obtain ⟨hbreaks, rfl⟩ | ⟨hsearch, file, failure, hfile, hbase, rfl⟩ :=
        effectiveConfig_eq_error hsound hconfig
      · exact .broken (.search hbreaks)
      · cases file with
        | none => cases hbase
        | some named =>
            cases failure with
            | reported cause => exact .refused (.config hsearch hfile hbase)
            | abrupt fault =>
                exact .broken (.config hsearch hfile (Config.ofFile_eq_abrupt_iff.mp hbase))
  | ok config =>
      obtain ⟨bytes, hbytes⟩ := hsound.source
      obtain ⟨document, hdocument⟩ := hsound.diagnostics
      cases hdecode : Utf8.decode bytes with
      | error cause =>
          simp only [run_of_accepted haccepted, runCommand, hbytes, hdocument, renderReports,
            bind_of_eq_ok hconfig, readSource, hdecode]
          exact .refused (.source hconfig hbytes hdecode)
      | ok text =>
          exact ending_of_ready haccepted ⟨hconfig, ⟨bytes, text, hbytes, hdecode, rfl⟩, hdocument⟩
            terminals

theorem ending_of_lines {file : String} (haccepted : Accepted tree args (.lines file))
    (terminals : Terminals) : Ending tree terminals (.lines file) (run tree terminals args) := by
  obtain ⟨bytes, hbytes⟩ := haccepted.sound
  rw [run_of_accepted haccepted]
  cases hdecode : Utf8.decode bytes with
  | error cause =>
      simp only [runCommand, hbytes, readSource, hdecode]
      exact .refused (.lines hbytes hdecode)
  | ok text =>
      simp only [runCommand, hbytes, readSource, hdecode]
      exact .full (.lines hbytes hdecode)

theorem ending_of_locate {file : String} {offset : Int} {unit : OffsetUnit}
    (haccepted : Accepted tree args (.locate file offset unit)) (terminals : Terminals) :
    Ending tree terminals (.locate file offset unit) (run tree terminals args) := by
  obtain ⟨bytes, hbytes⟩ := haccepted.sound
  rw [run_of_accepted haccepted]
  cases hdecode : Utf8.decode bytes with
  | error cause =>
      simp only [runCommand, hbytes, readSource, hdecode]
      exact .refused (.locate hbytes hdecode)
  | ok text =>
      simp only [runCommand, hbytes, readSource, hdecode]
      exact .full (.locate hbytes hdecode)

theorem ending_of_accepted {command : Command} (haccepted : Accepted tree args command)
    (terminals : Terminals) : Ending tree terminals command (run tree terminals args) := by
  cases command with
  | render arguments => exact ending_of_render haccepted terminals
  | lines file => exact ending_of_lines haccepted terminals
  | locate file offset unit => exact ending_of_locate haccepted terminals

theorem run_of_unforeseen {command : Command} {fault : Fault}
    (haccepted : Accepted tree args command) (terminals : Terminals)
    (hunforeseen : Unforeseen tree command fault) :
    ∃ written, run tree terminals args = .broken fault written := by
  cases hunforeseen with
  | search hbreaks =>
      have hconfig := effectiveConfig_of_searchBreaks haccepted.sound hbreaks
      rw [run_of_effectiveConfig_error haccepted hconfig]
      exact ⟨_, rfl⟩
  | config hsearch hselected hbreaks =>
      have hselect := selectConfig_of_selected haccepted.sound hsearch hselected
      have hconfig := effectiveConfig_of_baseOf_error hselect
        (Config.ofFile_eq_abrupt_iff.mpr hbreaks)
      rw [run_of_effectiveConfig_error haccepted hconfig]
      exact ⟨_, rfl⟩
  | document hready hbreaks =>
      rw [run_of_ready haccepted hready, renderDocument_of_unread terminals _
        (DocumentReader.readBytes_eq_abrupt_iff.mpr hbreaks)]
      exact ⟨_, rfl⟩
  | rendering hready hread hfault =>
      obtain ⟨bytes, hbytes⟩ := Accepted.sound haccepted |>.source
      obtain ⟨written, hdone⟩ := renderDocument_of_fault terminals
        (tree.ne_empty_of_bytesAt? hbytes) hread hfault
      rw [run_of_ready haccepted hready, hdone]
      exact ⟨_, rfl⟩

/-- Accepted arguments make a command. It breaks off exactly if it comes to something
unforeseen, which only a rendering can; else it writes its full output, or says what is
wrong and writes nothing else. -/
theorem run_completes {name : CommandName} {items : List Item}
    (hrequest : readRequest args = .command name items)
    (hfine : name.form.judge tree items = .fine) (terminals : Terminals) :
    ∃ command, Accepted tree args command ∧
      (∀ fault, (∃ written, run tree terminals args = .broken fault written) ↔
        Unforeseen tree command fault) ∧
      ((∀ fault, ¬Unforeseen tree command fault) →
        (∃ output, FullOutput tree terminals command output ∧
          run tree terminals args = .finished output) ∨
        ∃ cause, Refused tree command cause ∧ run tree terminals args = .finished
          { status := 1
            stderr := echo terminals.stderr ("error: " ++ cause.message).toList }) := by
  obtain ⟨command, hread, -⟩ := exists_command_of_fine hfine
  have haccepted : Accepted tree args command := ⟨name, items, hrequest, hfine, hread⟩
  have hending := ending_of_accepted haccepted terminals
  refine ⟨command, haccepted, fun fault => ⟨?_, run_of_unforeseen haccepted terminals⟩, ?_⟩
  · rintro ⟨written, hbroken⟩
    rw [hbroken] at hending
    cases hending with
    | broken hunforeseen => exact hunforeseen
  · intro hforeseen
    generalize run tree terminals args = outcome at hending
    cases hending with
    | full houtput => exact .inl ⟨_, houtput, rfl⟩
    | refused hrefused => exact .inr ⟨_, hrefused, rfl⟩
    | broken hunforeseen => exact absurd hunforeseen (hforeseen _)

end Platform

/-- The document says that a report has the labels 5. -/
def numberedTree : FileTree where
  files :=
    [(["main.src"], Utf8.encode "let a".toList),
      (["d.toml"], Utf8.encode "[[report]]\nspan = [0, 1]\nlabels = 5\n".toList)]

theorem run_numberedTree :
    run numberedTree ⟨false, false⟩ ["render", "main.src", "d.toml"] =
      .broken .notIterable [] := by
  decide +kernel

theorem run_completes_numberedTree :
    readRequest ["render", "main.src", "d.toml"] =
        .command .render [.operand "main.src", .operand "d.toml"] ∧
      CommandName.render.form.judge numberedTree [.operand "main.src", .operand "d.toml"] =
        .fine ∧
      ∃ command, Accepted numberedTree ["render", "main.src", "d.toml"] command ∧
        Unforeseen numberedTree command .notIterable := by
  have hrequest : readRequest ["render", "main.src", "d.toml"] =
      .command .render [.operand "main.src", .operand "d.toml"] := by decide +kernel
  have hfine : CommandName.render.form.judge numberedTree
      [.operand "main.src", .operand "d.toml"] = .fine := by decide +kernel
  obtain ⟨command, haccepted, hbroken, -⟩ := run_completes hrequest hfine ⟨false, false⟩
  exact ⟨hrequest, hfine, command, haccepted, (hbroken _).mp ⟨[], run_numberedTree⟩⟩

/-- A command that is accepted neither writes its output nor says what is wrong. -/
theorem run_numberedTree_not_finished :
    (∃ command, Accepted numberedTree ["render", "main.src", "d.toml"] command) ∧
      ∀ output,
        run numberedTree ⟨false, false⟩ ["render", "main.src", "d.toml"] ≠ .finished output := by
  refine ⟨⟨_, .render, [.operand "main.src", .operand "d.toml"], by decide +kernel,
    by decide +kernel, rfl⟩, fun output => ?_⟩
  rw [run_numberedTree]
  nofun

end Diagnostics.CommandLine
