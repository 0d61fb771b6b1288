import Diagnostics.Proofs.CommandLine.Completion
import Diagnostics.Proofs.CommandLine.Encoding
import Diagnostics.Proofs.CommandLine.NoColor
import Diagnostics.Proofs.Config.Message
import Diagnostics.Proofs.Report.EscapeFree

/-!
# Output without colours

Colours can be taken from the output of a rendering in two ways: by the flag for it, and by writing
to what is no terminal, which gets no escape sequences. The flag disables colour and turns escape
sequences off, so that the renderer removes those that are left; what is no terminal is spared a
wider form of sequences. If no text that the command comes to holds an escape character, both ways
lead to the same output, and a flag makes no difference where there is no terminal.
-/

namespace Diagnostics

/-! ### Options without colour -/

def Config.uncolored (config : Config) : Config :=
  { config with color := false, ansiMode := .off }

namespace CommandLine

theorem echo_of_painted {painted plain : List Char} (hpainted : Painted painted plain) :
    echo false painted = plain ++ ['\n'] :=
  (hpainted.append (.of_not_mem (by decide))).strip_eq EscapeForm.covers_control

section Platform

variable [Platform] {tree : FileTree} {arguments : RenderArguments} {args : List String}

/-- The flag changes two options and nothing else; it does not even matter for what goes wrong. -/
theorem effectiveConfig_uncolored (hsound : arguments.Sound tree) :
    effectiveConfig tree arguments.uncolored =
      (effectiveConfig tree arguments).map Config.uncolored := by
  have hbase : baseConfig tree arguments.uncolored = baseConfig tree arguments := rfl
  rw [effectiveConfig, effectiveConfig, hbase]
  cases baseConfig tree arguments with
  | error stop => rfl
  | ok base =>
      obtain ⟨config, hoverlay, hvalue⟩ := exists_overlay_forcedSettings base hsound.tabWidth
      have hwidth : ∀ width, arguments.uncolored.tabWidth = some width → 1 ≤ width :=
        hsound.tabWidth
      obtain ⟨plain, hplain, hplainValue⟩ := exists_overlay_forcedSettings base hwidth
      have heq : plain = config.uncolored := by
        apply Config.eq_of_value
        intro key
        have hsame := hvalue key
        rw [hplainValue]
        cases key with
        | color => rfl
        | ansiMode => rfl
        | _ => exact hsame.symm
      change (base.overlay _).mapError _ = ((base.overlay _).mapError _).map _
      rw [hoverlay, hplain, heq]
      rfl

/-! ### Renderings without paint -/

theorem renderAll_uncolored {cache : Cache} {source : Source} (verbose : Bool)
    {reports : List Report} (hfree : ∀ report ∈ reports, report.EscapeFree)
    (hsource : escapeChar ∉ source.text)
    (hfetch : ∀ report ∈ reports, cache.fetch (sourceName report.span.source) = .ok source) :
    renderAll cache verbose (reports.map Report.uncolored) =
      (renderAll cache verbose reports).map (List.map Rendering.stripped) := by
  induction reports with
  | nil => rfl
  | cons report rest ih =>
      obtain ⟨hreport, hrest⟩ := List.forall_mem_cons.mp hfree
      obtain ⟨hfirst, hothers⟩ := List.forall_mem_cons.mp hfetch
      rw [List.map_cons, renderAll, renderAll, render_uncolored hreport hsource hfirst,
        ih hrest hothers]
      cases render report cache defaultElision with
      | error cause => rfl
      | ok first => cases renderAll cache verbose rest <;> rfl

/-- The rendering without escape sequences is the same but for the paint. -/
def PaintedOnly (rendering : Rendering) : Prop :=
  Painted rendering.text rendering.stripped.text

/-- If the command ends with a message, it holds no escape character. -/
def Stop.EscapeFree (stop : Stop) : Prop :=
  stop.failure.EscapeFree CommandError.message

theorem Stop.EscapeFree.after {stop : Stop} (hfree : stop.EscapeFree) (written : List Char) :
    (stop.after written).EscapeFree := hfree

theorem ends_render {report : Report} {cache : Cache} {source : Source} (verbose : Bool)
    (hfree : report.EscapeFree) (hsource : escapeChar ∉ source.text)
    (hfetch : cache.fetch (sourceName report.span.source) = .ok source) :
    Ends PaintedOnly Stop.EscapeFree
      ((render report cache defaultElision).mapError (Stop.ofRenderError verbose)) := by
  cases hrender : render report cache defaultElision with
  | ok rendering => exact painted_of_render hfree hsource hfetch hrender
  | error cause =>
      cases cause with
      | missing cause =>
          have hmissing := (render_eq_missing_iff report cache defaultElision cause).mp hrender
          rw [hfetch] at hmissing
          cases hmissing
      | broken fault dropped => trivial

theorem ends_renderAll {cache : Cache} {source : Source} (verbose : Bool)
    {reports : List Report} (hfree : ∀ report ∈ reports, report.EscapeFree)
    (hsource : escapeChar ∉ source.text)
    (hfetch : ∀ report ∈ reports, cache.fetch (sourceName report.span.source) = .ok source) :
    Ends (fun renderings => ∀ rendering ∈ renderings, PaintedOnly rendering) Stop.EscapeFree
      (renderAll cache verbose reports) := by
  induction reports with
  | nil => exact List.forall_mem_nil _
  | cons report rest ih =>
      obtain ⟨hreport, hrest⟩ := List.forall_mem_cons.mp hfree
      obtain ⟨hfirst, hothers⟩ := List.forall_mem_cons.mp hfetch
      exact (ends_render verbose hreport hsource hfirst).cons fun _ =>
        (ih hrest hothers).mapError fun _ hstop => hstop.after _

/-! ### Output -/

/-- The paint is all that a terminal gets to see besides. -/
theorem outputOf_uncolored {renderings : List Rendering}
    (hpainted : ∀ rendering ∈ renderings, PaintedOnly rendering)
    (terminals : Terminals) (stderr verbose : Bool) (reports : List Report) :
    outputOf terminals verbose (reports.map Report.uncolored)
        (renderings.map Rendering.stripped) =
      outputOf ⟨false, stderr⟩ verbose reports renderings := by
  have htexts : List.Forall₂ Painted (renderings.map Rendering.text)
      ((renderings.map Rendering.stripped).map Rendering.text) := by
    rw [List.map_map, List.forall₂_map_left_iff, List.forall₂_map_right_iff, List.forall₂_same]
    exact hpainted
  have hjoined := Painted.intersperse (show escapeChar ∉ ['\n', '\n'] by decide) htexts
  have hstdout := (echo_of_escapeFree hjoined.escapeChar_not_mem terminals.stdout).trans
    (echo_of_painted hjoined).symm
  have hdropped : (renderings.map Rendering.stripped).flatMap Rendering.dropped =
      renderings.flatMap Rendering.dropped := List.flatMap_map ..
  have hstatus : (reports.map Report.uncolored).any (·.kind = .error) =
      reports.any (·.kind = .error) := List.any_map
  rw [outputOf, outputOf, hstdout, hdropped, hstatus]

theorem failWith_eq {stop : Stop} (hfree : stop.EscapeFree) (terminals others : Terminals) :
    failWith terminals stop = failWith others stop := by
  obtain ⟨failure, written⟩ := stop
  cases failure with
  | abrupt fault => rfl
  | reported cause =>
      have hline : escapeChar ∉ ("error: " ++ cause.message).toList :=
        escapeChar_not_mem_append (by decide) hfree
      simp only [failWith, echo_of_escapeFree hline]

theorem finish_renderAll_uncolored {cache : Cache} {source : Source} (verbose : Bool)
    {reports : List Report} (hfree : ∀ report ∈ reports, report.EscapeFree)
    (hsource : escapeChar ∉ source.text)
    (hfetch : ∀ report ∈ reports, cache.fetch (sourceName report.span.source) = .ok source)
    (terminals : Terminals) (stderr : Bool) :
    finish terminals (renderAll cache verbose (reports.map Report.uncolored) >>= fun renderings =>
        pure (outputOf terminals verbose (reports.map Report.uncolored) renderings)) =
      finish ⟨false, stderr⟩ (renderAll cache verbose reports >>= fun renderings =>
        pure (outputOf ⟨false, stderr⟩ verbose reports renderings)) := by
  have hends := ends_renderAll verbose hfree hsource hfetch
  rw [renderAll_uncolored verbose hfree hsource hfetch]
  cases hall : renderAll cache verbose reports with
  | error stop =>
      rw [hall] at hends
      exact failWith_eq hends ..
  | ok renderings =>
      rw [hall] at hends
      exact congrArg Outcome.finished (outputOf_uncolored hends terminals stderr verbose reports)

/-! ### Commands without escape characters -/

/-- Neither a path of the command nor anything that is read for it holds an escape character. -/
structure EscapeFree (tree : FileTree) (arguments : RenderArguments) : Prop where
  source : escapeChar ∉ arguments.source.toList
  diagnostics : escapeChar ∉ arguments.diagnostics.toList
  /-- The name of the configuration file is its path, without idle segments. -/
  config : ∀ {name bytes}, Selected tree arguments (some (name, bytes)) →
    escapeChar ∉ name.toList ∧ Toml.EscapeFree bytes
  text : ∀ {bytes text}, tree.bytesAt? arguments.source = some bytes →
    Utf8.decode bytes = .ok text → escapeChar ∉ text
  document : ∀ {bytes}, tree.bytesAt? arguments.diagnostics = some bytes → Toml.EscapeFree bytes

theorem ends_effectiveConfig (hsound : arguments.Sound tree) (hfree : EscapeFree tree arguments) :
    Ends (fun _ => True) Stop.EscapeFree (effectiveConfig tree arguments) := by
  cases hconfig : effectiveConfig tree arguments with
  | ok config => trivial
  | error stop =>
      obtain ⟨-, rfl⟩ | ⟨-, file, failure, hfile, hbase, rfl⟩ :=
        effectiveConfig_eq_error hsound hconfig
      · trivial
      · cases file with
        | none => cases hbase
        | some named =>
            obtain ⟨hname, hdocument⟩ := hfree.config hfile
            have hfailure := Config.escapeFree_of_ofFile hname hdocument hbase
            exact hfailure.map fun _ => rfl

theorem escapeFree_sourceEncoding {path : String} (hpath : escapeChar ∉ path.toList)
    (cause : Utf8.DecodeError) : (Stop.ofError (.sourceEncoding path cause)).EscapeFree := by
  have hline : escapeChar ∉
      ("error: " ++ (CommandError.sourceEncoding path cause).message ++ "\n").toList := by
    rw [message_encodingError]
    exact escapeChar_not_mem_append (escapeChar_not_mem_append (by decide) hpath)
      (escapeChar_not_mem_encodingComplaint cause.position cause.reason)
  intro hmessage
  rw [String.toList_append, String.toList_append] at hline
  exact hline (List.mem_append_left _ (List.mem_append_right _ hmessage))

theorem run_of_undecodable {config : Config} {bytes : List UInt8} {cause : Utf8.DecodeError}
    (haccepted : Accepted tree args (.render arguments))
    (hconfig : effectiveConfig tree arguments = .ok config)
    (hbytes : tree.bytesAt? arguments.source = some bytes)
    (hdecode : Utf8.decode bytes = .error cause) (terminals : Terminals) :
    run tree terminals args =
      failWith terminals (.ofError (.sourceEncoding arguments.source cause)) := by
  obtain ⟨document, hdocument⟩ := haccepted.sound.diagnostics
  simp only [run_of_accepted haccepted, runCommand, hbytes, hdocument, renderReports,
    bind_of_eq_ok hconfig, readSource, hdecode]
  rfl

/-- The flag changes how reports are drawn. What they are is read from the document in the same
way, and so is what is wrong with it. -/
theorem finish_renderDocument_uncolored (hfree : EscapeFree tree arguments) {config : Config}
    {source : Source} {document : List UInt8}
    (hready : Ready tree arguments config source document) (hname : arguments.source ≠ "")
    (terminals : Terminals) (stderr : Bool) :
    finish terminals
        (renderDocument arguments.uncolored terminals config.uncolored source document) =
      finish ⟨false, stderr⟩
        (renderDocument arguments ⟨false, stderr⟩ config source document) := by
  have hsource : escapeChar ∉ source.text := by
    obtain ⟨bytes, text, hbytes, hdecode, rfl⟩ := hready.source
    exact hfree.text hbytes hdecode
  have hclean : DocumentReader.Clean (fun reports => ∀ report ∈ reports, report.EscapeFree)
      (arguments.reader.readBytes config document) :=
    DocumentReader.clean_readBytes hfree.diagnostics hfree.source config
      (hfree.document hready.document)
  have hreader : arguments.uncolored.reader = arguments.reader := rfl
  rw [renderDocument, renderDocument, hreader,
    DocumentReader.readBytes_config arguments.reader config config.uncolored]
  cases hread : arguments.reader.readBytes config document with
  | error failure =>
      rw [hread] at hclean
      have hstop : Stop.EscapeFree ⟨failure.map .document, []⟩ :=
        Failure.EscapeFree.map hclean fun _ => rfl
      exact failWith_eq hstop ..
  | ok reports =>
      rw [hread] at hclean
      have hreports : (reports.map fun report => { report with config := config.uncolored }) =
          reports.map Report.uncolored := by
        apply List.map_congr_left
        intro report hreport
        rw [← DocumentReader.config_of_readBytes hread report hreport]
        rfl
      have hdrawn := finish_renderAll_uncolored arguments.verbose hclean hsource
        (fetch_of_readBytes hname hread source) terminals stderr
      rw [← hreports] at hdrawn
      exact hdrawn

/-- With the flag, a command writes what it writes without it to an output that is no terminal. -/
theorem run_uncolored {plainArgs : List String}
    (haccepted : Accepted tree args (.render arguments))
    (hplain : Accepted tree plainArgs (.render arguments.uncolored))
    (hfree : EscapeFree tree arguments) (terminals : Terminals) (stderr : Bool) :
    run tree terminals plainArgs = run tree ⟨false, stderr⟩ args := by
  have hsound : arguments.Sound tree := haccepted.sound
  have hconfigs := effectiveConfig_uncolored hsound
  have hends := ends_effectiveConfig hsound hfree
  cases hconfig : effectiveConfig tree arguments with
  | error stop =>
      rw [hconfig] at hconfigs hends
      rw [run_of_effectiveConfig_error hplain hconfigs,
        run_of_effectiveConfig_error haccepted hconfig]
      exact failWith_eq hends ..
  | ok config =>
      rw [hconfig] at hconfigs
      obtain ⟨bytes, hbytes⟩ := hsound.source
      obtain ⟨document, hdocument⟩ := hsound.diagnostics
      cases hdecode : Utf8.decode bytes with
      | error cause =>
          rw [run_of_undecodable hplain hconfigs hbytes hdecode,
            run_of_undecodable haccepted hconfig hbytes hdecode]
          exact failWith_eq (escapeFree_sourceEncoding hfree.source cause) ..
      | ok text =>
          have hready : Ready tree arguments config
              { text, displayOffset := arguments.lineOffset } document :=
            ⟨hconfig, ⟨bytes, text, hbytes, hdecode, rfl⟩, hdocument⟩
          have hplainReady : Ready tree arguments.uncolored config.uncolored
              { text, displayOffset := arguments.lineOffset } document :=
            ⟨hconfigs, ⟨bytes, text, hbytes, hdecode, rfl⟩, hdocument⟩
          rw [run_of_ready hplain hplainReady, run_of_ready haccepted hready]
          exact finish_renderDocument_uncolored hfree hready
            (tree.ne_empty_of_bytesAt? hbytes) terminals stderr

/-- What is no terminal gets from a command what it gets with the flag, and so does a terminal. The
flag can always be given. -/
theorem run_piped_eq (haccepted : Accepted tree args (.render arguments))
    (hfree : EscapeFree tree arguments) :
    Accepted tree (withNoColor args) (.render arguments.uncolored) ∧
      ∀ plainArgs, Accepted tree plainArgs (.render arguments.uncolored) →
        ∀ (stderr : Bool) (terminals : Terminals),
          run tree ⟨false, stderr⟩ args = run tree terminals plainArgs := by
  refine ⟨haccepted.uncolored, fun plainArgs hplain stderr terminals => ?_⟩
  exact (run_uncolored haccepted hplain hfree terminals stderr).symm

end Platform

/-- A report with a colour of its own, one label that is drawn and one that is dropped, and a
configuration file that asks for colours. -/
def colorfulTree : FileTree where
  files :=
    [(["main.src"], Utf8.encode "let π = 1;\n".toList),
      (["c.toml"], Utf8.encode "[render]\ncolor = true\nansi_mode = \x22on\x22\n".toList),
      (["d.toml"], Utf8.encode
        ("[[report]]\nspan = [4, 5]\ncolor = 5\n" ++
          "labels = [\x7bspan = [4, 5], msg = \x22m[1m\x22\x7d, \x7bspan = [9, 50]\x7d]").toList)]

def colorfulArgs : List String :=
  ["render", "-v", "--config", "./c.toml", "main.src", "d.toml"]

def colorfulArguments : RenderArguments where
  source := "main.src"
  diagnostics := "d.toml"
  config := some "./c.toml"
  verbose := true

theorem accepted_colorfulArgs : Accepted colorfulTree colorfulArgs (.render colorfulArguments) :=
  ⟨.render, [.flag "--verbose", .value "--config" "./c.toml", .operand "main.src",
    .operand "d.toml"], by decide, by decide, by decide⟩

theorem escapeFree_colorfulArguments : EscapeFree colorfulTree colorfulArguments where
  source := by decide
  diagnostics := by decide
  config := by
    intro name bytes hselected
    have hfree : ∀ bytes ∈ colorfulTree.bytesAt? "./c.toml", Toml.EscapeFree bytes := by
      decide +kernel
    have hgiven : colorfulArguments.config ≠ none := by decide
    cases hselected with
    | given hpath hbytes =>
        obtain rfl := Option.some.inj hpath
        exact ⟨by decide, hfree bytes hbytes⟩
    | aboveSource hnone => exact absurd hnone hgiven
    | aboveHere hnone => exact absurd hnone hgiven
  text := by
    intro bytes text hbytes hdecode
    have hfree : ∀ bytes ∈ colorfulTree.bytesAt? "main.src",
        ∀ text ∈ (Utf8.decode bytes).toOption, escapeChar ∉ text := by
      decide +kernel
    apply hfree bytes hbytes
    rw [hdecode]
    rfl
  document := by
    intro bytes hbytes
    have hfree : ∀ bytes ∈ colorfulTree.bytesAt? "d.toml", Toml.EscapeFree bytes := by
      decide +kernel
    exact hfree bytes hbytes

/-- On a terminal the colours show, and the flag takes them away. -/
theorem run_colorfulTree :
    Accepted colorfulTree colorfulArgs (.render colorfulArguments) ∧
      EscapeFree colorfulTree colorfulArguments ∧
      run colorfulTree ⟨false, false⟩ colorfulArgs =
        run colorfulTree ⟨true, false⟩ (withNoColor colorfulArgs) ∧
      run colorfulTree ⟨false, false⟩ colorfulArgs ≠
        run colorfulTree ⟨true, false⟩ colorfulArgs := by
  obtain ⟨hplain, hsame⟩ := run_piped_eq accepted_colorfulArgs escapeFree_colorfulArguments
  refine ⟨accepted_colorfulArgs, escapeFree_colorfulArguments,
    hsame _ hplain false ⟨true, false⟩, ?_⟩
  decide +kernel

end CommandLine

end Diagnostics
