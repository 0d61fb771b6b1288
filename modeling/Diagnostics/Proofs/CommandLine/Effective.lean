import Diagnostics.Proofs.CommandLine.Flags
import Diagnostics.Proofs.CommandLine.Selection
import Diagnostics.Proofs.Config.File
import Diagnostics.Proofs.Report.Document
import Diagnostics.Usual

/-!
# The options of a command

What flags do not force, the selected configuration file decides, and the defaults decide
what it leaves open. One file is selected at most, and no other is read. The command has
no options if that file cannot be read on its own, or if the search for it comes to a
path that is too long for the file system.
-/

namespace Diagnostics.CommandLine

section Platform

variable [Platform] {tree : FileTree} {arguments : RenderArguments}

/-- What a configuration file gives on its own; without a file these are the defaults. -/
def baseOf : Option (String × List UInt8) → Except (Failure ConfigFileError) Config
  | none => .ok Config.default
  | some (name, bytes) => Config.ofFile name bytes

/-- The value that a configuration file has for an option. -/
def fileValue? (file : Option (String × List UInt8)) (key : OptionKey) : Option Value :=
  file.bind fun named => (Toml.read named.2).toOption.bind fun document =>
    (document.option? key).map Value.settled

theorem value_of_baseOf {file : Option (String × List UInt8)} {base : Config}
    (hbase : baseOf file = .ok base) (key : OptionKey) :
    base.value key = (fileValue? file key).getD (Config.default.value key) := by
  cases file with
  | none =>
      obtain rfl := Except.ok.inj hbase
      rfl
  | some named =>
      obtain ⟨document, hread, hvalue⟩ := Config.value_of_ofFile hbase
      rw [hvalue, fileValue?, Option.bind_some, hread]
      rfl

theorem baseConfig_of_selectConfig {file : Option (String × List UInt8)}
    (hselect : selectConfig tree arguments = .ok file) :
    baseConfig tree arguments =
      (baseOf file).mapError fun failure => ⟨failure.map .configFile, []⟩ := by
  rw [baseConfig, bind_of_eq_ok hselect]
  cases file <;> rfl

theorem effectiveConfig_of_baseOf_error {file : Option (String × List UInt8)}
    {failure : Failure ConfigFileError} (hselect : selectConfig tree arguments = .ok file)
    (hbase : baseOf file = .error failure) :
    effectiveConfig tree arguments = .error ⟨failure.map .configFile, []⟩ := by
  rw [effectiveConfig, baseConfig_of_selectConfig hselect, hbase]
  rfl

theorem effectiveConfig_of_searchBreaks (hsound : arguments.Sound tree)
    (hbreaks : SearchBreaks tree arguments) :
    effectiveConfig tree arguments = .error (.ofFault .nameTooLong) := by
  obtain ⟨-, hselect⟩ | ⟨hsearch, -⟩ := selectionEnds hsound
  · rw [effectiveConfig, baseConfig, hselect]
    rfl
  · exact absurd hbreaks hsearch

/-- Flags are laid over the file; they suit their options, so this does not fail. -/
theorem effectiveConfig_of_baseOf_ok (hsound : arguments.Sound tree)
    {file : Option (String × List UInt8)} {base : Config}
    (hselect : selectConfig tree arguments = .ok file) (hbase : baseOf file = .ok base) :
    ∃ config, effectiveConfig tree arguments = .ok config ∧ ∀ key, config.value key =
      (arguments.forced? key).getD ((fileValue? file key).getD (Config.default.value key)) := by
  obtain ⟨config, hoverlay, hvalue⟩ := exists_overlay_forcedSettings base hsound.tabWidth
  refine ⟨config, ?_, fun key => ?_⟩
  · rw [effectiveConfig, baseConfig_of_selectConfig hselect, hbase]
    exact mapError_eq_ok_iff.mpr hoverlay
  · rw [hvalue, value_of_baseOf hbase]

/-- A command has no options for one of two reasons. -/
theorem effectiveConfig_eq_error {stop : Stop} (hsound : arguments.Sound tree)
    (hconfig : effectiveConfig tree arguments = .error stop) :
    (SearchBreaks tree arguments ∧ stop = .ofFault .nameTooLong) ∨
      ¬SearchBreaks tree arguments ∧ ∃ file failure, Selected tree arguments file ∧
        baseOf file = .error failure ∧ stop = ⟨failure.map .configFile, []⟩ := by
  obtain ⟨hbreaks, -⟩ | ⟨hsearch, file, hfile, hselect⟩ := selectionEnds hsound
  · rw [effectiveConfig_of_searchBreaks hsound hbreaks] at hconfig
    exact .inl ⟨hbreaks, (Except.error.inj hconfig).symm⟩
  · cases hbase : baseOf file with
    | error failure =>
        rw [effectiveConfig_of_baseOf_error hselect hbase] at hconfig
        exact .inr ⟨hsearch, file, failure, hfile, hbase, (Except.error.inj hconfig).symm⟩
    | ok base =>
        obtain ⟨config, hok, -⟩ := effectiveConfig_of_baseOf_ok hsound hselect hbase
        rw [hconfig] at hok
        cases hok

theorem exists_effectiveConfig_of_renderReports {source document : List UInt8}
    {reports : List Report} {renderings : List Rendering}
    (hrender : renderReports tree arguments source document = .ok (reports, renderings)) :
    ∃ config, effectiveConfig tree arguments = .ok config ∧
      ∀ report ∈ reports, report.config = config := by
  simp only [renderReports, bind_eq_ok_iff] at hrender
  obtain ⟨config, hconfig, decoded, -, read, hread, drawn, -, hpure⟩ := hrender
  obtain ⟨rfl, -⟩ := Prod.mk.inj (Except.ok.inj hpure)
  exact ⟨config, hconfig, DocumentReader.config_of_readBytes (mapError_eq_ok_iff.mp hread)⟩

theorem run_of_effectiveConfig_error {args : List String} {stop : Stop}
    (haccepted : Accepted tree args (.render arguments))
    (hconfig : effectiveConfig tree arguments = .error stop) (terminals : Terminals) :
    run tree terminals args = failWith terminals stop := by
  obtain ⟨source, hsource⟩ := haccepted.sound.source
  obtain ⟨document, hdocument⟩ := haccepted.sound.diagnostics
  simp only [run_of_accepted haccepted, runCommand, hsource, hdocument, renderReports, hconfig]
  rfl

/-- How the options of all reports of a command come about from its flags and from the
configuration file that counts for it. -/
structure Configured (tree : FileTree) (arguments : RenderArguments)
    (file : Option (String × List UInt8)) : Prop where
  selected : Selected tree arguments file
  only : ∀ other, Selected tree arguments other → other = file
  /-- The command has no options exactly if the file cannot be read on its own. -/
  fails_iff : (∃ stop, effectiveConfig tree arguments = .error stop) ↔
    ∃ failure, baseOf file = .error failure
  /-- Flags hide the file, and the file hides the defaults. -/
  value : ∀ {source document reports renderings},
    renderReports tree arguments source document = .ok (reports, renderings) →
    ∀ report ∈ reports, ∀ key, report.config.value key =
      (arguments.forced? key).getD ((fileValue? file key).getD (Config.default.value key))

/-- Either the search breaks off, or one file counts and decides about the options that no
flag forces. If that file fails, the command fails in the same way. -/
theorem options_of_accepted {args : List String}
    (haccepted : Accepted tree args (.render arguments)) (terminals : Terminals) :
    (SearchBreaks tree arguments ∧ run tree terminals args = .broken .nameTooLong []) ∨
      ¬SearchBreaks tree arguments ∧ ∃ file, Configured tree arguments file ∧
        ∀ failure, baseOf file = .error failure →
          run tree terminals args = failWith terminals ⟨failure.map .configFile, []⟩ := by
  have hsound : arguments.Sound tree := haccepted.sound
  obtain ⟨hbreaks, hselect⟩ | ⟨hsearch, file, hfile, hselect⟩ := selectionEnds hsound
  · left
    have hconfig := effectiveConfig_of_searchBreaks hsound hbreaks
    exact ⟨hbreaks, run_of_effectiveConfig_error haccepted hconfig terminals⟩
  · right
    refine ⟨hsearch, file, ⟨hfile, fun other hother => hother.eq hfile, ?_, ?_⟩, ?_⟩
    · constructor
      · rintro ⟨stop, hconfig⟩
        cases hbase : baseOf file with
        | error failure => exact ⟨failure, rfl⟩
        | ok base =>
            obtain ⟨config, hok, -⟩ := effectiveConfig_of_baseOf_ok hsound hselect hbase
            rw [hconfig] at hok
            cases hok
      · rintro ⟨failure, hbase⟩
        exact ⟨_, effectiveConfig_of_baseOf_error hselect hbase⟩
    · intro source document reports renderings hrender report hreport key
      obtain ⟨config, hconfig, hall⟩ := exists_effectiveConfig_of_renderReports hrender
      cases hbase : baseOf file with
      | error failure =>
          rw [effectiveConfig_of_baseOf_error hselect hbase] at hconfig
          cases hconfig
      | ok base =>
          obtain ⟨other, hother, hvalue⟩ := effectiveConfig_of_baseOf_ok hsound hselect hbase
          rw [hother] at hconfig
          rw [hall report hreport, ← Except.ok.inj hconfig]
          exact hvalue key
    · intro failure hbase
      exact run_of_effectiveConfig_error haccepted
        (effectiveConfig_of_baseOf_error hselect hbase) terminals

end Platform

/-- A source in a directory with a configuration file, which hides the one above it. -/
def layeredTree : FileTree where
  files :=
    [(["work", "lib", "main.src"], Utf8.encode "let a = 1;".toList),
      (["work", "d.toml"], Utf8.encode "[[report]]\nspan = [4, 5]\n".toList),
      (["work", "lib", "skein.toml"], Utf8.encode "[render]\ntab_width = 8\n".toList),
      (["work", "skein.toml"], Utf8.encode "[render]\ncompact = 1\n".toList)]
  workingDirectory := ["work"]

def layeredArguments : RenderArguments where
  source := "lib/../lib/main.src"
  diagnostics := "d.toml"
  ascii := true
  tabWidth := some 2

theorem accepted_layeredArguments :
    Accepted layeredTree
      ["render", "--ascii", "lib/../lib/main.src", "--tab-width", "2", "d.toml"]
      (.render layeredArguments) :=
  ⟨.render, [.flag "--ascii", .operand "lib/../lib/main.src", .value "--tab-width" "2",
    .operand "d.toml"], by decide +kernel, by decide +kernel, by decide +kernel⟩

theorem nearestConfig_layeredTree :
    layeredTree.NearestConfig (layeredTree.place layeredArguments.source).dropLast
      ["work", "lib"] := by
  have hdirectory : (layeredTree.place layeredArguments.source).dropLast = ["work", "lib"] := by
    decide +kernel
  rw [hdirectory]
  exact ⟨List.prefix_rfl, by decide +kernel, fun nearer hnearer hlt =>
    absurd hnearer.length_le (Nat.not_le_of_lt hlt)⟩

theorem options_of_layeredArguments :
    Accepted layeredTree
        ["render", "--ascii", "lib/../lib/main.src", "--tab-width", "2", "d.toml"]
        (.render layeredArguments) ∧
      ¬SearchBreaks layeredTree layeredArguments ∧
      Configured layeredTree layeredArguments
        (some ("/work/lib/skein.toml", Utf8.encode "[render]\ntab_width = 8\n".toList)) := by
  have hnearest := nearestConfig_layeredTree
  have hselected : Selected layeredTree layeredArguments
      (some ("/work/lib/skein.toml", Utf8.encode "[render]\ntab_width = 8\n".toList)) := by
    have hname : absoluteName (configIn ["work", "lib"]) = "/work/lib/skein.toml" := by
      decide +kernel
    exact hname ▸ .aboveSource rfl hnearest (by decide +kernel)
  have hsearch : ¬SearchBreaks layeredTree layeredArguments := by
    have hsource : ¬layeredTree.Unsearchable (layeredTree.place layeredArguments.source) := by
      decide +kernel
    exact fun hbreaks => hbreaks.2.elim hsource fun hhere => hnearest.not_hasNoConfig hhere.1
  obtain ⟨hbreaks, -⟩ | ⟨-, file, hfile, -⟩ :=
    options_of_accepted accepted_layeredArguments ⟨false, false⟩
  · exact absurd hbreaks hsearch
  · exact ⟨accepted_layeredArguments, hsearch, hfile.only _ hselected ▸ hfile⟩

/-! ### A working directory that is too deep -/

/-- Both files of the command are within reach, but a file with the name of a configuration
file would not be. -/
def deepDirectory : FilePlace :=
  ["tmp", "scratchroot"] ++
    List.replicate 15 (String.ofList (List.replicate 255 'd')) ++
    [String.ofList (List.replicate 230 'd')]

def deepTree : FileTree where
  files :=
    [(deepDirectory ++ ["s"], Utf8.encode "let a".toList),
      (deepDirectory ++ ["d"],
        Utf8.encode "[[report]]\nspan = [0, 1]\nkind = \x22Warning\x22\n".toList)]
  workingDirectory := deepDirectory

def deepArguments : RenderArguments where
  source := "s"
  diagnostics := "d"

theorem outOfReach_deepDirectory : deepTree.OutOfReach (configIn deepDirectory) := by
  have hsize : ["tmp", "scratchroot", configFileName].map String.utf8ByteSize = [3, 11, 10] := by
    decide +kernel
  simp only [List.map_cons, List.map_nil, List.cons.injEq, and_true] at hsize
  left
  rw [utf8ByteSize_absoluteName (configIn_ne_nil _)]
  simp only [configIn, deepDirectory, List.map_append, List.map_replicate, List.sum_append,
    List.map_cons, List.map_nil, List.sum_cons, List.sum_nil, List.sum_replicate_nat,
    utf8ByteSize_replicate, hsize]
  decide

theorem content?_deepTree_source :
    deepTree.content? (deepDirectory ++ ["s"]) = some (Utf8.encode "let a".toList) := by
  simp [FileTree.content?, deepTree]

theorem content?_deepTree_document :
    deepTree.content? (deepDirectory ++ ["d"]) =
      some (Utf8.encode "[[report]]\nspan = [0, 1]\nkind = \x22Warning\x22\n".toList) := by
  simp [FileTree.content?, deepTree]

theorem hasNoConfig_deepTree : deepTree.HasNoConfig deepDirectory := by
  intro above habove
  simp [FileTree.isFile, FileTree.content?, deepTree, configIn, configFileName]

theorem bytesAt?_deepTree_source :
    deepTree.bytesAt? "s" = some (Utf8.encode "let a".toList) :=
  deepTree.bytesAt?_of_name (by decide +kernel) (by decide) (by decide) (by decide)
    content?_deepTree_source

theorem accepted_deepArguments :
    Accepted deepTree ["render", "s", "d"] (.render deepArguments) := by
  have hdocument : deepTree.bytesAt? "d" = _ :=
    deepTree.bytesAt?_of_name (by decide +kernel) (by decide) (by decide) (by decide)
      content?_deepTree_document
  have hnull : hasNull "s" = false ∧ hasNull "d" = false := by decide
  refine ⟨.render, [.operand "s", .operand "d"], by decide +kernel,
    fine_of_operands rfl (.cons ?_ (.cons ?_ .nil)), by decide +kernel⟩
  · simp only [ValueKind.judge, hnull.1, bytesAt?_deepTree_source]
    rfl
  · simp only [ValueKind.judge, hnull.2, hdocument]
    rfl

/-- No configuration file counts here, and still there are no options. -/
theorem run_deepArguments :
    Accepted deepTree ["render", "s", "d"] (.render deepArguments) ∧
      Selected deepTree deepArguments none ∧
      effectiveConfig deepTree deepArguments = .error (.ofFault .nameTooLong) ∧
      run deepTree ⟨false, false⟩ ["render", "s", "d"] = .broken .nameTooLong [] := by
  have hplace : deepTree.place "s" = deepDirectory ++ ["s"] := by
    simp [FileTree.place, pathSegments, splitSegments, consFirst, FileTree.startOf, isAbsolute,
      followSegment, isIdleSegment, deepTree]
  have hsource : (deepTree.place deepArguments.source).dropLast = deepDirectory := by
    rw [deepArguments, hplace, List.dropLast_concat]
  have hhere : deepTree.directoryOf deepTree.workingDirectory = deepDirectory := by
    simp [FileTree.directoryOf, FileTree.isFile, FileTree.content?, deepTree]
  have hbreaks : SearchBreaks deepTree deepArguments := by
    refine ⟨rfl, .inl (.inr ?_)⟩
    have hdirectory : deepTree.directoryOf (deepTree.place deepArguments.source) = _ :=
      deepTree.directoryOf_place_of_bytesAt? bytesAt?_deepTree_source
    rw [hdirectory, hsource]
    exact outOfReach_deepDirectory
  have hconfig := effectiveConfig_of_searchBreaks accepted_deepArguments.sound hbreaks
  exact ⟨accepted_deepArguments,
    .nowhere rfl (hsource ▸ hasNoConfig_deepTree) (hhere ▸ hasNoConfig_deepTree), hconfig,
    run_of_effectiveConfig_error accepted_deepArguments hconfig ⟨false, false⟩⟩

end Diagnostics.CommandLine
