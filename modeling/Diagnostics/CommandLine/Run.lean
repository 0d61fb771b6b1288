import Diagnostics.CommandLine.Arguments
import Diagnostics.FileTree
import Diagnostics.Render.Basic
import Diagnostics.Report.Document

/-!
# Running a command

A run is a function of the file tree, of which of the output and the errors go to a terminal, and of
the arguments. A failure with a message ends a run with status one, nothing on the output, and the
message among the errors; a fault ends it without a message.
-/

namespace Diagnostics.CommandLine

variable [Platform]

/-- Why a command fails with a message. -/
inductive CommandError where
  | configFile (cause : ConfigFileError)
  | config (cause : ConfigError)
  | sourceEncoding (path : String) (cause : Utf8.DecodeError)
  | document (cause : DocumentError)
  | missingSource (cause : MissingSource)
  deriving Repr

def CommandError.message : CommandError → String
  | .configFile cause => cause.message
  | .config cause => cause.message
  | .sourceEncoding path cause =>
      path ++ ": not valid UTF-8 at byte " ++ toString cause.position ++ " (" ++
        cause.reason.message ++ ")"
  | .document cause => cause.message
  | .missingSource cause => cause.message

/-- Why a command ends early, and what it has written among the errors by then. -/
structure Stop where
  failure : Failure CommandError
  written : List Char := []
  deriving Repr

def Stop.ofError (cause : CommandError) : Stop :=
  ⟨.reported cause, []⟩

def Stop.ofFault (fault : Fault) : Stop :=
  ⟨.abrupt fault, []⟩

abbrev Result := Except Stop

/-- What a command writes, and the status it ends with. -/
structure Output where
  status : Nat
  stdout : List Char := []
  stderr : List Char := []
  deriving DecidableEq, Repr

inductive Outcome where
  | help
  /-- The arguments are refused. -/
  | misused
  | finished (output : Output)
  /-- Broken off by a fault after what was already written among the errors. -/
  | broken (fault : Fault) (stderr : List Char)
  deriving DecidableEq, Repr

/-- Which of the two streams that a run writes to are terminals. -/
structure Terminals where
  stdout : Bool
  stderr : Bool
  deriving DecidableEq, Repr

/-- Text as it is written with a line end; what is no terminal gets no escape sequences. -/
def echo (terminal : Bool) (text : List Char) : List Char :=
  let line := text ++ ['\n']
  if terminal then line else EscapeForm.control.strip line

def readSource (path : String) (bytes : List UInt8) : Result Source :=
  match Utf8.decode bytes with
  | .ok text => .ok { text }
  | .error cause => .error (.ofError (.sourceEncoding path cause))

/-! ### Rendering -/

/-- The settings that the flags of a command force. -/
def forcedSettings (arguments : RenderArguments) : Settings :=
  (if arguments.ascii then [("char_set", .text CharSet.ascii.name)] else []) ++
    (if arguments.noColor then
      [("color", .bool false), ("ansi_mode", .text AnsiMode.off.name)]
    else []) ++
    arguments.offsetUnit.toList.map (fun unit => ("index_type", .text unit.name)) ++
    arguments.attach.toList.map (fun attach => ("label_attach", .text attach.name)) ++
    arguments.tabWidth.toList.map (fun width => ("tab_width", .int width))

/-- The configuration file for a command with the name it goes by: the one that is given, or else
the one above the source, or else the one above the working directory. -/
def selectConfig (tree : FileTree) (arguments : RenderArguments) :
    Result (Option (String × List UInt8)) :=
  match arguments.config with
  | some path => .ok ((tree.bytesAt? path).map fun bytes => (normalizedPath path, bytes))
  | none => do
      let found ← (tree.findConfig [arguments.source, "."]).mapError .ofFault
      pure do
        let place ← found
        let bytes ← tree.content? place
        some (absoluteName place, bytes)

def baseConfig (tree : FileTree) (arguments : RenderArguments) : Result Config := do
  match ← selectConfig tree arguments with
  | none => pure Config.default
  | some (name, bytes) =>
      (Config.ofFile name bytes).mapError fun failure => ⟨failure.map .configFile, []⟩

def effectiveConfig (tree : FileTree) (arguments : RenderArguments) : Result Config := do
  let base ← baseConfig tree arguments
  (base.overlay (forcedSettings arguments)).mapError fun cause =>
    ⟨cause.raised.map .config, []⟩

/-- What is logged of a dropped label. -/
def logLine (dropped : DroppedLabel) : List Char :=
  match dropped.span.textFault? with
  | none => ("skein.render: " ++ dropped.message ++ "\n").toList
  | some _ => Platform.lostMessage dropped.reason.message

def logText (dropped : List DroppedLabel) : List Char :=
  dropped.flatMap logLine

/-- What is written among the errors about dropped labels. -/
def logged (verbose : Bool) (dropped : List DroppedLabel) : List Char :=
  if verbose then logText dropped else []

def Stop.ofRenderError (verbose : Bool) : RenderError → Stop
  | .missing cause => .ofError (.missingSource cause)
  | .broken fault dropped => ⟨.abrupt fault, logged verbose dropped⟩

/-- Puts what was written earlier in front. -/
def Stop.after (written : List Char) (stop : Stop) : Stop :=
  { stop with written := written ++ stop.written }

/-- Renders the reports one after the other, up to the first that fails. -/
def renderAll (cache : Cache) (verbose : Bool) : List Report → Result (List Rendering)
  | [] => .ok []
  | report :: rest => do
      let first ← (render report cache defaultElision).mapError (Stop.ofRenderError verbose)
      let others ←
        (renderAll cache verbose rest).mapError (Stop.after (logged verbose first.dropped))
      pure (first :: others)

/-- The reports of a command and how each is rendered. -/
def renderReports (tree : FileTree) (arguments : RenderArguments) (source document : List UInt8) :
    Result (List Report × List Rendering) := do
  let config ← effectiveConfig tree arguments
  let source ← readSource arguments.source source
  let shifted := { source with displayOffset := arguments.lineOffset }
  let reader : DocumentReader := ⟨arguments.diagnostics, arguments.source⟩
  let reports ←
    (reader.readBytes config document).mapError fun failure => ⟨failure.map .document, []⟩
  let cache := Cache.ofList [(arguments.source, shifted)]
  let renderings ← renderAll cache arguments.verbose reports
  pure (reports, renderings)

def outputOf (terminals : Terminals) (verbose : Bool) (reports : List Report)
    (renderings : List Rendering) : Output where
  status := if reports.any (·.kind = .error) then 1 else 0
  stdout :=
    echo terminals.stdout ((renderings.map Rendering.text).intersperse ['\n', '\n']).flatten
  stderr := logged verbose (renderings.flatMap Rendering.dropped)

/-! ### Looking into files -/

def lineRow (index : Nat) (line : Line) (piece : List Char) : List Char :=
  Text.padLeft 4 (Text.decimalNat index) ++ "  char ".toList ++ Text.decimal line.offset ++
    '+' :: Text.decimal line.charLength ++ "  byte ".toList ++ Text.decimal line.byteOffset ++
    '+' :: Text.decimal line.byteLength ++ ' ' :: ' ' ::
    Text.quotedChars piece

def countsRow (source : Source) : List Char :=
  Text.decimalNat source.lines.length ++ " lines, ".toList ++
    Text.decimalNat source.charTotal ++ " chars, ".toList ++
    Text.decimalNat source.byteTotal ++ " bytes".toList

/-- The rows of a line dump: the counts, then one row for every line. -/
def dumpRows (source : Source) : List (List Char) :=
  countsRow source ::
    (source.lines.zip source.pieces).mapIdx fun index entry => lineRow index entry.1 entry.2

def locationText (source : Source) (offset : Int) (unit : OffsetUnit) : List Char :=
  match source.lineAt? offset unit with
  | some position =>
      Text.decimal (source.lineNumber position.index) ++ ':' ::
        Text.decimal (position.column + 1)
  | none => "?:?".toList

/-! ### Commands -/

def failWith (terminals : Terminals) (stop : Stop) : Outcome :=
  match stop.failure with
  | .reported cause =>
      let line := echo terminals.stderr ("error: " ++ cause.message).toList
      .finished { status := 1, stderr := stop.written ++ line }
  | .abrupt fault => .broken fault stop.written

def finish (terminals : Terminals) : Result Output → Outcome
  | .ok output => .finished output
  | .error stop => failWith terminals stop

def runCommand (tree : FileTree) (terminals : Terminals) : Command → Outcome
  | .render arguments =>
      match tree.bytesAt? arguments.source, tree.bytesAt? arguments.diagnostics with
      | some source, some document =>
          finish terminals do
            let (reports, renderings) ← renderReports tree arguments source document
            pure (outputOf terminals arguments.verbose reports renderings)
      | _, _ => .misused
  | .lines file =>
      match tree.bytesAt? file with
      | some bytes =>
          finish terminals do
            let source ← readSource file bytes
            pure { status := 0, stdout := (dumpRows source).flatMap (echo terminals.stdout) }
      | none => .misused
  | .locate file offset unit =>
      match tree.bytesAt? file with
      | some bytes =>
          finish terminals do
            let source ← readSource file bytes
            pure { status := 0, stdout := echo terminals.stdout (locationText source offset unit) }
      | none => .misused

/-- Runs a command if all values given for it are fine. -/
def runItems (tree : FileTree) (terminals : Terminals) (name : CommandName) (items : List Item) :
    Outcome :=
  match name.form.judge tree items with
  | .fine => (name.read? items).elim .misused (runCommand tree terminals)
  | .refused => .misused
  | .broken fault => .broken fault []

def versionText : String := "skein, version 0.1.0"

def run (tree : FileTree) (terminals : Terminals) (args : List String) : Outcome :=
  match readRequest args with
  | .help => .help
  | .misused => .misused
  | .version => .finished { status := 0, stdout := echo terminals.stdout versionText.toList }
  | .command name items => runItems tree terminals name items

end Diagnostics.CommandLine
