import Diagnostics.CommandLine.Form

/-!
# Commands

What the argument lists of the program ask for. There are three commands; before the command only
the help and the version can be asked for. Asking for help wins over anything that is wrong with the
values of a command, but not over arguments that cannot be told apart.
-/

namespace Diagnostics.CommandLine

structure RenderArguments where
  source : String
  diagnostics : String
  config : Option String := none
  ascii : Bool := false
  noColor : Bool := false
  offsetUnit : Option OffsetUnit := none
  attach : Option Attach := none
  tabWidth : Option Int := none
  lineOffset : Int := 0
  verbose : Bool := false
  deriving DecidableEq, Repr

inductive Command where
  | render (arguments : RenderArguments)
  | lines (file : String)
  | locate (file : String) (offset : Int) (unit : OffsetUnit)
  deriving DecidableEq, Repr

inductive CommandName where
  | render
  | lines
  | locate
  deriving DecidableEq, Repr

namespace CommandName

def names : List (String × CommandName) :=
  [("render", .render), ("lines", .lines), ("locate", .locate)]

def form : CommandName → Form
  | .render =>
      { flags := ["--ascii", "--no-color", "--verbose"]
        letters := [('v', "--verbose")]
        options :=
          [("--config", .file), ("--index-type", .oneOf (OffsetUnit.names.map Prod.fst)),
            ("--attach", .oneOf (Attach.names.map Prod.fst)), ("--tab-width", .positive),
            ("--line-offset", .integer)]
        operandKinds := [.file, .file] }
  | .lines => { flags := [], letters := [], options := [], operandKinds := [.file] }
  | .locate =>
      { flags := []
        letters := []
        options := [("--index-type", .oneOf (OffsetUnit.names.map Prod.fst))]
        operandKinds := [.file, .integer] }

end CommandName

inductive Request where
  | command (name : CommandName) (items : List Item)
  | help
  | version
  | misused
  deriving DecidableEq, Repr

def mainGrammar : Grammar where
  flags := ["--version", "--help"]
  valued := []
  letters := []
  mixed := false

variable [Platform]

/-- A value that is absent, or readable. -/
def readValue? (items : List Item) (name : String) (read? : String → Option α) :
    Option (Option α) :=
  match valueOf? items name with
  | none => some none
  | some text => (read? text).map some

def readRender? (items : List Item) : Option Command := do
  let offsetUnit ← readValue? items "--index-type" (Keyed.find? OffsetUnit.names)
  let attach ← readValue? items "--attach" (Keyed.find? Attach.names)
  let tabWidth ← readValue? items "--tab-width" readPositive?
  let lineOffset ← readValue? items "--line-offset" readInteger?
  match operands items with
  | [source, diagnostics] =>
      some (.render
        { source
          diagnostics
          config := valueOf? items "--config"
          ascii := hasFlag items "--ascii"
          noColor := hasFlag items "--no-color"
          offsetUnit
          attach
          tabWidth
          lineOffset := lineOffset.getD 0
          verbose := hasFlag items "--verbose" })
  | _ => none

def readLines? (items : List Item) : Option Command :=
  match operands items with
  | [file] => some (.lines file)
  | _ => none

def readLocate? (items : List Item) : Option Command := do
  let unit ← readValue? items "--index-type" (Keyed.find? OffsetUnit.names)
  match operands items with
  | [file, offset] => do some (.locate file (← readInteger? offset) (unit.getD .char))
  | _ => none

/-- The command that items of a fine form ask for. -/
def CommandName.read? (items : List Item) : CommandName → Option Command
  | .render => readRender? items
  | .lines => readLines? items
  | .locate => readLocate? items

/-- Tells the arguments of one command apart. -/
def readCommand (name : CommandName) (args : List String) : Request :=
  match name.form.grammar.scan? args with
  | none => .misused
  | some items => if hasFlag items "--help" then .help else .command name items

/-- What flags before a command ask for; the first one counts. -/
def readMainFlags (items : List Item) : Option Request :=
  items.findSome? fun
    | .flag name => some (if name = "--version" then .version else .help)
    | _ => none

/-- Whether a word where a command is expected looks like an option. -/
def looksLikeOption (word : String) : Bool :=
  match word.toList with
  | [] => false
  | c :: _ => c.toNat < 0x80 && !c.isAlphanum

/-- A word that is no command is misuse, but one that looks like an option is taken as a call for
help. -/
def readUnknown (word : String) : Request :=
  if looksLikeOption word then .help else .misused

def readNamed (word : String) (args : List String) : Request :=
  match Keyed.find? CommandName.names word with
  | some name => readCommand name args
  | none => readUnknown word

/-- Reads a whole argument list; an empty one asks for help. -/
def readRequest (args : List String) : Request :=
  if args.isEmpty then .help
  else
    match mainGrammar.scan? args with
    | none => .misused
    | some items =>
        match readMainFlags items with
        | some request => request
        | none =>
            match operands items with
            | [] => .misused
            | word :: rest => readNamed word rest

end Diagnostics.CommandLine
