import Diagnostics.Keyed

/-!
# The grammar of arguments

Arguments are flags, options with a value, and operands. A long option takes its value from after an
equals sign or from the next argument, whatever that looks like; short flags may be joined. Two
dashes end the options. A single dash and the empty argument are operands.
-/

namespace Diagnostics.CommandLine

structure Grammar where
  flags : List String
  valued : List String
  /-- Short flags by their letter. -/
  letters : List (Char × String)
  /-- Whether options may follow operands. -/
  mixed : Bool

inductive Item where
  | flag (name : String)
  | value (name text : String)
  | operand (text : String)
  deriving DecidableEq, Repr

/-- What one argument is by itself. -/
inductive Shape where
  | operand
  | flags (names : List String)
  | value (name text : String)
  | needsValue (name : String)
  | invalid
  deriving DecidableEq, Repr

/-- Splits an argument at its first equals sign. -/
def splitEquals (arg : List Char) : String × Option String :=
  let name := String.ofList (arg.takeWhile (· ≠ '='))
  match arg.dropWhile (· ≠ '=') with
  | [] => (name, none)
  | _ :: text => (name, some (String.ofList text))

namespace Grammar

variable (grammar : Grammar)

def flagOf? (letter : Char) : Option String :=
  (grammar.letters.find? fun entry => entry.1 = letter).map Prod.snd

/-- The flags that letters after one dash stand for. -/
def shortFlags (letters : List Char) : Shape :=
  match letters.mapM grammar.flagOf? with
  | some names => .flags names
  | none => .invalid

def shape (arg : String) : Shape :=
  match arg.toList with
  | '-' :: c :: rest =>
      let (name, value) := splitEquals ('-' :: c :: rest)
      if grammar.valued.contains name then
        match value with
        | some text => .value name text
        | none => .needsValue name
      else if grammar.flags.contains name then
        match value with
        | some _ => .invalid
        | none => .flags [name]
      else if c = '-' then .invalid
      else grammar.shortFlags (c :: rest)
  | _ => .operand

/-- The items of an argument list in order. -/
def scan? : List String → Option (List Item)
  | [] => some []
  | arg :: rest =>
      if arg = "--" then some (rest.map .operand)
      else
        match grammar.shape arg with
        | .operand =>
            if grammar.mixed then (scan? rest).map (.operand arg :: ·)
            else some ((arg :: rest).map .operand)
        | .flags names => (scan? rest).map (names.map .flag ++ ·)
        | .value name text => (scan? rest).map (.value name text :: ·)
        | .needsValue name =>
            match rest with
            | [] => none
            | text :: more => (scan? more).map (.value name text :: ·)
        | .invalid => none

end Grammar

def operands (items : List Item) : List String :=
  items.filterMap fun
    | .operand text => some text
    | _ => none

def hasFlag (items : List Item) (name : String) : Bool :=
  items.contains (.flag name)

/-- The names of the options that are given, each once, in the order of their first appearance. -/
def givenOptions (items : List Item) : List String :=
  (items.filterMap fun
    | .value name _ => some name
    | _ => none).eraseDups

/-- The value given for an option; the last one counts. -/
def valueOf? (items : List Item) (name : String) : Option String :=
  (items.filterMap fun
    | .value other text => if other = name then some text else none
    | _ => none).getLast?

end Diagnostics.CommandLine
