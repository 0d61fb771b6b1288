import Diagnostics.Value

/-!
# Render options

The fourteen options with their defaults. A configuration is a complete choice of options whose tab
width is positive and whose number of context lines is not negative.
-/

namespace Diagnostics

structure Options where
  crossGap : Bool := true
  labelAttach : Attach := .middle
  compact : Bool := false
  underlines : Bool := true
  multilineArrows : Bool := true
  color : Bool := true
  tabWidth : Int := 4
  charSet : CharSet := .unicode
  offsetUnit : OffsetUnit := .char
  minimiseCrossings : Bool := false
  contextLines : Int := 0
  ansiMode : AnsiMode := .on
  enumerateNotes : Bool := true
  enumerateHelps : Bool := true
  deriving DecidableEq, Repr

structure Config extends Options where
  tabWidth_pos : 1 ≤ tabWidth := by decide
  contextLines_nonneg : 0 ≤ contextLines := by decide
  deriving DecidableEq, Repr

def Config.default : Config := {}

inductive OptionKey where
  | crossGap
  | labelAttach
  | compact
  | underlines
  | multilineArrows
  | color
  | tabWidth
  | charSet
  | offsetUnit
  | minimiseCrossings
  | contextLines
  | ansiMode
  | enumerateNotes
  | enumerateHelps
  deriving DecidableEq, Repr

namespace OptionKey

def name : OptionKey → String
  | crossGap => "cross_gap"
  | labelAttach => "label_attach"
  | compact => "compact"
  | underlines => "underlines"
  | multilineArrows => "multiline_arrows"
  | color => "color"
  | tabWidth => "tab_width"
  | charSet => "char_set"
  | offsetUnit => "index_type"
  | minimiseCrossings => "minimise_crossings"
  | contextLines => "context_lines"
  | ansiMode => "ansi_mode"
  | enumerateNotes => "enumerate_notes"
  | enumerateHelps => "enumerate_helps"

def all : List OptionKey :=
  [crossGap, labelAttach, compact, underlines, multilineArrows, color, tabWidth, charSet,
    offsetUnit, minimiseCrossings, contextLines, ansiMode, enumerateNotes, enumerateHelps]

def ofName? (name : String) : Option OptionKey :=
  all.find? fun key => key.name = name

/-- The names among which a choice is made; none for the other options. -/
def choiceNames : OptionKey → List String
  | labelAttach => Attach.names.map Prod.fst
  | charSet => CharSet.names.map Prod.fst
  | offsetUnit => OffsetUnit.names.map Prod.fst
  | ansiMode => AnsiMode.names.map Prod.fst
  | _ => []

theorem ofName?_name (key : OptionKey) : ofName? key.name = some key := by
  cases key <;> decide

end OptionKey

namespace Options

/-- The value of one option; choices are given by name. -/
def value (options : Options) : OptionKey → Value
  | .crossGap => .bool options.crossGap
  | .labelAttach => .text options.labelAttach.name
  | .compact => .bool options.compact
  | .underlines => .bool options.underlines
  | .multilineArrows => .bool options.multilineArrows
  | .color => .bool options.color
  | .tabWidth => .int options.tabWidth
  | .charSet => .text options.charSet.name
  | .offsetUnit => .text options.offsetUnit.name
  | .minimiseCrossings => .bool options.minimiseCrossings
  | .contextLines => .int options.contextLines
  | .ansiMode => .text options.ansiMode.name
  | .enumerateNotes => .bool options.enumerateNotes
  | .enumerateHelps => .bool options.enumerateHelps

/-- All options under their names. -/
def settings (options : Options) : List (String × Value) :=
  OptionKey.all.map fun key => (key.name, options.value key)

end Options

end Diagnostics
