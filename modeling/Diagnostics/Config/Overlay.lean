import Diagnostics.Config.Basic
import Diagnostics.Failure
import Diagnostics.Keyed
import Diagnostics.Text.LowerCase

/-!
# Overlaying settings

Settings give values to some options by name. Laying them over complete options either yields a
configuration or says what is wrong: first all unknown names, then the first value that does not
suit its option, then a range that the result misses. Overrides are settings on top of a base, which
is complete options, within their ranges or not, or settings itself. What is wrong is said in a
message that shows a value; some values cannot be shown.
-/

namespace Diagnostics

abbrev Settings := Keyed Value

inductive ConfigError where
  | unknown (names : List String)
  | notOneOf (key : OptionKey) (value : Value)
  | notInteger (key : OptionKey) (value : Value)
  | notBoolean (key : OptionKey) (value : Value)
  | tabWidth (width : Int)
  | contextLines (count : Int)
  deriving Repr

def ConfigError.message : ConfigError → String
  | .unknown names => "unknown config option(s): " ++ ", ".intercalate names
  | .notOneOf key value =>
      "invalid value " ++ value.toText ++ " for " ++ key.name ++ " (expected one of: " ++
        ", ".intercalate key.choiceNames ++ ")"
  | .notInteger key value => key.name ++ " must be an integer, got " ++ value.toText
  | .notBoolean key value => key.name ++ " must be a boolean, got " ++ value.toText
  | .tabWidth width => "tab_width must be at least 1, got " ++ toString width
  | .contextLines count => "context_lines must not be negative, got " ++ toString count

/-- The value that the message of an error shows. -/
def ConfigError.value? : ConfigError → Option Value
  | .unknown _ => none
  | .notOneOf _ value => some value
  | .notInteger _ value => some value
  | .notBoolean _ value => some value
  | .tabWidth width => some (.int width)
  | .contextLines count => some (.int count)

/-- An error is reported unless the value in its message cannot be shown. -/
def ConfigError.raised [Platform] (error : ConfigError) : Failure ConfigError :=
  .worded (error.value?.bind (Value.shownFault? Platform.showingRoom)) error

namespace Options

def readBool (key : OptionKey) : Value → Except ConfigError Bool
  | .bool value => .ok value
  | value => .error (.notBoolean key value)

def readInt (key : OptionKey) : Value → Except ConfigError Int
  | .int value => .ok value
  | value => .error (.notInteger key value)

/-- A member of a set of named values, by itself or by its name in any letter case. -/
def readMember (names : List (String × α)) (member? : Choice → Option α) (key : OptionKey)
    (value : Value) : Except ConfigError α :=
  let found :=
    match value with
    | .text name => Keyed.find? names (Text.lower name)
    | .choice choice => member? choice
    | _ => none
  match found with
  | some member => .ok member
  | none => .error (.notOneOf key value)

def readAttach : OptionKey → Value → Except ConfigError Attach :=
  readMember Attach.names fun
    | .attach member => some member
    | _ => none

def readCharSet : OptionKey → Value → Except ConfigError CharSet :=
  readMember CharSet.names fun
    | .charSet member => some member
    | _ => none

def readOffsetUnit : OptionKey → Value → Except ConfigError OffsetUnit :=
  readMember OffsetUnit.names fun
    | .offsetUnit member => some member
    | _ => none

def readAnsiMode : OptionKey → Value → Except ConfigError AnsiMode :=
  readMember AnsiMode.names fun
    | .ansiMode member => some member
    | _ => none

/-- Gives one option a value, if the value suits it. -/
def set (options : Options) (key : OptionKey) (value : Value) : Except ConfigError Options :=
  match key with
  | .crossGap => (readBool key value).map fun v => { options with crossGap := v }
  | .labelAttach => (readAttach key value).map fun v => { options with labelAttach := v }
  | .compact => (readBool key value).map fun v => { options with compact := v }
  | .underlines => (readBool key value).map fun v => { options with underlines := v }
  | .multilineArrows => (readBool key value).map fun v => { options with multilineArrows := v }
  | .color => (readBool key value).map fun v => { options with color := v }
  | .tabWidth => (readInt key value).map fun v => { options with tabWidth := v }
  | .charSet => (readCharSet key value).map fun v => { options with charSet := v }
  | .offsetUnit => (readOffsetUnit key value).map fun v => { options with offsetUnit := v }
  | .minimiseCrossings => (readBool key value).map fun v => { options with minimiseCrossings := v }
  | .contextLines => (readInt key value).map fun v => { options with contextLines := v }
  | .ansiMode => (readAnsiMode key value).map fun v => { options with ansiMode := v }
  | .enumerateNotes => (readBool key value).map fun v => { options with enumerateNotes := v }
  | .enumerateHelps => (readBool key value).map fun v => { options with enumerateHelps := v }

/-- Gives the options their values in order; names of no option are passed over. -/
def setAll (options : Options) : Settings → Except ConfigError Options
  | [] => .ok options
  | (name, value) :: rest =>
      match OptionKey.ofName? name with
      | none => setAll options rest
      | some key =>
          match set options key value with
          | .ok changed => setAll changed rest
          | .error cause => .error cause

def check (options : Options) : Except ConfigError Config :=
  if hwidth : 1 ≤ options.tabWidth then
    if hcount : 0 ≤ options.contextLines then
      .ok { options with tabWidth_pos := hwidth, contextLines_nonneg := hcount }
    else .error (.contextLines options.contextLines)
  else .error (.tabWidth options.tabWidth)

end Options

/-- The names that are those of no option, in ascending order. -/
def unknownNames (settings : Settings) : List String :=
  ((Keyed.keys settings).filter fun name => (OptionKey.ofName? name).isNone).mergeSort
    fun a b => decide (a ≤ b)

def Options.overlay (base : Options) (settings : Settings) : Except ConfigError Config :=
  match unknownNames settings with
  | [] =>
      match base.setAll settings with
      | .ok options => options.check
      | .error cause => .error cause
  | names => .error (.unknown names)

namespace Config

/-- The configuration that the settings give when laid over the defaults. -/
def ofSettings (settings : Settings) : Except ConfigError Config :=
  default.overlay settings

/-- What overrides start from: complete options, of which nothing says that they are within their
ranges, or settings that are not read yet. -/
inductive Base where
  | complete (options : Options)
  | settings (settings : Settings)
  deriving Repr

/-- Lays overrides over a base; an override replaces the setting of the same name. -/
def Base.overlay (base : Base) (overrides : Settings) : Except ConfigError Config :=
  match base with
  | .complete options => options.overlay overrides
  | .settings given => ofSettings (Keyed.putAll given overrides)

/-- The configuration that a base is on its own. -/
def Base.read (base : Base) : Except ConfigError Config :=
  base.overlay []

/-- The name that the base of overrides goes by, so that no override can have it. -/
def baseName : String := "config"

def normalize [Platform] (base : Base) (overrides : Settings) :
    Except (Failure ConfigError) Config :=
  if Keyed.contains overrides baseName then .error (.abrupt .givenTwice)
  else (base.overlay overrides).mapError ConfigError.raised

end Config

end Diagnostics
