import Diagnostics.Color.Basic

/-!
# Colours by role

The parts of a report that are coloured on their own account, and the colour of each while colour
is enabled.
-/

namespace Diagnostics

inductive Role where
  | error
  | warning
  | advice
  | margin
  | note
  | skippedMargin
  | unimportant
  deriving DecidableEq, Repr

namespace Role

def color : Role → Color
  | error => .basic .red
  | warning => .basic .yellow
  | advice => .palette 147
  | margin => .palette 246
  | note => .palette 115
  | skippedMargin => .palette 240
  | unimportant => .palette 249

def colorIf (role : Role) (enabled : Bool) : Option Color :=
  if enabled then some role.color else none

def name : Role → String
  | error => "error"
  | warning => "warning"
  | advice => "advice"
  | margin => "margin"
  | note => "note"
  | skippedMargin => "skipped_margin"
  | unimportant => "unimportant"

def all : List Role :=
  [error, warning, advice, margin, note, skippedMargin, unimportant]

def ofName? (name : String) : Option Role :=
  all.find? fun role => role.name = name

end Role

end Diagnostics
