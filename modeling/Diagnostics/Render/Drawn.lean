import Diagnostics.Render.Expand
import Diagnostics.Report.Basic
import Diagnostics.Source.Basic

/-!
# Drawn and dropped labels

A label is drawn if it is on the source of the report, within its text, and on one line. It is then
placed on the display columns of that line. Any other label is dropped, for a reason that is kept.
-/

namespace Diagnostics

/-- A label on the display columns of one line. The underline covers at least one column. -/
structure DrawnLabel where
  line : Nat
  startColumn : Int
  stopColumn : Int
  attachColumn : Int
  msg : Option String
  order : Int
  color : Option Color
  deriving DecidableEq, Repr

inductive DropReason where
  | otherSource (name : String)
  | outsideSource
  | severalLines (first last : Nat)
  deriving DecidableEq, Repr

structure DroppedLabel where
  span : Span
  reason : DropReason
  deriving DecidableEq, Repr

def DropReason.message : DropReason → String
  | .otherSource name => "not on source " ++ name
  | .outsideSource => "offset outside source"
  | .severalLines first last => "spans lines " ++ toString first ++ "-" ++ toString last

def DroppedLabel.message (dropped : DroppedLabel) : String :=
  "dropping label " ++ dropped.span.toText ++ ": " ++ dropped.reason.message

/-- The text of the line at `index`, terminator included. -/
def Source.textAt (source : Source) (index : Nat) : List Char :=
  source.pieces[index]?.getD []

/-- The entry of a column map at a character column; a column past the end is at the end. -/
def columnAt (map : List Int) (charColumn : Int) : Int :=
  map.getD (min charColumn (map.length - 1)).toNat 0

/-- The place of a label whose ends were found on the line of `first`. -/
def placeLabel (config : Config) (source : Source) (label : Label) (first : Position) :
    DrawnLabel :=
  let unit := config.offsetUnit
  let map := columns config.tabWidth (source.textAt first.index)
  let startChar := source.charColumn first.line first.column unit
  let stopChar := source.charColumn first.line (label.span.stop - first.line.start unit) unit
  let startColumn := columnAt map startChar
  let stopColumn := max (startColumn + 1) (columnAt map stopChar)
  { line := first.index
    startColumn
    stopColumn
    attachColumn := attachColumn startColumn stopColumn config.labelAttach
    msg := label.msg
    order := label.order
    color := if config.color then label.color else none }

/-- The last offset that a label covers, or its start if it covers none. -/
def Span.lastOffset (span : Span) : Int :=
  max (span.stop - 1) span.start

def projectLabel (config : Config) (source : Source) (label : Label) :
    Except DropReason DrawnLabel :=
  match source.lineAt? label.span.start config.offsetUnit,
      source.lineAt? label.span.lastOffset config.offsetUnit with
  | some first, some last =>
      if first.index = last.index then .ok (placeLabel config source label first)
      else .error (.severalLines first.index last.index)
  | _, _ => .error .outsideSource

/-- Decides whether a label of the report is drawn. -/
def drawLabel (report : Report) (source : Source) (label : Label) :
    Except DroppedLabel DrawnLabel :=
  if label.span.source = report.span.source then
    (projectLabel report.config source label).mapError (⟨label.span, ·⟩)
  else .error ⟨label.span, .otherSource (sourceName report.span.source)⟩

/-- The drawn labels, in the order of the labels. -/
def drawnLabels (report : Report) (source : Source) : List DrawnLabel :=
  report.labels.filterMap fun label => (drawLabel report source label).toOption

/-- The dropped labels, in the order of the labels. -/
def droppedLabels (report : Report) (source : Source) : List DroppedLabel :=
  report.labels.filterMap fun label =>
    match drawLabel report source label with
    | .ok _ => none
    | .error dropped => some dropped

variable [Platform]

/-- What keeps the line of a label from being drawn; a dropped label needs no line. -/
def labelFault? (report : Report) (source : Source) (label : Label) : Option Fault :=
  match drawLabel report source label with
  | .ok drawn => expansionFault? report.config.tabWidth (source.textAt drawn.line)
  | .error _ => none

/-- The labels before the first one of which the line cannot be drawn. -/
def soundLabels (report : Report) (source : Source) : List Label :=
  report.labels.takeWhile fun label => (labelFault? report source label).isNone

/-- What keeps the first of the labels that has such a line from being drawn. -/
def drawingFault? (report : Report) (source : Source) : Option Fault :=
  report.labels.findSome? (labelFault? report source)

end Diagnostics
