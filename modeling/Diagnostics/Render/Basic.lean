import Diagnostics.Render.Row
import Diagnostics.Source.Cache

/-!
# Rendering

A report is rendered over its source: a header, the place it is about, the labelled lines in
ascending order with their labels below them, a border, and the notes. Lines left out between two
labelled ones are marked if there are enough of them. Rendering fails if the source of the report is
not registered. It breaks off at a line number that cannot be written, and at a label of which the
line cannot be drawn.
-/

namespace Diagnostics

/-- The number of left out lines from which on they are marked. -/
def defaultElision : Int := 2

/-- A text that is absent or empty counts as absent. -/
def presentText (text : Option String) : Option String :=
  text.filter fun t => t ≠ ""

/-- Labels in ascending order; ties go by line, then by the order in which they were added. -/
def orderedLabels (labels : List DrawnLabel) : List DrawnLabel :=
  labels.mergeSort fun a b => a.order < b.order || (a.order = b.order && a.line ≤ b.line)

/-- The lines of the labels, ascending and each once. -/
def labelledLines (labels : List DrawnLabel) : List Nat :=
  (labels.map DrawnLabel.line).mergeSort.eraseDups

def headerLabel (report : Report) : String :=
  match presentText report.code with
  | some code => report.kind.name ++ "[" ++ code ++ "]"
  | none => report.kind.name

def headerRow (report : Report) : Row :=
  .header (headerLabel report) (report.kind.color report.config.color)
    ((presentText report.msg).getD "")

/-- The source, line and column of the start of the report, or question marks if it is outside. -/
def locationReference (report : Report) (source : Source) : String :=
  let name := sourceName report.span.source
  match source.lineAt? report.span.start report.config.offsetUnit with
  | some position =>
      name ++ ":" ++ toString (source.lineNumber position.index) ++ ":" ++
        toString (position.column + 1)
  | none => name ++ ":?:?"

def labelRows (label : DrawnLabel) : List Row :=
  .underline label :: (presentText label.msg).toList.map (Row.arrow label)

def sourceRow (report : Report) (source : Source) (line : Nat) : Row :=
  .source (source.lineNumber line)
    (Text.trimRight (expand report.config.tabWidth (source.textAt line)))

/-- A labelled line and the labels on it. -/
def blockRows (report : Report) (source : Source) (labels : List DrawnLabel) (line : Nat) :
    List Row :=
  sourceRow report source line :: (labels.filter (·.line = line)).flatMap labelRows

/-- The mark for the lines between two labelled ones. -/
def elisionRows (elideAfter : Int) (previous : Option Nat) (line : Nat) : List Row :=
  match previous with
  | none => []
  | some last => if elideAfter ≤ (line : Int) - last - 1 then [.elision] else []

def bodyRows (report : Report) (source : Source) (elideAfter : Int) (labels : List DrawnLabel) :
    (previous : Option Nat) → List Nat → List Row
  | _, [] => []
  | previous, line :: rest =>
      elisionRows elideAfter previous line ++ blockRows report source labels line ++
        bodyRows report source elideAfter labels (some line) rest

/-- An absent note is shown by name. -/
def noteText (note : Option String) : String :=
  note.getD "None"

def rows (report : Report) (source : Source) (elideAfter : Int) : List Row :=
  let labels := orderedLabels (drawnLabels report source)
  [headerRow report, .location (locationReference report source), .gutter] ++
    bodyRows report source elideAfter labels none (labelledLines labels) ++
    [.border] ++
    report.notes.map (fun note => .note (noteText note)) ++
    report.help.map (fun help => .help (noteText help))

/-- The widest line number that is shown, or one. -/
def numberWidth (source : Source) (lines : List Nat) : Nat :=
  (lines.map fun (line : Nat) => (Text.decimal (source.lineNumber line)).length).foldl max 1

def penOf (report : Report) (source : Source) : Pen where
  glyphs := report.config.charSet.glyphs
  colored := report.config.color
  width := numberWidth source (labelledLines (drawnLabels report source))

def joinRows (texts : List (List Char)) : List Char :=
  (texts.intersperse ['\n']).flatten

/-- A rendered report and the labels that it leaves out. -/
structure Rendering where
  text : List Char
  dropped : List DroppedLabel
  deriving DecidableEq, Repr

def renderOver (report : Report) (source : Source) (elideAfter : Int) : Rendering :=
  let texts := (rows report source elideAfter).map (penOf report source).rowText
  let text :=
    match report.config.ansiMode with
    | .on => joinRows texts
    | .off => EscapeForm.rendition.strip (joinRows texts)
  { text, dropped := droppedLabels report source }

inductive RenderError where
  | missing (cause : MissingSource)
  /-- A fault, and the labels that were dropped before it. -/
  | broken (fault : Fault) (dropped : List DroppedLabel)
  deriving DecidableEq, Repr

variable [Platform]

/-- What keeps the number of a line from being written. -/
def lineNumberFault? (source : Source) (line : Nat) : Option Fault :=
  numberFault? (source.lineNumber line)

/-- What keeps the place from being written that the report is about. Only line numbers can have too
many digits, since columns count characters of a text that is at hand. -/
def locationFault? (report : Report) (source : Source) : Option Fault :=
  (source.lineAt? report.span.start report.config.offsetUnit).bind fun position =>
    lineNumberFault? source position.index

/-- What keeps the numbers of the labelled lines from being written. -/
def marginFault? (report : Report) (source : Source) : Option Fault :=
  (labelledLines (drawnLabels report source)).findSome? (lineNumberFault? source)

/-- The first thing that keeps a report from being rendered: at its place, then at a label, then at
the numbers in the margin. -/
def firstFault? (report : Report) (source : Source) : Option Fault :=
  locationFault? report source <|> drawingFault? report source <|> marginFault? report source

/-- The labels that are looked at up to the first fault. -/
def reachedLabels (report : Report) (source : Source) : List Label :=
  if (locationFault? report source).isSome then [] else soundLabels report source

def RenderError.ofFault (report : Report) (source : Source) (fault : Fault) : RenderError :=
  .broken fault (droppedLabels { report with labels := reachedLabels report source } source)

def render (report : Report) (cache : Cache) (elideAfter : Int) : Except RenderError Rendering :=
  match cache.fetch (sourceName report.span.source) with
  | .error cause => .error (.missing cause)
  | .ok source =>
      match firstFault? report source with
      | some fault => .error (.ofFault report source fault)
      | none => .ok (renderOver report source elideAfter)

end Diagnostics
