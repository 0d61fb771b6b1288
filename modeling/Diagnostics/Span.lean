import Diagnostics.Extent

/-!
# Spans

Half-open ranges of offsets in one source. A span does not say in which unit its offsets count;
whoever resolves it does.
-/

namespace Diagnostics

/-- The name shown for a source without an id. -/
def unknownSource : String := "<unknown>"

/-- The name of a source for display and lookup: an absent or empty id is the unknown one. -/
def sourceName : Option String → String
  | none => unknownSource
  | some id => if id = "" then unknownSource else id

structure Span where
  source : Option String
  start : Int
  stop : Int
  deriving DecidableEq, Repr

namespace Span

def length (span : Span) : Int :=
  max 0 (span.stop - span.start)

/-- The length as a machine word. -/
def wordLength (span : Span) : Except Fault Int :=
  if isWord span.length then .ok span.length else .error .tooLong

/-- What keeps the text of a span from being written. -/
def textFault? [Platform] (span : Span) : Option Fault :=
  numberFault? span.start <|> numberFault? span.stop

def toText (span : Span) : String :=
  sourceName span.source ++ ":" ++ toString span.start ++ ".." ++ toString span.stop

end Span

end Diagnostics
