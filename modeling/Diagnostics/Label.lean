import Diagnostics.Color.Reading
import Diagnostics.Span

/-!
# Labels

A label is a span that does not end before it starts, with a message and a colour to draw it in.
Labels on one line are drawn by ascending order; the priority is only carried along.
-/

namespace Diagnostics

structure Label where
  span : Span
  msg : Option String := none
  color : Option Color := none
  order : Int := 0
  priority : Int := 0
  start_le_stop : span.start ≤ span.stop := by decide
  deriving DecidableEq, Repr

/-- A label whose span would end before it starts. -/
structure LabelError where
  start : Int
  stop : Int
  deriving DecidableEq, Repr

def LabelError.message (error : LabelError) : String :=
  "label start (" ++ toString error.start ++ ") must not be after its end (" ++
    toString error.stop ++ ")"

/-- The error is reported unless one of the ends cannot be written. -/
def LabelError.raised [Platform] (error : LabelError) : Failure LabelError :=
  .worded (numberFault? error.start <|> numberFault? error.stop) error

def Label.make (span : Span) (msg : Option String) (color : Option Color) (order priority : Int) :
    Except LabelError Label :=
  if hle : span.start ≤ span.stop then
    .ok { span, msg, color, order, priority, start_le_stop := hle }
  else .error ⟨span.start, span.stop⟩

/-- What a caller gives for a label; its colour is not read yet. -/
structure LabelRequest where
  span : Span
  msg : Option String := none
  color : Value := .null
  order : Int := 0
  priority : Int := 0
  deriving Repr

theorem Label.make_eq_ok_iff (span : Span) (msg : Option String) (color : Option Color)
    (order priority : Int) :
    (∃ label, Label.make span msg color order priority = .ok label) ↔ span.start ≤ span.stop := by
  by_cases hle : span.start ≤ span.stop <;> simp [make, hle]

end Diagnostics
