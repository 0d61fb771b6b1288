/-!
# Attach points

The column at which the arrow of a label leaves its underline. It is never outside the underline,
and never before its start even if the underline is empty.
-/

namespace Diagnostics

inductive Attach where
  | start
  | middle
  | stop
  deriving DecidableEq, Repr

def lastColumn (start stop : Int) : Int :=
  max start (stop - 1)

def Attach.preferred (attach : Attach) (start stop : Int) : Int :=
  match attach with
  | .start => start
  | .middle => (start + stop).fdiv 2
  | .stop => lastColumn start stop

def attachColumn (start stop : Int) (attach : Attach) : Int :=
  max start (min (attach.preferred start stop) (lastColumn start stop))

end Diagnostics
