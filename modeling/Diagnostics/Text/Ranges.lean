/-!
# Sets of characters given by ranges

A table lists the closed ranges of code points that it covers.
-/

namespace Diagnostics.Text

/-- Closed ranges of code points, first and last. -/
abbrev Ranges := List (Nat × Nat)

def Ranges.contains (ranges : Ranges) (c : Char) : Bool :=
  ranges.any fun range => range.1 ≤ c.toNat && c.toNat ≤ range.2

end Diagnostics.Text
