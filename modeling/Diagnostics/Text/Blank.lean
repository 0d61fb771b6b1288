import Diagnostics.Text.Ranges

/-!
# Blank characters

The characters that count as white space in Unicode 14: the separators, and the controls whose
bidirectional class is a white space or a separator class.
-/

namespace Diagnostics.Text

def blankRanges : Ranges :=
  [
    (0x9, 0xD), (0x1C, 0x20), (0x85, 0x85), (0xA0, 0xA0), (0x1680, 0x1680), (0x2000, 0x200A),
    (0x2028, 0x2029), (0x202F, 0x202F), (0x205F, 0x205F), (0x3000, 0x3000)]

def isBlank (c : Char) : Bool :=
  blankRanges.contains c

/-- Removes the blanks at the end. -/
def trimRight (cs : List Char) : List Char :=
  (cs.reverse.dropWhile isBlank).reverse

end Diagnostics.Text
