/-!
# Glyph sets

The characters that a report is drawn with, once from the box drawing block and once from ASCII.
-/

namespace Diagnostics

inductive CharSet where
  | unicode
  | ascii
  deriving DecidableEq, Repr

structure Glyphs where
  horizontalBar : Char
  verticalBar : Char
  crossBar : Char
  verticalGap : Char
  lineMargin : Char
  upArrow : Char
  rightArrow : Char
  leftTop : Char
  middleTop : Char
  rightTop : Char
  leftBottom : Char
  rightBottom : Char
  middleBottom : Char
  leftBox : Char
  rightBox : Char
  leftCross : Char
  rightCross : Char
  leftUnderbar : Char
  rightUnderbar : Char
  middleUnderbar : Char
  underline : Char
  singleUnderbar : Char
  deriving DecidableEq, Repr

namespace Glyphs

def unicode : Glyphs where
  horizontalBar := '─'
  verticalBar := '│'
  crossBar := '┼'
  verticalGap := '┆'
  lineMargin := '┤'
  upArrow := '▲'
  rightArrow := '▶'
  leftTop := '╭'
  middleTop := '┬'
  rightTop := '╮'
  leftBottom := '╰'
  rightBottom := '╯'
  middleBottom := '┴'
  leftBox := '┤'
  rightBox := '│'
  leftCross := '├'
  rightCross := '┤'
  leftUnderbar := '┌'
  rightUnderbar := '┐'
  middleUnderbar := '┬'
  underline := '─'
  singleUnderbar := '▲'

def ascii : Glyphs where
  horizontalBar := '-'
  verticalBar := '|'
  crossBar := '+'
  verticalGap := ':'
  lineMargin := '|'
  upArrow := '^'
  rightArrow := '>'
  leftTop := ','
  middleTop := 'v'
  rightTop := '.'
  leftBottom := '\x60'
  rightBottom := '\x27'
  middleBottom := '-'
  leftBox := '['
  rightBox := ']'
  leftCross := '|'
  rightCross := '|'
  leftUnderbar := '-'
  rightUnderbar := '-'
  middleUnderbar := '-'
  underline := '-'
  singleUnderbar := '^'

end Glyphs

def CharSet.glyphs : CharSet → Glyphs
  | .unicode => .unicode
  | .ascii => .ascii

end Diagnostics
