import Diagnostics.Text.Numeral
import Diagnostics.Text.Printable

/-!
# Quoted text

The quoted form of a text holds printable characters only and determines the text. A text with a
single quote and no double quote stands between double quotes, any other between single ones.
-/

namespace Diagnostics.Text

/-- The quote that encloses a text. -/
def quoteOf (cs : List Char) : Char :=
  if cs.contains '\x27' && !cs.contains '\x22' then '\x22' else '\x27'

/-- What stands for `c` between quotes. -/
def escaped (quote c : Char) : List Char :=
  if c = quote || c = '\x5c' then ['\x5c', c]
  else if c = '\n' then ['\x5c', 'n']
  else if c = '\r' then ['\x5c', 'r']
  else if c = '\t' then ['\x5c', 't']
  else if isPrintable c then [c]
  else if c.toNat < 0x100 then '\x5c' :: 'x' :: hexadecimal 2 c.toNat
  else if c.toNat < 0x10000 then '\x5c' :: 'u' :: hexadecimal 4 c.toNat
  else '\x5c' :: 'U' :: hexadecimal 8 c.toNat

def quotedChars (cs : List Char) : List Char :=
  let quote := quoteOf cs
  quote :: cs.flatMap (escaped quote) ++ [quote]

def quoted (text : String) : String :=
  String.ofList (quotedChars text.toList)

end Diagnostics.Text
