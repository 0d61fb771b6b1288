/-!
# Layout of TOML documents

Blanks, comments and keys. All functions here and in the other readers take the rest of the
document and return what is left of it, or nothing where the document is invalid.
-/

namespace Diagnostics.Toml

/-- Carriage return and line feed together read as a line feed, also inside of texts. -/
def unifyNewlines : List Char → List Char
  | [] => []
  | '\r' :: '\n' :: rest => '\n' :: unifyNewlines rest
  | c :: rest => c :: unifyNewlines rest

def isSpace (c : Char) : Bool :=
  c = ' ' || c = '\t'

def isControl (c : Char) : Bool :=
  c.toNat < 0x20 || c.toNat = 0x7F

/-- A control character that no comment or text on one line may hold. -/
def isIllegal (c : Char) : Bool :=
  isControl c && c ≠ '\t'

/-- A control character that no text over several lines may hold. -/
def isIllegalInLines (c : Char) : Bool :=
  isIllegal c && c ≠ '\n'

def isBareKey (c : Char) : Bool :=
  ('a' ≤ c && c ≤ 'z') || ('A' ≤ c && c ≤ 'Z') || ('0' ≤ c && c ≤ '9') || c = '-' || c = '_'

def skipSpaces (cs : List Char) : List Char :=
  cs.dropWhile isSpace

/-- Skips a comment up to the end of its line. -/
def skipComment? : List Char → Option (List Char)
  | '#' :: rest =>
      if (rest.takeWhile (· ≠ '\n')).any isIllegal then none
      else some (rest.dropWhile (· ≠ '\n'))
  | rest => some rest

/-- Skips spaces, line ends and comments; `inComment` says whether a comment has begun. -/
def skipLayoutIn : (inComment : Bool) → List Char → Option (List Char)
  | _, [] => some []
  | true, c :: rest =>
      if c = '\n' then skipLayoutIn false rest
      else if isIllegal c then none
      else skipLayoutIn true rest
  | false, c :: rest =>
      if isSpace c || c = '\n' then skipLayoutIn false rest
      else if c = '#' then skipLayoutIn true rest
      else some (c :: rest)

def skipLayout? (cs : List Char) : Option (List Char) :=
  skipLayoutIn false cs

end Diagnostics.Toml
