import Diagnostics.Toml.Layout

/-!
# Texts in TOML documents

Basic texts with escapes and literal texts without, each on one line or over several, and the keys
that are built from them.
-/

namespace Diagnostics.Toml

def hexValue? (c : Char) : Option Nat :=
  if '0' ≤ c && c ≤ '9' then some (c.toNat - 48)
  else if 'a' ≤ c && c ≤ 'f' then some (c.toNat - 87)
  else if 'A' ≤ c && c ≤ 'F' then some (c.toNat - 55)
  else none

/-- Reads exactly `count` hexadecimal digits. -/
def readHex? (value : Nat) : (count : Nat) → List Char → Option (Nat × List Char)
  | 0, rest => some (value, rest)
  | _ + 1, [] => none
  | count + 1, c :: rest => do readHex? (16 * value + (← hexValue? c)) count rest

/-- An escaped code point, which must be that of a character. -/
def readCodePoint? (count : Nat) (cs : List Char) : Option (List Char × List Char) := do
  let (value, rest) ← readHex? 0 count cs
  if value.isValidChar then some ([Char.ofNat value], rest) else none

/-- The character that a backslash and `c` stand for. -/
def simpleEscape? (c : Char) : Option Char :=
  if c = 'b' then some '\x08'
  else if c = 't' then some '\t'
  else if c = 'n' then some '\n'
  else if c = 'f' then some '\x0c'
  else if c = 'r' then some '\r'
  else if c = '\x22' then some '\x22'
  else if c = '\x5c' then some '\x5c'
  else none

/-- What follows a backslash at the end of a line: the line end and all blanks after it. -/
def skipLineEnd? (cs : List Char) : Option (List Char) :=
  match skipSpaces cs with
  | [] => some []
  | '\n' :: rest => some (rest.dropWhile fun c => isSpace c || c = '\n')
  | _ => none

/-- What a backslash stands for, given what follows it. -/
def readEscape? (multiline : Bool) : List Char → Option (List Char × List Char)
  | [] => none
  | 'u' :: rest => readCodePoint? 4 rest
  | 'U' :: rest => readCodePoint? 8 rest
  | c :: rest =>
      if multiline && (isSpace c || c = '\n') then
        (skipLineEnd? (c :: rest)).map fun after => ([], after)
      else (simpleEscape? c).map fun escaped => ([escaped], rest)

/-- The rest of a basic text after its opening quotes. -/
def readBasicFor (multiline : Bool) : (fuel : Nat) → List Char → Option (List Char × List Char)
  | 0, _ => none
  | _ + 1, [] => none
  | fuel + 1, c :: rest =>
      if c = '\x22' then
        if multiline then
          match rest with
          | '\x22' :: '\x22' :: after => some ([], after)
          | _ => do
              let (text, after) ← readBasicFor multiline fuel rest
              some (c :: text, after)
        else some ([], rest)
      else if c = '\x5c' then do
        let (piece, afterEscape) ← readEscape? multiline rest
        let (text, after) ← readBasicFor multiline fuel afterEscape
        some (piece ++ text, after)
      else if (if multiline then isIllegalInLines c else isIllegal c) then none
      else do
        let (text, after) ← readBasicFor multiline fuel rest
        some (c :: text, after)

def readBasic? (multiline : Bool) (cs : List Char) : Option (List Char × List Char) :=
  readBasicFor multiline (cs.length + 1) cs

/-- The rest of a literal text on one line after its opening quote. -/
def readLiteral? : List Char → Option (List Char × List Char)
  | [] => none
  | c :: rest =>
      if c = '\x27' then some ([], rest)
      else if isIllegal c then none
      else (readLiteral? rest).map fun (text, after) => (c :: text, after)

/-- The rest of a literal text over several lines after its opening quotes. -/
def readLiteralLines? : List Char → Option (List Char × List Char)
  | '\x27' :: '\x27' :: '\x27' :: after => some ([], after)
  | [] => none
  | c :: rest =>
      if isIllegalInLines c then none
      else (readLiteralLines? rest).map fun (text, after) => (c :: text, after)

/-- Up to two quotes right after the closing ones belong to the text. -/
def takeExtraQuotes (quote : Char) (text after : List Char) : List Char × List Char :=
  let extra := (after.take 2).takeWhile (· = quote)
  (text ++ extra, after.drop extra.length)

/-- A line end right after the opening quotes does not belong to the text. -/
def skipFirstNewline : List Char → List Char
  | '\n' :: rest => rest
  | rest => rest

/-- A text in any of its forms. -/
def readText? : List Char → Option (List Char × List Char)
  | '\x22' :: '\x22' :: '\x22' :: rest =>
      (readBasic? true (skipFirstNewline rest)).map fun (text, after) =>
        takeExtraQuotes '\x22' text after
  | '\x22' :: rest => readBasic? false rest
  | '\x27' :: '\x27' :: '\x27' :: rest =>
      (readLiteralLines? (skipFirstNewline rest)).map fun (text, after) =>
        takeExtraQuotes '\x27' text after
  | '\x27' :: rest => readLiteral? rest
  | _ => none

/-- One part of a key: bare, or a text on one line. -/
def readKeyPart? : List Char → Option (String × List Char)
  | [] => none
  | c :: rest =>
      if isBareKey c then
        some (String.ofList ((c :: rest).takeWhile isBareKey), (c :: rest).dropWhile isBareKey)
      else if c = '\x22' then
        (readBasic? false rest).map fun (text, after) => (String.ofList text, after)
      else if c = '\x27' then
        (readLiteral? rest).map fun (text, after) => (String.ofList text, after)
      else none

/-- A key of one or more parts separated by dots; spaces around the parts do not count. -/
def readKeyFor : (fuel : Nat) → List Char → Option (List String × List Char)
  | 0, _ => none
  | fuel + 1, cs => do
      let (part, rest) ← readKeyPart? cs
      match skipSpaces rest with
      | '.' :: more =>
          let (parts, after) ← readKeyFor fuel (skipSpaces more)
          some (part :: parts, after)
      | after => some ([part], after)

def readKey? (cs : List Char) : Option (List String × List Char) :=
  readKeyFor (cs.length + 1) cs

end Diagnostics.Toml
