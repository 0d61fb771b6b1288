import Diagnostics.Failure
import Diagnostics.Text.Utf8
import Diagnostics.Toml.Reader

/-!
# TOML documents

A document is a sequence of statements, one a line: headers that open a table or add one to an array
of tables, and entries of the table that was opened last.
-/

namespace Diagnostics.Toml

/-- A document that is read up to some point: the tables so far and the path that was opened. -/
structure Draft where
  table : Table := []
  marks : Marks := {}
  header : Path := []

namespace Draft

/-- Opens a table, which no header and no dotted key may have opened before. -/
def openHeader? (draft : Draft) (path : Path) : Option Draft := do
  let marks := draft.marks.settle
  if marks.isDeclared path || marks.isFrozen path then none
  else
    let table ← openTable? path draft.table
    some { table, marks := marks.declare path, header := path }

/-- Adds a table to an array of tables. -/
def appendHeader? (draft : Draft) (path : Path) : Option Draft := do
  let marks := draft.marks.settle
  if marks.isFrozen path then none
  else
    let table ← appendTable? path.dropLast (path.getLastD "") draft.table
    some { table, marks := (marks.release path).declare path, header := path }

/-- The tables that a dotted key passes through, in the table that is open. -/
def passedPaths (draft : Draft) (path : Path) : List Path :=
  (List.range (path.length - 1)).map fun i => draft.header ++ path.take (i + 1)

/-- Adds an entry to the table that is open. -/
def addEntry? (draft : Draft) (path : Path) (value : Value) : Option Draft := do
  let passed := draft.passedPaths path
  let parents := draft.header ++ path.dropLast
  if passed.any draft.marks.isDeclared || draft.marks.isFrozen parents then none
  else
    let table ← insertAt? true parents (path.getLastD "") value draft.table
    let marks := (draft.marks.suspend passed).freezeIf (draft.header ++ path) value
    some { draft with table, marks }

end Draft

variable [Platform]

/-- One statement, up to its end. -/
def readStatement (draft : Draft) : List Char → Reading (Draft × List Char)
  | '[' :: '[' :: rest => do
      let (path, after) ← required (readKey? (skipSpaces rest))
      let draft ← required (draft.appendHeader? path)
      pure (draft, ← required ((expect? ']' after).bind (expect? ']')))
  | '[' :: rest => do
      let (path, after) ← required (readKey? (skipSpaces rest))
      let draft ← required (draft.openHeader? path)
      pure (draft, ← required (expect? ']' after))
  | '#' :: rest => .ok (draft, '#' :: rest)
  | cs => do
      let (path, afterKey) ← required (readKey? cs)
      let (value, after) ← readValue (skipSpaces (← required (expect? '=' afterKey)))
      pure (← required (draft.addEntry? path value), after)

/-- The statements of a document, one a line. -/
def readStatementsFor : (fuel : Nat) → Draft → List Char → Reading Table
  | 0, _, _ => .error .invalid
  | fuel + 1, draft, cs =>
      match skipSpaces cs with
      | [] => .ok draft.table
      | '\n' :: rest => readStatementsFor fuel draft rest
      | start => do
          let (next, after) ← readStatement draft start
          match ← required (skipComment? (skipSpaces after)) with
          | [] => pure next.table
          | '\n' :: rest => readStatementsFor fuel next rest
          | _ => .error .invalid

def readTable (text : List Char) : Reading Table :=
  let unified := unifyNewlines text
  readStatementsFor (unified.length + 1) {} unified

/-- Why the bytes of a file are no document. -/
inductive ReadError where
  | encoding (cause : Utf8.DecodeError)
  | refused (cause : Refusal)
  deriving DecidableEq, Repr

/-- How reading a file fails; `invalid` is what is said of one that is no document. -/
def ReadError.failure (invalid : ε) : ReadError → Failure ε
  | .encoding _ => .abrupt .undecodable
  | .refused .invalid => .reported invalid
  | .refused .tooDeep => .abrupt .tooDeep
  | .refused (.overlong count) => .abrupt (.overlong count)

def read (bytes : List UInt8) : Except ReadError Table :=
  match Utf8.decode bytes with
  | .error cause => .error (.encoding cause)
  | .ok text => (readTable text).mapError .refused

end Diagnostics.Toml
