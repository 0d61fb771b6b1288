import Diagnostics.Toml.Value

/-!
# Tables under construction

A document builds its tables piece by piece. Reaching a nested table by its path creates the tables
on the way; where arrays of tables may be entered, a path leads into the last of their tables.
-/

namespace Diagnostics.Toml

abbrev Path := List String

/-- Changes the table at `path`; fails where something else than a table is in the way. -/
def modifyAt (intoArrays : Bool) (change : Table → Option Table) : Path → Table → Option Table
  | [], table => change table
  | key :: path, table =>
      match Keyed.find? table key with
      | none => do
          let inner ← modifyAt intoArrays change path []
          some (Keyed.put table key (.table inner))
      | some (.table inner) => do
          let inner ← modifyAt intoArrays change path inner
          some (Keyed.put table key (.table inner))
      | some (.array items) =>
          match intoArrays, items.getLast? with
          | true, some (.table inner) => do
              let inner ← modifyAt intoArrays change path inner
              some (Keyed.put table key (.array (items.dropLast ++ [.table inner])))
          | _, _ => none
      | some _ => none

/-- Makes sure that there is a table at `path`. -/
def openTable? (path : Path) (table : Table) : Option Table :=
  modifyAt true some path table

/-- Adds an empty table to the array of tables under the last key of a path. -/
def appendTable? (parents : Path) (key : String) (table : Table) : Option Table :=
  modifyAt true
    (fun inner =>
      match Keyed.find? inner key with
      | none => some (Keyed.put inner key (.array [.table []]))
      | some (.array items) => some (Keyed.put inner key (.array (items ++ [.table []])))
      | some _ => none)
    parents table

/-- Gives a key that is not in use yet a value. -/
def insertAt? (intoArrays : Bool) (parents : Path) (key : String) (value : Value)
    (table : Table) : Option Table :=
  modifyAt intoArrays
    (fun inner => if Keyed.contains inner key then none else some (Keyed.put inner key value))
    parents table

/-- What may no longer be done to the tables at some paths. A declared path is not to be opened by
a header again, a frozen one is not to be changed at all, and neither is anything below it. Pending
paths become declared at the next header. -/
structure Marks where
  declared : List Path := []
  frozen : List Path := []
  pending : List Path := []

namespace Marks

def isDeclared (marks : Marks) (path : Path) : Bool :=
  marks.declared.contains path

def isFrozen (marks : Marks) (path : Path) : Bool :=
  marks.frozen.any fun frozenPath => frozenPath.isPrefixOf path

def declare (marks : Marks) (path : Path) : Marks :=
  { marks with declared := path :: marks.declared }

def freeze (marks : Marks) (path : Path) : Marks :=
  { marks with frozen := path :: marks.frozen }

def suspend (marks : Marks) (paths : List Path) : Marks :=
  { marks with pending := paths ++ marks.pending }

/-- Turns the pending paths into declared ones. -/
def settle (marks : Marks) : Marks :=
  { marks with declared := marks.pending ++ marks.declared, pending := [] }

/-- Forgets what is known of a path and of everything below it. -/
def release (marks : Marks) (path : Path) : Marks :=
  { marks with
    declared := marks.declared.filter fun other => !path.isPrefixOf other
    frozen := marks.frozen.filter fun other => !path.isPrefixOf other }

end Marks

/-- Arrays and inline tables are complete once they are read. -/
def Value.isClosed : Value → Bool
  | .array _ => true
  | .table _ => true
  | _ => false

def Marks.freezeIf (marks : Marks) (path : Path) (value : Value) : Marks :=
  if value.isClosed then marks.freeze path else marks

end Diagnostics.Toml
