import Diagnostics.Config.File
import Diagnostics.Source.Lines

/-!
# File trees

A snapshot of the files that a run can see. A place is the list of names that leads to it from the
root. A path is walked through existing directories, or resolved by its text alone; the search for a
configuration file goes from a place up to the root. Looking up a place breaks off if its name is
too long for the file system.
-/

namespace Diagnostics

abbrev FilePlace := List String

structure FileTree where
  files : List (FilePlace × List UInt8) := []
  directories : List FilePlace := []
  workingDirectory : FilePlace := []

/-- A name has at most so many bytes. -/
def nameLimit : Nat := 255

/-- A path has fewer bytes than this. -/
def pathBound : Nat := 4096

/-- The segments between the slashes of a path; empty ones are kept. -/
def splitSegments : List Char → List (List Char)
  | [] => [[]]
  | c :: rest => if c = '/' then [] :: splitSegments rest else consFirst c (splitSegments rest)

def pathSegments (path : String) : List String :=
  (splitSegments path.toList).map String.ofList

def isAbsolute (path : String) : Bool :=
  path.toList.head? = some '/'

/-- A segment that leads from a directory to itself. -/
def isIdleSegment (segment : String) : Bool :=
  segment = "" || segment = "."

/-- A path without its idle segments. Two slashes at the start are kept, more are one. -/
def normalizedPath (path : String) : String :=
  let segments := (pathSegments path).filter fun segment => !isIdleSegment segment
  let lead :=
    match path.toList with
    | '/' :: '/' :: '/' :: _ => "/"
    | '/' :: '/' :: _ => "//"
    | '/' :: _ => "/"
    | _ => ""
  let text := lead ++ "/".intercalate segments
  if text = "" then "." else text

/-- A place and all places above it, nearest first. -/
def placesAbove (place : FilePlace) : List FilePlace :=
  ((List.range (place.length + 1)).map place.take).reverse

/-- The path of a place from the root. -/
def absoluteName (place : FilePlace) : String :=
  "/" ++ "/".intercalate place

/-- The place that a segment leads to from another, whether or not there is anything. Above the root
is the root. -/
def followSegment (place : FilePlace) (segment : String) : FilePlace :=
  if isIdleSegment segment then place
  else if segment = ".." then place.dropLast
  else place ++ [segment]

def hasNull (path : String) : Bool :=
  path.toList.contains '\x00'

namespace FileTree

variable (tree : FileTree)

/-- Puts a file in place of any other at the same place. -/
def addFile (place : FilePlace) (bytes : List UInt8) : FileTree :=
  { tree with files := tree.files.filter (·.1 ≠ place) ++ [(place, bytes)] }

def addDirectory (place : FilePlace) : FileTree :=
  { tree with directories := tree.directories ++ [place] }

def content? (place : FilePlace) : Option (List UInt8) :=
  (tree.files.find? (·.1 = place)).map Prod.snd

def isFile (place : FilePlace) : Bool :=
  (tree.content? place).isSome

/-- Whether the place is a directory: the root, one that is listed, or one with something in it. -/
def isDirectory (place : FilePlace) : Bool :=
  place.isEmpty || tree.directories.any place.isPrefixOf ||
    tree.files.any fun file => place.isPrefixOf file.1 && place ≠ file.1

/-- Where a path starts from. -/
def startOf (path : String) : FilePlace :=
  if isAbsolute path then [] else tree.workingDirectory

/-- One step of a walk, which is possible only from a directory and to something that exists. -/
def enter? (place : FilePlace) (segment : String) : Option FilePlace :=
  let next := followSegment place segment
  if tree.isDirectory place && (tree.isFile next || tree.isDirectory next) then some next else none

/-- The place that a path leads to, if it exists and the path is not too long. -/
def walk? (path : String) : Option FilePlace :=
  if path = "" ∨ pathBound ≤ path.utf8ByteSize then none
  else (pathSegments path).foldlM tree.enter? (tree.startOf path)

/-- The bytes of the file that a path leads to. -/
def bytesAt? (path : String) : Option (List UInt8) :=
  (tree.walk? path).bind tree.content?

/-- The place that the text of a path stands for. -/
def place (path : String) : FilePlace :=
  (pathSegments path).foldl followSegment (tree.startOf path)

def resolve (path : String) : Except Fault FilePlace :=
  if hasNull path then .error .nullInPath else .ok (tree.place path)

/-- Whether the way to a place comes to a directory where the next name is too long. -/
def meetsLongName (place : FilePlace) : Bool :=
  let fitting := place.takeWhile fun name => decide (name.utf8ByteSize ≤ nameLimit)
  fitting.length < place.length && tree.isDirectory fitting

/-- Looks up whether there is a file at a place. -/
def lookUp (place : FilePlace) : Except Fault Bool :=
  if pathBound ≤ (absoluteName place).utf8ByteSize || tree.meetsLongName place then
    .error .nameTooLong
  else .ok (tree.isFile place)

/-- The first of the places at which there is a file. -/
def firstFile : List FilePlace → Except Fault (Option FilePlace)
  | [] => .ok none
  | place :: rest => do if ← tree.lookUp place then pure (some place) else firstFile rest

/-- The nearest configuration file at or above a directory, or above a file. -/
def configAbove (place : FilePlace) : Except Fault (Option FilePlace) := do
  let directory := if ← tree.lookUp place then place.dropLast else place
  tree.firstFile ((placesAbove directory).map (· ++ [configFileName]))

/-- The configuration file above the first of the paths that has one. -/
def findConfig : List String → Except Fault (Option FilePlace)
  | [] => .ok none
  | path :: rest => do
      match ← tree.configAbove (← tree.resolve path) with
      | some place => pure (some place)
      | none => findConfig rest

end FileTree

/-- No configuration file is above any of the places. -/
inductive SearchError where
  | notFound
  deriving DecidableEq, Repr

def SearchError.message : SearchError → String
  | notFound => "No " ++ configFileName ++ " found in any parent directory"

/-- Searches from the given paths, or from the working directory if there are none. -/
def FileTree.searchConfig (tree : FileTree) (paths : List String) :
    Except (Failure SearchError) FilePlace :=
  match tree.findConfig (if paths.isEmpty then ["."] else paths) with
  | .ok (some place) => .ok place
  | .ok none => .error (.reported .notFound)
  | .error fault => .error (.abrupt fault)

end Diagnostics
