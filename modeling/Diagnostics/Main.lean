import Diagnostics.CommandLine.Run
import Diagnostics.Usual

/-!
# The program

Takes a snapshot of the files that the arguments may speak of, runs the command on it, and writes
what it yields.
-/

namespace Diagnostics.CommandLine

/-- Texts among the arguments that may be paths. -/
def candidatePaths (args : List String) : List String :=
  args ++ args.filterMap fun arg => (splitEquals arg.toList).2

/-- The places that resolving a path passes through. -/
def passedPlaces (tree : FileTree) (path : String) : List FilePlace :=
  let segments := pathSegments path
  (List.range segments.length).map fun count =>
    (segments.take count).foldl followSegment (tree.startOf path)

def readIfFile (path : String) : IO (Option (List UInt8)) :=
  try
    let bytes ← IO.FS.readBinFile path
    pure (some bytes.toList)
  catch _ => pure none

/-- Adds what stands at a path, and the directories on the way to it. -/
def surveyPath (tree : FileTree) (path : String) : IO FileTree := do
  match ← readIfFile path with
  | some bytes =>
      let extended := tree.addFile (tree.place path) bytes
      pure ((passedPlaces tree path).foldl FileTree.addDirectory extended)
  | none => pure tree

def surveyConfigs (tree : FileTree) (place : FilePlace) : IO FileTree :=
  (placesAbove place).foldlM
    (fun tree directory => do
      let file := directory ++ [configFileName]
      match ← readIfFile (absoluteName file) with
      | some bytes => pure (tree.addFile file bytes)
      | none => pure tree)
    tree

def survey (args : List String) : IO FileTree := do
  let here ← IO.currentDir
  let workingDirectory := (pathSegments here.toString).filter (· ≠ "")
  let start : FileTree := { directories := [workingDirectory], workingDirectory }
  let tree ← (candidatePaths args).foldlM surveyPath start
  let places := workingDirectory :: (candidatePaths args).map tree.place
  places.foldlM surveyConfigs tree

def usageText : String :=
  "Usage: skein [--version] [--help] render SOURCE DIAGNOSTICS [OPTIONS]\n" ++
    "       skein [--version] [--help] lines FILE\n" ++
    "       skein [--version] [--help] locate FILE OFFSET [--index-type byte|char]\n"

/-- Writes an outcome and yields the exit status. -/
def report (outcome : Outcome) : IO UInt32 := do
  let stdout ← IO.getStdout
  let stderr ← IO.getStderr
  match outcome with
  | .help => do
      stdout.putStr usageText
      pure 0
  | .misused => do
      stderr.putStr usageText
      pure 2
  | .finished output => do
      stderr.putStr (String.ofList output.stderr)
      stdout.putStr (String.ofList output.stdout)
      pure (UInt32.ofNat output.status)
  | .broken _ written => do
      stderr.putStr (String.ofList written ++ "fault: a value of a kind that is not handled\n")
      pure 1

end Diagnostics.CommandLine

def main (args : List String) : IO UInt32 := do
  let tree ← Diagnostics.CommandLine.survey args
  let stdout ← (← IO.getStdout).isTty
  let stderr ← (← IO.getStderr).isTty
  Diagnostics.CommandLine.report (Diagnostics.CommandLine.run tree { stdout, stderr } args)
