import Bindery.CommandLine

/-!
# The program

Runs the command line on the files of the system. The files that the arguments name are loaded into
a file tree, and what the run changes in the tree is written back. Which files a run touches is
found out by a trial on the tree alone, so that those that exist already can be loaded too.

A link of the system is loaded as what it leads to, and two names of one file as two files, so that
the tree here holds neither; what is written back goes through the link as the system does it.
-/

namespace Bindery.Host

/-- The locations that steps lead through from a directory. -/
def passed (place : Location) : List Path.Step → List Location
  | [] => [place]
  | .here :: rest => passed place rest
  | .up :: rest => place :: passed place.dropLast rest
  | .name text :: rest => place :: passed (place ++ [text]) rest

/-- The locations on the way of a path. -/
def passedBy (cwd : Location) (path : String) : List Location :=
  passed (if Path.isAbsolute path then [] else cwd) (Path.steps path)

/-- The path of a location from the root. -/
def absolutePath (place : Location) : String := "/" ++ "/".intercalate place

/-- What stands at a location of the system. -/
def load (place : Location) : IO (Option Node) := do
  match ← (IO.FS.readBinFile (absolutePath place)).toBaseIO with
  | .ok content => return some (.file content)
  | .error (.inappropriateType ..) => return some .directory
  | .error _ => return none

/-- Loads locations into a tree. -/
def loadAll (tree : FileTree) (places : List Location) : IO FileTree :=
  places.foldlM (fun tree place => do
    match tree.node? place with
    | some _ => return tree
    | none => return ((← load place).map (tree.put place)).getD tree) tree

/-- Writes what stands at a location, unless it stood there before. -/
def save (before : FileTree) (place : Location) (node : Node) : IO Unit := do
  let path := absolutePath place
  match node, before.node? place with
  | .directory, none => IO.FS.createDirAll path
  | .file content, some (.file old) =>
    if content != old then IO.FS.writeBinFile path content
  | .file content, _ => IO.FS.writeBinFile path content
  | _, _ => return ()

/-- The locations that arguments name. -/
def named (cwd : Location) (words : List String) : List Location :=
  match CommandLine.Arguments.parse words with
  | .run a => (a.schemas ++ a.outputDir.toList).flatMap (passedBy cwd)
  | _ => []

/-- The number of names on the way to an entry, by which directories come before what is in them. -/
def depth (entry : Location × Node) : Nat := entry.1.length

end Bindery.Host

open Bindery in
def main (words : List String) : IO UInt32 := do
  let here := (← IO.currentDir).toString
  let cwd := (Host.passedBy [] here).getLastD []
  let empty : FileTree := { Program.emptyHost with cwd }
  let known ← Host.loadAll empty (Host.passedBy [] here ++ Host.named cwd words)
  let (_, trial) := CommandLine.run known words
  let before ← Host.loadAll known (trial.nodes.map (·.1))
  let (outcome, after) := CommandLine.run before words
  for (place, node) in after.nodes.mergeSort fun a b => Host.depth a ≤ Host.depth b do
    Host.save before place node
  IO.print outcome.output
  IO.eprint outcome.errors
  return UInt32.ofNat outcome.code
