import Bindery.Formatter
import Bindery.Output.GeneratedFile

/-!
# Putting files in place

A file is put in place in two steps: its text is written beside it, under a staging name, and then
the staging file is moved to its path. So whoever looks at the path finds the file that was there
before or the whole new one, never a part of it. A formatter, if there is one, is run on the file
once it is in place.

`FileOp` is one such step, and a run is a list of them: `FileOp.runAll` stops at the first that
fails.
-/

namespace Bindery

/-- A step that changes files. -/
inductive FileOp where
  /-- Makes a directory and all directories above it. -/
  | makeDirectories (dir : String)
  /-- Writes a text to a file. -/
  | write (path text : String)
  /-- Moves a file, in place of the one at its new path. -/
  | rename (source target : String)
  /-- Runs the formatter on a file. -/
  | format (path : String)
  deriving DecidableEq, Repr

namespace FileOp

/-- Does one step. What it changed before it failed stands. -/
def run (formatter : Option Formatter) (tree : FileTree) : FileOp → Except Error Unit × FileTree
  | makeDirectories dir =>
    let (result, tree) := tree.makeDirectories dir
    (result.mapError (.write dir), tree)
  | write path text =>
    match tree.write path text.toUTF8 with
    | .ok tree => (.ok (), tree)
    | .error cause => (.error (.write path cause), tree)
  | rename source target =>
    match tree.rename source target with
    | .ok tree => (.ok (), tree)
    | .error cause => (.error (.write target cause), tree)
  | format path =>
    match formatter with
    | some formatter => formatter.run tree path
    | none => (.ok (), tree)

/-- Does steps one after the other, up to the first that fails. -/
def runAll (formatter : Option Formatter) (tree : FileTree) :
    List FileOp → Except Error Unit × FileTree
  | [] => (.ok (), tree)
  | op :: ops =>
    match op.run formatter tree with
    | (.ok (), tree) => runAll formatter tree ops
    | (.error e, tree) => (.error e, tree)

/-- The name under which a file is written before it is moved to its path. -/
def stagingPath (path : String) : String := Path.withExtension path "rs.tmp"

/-- The steps that put a file in place. -/
def place (path text : String) : List FileOp :=
  [write (stagingPath path) text, rename (stagingPath path) path, format path]

end FileOp

/-- Where the files of a version go. -/
structure OutputDir where
  dir : String
  header : FileHeader

namespace OutputDir

/-- The path of the file of a domain. -/
def domainPath (out : OutputDir) (moduleName : String) : String :=
  Path.join out.dir (moduleName ++ ".rs")

/-- The path of the index. -/
def indexPath (out : OutputDir) : String := Path.join out.dir "mod.rs"

/-- The steps that put the file of a domain in place. -/
def placeDomain (out : OutputDir) (u : DomainUnit) : List FileOp :=
  FileOp.place (out.domainPath u.moduleName) (u.fileText out.header)

/-- The steps that put the index in place. -/
def placeIndex (out : OutputDir) (entries : List IndexEntry) : List FileOp :=
  FileOp.place out.indexPath (out.header.indexText entries)

end OutputDir

end Bindery
