import Bindery.File.Path
import Bindery.SystemError

/-!
# File trees

A `FileTree` is a file system as a value: what stands at each location, the directory from which
relative paths start, and what programs have written to the terminal. It is looked at through
`node?`, the view of a tree as a function of locations.

A path is followed one step at a time, and each step is taken from a directory that exists; only
the place to which the last one leads may be empty. So `new/..` leads nowhere unless there is a
directory `new`. What stands at a place may be a link, a name for another path: `locate` takes every
name as it is, `walk` goes on where a link leads, and `plain` gives a path for the same place on
which there are no links.
-/

namespace Bindery

/-- The names from the root to a file or directory. -/
abbrev Location := List String

/-- A file that is not a store of bytes. -/
inductive Device where
  /-- Swallows what is written to it, and is empty when it is read. -/
  | null
  /-- Has no room for anything. -/
  | full
  /-- Gives zeros without end, and swallows what is written to it. -/
  | zero
  deriving DecidableEq, Repr

/-- What stands at a location. -/
inductive Node where
  | file (content : ByteArray)
  | directory
  /-- A file that can be run, by the name of the program. -/
  | program (name : String)
  | device (device : Device)
  /-- A name for whatever the path leads to. -/
  | link (path : String)

/-- How many of the bytes are given that come without end. -/
def endlessSize : Nat := 1048576

/-- The content of a node that is read as a file. -/
def Node.read : Node → Except SystemError ByteArray
  | file content => .ok content
  | device .zero => .ok (List.replicate endlessSize (0 : UInt8)).toByteArray
  | program _ | device _ => .ok .empty
  | directory => .error .isDirectory
  | link _ => .error .notFound

/-- A file system. -/
structure FileTree where
  /-- Everything but the root, each location once. -/
  nodes : List (Location × Node)
  /-- Where relative paths start. -/
  cwd : Location
  /-- What programs have written to the terminal. -/
  console : ByteArray := .empty
  /-- Locations that are names of one and the same file. -/
  shared : List (List Location) := []
  /-- The permissions of what has other ones than is usual. -/
  modes : List (Location × Nat) := []

namespace FileTree

/-- What stands at a location, if anything does. The root is a directory. -/
def node? (tree : FileTree) (place : Location) : Option Node :=
  match place with
  | [] => some .directory
  | _ => tree.nodes.lookup place

/-- Puts a node at a location, in place of what stands there. -/
def put (tree : FileTree) (place : Location) (node : Node) : FileTree :=
  { tree with nodes := (place, node) :: tree.nodes.filter fun entry => entry.1 != place }

/-- Removes what stands at a location. -/
def remove (tree : FileTree) (place : Location) : FileTree :=
  { tree with
    nodes := tree.nodes.filter fun entry => entry.1 != place
    shared := tree.shared.map (·.filter (· != place))
    modes := tree.modes.filter fun entry => entry.1 != place }

/-- The nodes below a directory, each with its path from there. -/
def below (tree : FileTree) (dir : Location) : List (List String × Node) :=
  tree.nodes.filterMap fun (place, node) =>
    if dir.isPrefixOf place && place != dir then some (place.drop dir.length, node) else none

/-- The names in a directory. -/
def entries (tree : FileTree) (dir : Location) : List String :=
  (tree.below dir).filterMap fun (names, _) =>
    match names with
    | [name] => some name
    | _ => none

/-! ## Following paths -/

/-- Where one step leads from a directory. -/
def take (tree : FileTree) (place : Location) (step : Path.Step) : Except SystemError Location :=
  match tree.node? place with
  | none => .error .notFound
  | some .directory =>
    match step with
    | .here => .ok place
    | .up => .ok place.dropLast
    | .name text =>
      if 255 < text.utf8ByteSize then .error .nameTooLong else .ok (place ++ [text])
  | some _ => .error .notDirectory

/-- Where steps lead from a directory. -/
def follow (tree : FileTree) (start : Location) (steps : List Path.Step) :
    Except SystemError Location :=
  steps.foldlM tree.take start

/-- The directory from which the steps of a path start. -/
def start (tree : FileTree) (path : String) : Location :=
  if Path.isAbsolute path then [] else tree.cwd

/-- The location that a path leads to. -/
def locate (tree : FileTree) (path : String) : Except SystemError Location :=
  if path.toList.contains '\x00' then .error .nulByte
  else if path.isEmpty then .error .notFound
  else if 4096 ≤ path.utf8ByteSize then .error .nameTooLong
  else tree.follow (tree.start path) (Path.steps path)

/-! ## Following links -/

/-- Whether there is a name that stands for a path. -/
def hasLinks (tree : FileTree) : Bool :=
  tree.nodes.any fun entry =>
    match entry.2 with
    | .link _ => true
    | _ => false

/-- How far steps lead. -/
inductive Reach where
  /-- To a place. -/
  | arrived (place : Location)
  /-- To a link that is to be followed, with the steps that are left. -/
  | stopped (link : Location) (target : String) (rest : List Path.Step)

/-- How far steps lead from a directory without following a link. The last step is to be followed if
`last` says so. -/
def advance (tree : FileTree) (last : Bool) :
    Location → List Path.Step → Except SystemError Reach
  | place, [] => .ok (.arrived place)
  | place, step :: rest => do
    let next ← tree.take place step
    match tree.node? next with
    | some (.link target) =>
      if rest.isEmpty && !last then return .arrived next else return .stopped next target rest
    | _ => advance tree last next rest

/-- Where steps lead from a directory, over so many links at most, and whether there was one. The
last step is followed if `last` says so. -/
def walk (tree : FileTree) (last : Bool) :
    Nat → Location → List Path.Step → Except SystemError (Location × Bool)
  | 0, place, steps => do
    match ← tree.advance last place steps with
    | .arrived found => return (found, false)
    | .stopped .. => throw .tooManyLinks
  | links + 1, place, steps => do
    match ← tree.advance last place steps with
    | .arrived found => return (found, false)
    | .stopped link target rest =>
      let start := if Path.isAbsolute target then [] else link.dropLast
      let (found, _) ← walk tree last links start (Path.steps target ++ rest)
      return (found, true)

/-- How many links may follow each other. -/
def linkLimit : Nat := 40

/-- A path for the same place that leads over no link. The last name is followed if `last` says
so, or if a slash follows it. A path that `locate` refuses is left to it. -/
def plain (tree : FileTree) (path : String) (last : Bool) : Except SystemError String := do
  if !tree.hasLinks || path.toList.contains '\x00' || path.isEmpty || 4096 ≤ path.utf8ByteSize then
    return path
  else
    let slash := Path.endsInSlash path
    let (place, linked) ← tree.walk (last || slash) linkLimit (tree.start path) (Path.steps path)
    if linked then return "/" ++ "/".intercalate place ++ (if slash then "/" else "")
    else return path

/-! ## Looking -/

/-- What a path without links leads to. -/
def find (tree : FileTree) (path : String) : Except SystemError Node := do
  match tree.node? (← tree.locate path) with
  | some .directory => return .directory
  | some node => if Path.endsInSlash path then throw .notDirectory else return node
  | none => throw .notFound

/-- What a path leads to in the end. -/
def seek (tree : FileTree) (path : String) : Except SystemError Node := do
  tree.find (← tree.plain path true)

/-- The location that a path leads to in the end. -/
def seekLocation (tree : FileTree) (path : String) : Except SystemError Location := do
  tree.locate (← tree.plain path true)

/-- What a path names, be it a link. -/
def findName (tree : FileTree) (path : String) : Except SystemError Node := do
  tree.find (← tree.plain path false)

/-- The location that a path names. -/
def nameLocation (tree : FileTree) (path : String) : Except SystemError Location := do
  tree.locate (← tree.plain path false)

/-- Whether a path leads to a file in the end, and not to a device or directory. -/
def isFile (tree : FileTree) (path : String) : Bool :=
  match tree.seek path with
  | .ok (.file _) | .ok (.program _) => true
  | _ => false

/-- Whether a path leads to a directory in the end. -/
def isDirectory (tree : FileTree) (path : String) : Bool :=
  match tree.seek path with
  | .ok .directory => true
  | _ => false

/-- What a link at a path stands for. -/
def linkTarget? (tree : FileTree) (path : String) : Option String :=
  match tree.findName path with
  | .ok (.link target) => some target
  | _ => none

/-- The name in which the steps of a path end, if they do not end in dots or at the root. -/
def lastName? (path : String) : Option String :=
  match (Path.steps path).getLast? with
  | some (.name text) => some text
  | _ => none

end FileTree

end Bindery
