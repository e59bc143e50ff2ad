import Bindery.File.Tree

/-!
# Operations on files

Every operation on a file tree either fails as the system would, leaving the tree as it was, or
gives the tree after it. A path is followed over links, except that moving, removing and making take
the last name of a path as it is. What is written to a file is written to all its names, and a name
that is moved takes its file and the permissions of the file along.
-/

namespace Bindery.FileTree

/-! ## Permissions -/

/-- The permissions of what stands at a location. -/
def mode (tree : FileTree) (place : Location) : Nat :=
  match tree.modes.lookup place with
  | some mode => mode
  | none =>
    match tree.node? place with
    | some .directory | some (.program _) => 0o755
    | some (.device _) => 0o666
    | some (.link _) => 0o777
    | _ => 0o644

/-- Gives permissions to what stands at a location, under all its names. -/
def withMode (tree : FileTree) (place : Location) (mode : Nat) : FileTree :=
  let names := (tree.shared.find? (·.contains place)).getD [place]
  let others := tree.modes.filter fun entry => !names.contains entry.1
  { tree with modes := names.map (·, mode) ++ others }

/-- Gives the permissions of something new, of which a mask takes some away. -/
def withMask (tree : FileTree) (place : Location) (full mask : Nat) : FileTree :=
  let mode := full - (full &&& mask)
  if tree.mode place = mode then tree else tree.withMode place mode

/-- Whether a file may be run. -/
def mayRun (tree : FileTree) (place : Location) : Bool := tree.mode place &&& 0o111 != 0

/-! ## Reading and writing -/

/-- The content of the file at a path. -/
def read (tree : FileTree) (path : String) : Except SystemError ByteArray := do
  (← tree.seek path).read

/-- The text of the file at a path. -/
def readText (tree : FileTree) (path : String) : Except SystemError String := do
  match String.fromUTF8? (← tree.read path) with
  | some text => return text
  | none => throw .notText

/-- The location of the file that is opened for writing at a path without links; there need not be
one yet. -/
def locateFile (tree : FileTree) (path : String) : Except SystemError Location := do
  let place ← tree.locate path
  if (lastName? path).isNone || Path.endsInSlash path then throw .isDirectory
  match tree.node? place with
  | some .directory => throw .isDirectory
  | _ => return place

/-- Puts a content into the file at a location, under all its names. -/
def fill (tree : FileTree) (place : Location) (content : ByteArray) : FileTree :=
  match tree.shared.find? (·.contains place) with
  | none => tree.put place (.file content)
  | some names => names.foldl (fun tree name => tree.put name (.file content)) tree

/-- Makes what stands at a location hold the given content. What a device is given is not kept, and
a link is not followed. -/
def store (tree : FileTree) (place : Location) (content : ByteArray) :
    Except SystemError FileTree :=
  match tree.node? place with
  | none => .ok (tree.put place (.file content))
  | some (.file _) | some (.program _) => .ok (tree.fill place content)
  | some .directory => .error .isDirectory
  | some (.link _) => .error .tooManyLinks
  | some (.device .null) | some (.device .zero) => .ok tree
  | some (.device .full) => if content.isEmpty then .ok tree else .error .noSpace

/-- Makes the file that a path leads to hold the given content. -/
def write (tree : FileTree) (path : String) (content : ByteArray) :
    Except SystemError FileTree := do
  tree.store (← tree.locateFile (← tree.plain path true)) content

/-- Makes the file that a path leads to hold the given content, unless it is a program, which may be
running. -/
def save (tree : FileTree) (path : String) (content : ByteArray) :
    Except SystemError FileTree := do
  let place ← tree.locateFile (← tree.plain path true)
  match tree.node? place with
  | some (.program _) => throw .textBusy
  | _ => tree.store place content

/-! ## Moving -/

/-- Moves the name of a file from a location to another, in place of what stands there. -/
def moveFile (tree : FileTree) (origin goal : Location) (node : Node) : FileTree :=
  let moved (place : Location) : Location := if place = origin then goal else place
  { (tree.remove origin).put goal node with
    shared := tree.shared.map fun names => (names.filter (· != goal)).map moved
    modes := (tree.modes.filter (·.1 != goal)).map fun (place, mode) => (moved place, mode) }

/-- Moves a directory, and all that is in it, from a location to another. -/
def moveDirectory (tree : FileTree) (origin goal : Location) : FileTree :=
  let moved (place : Location) : Location :=
    if origin.isPrefixOf place then goal ++ place.drop origin.length else place
  let (inside, others) := tree.nodes.partition fun entry => origin.isPrefixOf entry.1
  { tree with
    nodes := inside.map (fun (place, node) => (moved place, node)) ++
      others.filter fun entry => entry.1 != goal
    shared := tree.shared.map fun names => (names.filter (· != goal)).map moved
    modes := (tree.modes.filter (·.1 != goal)).map fun (place, mode) => (moved place, mode) }

/-- Gives what a path names another name. A file takes the place of a file, a directory that of an
empty directory. -/
def move (tree : FileTree) (source target : String) : Except SystemError FileTree := do
  let source ← tree.plain source false
  let origin ← tree.locate source
  let target ← tree.plain target false
  let goal ← tree.locate target
  if (lastName? source).isNone || (lastName? target).isNone then throw .busy
  match tree.node? origin with
  | none => throw .notFound
  | some .directory =>
    if origin = goal then return tree
    if origin.isPrefixOf goal then throw .invalidArgument
    if goal.isPrefixOf origin then throw .directoryNotEmpty
    match tree.node? goal with
    | none => return tree.moveDirectory origin goal
    | some .directory =>
      if (tree.below goal).isEmpty then return tree.moveDirectory origin goal
      else throw .directoryNotEmpty
    | some _ => throw .notDirectory
  | some node =>
    if Path.endsInSlash source || Path.endsInSlash target then throw .notDirectory
    if origin = goal then return tree
    if goal.isPrefixOf origin then throw .directoryNotEmpty
    match tree.node? goal with
    | some .directory => throw .isDirectory
    | _ => return tree.moveFile origin goal node

/-- Whether two locations are names of one and the same file. -/
def areNamesOfOne (tree : FileTree) (place other : Location) : Bool :=
  tree.shared.any fun names => names.contains place && names.contains other

/-- Gives what a path names another name, as the system does: two names of one file stay as they
are. -/
def rename (tree : FileTree) (source target : String) : Except SystemError FileTree := do
  let origin ← tree.nameLocation source
  let goal ← tree.nameLocation target
  if tree.areNamesOfOne origin goal then return tree else tree.move source target

/-! ## Removing -/

/-- Removes the file at a path without links. -/
def removeFile (tree : FileTree) (path : String) : Except SystemError FileTree := do
  let place ← tree.locate path
  if (lastName? path).isNone then throw .isDirectory
  match tree.node? place with
  | none => throw .notFound
  | some .directory => throw .isDirectory
  | some _ => if Path.endsInSlash path then throw .notDirectory else return tree.remove place

/-- Takes away one name of a file. -/
def unlink (tree : FileTree) (path : String) : Except SystemError FileTree := do
  tree.removeFile (← tree.plain path false)

/-! ## Directories -/

/-- Makes the directory at a path, in a directory that exists. -/
def makeDirectory (tree : FileTree) (path : String) : Except SystemError FileTree := do
  let path ← tree.plain path false
  let place ← tree.locate path
  if (lastName? path).isNone then throw .alreadyExists
  match tree.node? place with
  | some _ => throw .alreadyExists
  | none => return tree.put place .directory

/-- Removes the directory at a path, which must be empty. -/
def removeDirectory (tree : FileTree) (path : String) : Except SystemError FileTree := do
  let path ← tree.plain path false
  let place ← tree.locate path
  match (Path.steps path).getLast? with
  | some .here => throw .invalidArgument
  | some .up => throw .directoryNotEmpty
  | none => throw .busy
  | some (.name _) =>
    match tree.node? place with
    | none => throw .notFound
    | some .directory =>
      if (tree.below place).isEmpty then return tree.remove place else throw .directoryNotEmpty
    | some _ => throw .notDirectory

/-- Removes a directory with all that is in it. -/
def removeAll (tree : FileTree) (place : Location) : FileTree :=
  let stays (other : Location) : Bool := !place.isPrefixOf other
  { tree with
    nodes := tree.nodes.filter fun entry => stays entry.1
    shared := tree.shared.map (·.filter stays)
    modes := tree.modes.filter fun entry => stays entry.1 }

/-- What the failure to make a directory comes to: nothing, if there is one already. -/
def unlessThere (tree : FileTree) (path : String) (cause : SystemError) :
    Except SystemError Unit × FileTree :=
  if cause = .alreadyExists && tree.isDirectory path then (.ok (), tree) else (.error cause, tree)

/-- Makes the first of some directories, and before it the later ones that are missing. Each is the
parent of the one before it. -/
def makeDirectoriesAlong (tree : FileTree) : List String → Except SystemError Unit × FileTree
  | [] => (.ok (), tree)
  | path :: above =>
    match tree.makeDirectory path with
    | .ok tree => (.ok (), tree)
    | .error cause =>
      if cause = .notFound then
        match tree.makeDirectoriesAlong above with
        | (.error cause, tree) => (.error cause, tree)
        | (.ok (), tree) =>
          match tree.makeDirectory path with
          | .ok tree => (.ok (), tree)
          | .error cause => tree.unlessThere path cause
      else tree.unlessThere path cause

/-- Makes the directory at a path, with all directories above it. What was made before a failure
remains. -/
def makeDirectories (tree : FileTree) (path : String) : Except SystemError Unit × FileTree :=
  tree.makeDirectoriesAlong (Path.ancestors path)

/-! ## Further names -/

/-- Gives the file at a location a further name. -/
def share (tree : FileTree) (place name : Location) : FileTree :=
  match tree.node? place with
  | none => tree
  | some node =>
    let names := (tree.shared.find? (·.contains place)).getD [place]
    let mode := tree.mode place
    let tree := tree.put name node
    let tree :=
      { tree with shared := (names ++ [name]) :: tree.shared.filter (!·.contains place) }
    tree.withMode name mode

end Bindery.FileTree
