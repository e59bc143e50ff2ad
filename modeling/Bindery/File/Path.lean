/-!
# Paths

A path is the text that a user writes and that messages repeat; it is resolved one component at a
time when a file is looked for. `join` and `withExtension` work on the text, so that the paths of a
report read as the paths that were given.
-/

namespace Bindery.Path

/-- The pieces of a path between its slashes, empty ones included. -/
def splitSlashes : List Char → List (List Char)
  | [] => [[]]
  | c :: cs =>
    if c = '/' then [] :: splitSlashes cs
    else
      match splitSlashes cs with
      | [] => [[c]]
      | piece :: pieces => (c :: piece) :: pieces

def isAbsolute (path : String) : Bool :=
  path.toList.head? == some '/'

/-- One step of a path, taken from a directory. -/
inductive Step where
  /-- Stay where you are. -/
  | here
  /-- Go to the directory that holds this one. -/
  | up
  | name (text : String)
  deriving DecidableEq, Repr

/-- The step of a piece of a path. An empty piece is none. -/
def Step.ofPiece? : List Char → Option Step
  | [] => none
  | ['.'] => some here
  | ['.', '.'] => some up
  | piece => some (name (String.ofList piece))

/-- The steps of a path, from the root or from where relative paths start. -/
def steps (path : String) : List Step :=
  (splitSlashes path.toList).filterMap Step.ofPiece?

/-- Whether a path ends in a slash. -/
def endsInSlash (path : String) : Bool :=
  path.toList.getLast? == some '/'

/-- Whether a piece of a path leads nowhere. -/
def isIdle (piece : List Char) : Bool :=
  piece.isEmpty || piece == ['.']

/-- The start of a path that stays when its names are taken away: a slash, or a dot that is the
first piece. -/
def root (path : String) : List Char :=
  match path.toList with
  | '/' :: _ => ['/']
  | ['.'] | '.' :: '/' :: _ => ['.']
  | _ => []

/-- The pieces of a path after its root, up to the last name or pair of dots. -/
def pieces (path : String) : List (List Char) :=
  ((splitSlashes (path.toList.drop (root path).length)).reverse.dropWhile isIdle).reverse

/-- How many components a path has: its root, its names and its pairs of dots. -/
def componentCount (path : String) : Nat :=
  (root path).length + ((pieces path).filter (!isIdle ·)).length

/-- The text of a path without its last component, and without what led nowhere before it. The root
directory and the empty path have no parent. -/
def parent? (path : String) : Option String :=
  match (pieces path).reverse with
  | _ :: above =>
    let kept := (above.dropWhile isIdle).reverse
    some (String.ofList (root path ++ ['/'].intercalate kept))
  | [] => if root path = ['.'] then some "" else none

/-- The first `limit` of a path, its parent, the parent of that, and so on. -/
def ancestorsUpTo : Nat → String → List String
  | 0, _ => []
  | limit + 1, path =>
    if path.isEmpty then []
    else
      match parent? path with
      | some above => path :: ancestorsUpTo limit above
      | none => [path]

/-- A path and all paths above it, each the parent of the one before it. -/
def ancestors (path : String) : List String :=
  ancestorsUpTo (path.length + 1) path

/-- The path of a name within a directory. An absolute name stands for itself. -/
def join (dir name : String) : String :=
  if isAbsolute name || dir.isEmpty then name
  else if dir.toList.getLast? == some '/' then dir ++ name
  else dir ++ "/" ++ name

/-- The part of a file name before its last dot; the whole name if there is no dot after its first
character. -/
def stem (name : List Char) : List Char :=
  match (name.reverse.dropWhile (· != '.')).drop 1 with
  | [] => name
  | reversed => reversed.reverse

/-- The path with another extension in place of the one of its file name. A name that is a pair of
dots without the old extension leads to a directory, and is left at that. -/
def withExtension (path extension : String) : String :=
  let reversed := path.toList.reverse
  let name := (reversed.takeWhile (· != '/')).reverse
  let dir := (reversed.dropWhile (· != '/')).reverse
  if name == ['.', '.'] || (stem name == ['.'] && name != ['.']) then
    String.ofList (dir ++ ['.', '.'])
  else String.ofList (dir ++ stem name) ++ "." ++ extension

end Bindery.Path
