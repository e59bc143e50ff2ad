import Bindery.Utility.Basic

/-!
# Errands

Utilities that change files do so one after the other, tell of those that they cannot change, and
may ask before they do. An `Errand` is how far they have come.
-/

namespace Bindery.Utility

/-- How far a utility has come with its files. -/
structure Errand where
  call : Call
  answer : Answer
  /-- The lines of the input that are answers to questions to come. -/
  replies : List String
  /-- The places of the files that were made. -/
  made : List Location := []
  /-- The places of the files that were copied. -/
  copied : List Location := []

namespace Errand

/-- Before anything is done. -/
def start (c : Call) : Errand where
  call := c
  answer := c.start
  replies := (c.input.toOption.map fun bytes => plainLines (Text.Octets.ofBytes bytes)).getD []

def tree (e : Errand) : FileTree := e.answer.tree

def withTree (e : Errand) (tree : FileTree) : Errand := { e with answer := { e.answer with tree } }

/-- Tells of a failure. -/
def fail (e : Errand) (text : String) : Errand := { e with answer := e.call.fail e.answer text }

/-- Tells of what is no failure. -/
def warn (e : Errand) (text : String) : Errand :=
  { e with answer := e.answer.printError s!"{e.call.name}: {text}\n" }

def say (e : Errand) (text : String) : Errand := { e with answer := e.answer.print (text ++ "\n") }

/-- Says something if it is to be talkative. -/
def sayIf (e : Errand) (talks : Bool) (text : String) : Errand := if talks then e.say text else e

/-- Ends with a failure, and without a word. -/
def withFailure (e : Errand) : Errand := { e with answer := { e.answer with status := 1 } }

/-- Asks a question. No answer is a no. -/
def ask (e : Errand) (question : String) : Bool × Errand :=
  let e := { e with answer := e.answer.printError s!"{e.call.name}: {question}? " }
  match e.replies with
  | [] => (false, e)
  | reply :: replies =>
    let isYes := match reply.toList.head? with
      | some 'y' | some 'Y' => true
      | _ => false
    let taken := e.answer.taken + reply.length + 1
    (isYes, { e with replies, answer := { e.answer with taken } })

/-- Changes the files, or tells why that fails. -/
def change (e : Errand) (result : Except SystemError FileTree) (failure : String) : Errand :=
  match result with
  | .ok tree => e.withTree tree
  | .error cause => e.fail s!"{failure}: {cause.reason}"

end Errand

/-- The last name of a path, without slashes after it. -/
def lastPart (path : String) : String :=
  let trimmed := (path.toList.reverse.dropWhile (· == '/')).reverse
  let name := (trimmed.reverse.takeWhile (· != '/')).reverse
  if trimmed.isEmpty && !path.isEmpty then "/" else String.ofList name

/-- The path of a name in a directory. -/
def inside (dir name : String) : String :=
  if dir.toList.getLast? == some '/' then dir ++ name else dir ++ "/" ++ name

/-- A path without the slashes at its end. -/
def withoutSlashes (path : String) : String :=
  match (path.toList.reverse.dropWhile (· == '/')).reverse with
  | [] => if path.isEmpty then "" else "/"
  | cs => String.ofList cs

/-- The names in a directory, in order. -/
def namesIn (tree : FileTree) (dir : Location) : List String :=
  ((tree.entries dir).map Text.Octets.encode).mergeSort fun a b => decide (a ≤ b)

/-- What stands at a path, be it a link. -/
def nodeAt (tree : FileTree) (word : String) : Except SystemError Node :=
  tree.findName (pathOf word)

/-- What a path leads to in the end. -/
def nodeBehind (tree : FileTree) (word : String) : Except SystemError Node :=
  tree.seek (pathOf word)

def isDirectoryNode : Node → Bool
  | .directory => true
  | _ => false

def isLinkNode : Node → Bool
  | .link _ => true
  | _ => false

/-- Whether a path leads to a directory. -/
def leadsToDirectory (tree : FileTree) (word : String) : Bool :=
  tree.isDirectory (pathOf word)

/-- The location that a path names. -/
def placeOf? (tree : FileTree) (word : String) : Option Location :=
  (tree.nameLocation (pathOf word)).toOption

/-- The location that a path leads to in the end. -/
def placeBehind? (tree : FileTree) (word : String) : Option Location :=
  (tree.seekLocation (pathOf word)).toOption

/-- Whether two places hold one and the same file. -/
def isSameFile (tree : FileTree) (a b : Location) : Bool :=
  a == b || tree.shared.any fun names => names.contains a && names.contains b

/-- How many names the file at a place has. -/
def nameCount (tree : FileTree) (place : Location) : Nat :=
  ((tree.shared.find? (·.contains place)).map List.length).getD 1

/-- Permissions as listings show them. -/
def modeLetters (mode : Nat) : String :=
  let bit (n : Nat) : Bool := mode &&& n != 0
  let triple (r w x special : Nat) (both alone : Char) : List Char :=
    [if bit r then 'r' else '-', if bit w then 'w' else '-',
      if bit special then (if bit x then both else alone) else if bit x then 'x' else '-']
  String.ofList (triple 0o400 0o200 0o100 0o4000 's' 'S' ++
    triple 0o040 0o020 0o010 0o2000 's' 'S' ++ triple 0o004 0o002 0o001 0o1000 't' 'T')

end Bindery.Utility
