import Bindery.File.Operations
import Bindery.Text.Octets

/-!
# The work of utilities

A utility is a program that does one thing with its arguments, what it reads and the files, and then
ends. Most do so by themselves: a function from a `Call` to an `Answer`. Others ask for programs to
be run on the way; `Work` says what is asked for, and how the utility goes on then.
-/

namespace Bindery.Utility

/-- What a utility is given. -/
structure Call where
  /-- The name under which it was called. -/
  name : String
  args : List String
  /-- What is to be read. -/
  input : Except SystemError ByteArray
  /-- The file that is to be read, if it is one, and where in it. -/
  source : Option (Location × Nat) := none
  tree : FileTree
  /-- The file to which the output goes, if it is one, and where in it. -/
  output : Option (Location × Nat) := none
  /-- There is nowhere to write to. -/
  mute : Bool := false
  /-- The names and values that programs hand on. -/
  environment : List (String × String) := []
  /-- The permissions that new files do not get. -/
  mask : Nat := 0o022
  /-- The number of the process. -/
  process : Nat := 0

/-- What a utility did. -/
structure Answer where
  tree : FileTree
  status : Nat := 0
  /-- What it wrote, in order, with the numbers of the streams. -/
  written : Array (Nat × String) := #[]
  /-- It has read all that there was. -/
  drains : Bool := false
  /-- It has gone past so many bytes of what there was. -/
  taken : Nat := 0
  /-- A signal that ended it. -/
  killed : Option Nat := none

namespace Answer

def print (a : Answer) (text : String) : Answer := { a with written := a.written.push (1, text) }

def printError (a : Answer) (text : String) : Answer :=
  { a with written := a.written.push (2, text) }

/-- Notes a failure, with a message. -/
def fail (a : Answer) (text : String) (status : Nat) : Answer :=
  { a with written := a.written.push (2, text ++ "\n"), status }

end Answer

namespace Call

/-- What is to be read is in a file of the tree. -/
def readsFile (c : Call) : Bool := c.source.isSome

/-- Nothing done yet. -/
def start (c : Call) : Answer := { tree := c.tree }

/-- Ends with a message about how the utility was called. -/
def misuse (c : Call) (text : String) (status : Nat) : Answer :=
  c.start.fail s!"{c.name}: {text}\nTry '{c.name} --help' for more information." status

/-- Notes a failure in the middle of the work. -/
def fail (c : Call) (a : Answer) (text : String) : Answer := a.fail s!"{c.name}: {text}" 1

end Call

/-! ## Programs on the way -/

/-- A program that a utility wants to be run. -/
structure Request where
  /-- What the utility has done so far. -/
  before : Answer
  /-- The program and its arguments. -/
  words : List String
  /-- What the program reads, if it is not what the utility reads. -/
  input : Option ByteArray := none
  /-- The utility takes what the program writes. -/
  captures : Bool := false
  /-- What the program is handed on, if it is not what the utility was. -/
  environment : Option (List (String × String)) := none
  /-- The directory in which the program runs, if it is not that of the utility. -/
  directory : Option Location := none

/-- How a program ended that a utility wanted to be run. -/
structure Outcome where
  tree : FileTree
  /-- How it ended, or why it could not be run. -/
  ending : Except SystemError ExitStatus
  /-- What it wrote, if that was to be taken. -/
  output : String := ""
  /-- How long it took, in thousandths of a second. -/
  elapsed : Nat := 0

/-- The status that a shell gives for an ending. -/
def Outcome.status (o : Outcome) : Nat :=
  match o.ending with
  | .ok (.exited n) => n
  | .ok (.signalled n _) => 128 + n
  | .ok _ => 0
  | .error e => if e = .notFound || e = .notDirectory then 127 else 126

/-- What is to be done: something that is done already, or something that follows on a program. -/
inductive Work (α : Type) where
  | done (value : α)
  | run (request : Request) (next : Outcome → Work α)

namespace Work

def bind {α β : Type} : Work α → (α → Work β) → Work β
  | done value, next => next value
  | run request rest, next => run request fun outcome => bind (rest outcome) next

instance : Monad Work where
  pure := done
  bind := bind

/-- Asks for a program to be run. -/
def ask (request : Request) : Work Outcome := run request done

end Work

end Bindery.Utility
