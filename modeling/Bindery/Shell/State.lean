import Bindery.Shell.Stream

/-!
# The state of a running script

`State` is all that a script knows and changes: streams and files, variables and functions, options,
and where it is on its way. What the shell knows is listed so that it can read the list again.
-/

namespace Bindery.Shell

structure Variable where
  /-- Absent for one that has only been marked. -/
  value : Option String
  exported : Bool := false
  readOnly : Bool := false

/-- Where a script goes on. -/
inductive Flow where
  | running
  /-- After so many loops around the command. -/
  | breaking (loops : Nat)
  /-- With the next turn of the last of so many loops around the command. -/
  | continuing (loops : Nat)
  /-- After the function or the file. -/
  | returning
  | ended (status : ExitStatus)
  deriving DecidableEq

/-- A part of a script that runs in the background. -/
structure Job (σ : Type) where
  /-- The number of its process. -/
  process : Nat
  /-- How it ended, if it has. -/
  status : Option Nat
  /-- What it has still to do, and when it goes on, if it sleeps. -/
  rest : Option (σ × Statement × Nat) := none

structure State where
  streams : Streams
  /-- What messages call the script. -/
  name : String
  /-- The command or file whose text is being run, which messages name too. -/
  context : Option String := none
  /-- The number of the process. -/
  process : Nat := 4711
  /-- The highest number that a process has had so far. -/
  lastProcess : Nat := 4711
  /-- How much time has passed, in thousandths of a second. -/
  clock : Nat := 0
  /-- Parts that run in the background, the latest first. -/
  jobs : List (Job State) := []
  /-- The process of the last part that was sent to the background. -/
  lastJob : Option Nat := none
  parameters : List String := []
  /-- The variables by their names. -/
  scope : List (String × Variable) := []
  /-- What the process was handed on by a program that is no shell, in order. -/
  handed : Option (List (String × String)) := none
  functions : List (String × Statement) := []
  /-- Words that stand for other texts where a command begins. -/
  aliases : List (String × String) := []
  /-- The paths of programs that have been looked for, by their names. -/
  tracked : List (String × String) := []
  /-- The directory as the script got there. -/
  here : String := "/"
  /-- The permissions that new files do not get. -/
  mask : Nat := 0o022
  /-- The parameter in which the next option is looked for, counted from one. -/
  optionIndex : Nat := 1
  /-- Where in the parameter before it the next option is, if it is in there. -/
  optionOffset : Option Nat := none
  /-- The letters of the options that are set. -/
  options : List Char := []
  /-- How the last command ended. -/
  status : Nat := 0
  /-- How the last command ended whose output a word took. -/
  outputStatus : Nat := 0
  line : Nat := 1
  /-- Texts that redirections read, by their keys. -/
  texts : List (Nat × Word) := []
  /-- What to do at the end, and on signals. -/
  traps : List (String × String) := []
  /-- The variables that the functions being called have hidden, the innermost first. -/
  hidden : List (List (String × Option Variable)) := []
  /-- How many loops are around the command. -/
  loops : Nat := 0
  /-- How many functions are being called. -/
  calls : Nat := 0
  /-- How many texts are being run inside each other. -/
  nesting : Nat := 0
  /-- Signals that have come and wait for what is to be done on them. -/
  pending : List Nat := []
  /-- A signal that ends the process and all that it runs. -/
  killed : Option Nat := none
  flow : Flow := .running

/-- Where programs are looked for. -/
def standardPath : String := "/usr/local/sbin:/usr/local/bin:/usr/sbin:/usr/bin:/sbin:/bin"

/-- The variables that a shell starts with. -/
def standardVariables : List (String × Variable) :=
  [("IFS", ⟨some " \t\n", false, false⟩), ("OPTIND", ⟨some "1", false, false⟩),
    ("PS1", ⟨some "# ", false, false⟩), ("PS2", ⟨some "> ", false, false⟩),
    ("PS4", ⟨some "+ ", false, false⟩), ("PATH", ⟨some standardPath, false, false⟩)]

/-- What programs are handed on by the host. -/
def hostVariables : List (String × Variable) :=
  [("HOME", ⟨some "/root", true, false⟩), ("PATH", ⟨some standardPath, true, false⟩)]

namespace State

def tree (s : State) : FileTree := s.streams.tree

def withTree (s : State) (tree : FileTree) : State :=
  { s with streams := { s.streams with tree } }

def has (s : State) (option : Char) : Bool := s.options.contains option

def isRunning (s : State) : Bool := s.flow == .running

def withStatus (s : State) (status : Nat) : State := { s with status }

/-! ## Messages -/

/-- Writes to a stream; what cannot be written is lost. -/
def print (s : State) (stream : Nat) (text : String) : State :=
  match s.streams.write stream text with
  | .ok streams => { s with streams }
  | .error _ => s

/-- Says what is wrong, and in which command. -/
def complain (s : State) (command : Option String) (text : String) : State :=
  let command := ((command.orElse fun _ => s.context).map (· ++ ": ")).getD ""
  s.print 2 s!"{s.name}: {s.line}: {command}{text}\n"

/-- Ends the script. -/
def finish (s : State) (code : Nat) : State :=
  { s with status := code, flow := .ended (.exited (code % 256)) }

/-- Ends the script because of an error. -/
def die (s : State) (command : Option String) (text : String) : State :=
  (s.complain command text).finish 2

/-- The state after a write that nobody reads any more. -/
def breakPipe (s : State) : State := { s with flow := .ended (.signalled 13 false) }

/-! ## Variables -/

/-- The value of a variable. -/
def value? (s : State) (name : String) : Option String :=
  (s.scope.lookup name).bind (·.value)

/-- Begins the search for options at a parameter. -/
def findOptionsAt (s : State) (index : Nat) : State :=
  { s with optionIndex := index, optionOffset := none }

/-- Puts a variable in place of the one of its name. -/
def putVariable (s : State) (name : String) (v : Variable) : State :=
  let s := { s with scope := (name, v) :: s.scope.filter (·.1 != name) }
  match name with
  | "OPTIND" => s.findOptionsAt (((v.value.getD "").toNat?.filter (0 < ·)).getD 1)
  | "PATH" => { s with tracked := [] }
  | _ => s

/-- Gives the script parameters. -/
def withParameters (s : State) (parameters : List String) : State :=
  { s with parameters }.findOptionsAt 1

/-- Sets a variable; `exported` marks it for the programs that are run. Nothing if its value is not
to be changed. -/
def assign? (s : State) (name value : String) (exported : Bool) : Option State :=
  match s.scope.lookup name with
  | some old =>
    if old.readOnly then none
    else some (s.putVariable name { old with value, exported := old.exported || exported })
  | none => some (s.putVariable name ⟨value, exported || s.has 'a', false⟩)

/-- Sets a variable, or ends the script if its value is not to be changed. -/
def assign (s : State) (name value : String) (exported : Bool) : State :=
  (s.assign? name value exported).getD (s.die none s!"{name}: is read only")

/-- Restores a variable to what it was. -/
def restore (s : State) (saved : String × Option Variable) : State :=
  match saved with
  | ("-", saved) => { s with options := ((saved.bind (·.value)).getD "").toList }
  | (name, some v) => s.putVariable name v
  | (name, none) => { s with scope := s.scope.filter (·.1 != name) }

/-- Variables by their names, as they are. -/
def snapshot (s : State) (names : List String) : List (String × Option Variable) :=
  names.map fun name => (name, s.scope.lookup name)

/-- The characters that separate fields. -/
def separators (s : State) : List Char :=
  match s.value? "IFS" with
  | some text => text.toList
  | none => [' ', '\t', '\n']

/-- The values of variables for arithmetic. -/
def bindings (s : State) : List (String × String) :=
  s.scope.filterMap fun (name, v) => v.value.map (name, ·)

/-- The value of a parameter that has a single one. -/
def parameter? (s : State) (name : String) : Option String :=
  match name with
  | "#" => some (toString s.parameters.length)
  | "?" => some (toString s.status)
  | "$" => some (toString s.process)
  | "-" => some (String.ofList s.options)
  | "!" => s.lastJob.map toString
  | "0" => some s.name
  | name =>
    match name.toNat? with
    | some 0 => some s.name
    | some n => s.parameters[n - 1]?
    | none => s.value? name

end State

/-! ## Listings -/

/-- A text in quotes, so that the shell reads it as one word. -/
def singleQuoted (text : String) : String :=
  String.ofList (go text.toList.length text.toList)
where
  /-- Quotes a run without quotes, then the quotes that follow it. -/
  go : Nat → List Char → List Char
    | 0, _ => ['\'', '\'']
    | fuel + 1, cs =>
      let plain := cs.takeWhile (· != '\'')
      let rest := cs.drop plain.length
      let quotes := rest.takeWhile (· == '\'')
      let after := rest.drop quotes.length
      '\'' :: plain ++ ['\''] ++ (if quotes.isEmpty then [] else '"' :: quotes ++ ['"']) ++
        (if after.isEmpty then [] else go fuel after)

/-- Lines for variables, in the order of their names. -/
def listVariables (s : State) (label : String) (shown : Variable → Bool) : String :=
  let chosen := (s.scope.filter fun entry => shown entry.2).mergeSort fun a b =>
    decide (a.1 ≤ b.1)
  String.join (chosen.map fun (name, v) =>
    label ++ name ++ ((v.value.map fun value => "=" ++ singleQuoted value).getD "") ++ "\n")

/-- The place of a name in a table of so many chains. -/
def chainOf (chains : Nat) (name : String) : Nat :=
  let cs := name.toList
  let first := (cs.head?.map Char.toNat).getD 0
  (cs.foldl (fun n c => n + c.toNat) (first * 16)) % chains

/-- Names with their values in the order in which a table of so many chains holds them. -/
def inChains {α : Type} (chains : Nat) (entries : List (String × α)) : List (String × α) :=
  (List.range chains).flatMap fun i => entries.filter fun entry => chainOf chains entry.1 = i

/-- A line for a word that stands for another text. -/
def aliasLine (name value : String) : String := name ++ "=" ++ singleQuoted value ++ "\n"

def listAliases (s : State) : String :=
  String.join ((inChains 39 s.aliases.reverse).map fun (name, value) => aliasLine name value)

end Bindery.Shell
