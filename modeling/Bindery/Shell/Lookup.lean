import Bindery.Shell.Builtin
import Bindery.Shell.Process
import Bindery.Shell.Reader

/-!
# Looking for commands

What the name of a command stands for: a function, a builtin command, or a program, which is found
by its path, or by its name in the directories of the search path. A file that may be run is a
program too: its first line may name the program that reads it, else the shell does.
-/

namespace Bindery.Shell

/-- What a command that is no builtin turns out to be. -/
inductive Found where
  /-- A program, with arguments before those of the command; and the name by which it is called, if
  that is not the command. -/
  | program (name : String) (front : List String) (title : Option String := none)
  /-- There is a file that cannot be run, or none. -/
  | failed (cause : SystemError)

namespace Found

def isProgram : Found → Bool
  | program .. => true
  | failed _ => false

/-- Whether a cause means that there is no file. -/
def isMissing (cause : SystemError) : Bool := cause = .notFound || cause = .notDirectory

/-- What the shell says about a program that cannot be run. -/
def reason (cause : SystemError) : String :=
  if isMissing cause then "not found" else cause.reason

/-- The status of a command whose program cannot be run. -/
def status (cause : SystemError) : Nat :=
  if isMissing cause || cause = .nameTooLong then 127 else 126

end Found

/-- The program that a file names in its first line, and an argument for it. -/
def interpreter? (content : ByteArray) : Option (String × List String) :=
  match (Text.Octets.ofBytes (content.extract 0 256)).toList with
  | '#' :: '!' :: cs =>
    let isBlank (c : Char) : Bool := c == ' ' || c == '\t'
    let line := (cs.takeWhile (· != '\n')).dropWhile isBlank
    let path := line.takeWhile (!isBlank ·)
    let rest := ((line.drop path.length).dropWhile isBlank).reverse.dropWhile isBlank
    if path.isEmpty then none
    else some (String.ofList path, if rest.isEmpty then [] else [String.ofList rest.reverse])
  | _ => none

/-- Looks for the program at a path, over so many files that name another one to read them. -/
def programAt (tree : FileTree) (path : String) : Nat → Found
  | 0 => .failed (.os 40)
  | fuel + 1 =>
    match tree.seek (Text.Octets.decode path), tree.seekLocation (Text.Octets.decode path) with
    | .error cause, _ | _, .error cause => .failed cause
    | .ok (.program name), .ok place =>
      if tree.mayRun place then .program name [] else .failed .permissionDenied
    | .ok (.file content), .ok place =>
      if !tree.mayRun place then .failed .permissionDenied
      else
        match interpreter? content with
        | none => .program "sh" [path]
        | some (interpreter, args) =>
          match programAt tree interpreter fuel with
          | .program name front title =>
            .program name (front ++ args ++ [path]) (title.orElse fun _ => some interpreter)
          | failed => failed
    | .ok _, .ok _ => .failed .permissionDenied

/-- The paths at which a program is looked for by its name. -/
def searchPaths (s : State) (name : String) : List String :=
  let otherwise := if s.handed.isSome then "/bin:/usr/bin" else ""
  (((s.value? "PATH").getD otherwise).splitOn ":").map fun dir =>
    if dir.isEmpty then name else if dir.endsWith "/" then dir ++ name else dir ++ "/" ++ name

/-- How many files may name another one to read them. -/
def interpreterLimit : Nat := 5

/-- Looks for a program by its path, or by its name in the directories of the search path; with the
path at which it is. -/
def findProgram (s : State) (name : String) : String × Found :=
  if name.toList.contains '/' then (name, programAt s.tree name interpreterLimit)
  else
    let found := (searchPaths s name).map fun path =>
      (path, programAt s.tree path interpreterLimit)
    let isDenied (f : Found) : Bool :=
      match f with
      | .failed cause => Found.status cause == 126
      | _ => false
    match found.find? (·.2.isProgram), found.find? (isDenied ·.2) with
    | some f, _ => f
    | none, some f => f
    | none, none => (name, .failed .notFound)

/-- Notes where a program was found. -/
def State.track (s : State) (name path : String) : State :=
  if name.toList.contains '/' || (s.tracked.lookup name).isSome then s
  else { s with tracked := s.tracked ++ [(name, path)] }

/-- What a command is, in one line, and the state after it was looked for. -/
def describeCommand (s : State) (word : String) (long : Bool) : State × Option String :=
  let say (text : String) : State × Option String := (s, some (if long then word ++ text else word))
  if Reader.reservedWords.contains word then say " is a shell keyword"
  else
    match s.aliases.lookup word with
    | some value =>
      (s, some (if long then s!"{word} is an alias for {value}"
        else "alias " ++ word ++ "=" ++ singleQuoted value))
    | none =>
      if Builtin.special.contains word then say " is a special shell builtin"
      else if (s.functions.lookup word).isSome then say " is a shell function"
      else if Builtin.isBuiltin word then say " is a shell builtin"
      else
        match findProgram s word with
        | (_, .failed _) => (s, none)
        | (path, .program ..) =>
          let known := if (s.tracked.lookup word).isSome then " a tracked alias for" else ""
          (s.track word path, some (if long then s!"{word} is{known} {path}" else path))

/-- The message about a script that cannot be read. -/
def cannotOpen (file : String) (e : SystemError) : String :=
  let reason := if Found.isMissing e then "No such file" else e.reason
  s!"cannot open {file}: {reason}"

end Bindery.Shell
