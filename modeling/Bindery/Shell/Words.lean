import Bindery.Shell.Builtin
import Bindery.Shell.Expand
import Bindery.Shell.Field
import Bindery.Shell.Redirection
import Bindery.Shell.State

/-!
# Words of commands

The words, assignments and redirections of a command, expanded one after the other; an error ends
the script and what follows it is not expanded. A field that holds a pattern stands for the files
that fit it, in order, or for itself if there are none.
-/

namespace Bindery.Shell

/-! ## Names of files -/

/-- The pieces of a marked text between its slashes. -/
def splitMarked : List Marked → List (List Marked)
  | [] => [[]]
  | c :: cs =>
    if c.char == '/' then [] :: splitMarked cs
    else
      match splitMarked cs with
      | [] => [[c]]
      | piece :: pieces => (c :: piece) :: pieces

/-- The names in a directory that fit a piece of a pattern, in order. Only a pattern that begins
with a dot fits those that do. -/
def namesThatFit (tree : FileTree) (dir : String) (piece : List Marked) : List String :=
  let pattern := Glob.ofMarked piece
  let hidden := piece.head?.any (·.char == '.')
  let names := match tree.seekLocation (Text.Octets.decode (if dir.isEmpty then "." else dir)) with
    | .ok place => (tree.entries place).map Text.Octets.encode
    | .error _ => []
  let shown :=
    if hidden then [".", ".."] ++ names else names.filter fun name => !name.startsWith "."
  (shown.filter fun name => Glob.fits pattern name.toList).mergeSort fun a b => decide (a ≤ b)

/-- The paths that fit the pieces of a pattern, after the text of the directory they start from. -/
def matchPieces (tree : FileTree) (dir : String) : List (List Marked) → List String
  | [] => []
  | piece :: rest =>
    let names := if hasGlob piece then namesThatFit tree dir piece else [plainText piece]
    if rest.isEmpty then
      (names.map (dir ++ ·)).filter fun path =>
        (tree.findName (Text.Octets.decode path)).toOption.isSome
    else
      names.flatMap fun name =>
        let path := dir ++ name ++ "/"
        if tree.isDirectory (Text.Octets.decode path) then matchPieces tree path rest else []

/-- The words that a field stands for. -/
def filesOf (s : State) (field : List Marked) : List String :=
  let found := if hasGlob field && !s.has 'f' then matchPieces s.tree "" (splitMarked field) else []
  if found.isEmpty then [plainText field] else found

/-! ## Words -/

/-- The text of a word that is not split. -/
def expandText (capture : Capture) (s : State) (p : Place) (word : Word) : State × String :=
  let (s, items) := expandPieces capture s p true word
  (s, textOf items)

/-- The words of a command. The ones that look like assignments are not split after the names of
some commands; `names` are the words before, last one first. -/
def expandWordsAfter (capture : Capture) (s : State) (names : List String) :
    List Word → State × List String
  | [] => (s, names.reverse)
  | word :: rest =>
    let command := names.reverse.dropWhile (· == "command")
    let keeps := command.head?.any Builtin.takesAssignments.contains &&
      (splitAssignment? word).isSome
    if keeps then
      match splitAssignment? word with
      | none => (s, names.reverse)
      | some (name, value) =>
        let (s, text) := expandText capture s .value value
        if s.isRunning then expandWordsAfter capture s ((name ++ "=" ++ text) :: names) rest
        else (s, names.reverse)
    else
      let (s, items) := expandPieces capture s .field true word
      if s.isRunning then
        let words := (fieldsOf s.separators items).flatMap (filesOf s)
        expandWordsAfter capture s (words.reverse ++ names) rest
      else (s, names.reverse)

/-- The words of a command. -/
def expandWords (capture : Capture) (s : State) (words : List Word) : State × List String :=
  expandWordsAfter capture s [] words

/-- The plan for a redirection. -/
def planOf (capture : Capture) (s : State) : Redirection → State × Option Plan
  | .here stream key =>
    let body := (s.texts.lookup key).getD []
    let (s, items) := expandPieces capture s { quoted := true } false body
    (s, some (.text stream (textOf items)))
  | .file stream opening target =>
    let (s, text) := expandText capture s {} target
    if opening == .duplicate then
      match Plan.ofTarget? stream text with
      | some plan => (s, some plan)
      | none => (if s.isRunning then s.die none "Syntax error: Bad fd number" else s, none)
    else (s, some (.path stream opening text))

/-- The plans for the redirections of a command. -/
def planAll (capture : Capture) (s : State) : List Redirection → State × List Plan
  | [] => (s, [])
  | redirection :: rest =>
    let (s, plan) := planOf capture s redirection
    if s.isRunning then
      let (s, plans) := planAll capture s rest
      (s, plan.toList ++ plans)
    else (s, [])

/-- The values of assignments, each set before the next is expanded. -/
def assignAll (capture : Capture) (s : State) (exported : Bool) :
    List (String × Word) → State × List (String × String)
  | [] => (s, [])
  | (name, word) :: rest =>
    let (s, text) := expandText capture s .value word
    let s := if s.isRunning then s.assign name text exported else s
    if s.isRunning then
      let (s, later) := assignAll capture s exported rest
      (s, (name, text) :: later)
    else (s, [])

/-- Whether one of some patterns fits a text. -/
def anyFits (capture : Capture) (s : State) (subject : List Char) : List Word → State × Bool
  | [] => (s, false)
  | pattern :: rest =>
    let (s, items) := expandPieces capture s {} true pattern
    if !s.isRunning then (s, false)
    else if Glob.fits (Glob.ofMarked (markedOf items)) subject then (s, true)
    else anyFits capture s subject rest

end Bindery.Shell
