/-!
# Statements of the shell

What a script is made of, once it has been read: words, whose pieces are expanded when the script
runs, and statements, from simple commands to loops and functions.
-/

namespace Bindery.Shell

/-- What stands in for a parameter that is unset, or that is set. -/
inductive Fallback where
  /-- The word stands for a parameter without a value. -/
  | standIn
  /-- The word also becomes the value of the parameter. -/
  | assignment
  /-- A parameter without a value is an error, and the word tells of it. -/
  | complaint
  /-- The word stands for a parameter that has a value. -/
  | alternative
  deriving DecidableEq

/-- How a redirection opens its stream. -/
inductive Opening where
  | input
  | output
  /-- Output to a file that may exist even where files are not to be overwritten. -/
  | clobber
  | append
  | both
  /-- The stream is another name of the one that the target tells. -/
  | duplicate
  deriving DecidableEq

mutual

/-- A piece of a word. -/
inductive Piece where
  /-- Characters; quoted ones stand for themselves in a pattern. -/
  | text (content : String) (quoted : Bool)
  /-- What stands between double quotes. -/
  | quotes (pieces : List Piece)
  | parameter (name : String) (use : Use)
  /-- The output of statements. -/
  | output (body : Option Statement)
  /-- The value of an arithmetic expression. -/
  | arithmetic (pieces : List Piece)

/-- What a word takes from a parameter. -/
inductive Use where
  | value
  | length
  /-- The value or a word; with `orEmpty`, an empty value counts as none. -/
  | fallback (kind : Fallback) (orEmpty : Bool) (word : List Piece)
  /-- The value without the part at its end, or at its start, that fits a pattern. -/
  | trim (atEnd longest : Bool) (pattern : List Piece)
  /-- The braces hold nothing that is understood. -/
  | misuse

/-- What happens to a stream of a command. -/
inductive Redirection where
  | file (stream : Nat) (opening : Opening) (target : List Piece)
  /-- The stream reads the text of a script that has the given key. -/
  | here (stream key : Nat)

inductive Statement where
  /-- Assignments, the words of a command, and its redirections; `line` is where it stands. -/
  | simple (line : Nat) (assignments : List (String × List Piece)) (words : List (List Piece))
    (redirections : List Redirection)
  | redirected (line : Nat) (body : Statement) (redirections : List Redirection)
  | sequence (first second : Statement)
  /-- The second runs if the first succeeds. -/
  | conjunction (first second : Statement)
  /-- The second runs if the first fails. -/
  | disjunction (first second : Statement)
  | negation (body : Statement)
  /-- Each reads what the one before it writes. -/
  | pipeline (stages : List Statement)
  | background (body : Statement)
  | subshell (line : Nat) (body : Statement) (redirections : List Redirection)
  | branch (condition body : Statement) (otherwise : Option Statement)
  /-- The body runs again and again, as long as the condition comes out as `while_` says. -/
  | loop (while_ : Bool) (condition body : Statement)
  /-- The body runs for each of the words, or for each parameter. -/
  | each (line : Nat) (name : String) (words : Option (List (List Piece))) (body : Statement)
  /-- The body of the first case runs of which a pattern fits the subject. -/
  | select (line : Nat) (subject : List Piece)
    (cases : List (List (List Piece) × Option Statement))
  | define (name : String) (body : Statement)

end

/-- A word of a script. -/
abbrev Word := List Piece

instance : Inhabited Statement := ⟨.simple 0 [] [] []⟩

/-- The text of a word that has no quotes and nothing to expand. -/
def plainText? : Word → Option String
  | [] => some ""
  | .text content false :: rest => (plainText? rest).map (content ++ ·)
  | _ => none

def isNameStart (c : Char) : Bool := c.isAlpha || c == '_'

def isNameChar (c : Char) : Bool := c.isAlphanum || c == '_'

/-- Whether a text can be the name of a variable. -/
def isName (s : String) : Bool :=
  match s.toList with
  | c :: cs => isNameStart c && cs.all isNameChar
  | [] => false

/-- The name and the value of an assignment. -/
def splitAssignment? : Word → Option (String × Word)
  | .text content false :: rest =>
    let cs := content.toList
    let name := String.ofList (cs.takeWhile (· != '='))
    match cs.dropWhile (· != '=') with
    | _ :: value =>
      if isName name then some (name, .text (String.ofList value) false :: rest) else none
    | [] => none
  | _ => none

end Bindery.Shell
