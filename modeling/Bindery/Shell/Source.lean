import Bindery.Shell.Statement

/-!
# The text of a script while it is read

`Source` holds what is left of a script and what the reader has to remember: the line, a token that
was looked at and put back, and the texts inside the script that redirections have asked for.
-/

namespace Bindery.Shell

/-- What a script is made of. -/
inductive Token where
  | word (pieces : Word)
  /-- A word that has a meaning in the grammar where it stands. -/
  | reserved (text : String)
  | operator (symbol : String)
  | redirection (stream : Nat) (opening : Opening)
  /-- A redirection that reads the lines that follow, up to a mark. -/
  | here (stream : Nat) (dropTabs : Bool)
  | newline
  | ended

/-- How messages name a token. -/
def Token.name : Token → String
  | word _ => "word"
  | reserved text => "\"" ++ text ++ "\""
  | operator symbol => "\"" ++ symbol ++ "\""
  | redirection .. | here .. => "redirection"
  | newline => "newline"
  | ended => "end of file"

/-- Whether a token cannot start a command because it ends a list of them. -/
def Token.endsList : Token → Bool
  | ended => true
  | operator symbol => symbol == ")" || symbol == ";;"
  | reserved text =>
    ["do", "done", "elif", "else", "esac", "fi", "then", "\x7d"].contains text
  | _ => false

/-- A text that a redirection reads from the lines that follow it. -/
structure Awaited where
  key : Nat
  /-- The line that ends the text. -/
  mark : String
  dropTabs : Bool
  /-- Parameters in the text are expanded. -/
  expands : Bool

/-- The text of an alias that is being read. -/
structure AliasText where
  name : String
  /-- How much of the script follows it. -/
  after : Nat
  /-- The word that follows it may be an alias, too. -/
  chains : Bool

/-- What is left of a script. -/
structure Source where
  rest : List Char
  line : Nat := 1
  /-- A token that comes before what is left. -/
  putBack : Option Token := none
  /-- Texts that follow the next line end. -/
  awaited : List Awaited := []
  /-- The texts that have been read, by their keys. -/
  texts : List (Nat × Word) := []
  nextKey : Nat := 0
  /-- Words that stand for other texts where a command begins. -/
  aliases : List (String × String) := []
  /-- The aliases whose texts are being read. -/
  inside : List AliasText := []
  /-- How much was left when the last word began, if that matters. -/
  wordStart : Nat := 0

/-- Why a script cannot be read, and where. -/
structure Misreading where
  line : Nat
  reason : String

abbrev Reader := StateT Source (Except Misreading)

namespace Reader

def fail {α : Type} (reason : String) : Reader α := do
  throw ⟨(← get).line, "Syntax error: " ++ reason⟩

/-- Joined lines at the front of a text: how many there are, and what follows. -/
def dropJoins : List Char → Nat × List Char
  | '\\' :: '\n' :: cs => let (n, rest) := dropJoins cs; (n + 1, rest)
  | cs => (0, cs)

/-- The next character. A backslash at the end of a line joins it to the next one. -/
def peek : Reader (Option Char) := do
  let s ← get
  let (joined, rest) := dropJoins s.rest
  set { s with rest, line := s.line + joined }
  return rest.head?

/-- The next character, as it stands. -/
def peekRaw : Reader (Option Char) := do
  return (← get).rest.head?

/-- Goes past the next character. -/
def advance : Reader Unit :=
  modify fun s =>
    match s.rest with
    | '\n' :: rest => { s with rest, line := s.line + 1 }
    | _ :: rest => { s with rest }
    | [] => s

/-- Puts a token back. -/
def unread (token : Token) : Reader Unit :=
  modify fun s => { s with putBack := some token }

/-- The characters up to a line end, which stays. -/
def skipLine : Reader Unit :=
  modify fun s => { s with rest := s.rest.dropWhile (· != '\n') }

/-- Notes where a word begins. -/
def beginWord : Reader Unit :=
  modify fun s => if s.aliases.isEmpty then s else { s with wordStart := s.rest.length }

/-- Whether the word that was read last may be an alias because of the one before it. Texts of
aliases that ended before the word are forgotten. -/
def leaveAliases : Reader Bool := do
  let s ← get
  let (open_, ended) := s.inside.partition fun text => text.after < s.wordStart
  set { s with inside := open_ }
  return ended.any (·.chains)

/-- Puts the text of an alias in place of the word that was read last, if it is one that is not
being read already. -/
def takeAlias (name : String) : Reader Bool := do
  let s ← get
  match s.aliases.lookup name with
  | none => return false
  | some text =>
    if s.inside.any (·.name == name) then return false
    else
      let chains := text.endsWith " " || text.endsWith "\t"
      set { s with
        rest := text.toList ++ s.rest
        inside := ⟨name, s.rest.length, chains⟩ :: s.inside }
      return true

/-- The characters at the front of the script that satisfy a test. -/
def takeWhile (test : Char → Bool) : Nat → Reader (List Char)
  | 0 => return []
  | fuel + 1 => do
    match ← peek with
    | some c => if test c then advance; return c :: (← takeWhile test fuel) else return []
    | none => return []

end Reader

end Bindery.Shell
