import Bindery.File.Operations
import Bindery.File.Mode
import Bindery.Regex.Parser
import Bindery.Shell.Pattern
import Bindery.Utility.Quoting

/-!
# Search expressions

A search expression says which files are looked for, and what is done with them: tests and actions,
joined by "and", "or" and "not".
-/

namespace Bindery.Utility.Find

/-- A condition on a number. -/
inductive Comparison where
  | exactly (n : Nat)
  | more (n : Nat)
  | less (n : Nat)

def Comparison.holds (n : Nat) : Comparison → Bool
  | exactly m => n = m
  | more m => m < n
  | less m => n < m

/-- How permissions are compared with given ones. -/
inductive ModeTest where
  | exactly (mode : Nat)
  /-- All bits are there. -/
  | all (bits : Nat)
  /-- One of the bits is there, or there is none. -/
  | any (bits : Nat)

inductive Test where
  | constant (value : Bool)
  | name (pattern : String) (ignoresCase : Bool)
  | path (pattern : String) (ignoresCase : Bool)
  /-- Where a link leads to. -/
  | target (pattern : String) (ignoresCase : Bool)
  | regex (pattern : Pattern)
  /-- One of the kinds that letters say; `behind` looks at where links lead to. -/
  | kind (letters : List Char) (behind : Bool)
  | empty
  /-- The size in units, rounded up. -/
  | size (comparison : Comparison) (unit : Nat)
  | mode (test : ModeTest)
  | names (comparison : Comparison)
  /-- How old a file is, in any unit. All files are new. -/
  | age (comparison : Comparison)
  | sameAs (file : String)
  | isRunnable
  /-- Does not go into a directory. -/
  | prune
  | quit
  | delete
  | print (ending : String) (file : Option String)
  | format (text : String) (file : Option String)
  /-- Runs a program for the file, in the directory of the file if it is `inside`. -/
  | run (words : List String) (inside : Bool)
  /-- Asks whether to run a program. -/
  | ask (words : List String)
  /-- Runs a program for many files at once. -/
  | gather (words : List String) (inside : Bool)

/-- Whether a test does something, so that files need not be printed. -/
def Test.isAction : Test → Bool
  | delete | print .. | format .. | run .. | ask _ | gather .. => true
  | _ => false

inductive Expression where
  | test (test : Test)
  | negation (body : Expression)
  | both (first second : Expression)
  | either (first second : Expression)
  /-- One after the other; the second one counts. -/
  | each (first second : Expression)

def Expression.hasAction : Expression → Bool
  | test t => t.isAction
  | negation body => body.hasAction
  | both first second | either first second | each first second =>
    first.hasAction || second.hasAction

/-- How directories are gone through. -/
structure Settings where
  /-- How deep files are at most, and at least. -/
  most : Option Nat := none
  least : Nat := 0
  /-- What is in a directory comes before it. -/
  contentsFirst : Bool := false
  /-- Links are followed. -/
  follows : Bool := false
  extended : Bool := false

/-- What is left of an expression while it is read. -/
structure Reading where
  rest : List String
  settings : Settings := {}
  /-- The test before the next one. -/
  last : String := ""
  /-- The files to which something is printed. -/
  files : List String := []

abbrev Reader := StateT Reading (Except String)

namespace Reader

/-- The argument of a test. -/
def argument (test : String) : Reader String := do
  match (← get).rest with
  | [] => throw s!"missing argument to \x60{test}'"
  | word :: rest =>
    modify fun r => { r with rest }
    return word

/-- Changes the settings; a test that always holds. -/
def set (change : Settings → Settings) : Reader Test := do
  modify fun r => { r with settings := change r.settings }
  return .constant true

/-- A depth that a test gives. -/
def depth (test : String) : Reader Nat := do
  let word ← argument test
  match word.toNat? with
  | some n => return n
  | none =>
    throw s!"Expected a positive decimal integer argument to {test}, but got {quoted word}"

/-- A number with a sign. -/
def comparison? (text : String) : Option Comparison :=
  match text.toList with
  | '+' :: cs => (String.ofList cs).toNat?.map .more
  | '-' :: cs => (String.ofList cs).toNat?.map .less
  | _ => text.toNat?.map .exactly

def comparison (test : String) : Reader Comparison := do
  let word ← argument test
  match comparison? word with
  | some c => return c
  | none => throw s!"invalid argument \x60{word}' to \x60{test}'"

/-- A size: a number and the letter of a unit. -/
def size : Reader Test := do
  let word ← argument "-size"
  let last := word.toList.getLast?.getD ' '
  let unit? : Option Nat := match last with
    | 'b' => some 512
    | 'c' => some 1
    | 'w' => some 2
    | 'k' => some 1024
    | 'M' => some 1048576
    | 'G' => some 1073741824
    | _ => none
  let number := if unit?.isSome then (word.dropEnd 1).toString else word
  match comparison? number with
  | some c => return .size c (unit?.getD 512)
  | none =>
    if unit?.isSome || last.isDigit then throw s!"Invalid argument \x60{word}' to -size"
    else throw s!"invalid -size type \x60{last}'"

/-- Permissions to compare with. -/
def mode : Reader Test := do
  let word ← argument "-perm"
  let (kind, text) := match word.toList with
    | '-' :: cs => (ModeTest.all, String.ofList cs)
    | '/' :: cs => (ModeTest.any, String.ofList cs)
    | _ => (ModeTest.exactly, word)
  let value? := (octal? text).orElse fun _ =>
    (ModeChange.parse? text).map fun changes => changes.foldl (ModeChange.apply false 0) 0
  match value? with
  | some value => return .mode (kind value)
  | none => throw s!"invalid mode {quoted word}"

/-- The letters of kinds of files. -/
def kinds (test : String) : Reader (List Char) := do
  let word ← argument test
  let parts := word.splitOn ","
  let known := ["b", "c", "d", "p", "f", "l", "s"]
  match parts.find? fun part => !known.contains part with
  | some part =>
    if part.isEmpty then throw s!"Arguments to {test} should contain at least one letter"
    else if part.length > 1 && parts.length = 1 then
      throw s!"Must separate multiple arguments to {test} using: ','"
    else
      let letter := String.singleton (part.toList.headD ' ')
      throw s!"Unknown argument to {test}: {letter}"
  | none => return parts.filterMap (·.toList.head?)

/-- The words of a program up to the end mark. -/
def command (test : String) : Reader (List String × Bool) := do
  let rest := (← get).rest
  let isEnd (i : Nat) (word : String) : Bool :=
    word = ";" || (word = "+" && 0 < i && rest[i - 1]? == some "\x7b\x7d")
  match rest.zipIdx.find? fun (word, i) => isEnd i word with
  | none => throw s!"missing argument to \x60{test}'"
  | some (mark, i) =>
    modify fun r => { r with rest := rest.drop (i + 1) }
    let words := rest.take i
    if words.isEmpty then throw s!"missing argument to \x60{test}'"
    else return (words, mark = "+")

/-- An expression whose groups need backslashes, but whose repetitions do not, as an extended
one. -/
def extendedText : List Char → List Char
  | '\\' :: c :: rest =>
    if c == '(' || c == ')' || c == '|' then c :: extendedText rest
    else '\\' :: c :: extendedText rest
  | c :: rest =>
    if ['(', ')', '|', '\x7b', '\x7d'].contains c then '\\' :: c :: extendedText rest
    else c :: extendedText rest
  | [] => []

/-- A regular expression for whole paths. -/
def regex (test : String) (ignoresCase : Bool) : Reader Test := do
  let word ← argument test
  let text := if (← get).settings.extended then word
    else String.ofList (extendedText word.toList)
  match Pattern.parse { extended := true, strict := false, ignoresCase } text with
  | .ok pattern => return .regex pattern
  | .error fault =>
    let reason := fault.message
    throw s!"failed to compile regular expression {quoted word}: {reason}"

/-- A file to which something is printed. -/
def outputFile (test : String) : Reader (Option String) := do
  let file ← argument test
  modify fun r => { r with files := r.files ++ [file] }
  return some file

/-- The test that a word says. -/
def test (tree : FileTree) (word : String) : Reader Test := do
  match word with
  | "-true" | "-noleaf" | "-warn" | "-nowarn" | "-daystart" | "-mount" | "-xdev"
  | "-ignore_readdir_race" | "-noignore_readdir_race" | "-readable" | "-writable" =>
    return .constant true
  | "-false" | "-nouser" | "-nogroup" => return .constant false
  | "-maxdepth" =>
    let n ← depth word
    set ({ · with most := some n })
  | "-mindepth" =>
    let n ← depth word
    set ({ · with least := n })
  | "-depth" | "-d" => set ({ · with contentsFirst := true })
  | "-follow" => set ({ · with follows := true })
  | "-regextype" =>
    let kind ← argument word
    set ({ · with extended := !(["emacs", "findutils-default"].contains kind) })
  | "-name" => return .name (← argument word) false
  | "-iname" => return .name (← argument word) true
  | "-path" | "-wholename" => return .path (← argument word) false
  | "-ipath" | "-iwholename" => return .path (← argument word) true
  | "-lname" => return .target (← argument word) false
  | "-ilname" => return .target (← argument word) true
  | "-regex" => regex word false
  | "-iregex" => regex word true
  | "-type" => return .kind (← kinds word) false
  | "-xtype" => return .kind (← kinds word) true
  | "-empty" => return .empty
  | "-size" => size
  | "-perm" => mode
  | "-links" => return .names (← comparison word)
  | "-mtime" | "-atime" | "-ctime" | "-mmin" | "-amin" | "-cmin" => return .age (← comparison word)
  | "-newer" | "-anewer" | "-cnewer" | "-samefile" =>
    let file ← argument word
    if (tree.seek file).isOk then
      return if word = "-samefile" then .sameAs file else .constant false
    else throw s!"{quoted file}: No such file or directory"
  | "-user" | "-uid" | "-group" | "-gid" =>
    let owner ← argument word
    return .constant (owner = "root" || owner = "0")
  | "-executable" => return .isRunnable
  | "-prune" => return .prune
  | "-quit" => return .quit
  | "-delete" =>
    let _ ← set ({ · with contentsFirst := true })
    return .delete
  | "-print" => return .print "\n" none
  | "-print0" => return .print "\x00" none
  | "-printf" => return .format (← argument word) none
  | "-fprint" => return .print "\n" (← outputFile word)
  | "-fprint0" => return .print "\x00" (← outputFile word)
  | "-fprintf" =>
    let file ← outputFile word
    return .format (← argument word) file
  | "-exec" | "-execdir" =>
    let (words, gathers) ← command word
    let inside := word = "-execdir"
    return if gathers then .gather words.dropLast inside else .run words inside
  | "-ok" | "-okdir" => return .ask (← command word).1
  | _ => throw s!"unknown predicate \x60{word}'"

/-- Tests whose argument is a pattern for names. -/
def patternTests : List String :=
  ["-name", "-iname", "-path", "-ipath", "-wholename", "-iwholename", "-lname", "-ilname"]

/-- The test at which the expression goes on. -/
def nextTest (tree : FileTree) : Reader Expression := do
  match (← get).rest with
  | [] => throw "expected an expression"
  | word :: rest =>
    if !word.startsWith "-" || word = "-" then
      let text := s!"paths must precede expression: \x60{word}'"
      let last := (← get).last
      let isUnquoted := patternTests.contains last && (tree.seek word).isOk
      let hint := s!"\nfind: possible unquoted pattern after predicate \x60{last}'?"
      throw (if isUnquoted then text ++ hint else text)
    else
      modify fun r => { r with rest }
      let found ← test tree word
      modify fun r => { r with last := word }
      return .test found

/-- Words that join two expressions. -/
def joining : List String := ["-o", "-or", "-a", "-and", ","]

/-- Reads a word if it comes next. -/
def skip (words : List String) : Reader (Option String) := do
  match (← get).rest with
  | word :: rest =>
    if words.contains word then
      modify fun r => { r with rest }
      return some word
    else return none
  | [] => return none

/-- Fails at the end, which comes after a word. -/
def expectMore (word : String) : Reader Unit := do
  if (← get).rest.isEmpty then throw s!"expected an expression after '{word}'"

mutual

/-- Expressions one after the other. -/
def list (tree : FileTree) : Nat → Reader Expression
  | 0 => throw "expected an expression"
  | fuel + 1 => do
    let first ← alternatives tree fuel
    match ← skip [","] with
    | some word =>
      expectMore word
      return .each first (← list tree fuel)
    | none => return first

def alternatives (tree : FileTree) : Nat → Reader Expression
  | 0 => throw "expected an expression"
  | fuel + 1 => do
    let first ← conjunction tree fuel
    match ← skip ["-o", "-or"] with
    | some word =>
      expectMore word
      return .either first (← alternatives tree fuel)
    | none => return first

def conjunction (tree : FileTree) : Nat → Reader Expression
  | 0 => throw "expected an expression"
  | fuel + 1 => do
    let first ← single tree fuel
    match ← skip ["-a", "-and"] with
    | some word =>
      expectMore word
      return .both first (← conjunction tree fuel)
    | none =>
      match (← get).rest.head? with
      | none | some ")" | some "-o" | some "-or" | some "," => return first
      | some _ => return .both first (← conjunction tree fuel)

def single (tree : FileTree) : Nat → Reader Expression
  | 0 => throw "expected an expression"
  | fuel + 1 => do
    match (← get).rest with
    | "!" :: rest | "-not" :: rest =>
      let word := (← get).rest.headD ""
      modify fun r => { r with rest }
      expectMore word
      return .negation (← single tree fuel)
    | "(" :: ")" :: _ => throw "invalid expression; empty parentheses are not allowed."
    | "(" :: rest =>
      modify fun r => { r with rest }
      let missing :=
        "invalid expression; I was expecting to find a ')' somewhere but did not see one."
      if rest.isEmpty then throw missing
      let body ← list tree fuel
      match ← skip [")"] with
      | some _ => return body
      | none => throw missing
    | ")" :: _ => throw "invalid expression; you have too many ')'"
    | word :: _ =>
      if joining.contains word then
        throw (s!"invalid expression; you have used a binary operator '{word}' " ++
          "with nothing before it.")
      else nextTest tree
    | [] => nextTest tree

end

/-- Reads a whole expression; none at all holds always. -/
def whole (tree : FileTree) : Reader Expression := do
  let words := (← get).rest
  if words.isEmpty then return .test (.constant true)
  let found ← list tree (4 * words.length + 8)
  match (← get).rest with
  | ")" :: _ => throw "you have too many ')'"
  | _ => return found

end Reader

end Bindery.Utility.Find
