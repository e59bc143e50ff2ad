import Bindery.File.Operations
import Bindery.Text.Octets

/-!
# Conditions

The expressions of `test`: checks of texts, numbers and files, negated by `!`, joined by `-a` and
`-o`, grouped by parentheses. With three words or fewer, what stands in the middle decides how the
words are taken.
-/

namespace Bindery.Shell.Condition

def unaryOperators : List String :=
  ["-r", "-w", "-x", "-e", "-f", "-d", "-c", "-b", "-p", "-u", "-g", "-k", "-s", "-t", "-z", "-n",
    "-h", "-L", "-S", "-O", "-G"]

def binaryOperators : List String :=
  ["-nt", "-ot", "-ef", "=", "!=", "<", ">", "-eq", "-ne", "-ge", "-gt", "-le", "-lt"]

/-- What a word is, given the words after it. -/
inductive Kind where
  | operand
  | unary
  | binary
  | negation
  | conjunction
  | disjunction
  | opening
  | closing
  | ended
  deriving DecidableEq

/-- Whether a unary operator is an operand where it stands: at the end, or before an operator that
takes two and has a second. -/
def isOperand (after : List String) : Bool :=
  match after with
  | [] => true
  | [_] => false
  | o :: _ => binaryOperators.contains o

/-- What the first of some words is. -/
def kindOf : List String → Kind
  | [] => .ended
  | word :: after =>
    if unaryOperators.contains word then if isOperand after then .operand else .unary
    else if binaryOperators.contains word then .binary
    else if word = "!" then .negation
    else if word = "-a" then .conjunction
    else if word = "-o" then .disjunction
    else if word = "(" then if after.isEmpty then .operand else .opening
    else if word = ")" then .closing
    else .operand

/-- Whether a file is what a unary operator asks for. -/
def checkFile (tree : FileTree) (operator word : String) : Bool :=
  let path := Text.Octets.decode word
  if operator = "-h" || operator = "-L" then (tree.linkTarget? path).isSome
  else
    match tree.seek path, tree.seekLocation path with
    | .ok node, .ok place =>
      match operator, node with
      | "-e", _ | "-r", _ | "-w", _ | "-O", _ | "-G", _ => true
      | "-f", .file _ | "-f", .program _ => true
      | "-d", .directory => true
      | "-c", .device _ => true
      | "-x", .directory => true
      | "-x", _ => tree.mayRun place
      | "-s", .file content => !content.isEmpty
      | "-s", .directory | "-s", .program _ => true
      | "-u", _ => tree.mode place &&& 0o4000 != 0
      | "-g", _ => tree.mode place &&& 0o2000 != 0
      | "-k", _ => tree.mode place &&& 0o1000 != 0
      | _, _ => false
    | _, _ => false

/-- Whether two words name the same file. -/
def isSameFile (tree : FileTree) (left right : String) : Bool :=
  let placeOf (word : String) : Option Location := do
    let path := Text.Octets.decode word
    let _ ← (tree.seek path).toOption
    (tree.seekLocation path).toOption
  match placeOf left, placeOf right with
  | some a, some b => a == b || tree.shared.any fun names => names.contains a && names.contains b
  | _, _ => false

def isBlank (c : Char) : Bool := [' ', '\t', '\n', '\x0b', '\x0c', '\r'].contains c

/-- The integer of 64 bits that a word denotes, blanks around it. -/
def integer (word : String) : Except String Int :=
  let trimmed := ((word.toList.dropWhile isBlank).reverse.dropWhile isBlank).reverse
  let (negative, digits) := match trimmed with
    | '-' :: cs => (true, cs)
    | '+' :: cs => (false, cs)
    | cs => (false, cs)
  if digits.isEmpty || !digits.all Char.isDigit then .error s!"Illegal number: {word}"
  else
    let n : Int := ((String.ofList digits).toNat?).getD 0
    let value := if negative then -n else n
    if value < -9223372036854775808 || 9223372036854775807 < value then
      .error s!"Illegal number: {word}"
    else .ok value

/-- Whether an operator holds between two words. -/
def compare (tree : FileTree) (left operator right : String) : Except String Bool :=
  match operator with
  | "=" => .ok (left == right)
  | "!=" => .ok (left != right)
  | "<" => .ok (decide (left < right))
  | ">" => .ok (decide (right < left))
  | "-ef" => .ok (isSameFile tree left right)
  | "-nt" | "-ot" => .ok false
  | operator => do
    let a ← integer left
    let b ← integer right
    return match operator with
      | "-eq" => a = b
      | "-ne" => a ≠ b
      | "-ge" => a ≥ b
      | "-gt" => a > b
      | "-le" => a ≤ b
      | _ => a < b

/-- What reading an expression comes to: its value, and the words from its last one on. -/
abbrev Reading := Except String (Bool × List String)

mutual

/-- Parts of which one must hold. Both of them are read. -/
def disjunction (tree : FileTree) : Nat → Kind → List String → Reading
  | 0, _, _ => .error "argument expected"
  | fuel + 1, kind, words => do
    let (value, words) ← conjunction tree fuel kind words
    if kindOf (words.drop 1) = .disjunction then
      let rest := words.drop 2
      let (other, words) ← disjunction tree fuel (kindOf rest) rest
      return (value || other, words)
    else return (value, words)

/-- Parts that must all hold. -/
def conjunction (tree : FileTree) : Nat → Kind → List String → Reading
  | 0, _, _ => .error "argument expected"
  | fuel + 1, kind, words => do
    let (value, words) ← negation tree fuel kind words
    if kindOf (words.drop 1) = .conjunction then
      let rest := words.drop 2
      let (other, words) ← conjunction tree fuel (kindOf rest) rest
      return (value && other, words)
    else return (value, words)

def negation (tree : FileTree) : Nat → Kind → List String → Reading
  | 0, _, _ => .error "argument expected"
  | fuel + 1, kind, words =>
    if kind = .negation then do
      let next := kindOf (words.drop 1)
      let (value, words) ← negation tree fuel next (if next = .ended then words else words.drop 1)
      return (!value, words)
    else primary tree fuel kind words

def primary (tree : FileTree) : Nat → Kind → List String → Reading
  | 0, _, _ => .error "argument expected"
  | fuel + 1, kind, words =>
    match kind, words with
    | .ended, words => .ok (false, words)
    | .opening, _ :: rest =>
      if kindOf rest = .closing then .ok (false, rest)
      else do
        let (value, words) ← disjunction tree fuel (kindOf rest) rest
        let rest := words.drop 1
        if kindOf rest = .closing then return (value, rest) else throw "closing paren expected"
    | .unary, operator :: rest =>
      match rest with
      | [] => .error s!"{operator}: argument expected"
      | word :: _ =>
        match operator with
        | "-z" => .ok (word.isEmpty, rest)
        | "-n" => .ok (!word.isEmpty, rest)
        | "-t" => do
          let _ ← integer word
          return (false, rest)
        | operator => .ok (checkFile tree operator word, rest)
    | _, left :: operator :: rest =>
      if kindOf (operator :: rest) = .binary then
        match rest with
        | [] => .error s!"{operator}: argument expected"
        | right :: _ => do return (← compare tree left operator right, rest)
      else .ok (!left.isEmpty, words)
    | _, [left] => .ok (!left.isEmpty, words)
    | _, [] => .ok (false, [])

end

/-- Whether the expression that words make up holds. Words that are left over are an error, told by
the last word before them. -/
def whole (tree : FileTree) (kind : Kind) (words : List String) : Except String Bool := do
  let (value, last) ← disjunction tree (4 * words.length + 4) kind words
  match last with
  | word :: _ :: _ =>
    throw (if word.isEmpty then "unexpected operator" else s!"{word}: unexpected operator")
  | _ => return value

/-- Whether a condition holds. -/
def eval (tree : FileTree) : List String → Except String Bool
  | [] => .ok false
  | words@(first :: rest) =>
    let asThree := words.length = 3 && binaryOperators.contains (rest.headD "")
    let isShort := words.length = 3 || words.length = 4
    if asThree then whole tree .operand words
    else if isShort && first = "(" && words.getLast? = some ")" then
      whole tree (kindOf rest.dropLast) rest.dropLast
    else if isShort && first = "!" then (eval tree rest).map (!·)
    else whole tree (kindOf words) words

end Bindery.Shell.Condition
