import Bindery.Utility.Awk.Lexer
import Bindery.Utility.Awk.Script

/-!
# Reading scripts

A script is read from its tokens by one function for each level of precedence. Each call inside
another uses up some of a number that is computed from the count of the tokens.
-/

namespace Bindery.Utility.Awk

/-- What is left of a script while it is read, and what surrounds the next token. -/
structure Reading where
  tokens : List (Token × Nat)
  /-- The line of the last token. -/
  line : Nat := 1
  /-- A greater sign says where something is printed. -/
  prints : Bool := false
  /-- The parameters of the function. -/
  parameters : List String := []
  inFunction : Bool := false
  inRule : Bool := false
  /-- How many loops are around. -/
  loops : Nat := 0
  /-- Functions that are called, with the number of their arguments and the line of the call. -/
  called : List (String × Nat × Nat) := []

abbrev Reader := StateT Reading (Except String)

namespace Reader

def peek : Reader Token := do
  match (← get).tokens with
  | (t, _) :: _ => return t
  | [] => return .ended

def advance : Reader Unit := do
  match (← get).tokens with
  | (_, line) :: rest => modify fun r => { r with tokens := rest, line }
  | [] => return ()

/-- Fails at the next token. -/
def unexpected {α : Type} : Reader α := do
  let r ← get
  let line := ((r.tokens.head?).map (·.2)).getD r.line
  match ← peek with
  | .ended => throw s!"line {line}: missing \x7d near end of file"
  | t =>
    let shown := t.shown
    throw s!"line {line}: syntax error at or near {shown}"

def fault {α : Type} (reason : String) : Reader α := do
  let line := (← get).line
  throw s!"line {line}: {reason}"

def isSign (text : String) : Reader Bool := do
  match ← peek with
  | .sign s => return s == text
  | _ => return false

def isKeyword (text : String) : Reader Bool := do
  match ← peek with
  | .keyword s => return s == text
  | _ => return false

/-- Goes past a sign if it comes next. -/
def skip (text : String) : Reader Bool := do
  if ← isSign text then
    advance
    return true
  else return false

/-- Goes past a sign that must come next. -/
def expect (text : String) : Reader Unit := do
  if ← isSign text then advance else unexpected

/-- Goes past line ends. -/
def skipLines : Reader Unit := do
  modify fun r =>
    let blank := r.tokens.takeWhile fun t => match t.1 with
      | .newline => true
      | _ => false
    { r with tokens := r.tokens.drop blank.length }

/-- Goes past line ends and semicolons. -/
def skipEnds : Reader Unit := do
  modify fun r =>
    let blank := r.tokens.takeWhile fun t => match t.1 with
      | .newline => true
      | .sign s => s == ";"
      | _ => false
    { r with tokens := r.tokens.drop blank.length }

/-- Reads something while a greater sign means what it says. -/
def inside {α : Type} (read : Reader α) : Reader α := do
  let prints := (← get).prints
  modify fun r => { r with prints := false }
  let value ← read
  modify fun r => { r with prints }
  return value

/-- The variable of a name. -/
def resolve (name : String) : Reader Name := do
  match (← get).parameters.idxOf? name with
  | some i => return .own i
  | none => return .shared name

/-- A text that is used as an expression is read as one at once. -/
def asPattern : Expr → Reader Expr
  | .text text =>
    match patternOf text with
    | .ok pattern => return .regex pattern
    | .error reason => fault reason
  | e => return e

/-- The separator for `split`; a text of one character stands for itself. -/
def asSeparator : Expr → Reader Expr
  | .text text => if text.length < 2 then return .text text else asPattern (.text text)
  | e => return e

/-- The arguments of a builtin function, with those texts read that stand for expressions. -/
def prepared (name : String) : List Expr → Reader (List Expr)
  | [first] => return [first]
  | first :: rest => do
    if name == "sub" || name == "gsub" then return (← asPattern first) :: rest
    else
      match name, rest with
      | "match", [e] => return [first, ← asPattern e]
      | "split", [table, e] => return [first, table, ← asSeparator e]
      | _, _ => return first :: rest
  | [] => return []

def isTarget : Expr → Bool
  | .var _ | .element .. | .field _ => true
  | _ => false

/-- The operation of a sign that assigns, if it computes something. -/
def assignmentOf? : Token → Option (Option Operation)
  | .sign "=" => some none
  | .sign "+=" => some (some .add)
  | .sign "-=" => some (some .subtract)
  | .sign "*=" => some (some .multiply)
  | .sign "/=" => some (some .divide)
  | .sign "%=" => some (some .modulo)
  | .sign "^=" => some (some .power)
  | _ => none

def relationOf? (prints : Bool) : Token → Option Relation
  | .sign "<" => some .less
  | .sign "<=" => some .lessEqual
  | .sign "==" => some .equal
  | .sign "!=" => some .unequal
  | .sign ">=" => some .greaterEqual
  | .sign ">" => if prints then none else some .greater
  | _ => none

/-- Whether an expression that is joined to the one before may begin with a token. -/
def beginsOperand : Token → Bool
  | .number _ | .text _ | .regex _ | .name _ | .function _ | .builtin _ => true
  | .sign s => ["(", "$", "!", "-", "+", "++", "--"].contains s
  | .keyword s => s == "getline"
  | _ => false

mutual

/-- An expression: a choice by a condition, or what binds tighter. -/
def expression : Nat → Reader Expr
  | 0 => unexpected
  | fuel + 1 => do
    let condition ← disjunction fuel
    if ← skip "?" then
      skipLines
      let first ← expression fuel
      skipLines
      expect ":"
      skipLines
      let second ← expression fuel
      return .conditional condition first second
    else return condition

def disjunction : Nat → Reader Expr
  | 0 => unexpected
  | fuel + 1 => do
    let first ← conjunction fuel
    moreDisjunction fuel first

def moreDisjunction : Nat → Expr → Reader Expr
  | 0, _ => unexpected
  | fuel + 1, first => do
    if ← skip "||" then
      skipLines
      let second ← conjunction fuel
      moreDisjunction fuel (.either first second)
    else return first

def conjunction : Nat → Reader Expr
  | 0 => unexpected
  | fuel + 1 => do
    let first ← membership fuel
    moreConjunction fuel first

def moreConjunction : Nat → Expr → Reader Expr
  | 0, _ => unexpected
  | fuel + 1, first => do
    if ← skip "&&" then
      skipLines
      let second ← membership fuel
      moreConjunction fuel (.both first second)
    else return first

def membership : Nat → Reader Expr
  | 0 => unexpected
  | fuel + 1 => do
    let first ← matching fuel
    moreMembership fuel first

def moreMembership : Nat → Expr → Reader Expr
  | 0, _ => unexpected
  | fuel + 1, first => do
    if ← isKeyword "in" then
      advance
      match ← peek with
      | .name name =>
        advance
        let keys := match first with
          | .group parts => parts
          | e => [e]
        moreMembership fuel (.isIn keys (← resolve name))
      | _ => unexpected
    else return first

def matching : Nat → Reader Expr
  | 0 => unexpected
  | fuel + 1 => do
    let first ← comparison fuel
    moreMatching fuel first

def moreMatching : Nat → Expr → Reader Expr
  | 0, _ => unexpected
  | fuel + 1, first => do
    if ← skip "~" then
      let second ← comparison fuel
      moreMatching fuel (.fits false first (← asPattern second))
    else if ← skip "!~" then
      let second ← comparison fuel
      moreMatching fuel (.fits true first (← asPattern second))
    else return first

def comparison : Nat → Reader Expr
  | 0 => unexpected
  | fuel + 1 => do
    let first ← joined fuel
    moreComparison fuel first

def moreComparison : Nat → Expr → Reader Expr
  | 0, _ => unexpected
  | fuel + 1, first => do
    match relationOf? (← get).prints (← peek) with
    | some relation =>
      advance
      let second ← joined fuel
      moreComparison fuel (.relation relation first second)
    | none => return first

/-- Expressions that are joined, or an assignment. -/
def joined : Nat → Reader Expr
  | 0 => unexpected
  | fuel + 1 => do
    let first ← sum fuel
    match assignmentOf? (← peek) with
    | some operation? =>
      if isTarget first then
        advance
        skipLines
        let value ← expression fuel
        match operation? with
        | some operation => return .update operation first value
        | none => return .assign first value
      else unexpected
    | none => moreJoined fuel first

def moreJoined : Nat → Expr → Reader Expr
  | 0, _ => unexpected
  | fuel + 1, first => do
    if beginsOperand (← peek) then
      let second ← sum fuel
      moreJoined fuel (.join first second)
    else return first

def sum : Nat → Reader Expr
  | 0 => unexpected
  | fuel + 1 => do
    let first ← product fuel
    moreSum fuel first

def moreSum : Nat → Expr → Reader Expr
  | 0, _ => unexpected
  | fuel + 1, first => do
    if ← skip "+" then
      let second ← product fuel
      moreSum fuel (.arithmetic .add first second)
    else if ← skip "-" then
      let second ← product fuel
      moreSum fuel (.arithmetic .subtract first second)
    else return first

def product : Nat → Reader Expr
  | 0 => unexpected
  | fuel + 1 => do
    let first ← signed fuel
    moreProduct fuel first

def moreProduct : Nat → Expr → Reader Expr
  | 0, _ => unexpected
  | fuel + 1, first => do
    if ← skip "*" then
      let second ← signed fuel
      moreProduct fuel (.arithmetic .multiply first second)
    else if ← skip "/" then
      let second ← signed fuel
      moreProduct fuel (.arithmetic .divide first second)
    else if ← skip "%" then
      let second ← signed fuel
      moreProduct fuel (.arithmetic .modulo first second)
    else return first

def signed : Nat → Reader Expr
  | 0 => unexpected
  | fuel + 1 => do
    if ← skip "!" then return .negation (← signed fuel)
    else if ← skip "-" then return .minus (← signed fuel)
    else if ← skip "+" then return .plus (← signed fuel)
    else
      let first ← powered fuel
      piped fuel first

/-- Lines from commands. -/
def piped : Nat → Expr → Reader Expr
  | 0, _ => unexpected
  | fuel + 1, first => do
    match (← get).tokens with
    | (.sign "|", _) :: (.keyword "getline", _) :: _ =>
      advance
      advance
      let target ← lineTarget fuel
      piped fuel (.readCommand target first)
    | _ => return first

def powered : Nat → Reader Expr
  | 0 => unexpected
  | fuel + 1 => do
    let first ← stepped fuel
    if ← skip "^" then
      let second ← exponent fuel
      return .arithmetic .power first second
    else return first

/-- What stands behind a power sign. -/
def exponent : Nat → Reader Expr
  | 0 => unexpected
  | fuel + 1 => do
    if ← skip "-" then return .minus (← exponent fuel)
    else if ← skip "+" then return .plus (← exponent fuel)
    else if ← skip "!" then return .negation (← exponent fuel)
    else powered fuel

/-- Something that may be counted up or down. -/
def stepped : Nat → Reader Expr
  | 0 => unexpected
  | fuel + 1 => do
    if ← skip "++" then
      let target ← primary fuel
      if isTarget target then return .step .add true target else unexpected
    else if ← skip "--" then
      let target ← primary fuel
      if isTarget target then return .step .subtract true target else unexpected
    else
      let first ← primary fuel
      if !isTarget first then return first
      else if ← skip "++" then return .step .add false first
      else if ← skip "--" then return .step .subtract false first
      else return first

/-- The variable into which a line is read, if there is one. -/
def lineTarget : Nat → Reader (Option Expr)
  | 0 => unexpected
  | fuel + 1 => do
    match ← peek with
    | .name _ => return some (← primary fuel)
    | .sign "$" => return some (← primary fuel)
    | _ => return none

/-- The arguments of a call, after the opening parenthesis. -/
def arguments : Nat → Reader (List Expr)
  | 0 => unexpected
  | fuel + 1 => do
    skipLines
    if ← skip ")" then return []
    else
      let first ← expression fuel
      moreArguments fuel [first]

/-- More arguments after those that were read, the last one first. -/
def moreArguments : Nat → List Expr → Reader (List Expr)
  | 0, _ => unexpected
  | fuel + 1, found => do
    skipLines
    if ← skip "," then
      skipLines
      let e ← expression fuel
      moreArguments fuel (e :: found)
    else if ← skip ")" then return found.reverse
    else unexpected

/-- The keys of an element, after the opening bracket. -/
def keys : Nat → List Expr → Reader (List Expr)
  | 0, _ => unexpected
  | fuel + 1, found => do
    let e ← expression fuel
    if ← skip "," then
      skipLines
      keys fuel (e :: found)
    else
      expect "]"
      return (e :: found).reverse

def primary : Nat → Reader Expr
  | 0 => unexpected
  | fuel + 1 => do
    match ← peek with
    | .number value =>
      advance
      return .number value
    | .text value =>
      advance
      return .text value
    | .regex pattern =>
      advance
      return .regex pattern
    | .sign "$" =>
      advance
      if ← skip "++" then
        return .field (.step .add true (← primary fuel))
      else if ← skip "--" then
        return .field (.step .subtract true (← primary fuel))
      else if ← skip "-" then return .field (.minus (← primary fuel))
      else return .field (← primary fuel)
    | .sign "(" =>
      advance
      let parts ← inside (arguments fuel)
      match parts with
      | [e] => return .group [e]
      | [] => unexpected
      | parts => return .group parts
    | .name name =>
      advance
      if ← skip "[" then
        let parts ← inside (keys fuel [])
        return .element (← resolve name) parts
      else return .var (← resolve name)
    | .function name =>
      advance
      advance
      let args ← inside (arguments fuel)
      modify fun r => { r with called := (name, args.length, r.line) :: r.called }
      return .call name args
    | .builtin name =>
      advance
      if ← skip "(" then
        let args ← inside (arguments fuel)
        return .builtin name (← prepared name args)
      else if name == "length" then return .builtin name []
      else unexpected
    | .keyword "getline" =>
      advance
      let target ← lineTarget fuel
      if ← skip "<" then
        let file ← stepped fuel
        return .readFile target file
      else return .readLine target
    | _ => unexpected

end

/-! ## Actions -/

/-- Whether a simple action may end at a token. -/
def isEnd : Token → Bool
  | .newline | .ended => true
  | .sign s => s == ";" || s == "\x7d"
  | _ => false

/-- Goes past the end of a simple action. -/
def finish : Reader Unit := do
  match ← peek with
  | .newline => advance
  | .sign ";" => advance
  | .sign "\x7d" => return ()
  | .ended => return ()
  | _ => unexpected

/-- Expressions with commas between them. -/
def list (fuel : Nat) : Nat → List Expr → Reader (List Expr)
  | 0, _ => unexpected
  | count + 1, found => do
    let e ← expression fuel
    if ← skip "," then
      skipLines
      list fuel count (e :: found)
    else return (e :: found).reverse

/-- What is printed, and where. -/
def printed (fuel : Nat) : Reader (List Expr × Target) := do
  modify fun r => { r with prints := true }
  let t ← peek
  let isStart := isEnd t || (match t with
    | .sign s => s == ">" || s == ">>" || s == "|"
    | _ => false)
  let args ← if isStart then pure [] else list fuel fuel []
  let args := match args with
    | [.group parts] => parts
    | args => args
  modify fun r => { r with prints := false }
  if ← skip ">" then return (args, .file (← expression fuel))
  else if ← skip ">>" then return (args, .append (← expression fuel))
  else if ← skip "|" then return (args, .command (← expression fuel))
  else return (args, .output)

/-- An action without parts, except for its end. -/
def simple (fuel : Nat) : Reader Action := do
  match ← peek with
  | .keyword "print" =>
    advance
    let (args, target) ← printed fuel
    return .print args target
  | .keyword "printf" =>
    advance
    let (args, target) ← printed fuel
    if args.isEmpty then unexpected else return .format args target
  | .keyword "delete" =>
    advance
    match ← peek with
    | .name name =>
      advance
      let table ← resolve name
      if ← skip "[" then return .delete table (← inside (keys fuel []))
      else return .deleteAll table
    | _ => unexpected
  | .keyword "break" =>
    advance
    if (← get).loops = 0 then fault "break statement outside of loop" else return .break_
  | .keyword "continue" =>
    advance
    if (← get).loops = 0 then fault "continue statement outside of loop" else return .continue_
  | .keyword "next" =>
    advance
    if (← get).inRule then return .next else fault "improper use of next"
  | .keyword "nextfile" =>
    advance
    if (← get).inRule then return .nextFile else fault "improper use of nextfile"
  | .keyword "exit" =>
    advance
    if isEnd (← peek) then return .exit none else return .exit (some (← expression fuel))
  | .keyword "return" =>
    advance
    if !(← get).inFunction then fault "return outside function body"
    else if isEnd (← peek) then return .return_ none
    else return .return_ (some (← expression fuel))
  | _ => return .value (← expression fuel)

/-- Reads the body of a loop. -/
def looping {α : Type} (read : Reader α) : Reader α := do
  modify fun r => { r with loops := r.loops + 1 }
  let value ← read
  modify fun r => { r with loops := r.loops - 1 }
  return value

/-- A simple action if there is one before a sign. -/
def optional (fuel : Nat) (sign : String) : Reader (Option Action) := do
  if ← isSign sign then return none else return some (← simple fuel)

mutual

def action : Nat → Reader Action
  | 0 => unexpected
  | fuel + 1 => do
    match ← peek with
    | .sign "\x7b" =>
      advance
      actions fuel []
    | .sign ";" =>
      advance
      return .nothing
    | .keyword "if" =>
      advance
      expect "("
      let condition ← inside (expression fuel)
      expect ")"
      skipLines
      let first ← action fuel
      let before ← get
      skipLines
      if ← isKeyword "else" then
        advance
        skipLines
        return .branch condition first (some (← action fuel))
      else
        set before
        return .branch condition first none
    | .keyword "while" =>
      advance
      expect "("
      let condition ← inside (expression fuel)
      expect ")"
      if ← skip ";" then return .loop condition .nothing
      else
        skipLines
        return .loop condition (← looping (action fuel))
    | .keyword "do" =>
      advance
      skipLines
      let body ← looping (action fuel)
      skipLines
      if ← isKeyword "while" then
        advance
        expect "("
        let condition ← inside (expression fuel)
        expect ")"
        finish
        return .loopAfter body condition
      else unexpected
    | .keyword "for" =>
      advance
      expect "("
      match (← get).tokens with
      | (.name name, _) :: (.keyword "in", _) :: (.name table, _) :: (.sign ")", _) :: rest =>
        modify fun r => { r with tokens := rest }
        skipLines
        let body ← looping (action fuel)
        return .each (← resolve name) (← resolve table) body
      | _ =>
        let start ← inside (optional fuel ";")
        expect ";"
        skipLines
        let condition ← if ← isSign ";" then pure none
          else pure (some (← inside (expression fuel)))
        expect ";"
        skipLines
        let step ← inside (optional fuel ")")
        expect ")"
        if ← skip ";" then return .count start condition step .nothing
        else
          skipLines
          return .count start condition step (← looping (action fuel))
    | _ =>
      let a ← simple fuel
      finish
      return a

/-- Actions up to a closing brace, after those that were read, the last one first. -/
def actions : Nat → List Action → Reader Action
  | 0, _ => unexpected
  | fuel + 1, found => do
    skipLines
    if ← skip "\x7d" then return .block found.reverse
    else
      let a ← action fuel
      actions fuel (a :: found)

end

/-! ## Scripts -/

/-- The parameters of a function, after the opening parenthesis. -/
def parameters : Nat → List String → Reader (List String)
  | 0, _ => unexpected
  | fuel + 1, found => do
    match ← peek with
    | .sign ")" =>
      advance
      return found.reverse
    | .name name =>
      advance
      if ← skip "," then
        skipLines
        parameters fuel (name :: found)
      else
        expect ")"
        return (name :: found).reverse
    | _ => unexpected

/-- Adds the next rule or function to a script. -/
def item (fuel : Nat) (script : Script) : Reader Script := do
  match ← peek with
  | .keyword "function" =>
    advance
    let name ← match ← peek with
      | .name name | .function name => pure name
      | _ => unexpected
    advance
    expect "("
    let names ← parameters fuel []
    skipLines
    modify fun r => { r with parameters := names, inFunction := true }
    expect "\x7b"
    let body ← actions fuel []
    modify fun r => { r with parameters := [], inFunction := false }
    return { script with functions := script.functions ++ [⟨name, names.length, body, []⟩] }
  | .keyword "BEGIN" =>
    advance
    expect "\x7b"
    let body ← actions fuel []
    return { script with starts := script.starts ++ [body] }
  | .keyword "END" =>
    advance
    expect "\x7b"
    let body ← actions fuel []
    return { script with ends := script.ends ++ [body] }
  | t =>
    let isBlock := match t with
      | .sign s => s == "\x7b"
      | _ => false
    let condition ← if isBlock then pure Condition.always
      else do
        let first ← expression fuel
        if ← skip "," then
          skipLines
          pure (Condition.between first (← expression fuel))
        else pure (Condition.when first)
    modify fun r => { r with inRule := true }
    let action? ← if ← skip "\x7b" then pure (some (← actions fuel []))
      else if isEnd (← peek) then pure none
      else unexpected
    modify fun r => { r with inRule := false }
    return { script with rules := script.rules ++ [⟨condition, action?⟩] }

/-- Reads rules and functions up to the end. -/
def items (fuel : Nat) : Nat → Script → Reader Script
  | 0, _ => unexpected
  | count + 1, script => do
    skipEnds
    match ← peek with
    | .ended => return script
    | .sign "\x7d" =>
      let line := (← get).line
      throw s!"line {line}: extra '\x7d'\nline {line}: syntax error at or near end of line"
    | _ => items fuel count (← item fuel script)

end Reader

/-- Reads a script from a text. -/
def Script.read (text : String) : Except String Script := do
  let found ← tokens (text.length + 2) 1 [] (text.toList ++ ['\n'])
  let fuel := 40 * found.length + 100
  let (script, reading) ← (Reader.items fuel fuel {}).run { tokens := found.reverse }
  let last := ((found.head?).map (·.2)).getD reading.line
  for (name, count, line) in reading.called.reverse do
    match script.function? name with
    | none => throw s!"line {last}: function {name} never defined"
    | some f =>
      if f.arity < count then throw s!"line {line}: too many arguments in call to {name}"
  return script.withTables

end Bindery.Utility.Awk
