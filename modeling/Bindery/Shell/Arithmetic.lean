/-!
# Arithmetic expressions

The expressions between `$((` and `))`: integers of 64 bits, variables, and the operators of the
usual precedence. `Expr.parse` reads an expression, `Expr.eval` gives its value and the assignments
that were made on the way.
-/

namespace Bindery.Shell.Arithmetic

/-- A number as an integer of 64 bits, which wraps around. -/
def wrap (n : Int) : Int := Int.bmod n 18446744073709551616

inductive Expr where
  | number (value : Int)
  | named (name : String)
  | unary (operator : Char) (operand : Expr)
  | binary (operator : String) (left right : Expr)
  | conditional (test yes no : Expr)
  /-- Assigns to a variable; an operator combines the value with the old one. -/
  | assign (name : String) (operator : Option String) (value : Expr)

/-! ## Tokens -/

inductive Token where
  | number (value : Int)
  | name (text : String)
  | operator (text : String)
  /-- A character that starts none; what is after it is not looked at. -/
  | stray
  deriving DecidableEq

def digitOf (c : Char) : Nat :=
  if c.isDigit then c.toNat - 48 else if c.isLower then c.toNat - 87 else c.toNat - 55

def isHex (c : Char) : Bool :=
  c.isDigit || ('a' ≤ c && c ≤ 'f') || ('A' ≤ c && c ≤ 'F')

def isOctal (c : Char) : Bool := '0' ≤ c && c ≤ '7'

/-- The number that digits of a base denote, at most the greatest of 64 bits. -/
def valueOf (base : Nat) (cs : List Char) : Int :=
  min (cs.foldl (fun n c => n * base + digitOf c) 0) 9223372036854775807

/-- An unsigned number at the front of a text, in base ten, or eight after a zero, or sixteen after
a zero and an x. -/
def takeNumber (cs : List Char) : Int × List Char :=
  match cs with
  | '0' :: x :: rest =>
    if (x == 'x' || x == 'X') && rest.head?.any isHex then
      (valueOf 16 (rest.takeWhile isHex), rest.dropWhile isHex)
    else (valueOf 8 (cs.takeWhile isOctal), cs.dropWhile isOctal)
  | cs => (valueOf 10 (cs.takeWhile Char.isDigit), cs.dropWhile Char.isDigit)

/-- The operators, longer ones before those that they start with. -/
def operators : List String :=
  ["<<=", ">>=", "<<", ">>", "<=", ">=", "==", "!=", "&&", "||", "+=", "-=", "*=", "/=", "%=", "&=",
    "|=", "^=", "+", "-", "*", "/", "%", "<", ">", "&", "|", "^", "!", "~", "?", ":", "=", "(", ")"]

def isSpace (c : Char) : Bool := c == ' ' || c == '\t' || c == '\n'

def isNameStart (c : Char) : Bool := c.isAlpha || c == '_'

/-- The tokens of an expression. -/
def tokens : Nat → List Char → List Token
  | 0, _ | _, [] => []
  | fuel + 1, c :: cs =>
    if isSpace c then tokens fuel cs
    else if c.isDigit then
      let (value, rest) := takeNumber (c :: cs)
      .number value :: tokens fuel rest
    else if isNameStart c then
      let isPart (c : Char) : Bool := c.isAlphanum || c == '_'
      .name (String.ofList (c :: cs.takeWhile isPart)) :: tokens fuel (cs.dropWhile isPart)
    else
      match operators.find? fun o => o.toList.isPrefixOf (c :: cs) with
      | some o => .operator o :: tokens fuel ((c :: cs).drop o.length)
      | none => [.stray]

/-! ## Reading -/

/-- How tightly a binary operator binds. -/
def precedence : String → Option Nat
  | "||" => some 1
  | "&&" => some 2
  | "|" => some 3
  | "^" => some 4
  | "&" => some 5
  | "==" | "!=" => some 6
  | "<" | "<=" | ">" | ">=" => some 7
  | "<<" | ">>" => some 8
  | "+" | "-" => some 9
  | "*" | "/" | "%" => some 10
  | _ => none

/-- The operator with which an assignment combines the old value. -/
def combining? (operator : String) : Option (Option String) :=
  if operator = "=" then some none
  else if precedence operator = none && operator.endsWith "=" then
    some (some (operator.dropEnd 1).toString)
  else none

/-- Why an expression has no value. -/
inductive Fault where
  /-- It cannot be read, or an operator has no result. -/
  | unreadable (reason : String)
  /-- A variable in it holds no number. -/
  | notNumber (value : String)

/-- The message about a fault in an expression. -/
def Fault.message (expression : String) : Fault → String
  | unreadable reason => s!"arithmetic expression: {reason}: \"" ++ expression ++ "\""
  | notNumber value => s!"Illegal number: {value}"

mutual

/-- An assignment, or an expression that is none. -/
def readAssignment : Nat → List Token → Except Fault (Expr × List Token)
  | 0, _ => .error (.unreadable "expecting primary")
  | fuel + 1, tokens =>
    match tokens with
    | .name name :: .operator o :: rest =>
      match combining? o with
      | some operator => do
        let (value, rest) ← readAssignment fuel rest
        return (.assign name operator value, rest)
      | none => readConditional fuel tokens
    | tokens => readConditional fuel tokens

def readConditional : Nat → List Token → Except Fault (Expr × List Token)
  | 0, _ => .error (.unreadable "expecting primary")
  | fuel + 1, tokens => do
    let (first, rest) ← readUnary fuel tokens
    let (test, rest) ← readBinary fuel 1 first rest
    match rest with
    | .operator "?" :: rest =>
      let (yes, rest) ← readAssignment fuel rest
      match rest with
      | .operator ":" :: rest =>
        let (no, rest) ← readConditional fuel rest
        return (.conditional test yes no, rest)
      | _ => throw (.unreadable "expecting ':'")
    | rest => return (test, rest)

/-- What binds at least as tightly as `level`, after its first operand. -/
def readBinary : Nat → Nat → Expr → List Token → Except Fault (Expr × List Token)
  | 0, _, _, _ => .error (.unreadable "expecting primary")
  | fuel + 1, level, left, tokens =>
    match tokens with
    | .operator o :: rest =>
      match precedence o with
      | some p =>
        if p < level then .ok (left, tokens)
        else do
          let (operand, rest) ← readUnary fuel rest
          let (right, rest) ← readBinary fuel (p + 1) operand rest
          readBinary fuel level (.binary o left right) rest
      | none => .ok (left, tokens)
    | tokens => .ok (left, tokens)

def readUnary : Nat → List Token → Except Fault (Expr × List Token)
  | 0, _ => .error (.unreadable "expecting primary")
  | fuel + 1, tokens =>
    match tokens with
    | .number value :: rest => .ok (.number value, rest)
    | .name name :: rest => .ok (.named name, rest)
    | .operator "(" :: rest => do
      let (inner, rest) ← readAssignment fuel rest
      match rest with
      | .operator ")" :: rest => return (inner, rest)
      | _ => throw (.unreadable "expecting ')'")
    | .operator o :: rest =>
      match o.toList with
      | [c] =>
        if ['+', '-', '!', '~'].contains c then do
          let (operand, rest) ← readUnary fuel rest
          return (.unary c operand, rest)
        else .error (.unreadable "expecting primary")
      | _ => .error (.unreadable "expecting primary")
    | _ => .error (.unreadable "expecting primary")

end

/-- Reads a whole expression. -/
def Expr.parse (s : String) : Except Fault Expr := do
  let all := tokens (s.length + 1) s.toList
  let (expr, rest) ← readAssignment (4 * all.length + 4) all
  if rest.isEmpty then return expr else throw (.unreadable "expecting EOF")

/-! ## Values -/

/-- The values of variables, the latest assignment first. -/
abbrev Bindings := List (String × String)

/-- The integer that a text denotes, with blanks around it. -/
def integer? (s : String) : Option Int :=
  let cs := s.toList.dropWhile isSpace
  let (negative, digits) := match cs with
    | '-' :: cs => (true, cs)
    | '+' :: cs => (false, cs)
    | cs => (false, cs)
  if cs.isEmpty then some 0
  else if !digits.head?.any Char.isDigit then none
  else
    let (value, rest) := takeNumber digits
    if rest.all isSpace then some (if negative then -value else value) else none

def ofBool (b : Bool) : Int := if b then 1 else 0

/-- The value of a binary operator that evaluates both operands. -/
def combine (operator : String) (a b : Int) : Except Fault Int :=
  match operator with
  | "+" => .ok (wrap (a + b))
  | "-" => .ok (wrap (a - b))
  | "*" => .ok (wrap (a * b))
  | "/" => if b = 0 then .error (.unreadable "division by zero") else .ok (wrap (a.tdiv b))
  | "%" => if b = 0 then .error (.unreadable "division by zero") else .ok (wrap (a.tmod b))
  | "==" => .ok (ofBool (a = b))
  | "!=" => .ok (ofBool (a ≠ b))
  | "<" => .ok (ofBool (a < b))
  | "<=" => .ok (ofBool (a ≤ b))
  | ">" => .ok (ofBool (a > b))
  | ">=" => .ok (ofBool (a ≥ b))
  | o =>
    let x := Int64.ofInt a
    let y := Int64.ofInt b
    .ok (match o with
      | "<<" => x <<< y
      | ">>" => x >>> y
      | "&" => x &&& y
      | "|" => x ||| y
      | _ => x ^^^ y).toInt

/-- The value of an expression, and the variables after it. -/
def Expr.eval (bindings : Bindings) : Expr → Except Fault (Int × Bindings)
  | number value => .ok (value, bindings)
  | named name =>
    let text := (bindings.lookup name).getD ""
    match integer? text with
    | some value => .ok (value, bindings)
    | none => .error (.notNumber text)
  | unary operator operand => do
    let (value, bindings) ← operand.eval bindings
    return (match operator with
      | '-' => wrap (-value)
      | '!' => ofBool (value = 0)
      | '~' => -value - 1
      | _ => value, bindings)
  | binary operator left right => do
    let (a, bindings) ← left.eval bindings
    if operator = "&&" && a = 0 then return (0, bindings)
    else if operator = "||" && a ≠ 0 then return (1, bindings)
    else
      let (b, bindings) ← right.eval bindings
      if operator = "&&" || operator = "||" then return (ofBool (b ≠ 0), bindings)
      else return (← combine operator a b, bindings)
  | conditional test yes no => do
    let (value, bindings) ← test.eval bindings
    if value ≠ 0 then yes.eval bindings else no.eval bindings
  | assign name operator value => do
    let (value, bindings) ← value.eval bindings
    let result ← match operator with
      | none => pure value
      | some operator => do
        let (old, _) ← (named name).eval bindings
        combine operator old value
    return (result, (name, toString result) :: bindings)

end Bindery.Shell.Arithmetic
