import Bindery.Regex.Parser
import Bindery.Regex.Search
import Bindery.Utility.Basic

/-!
# Expressions in arguments

`expr` takes its arguments for the words of an expression and prints the value. The words are worked
out as they are read, level by level from the weakest operators to the strongest; what cannot matter
to the value is read without being worked out.
-/

namespace Bindery.Utility

namespace Expression

inductive Value where
  | number (n : Int)
  | text (s : String)

namespace Value

def toText : Value → String
  | number n => toString n
  | text s => s

/-- The whole number that a value is or is written as. -/
def toNumber? : Value → Option Int
  | number n => some n
  | text s =>
    let isNegative := s.startsWith "-"
    let digits := if isNegative then s.toList.drop 1 else s.toList
    if digits.isEmpty || !digits.all Char.isDigit then none
    else
      let n : Int := digits.foldl (fun n c => n * 10 + (c.toNat - 48)) 0
      some (if isNegative then -n else n)

/-- Whether a value counts as none: the empty text and zero. -/
def isNull : Value → Bool
  | number n => n = 0
  | text s =>
    let cs := s.toList
    let digits := if cs.head? == some '-' then cs.drop 1 else cs
    cs.isEmpty || (!digits.isEmpty && digits.all (· == '0'))

end Value

/-- Why there is no value. -/
inductive Fault where
  | missing (after : String)
  | open_ (after : String)
  | notClosed (next : String)
  | closing
  | extra (word : String)
  | notANumber
  | zeroDivisor
  | regex (fault : RegexFault)

namespace Fault

def message : Fault → String
  | missing after => s!"syntax error: missing argument after {cited after}"
  | open_ after => s!"syntax error: expecting ')' after {cited after}"
  | notClosed next => s!"syntax error: expecting ')' instead of {cited next}"
  | closing => "syntax error: unexpected ')'"
  | extra word => s!"syntax error: unexpected argument {cited word}"
  | notANumber => "non-integer argument"
  | zeroDivisor => "division by zero"
  | regex fault => fault.message

end Fault

/-- The words that are left, and the one before them. -/
structure Reading where
  rest : List String
  last : String

abbrev Reader := StateT Reading (Except Fault)

/-- The operators of a level, the weakest ones at level zero. -/
def operators : Nat → List String
  | 0 => ["|"]
  | 1 => ["&"]
  | 2 => ["<", "<=", "=", "==", "!=", ">=", ">"]
  | 3 => ["+", "-"]
  | 4 => ["*", "/", "%"]
  | 5 => [":"]
  | _ => []

/-- What the front of a text matches: its length, or the first group if there is one. -/
def front (subject pattern : Value) : Except Fault Value :=
  match Pattern.parse { extended := false } pattern.toText with
  | .error fault => .error (.regex fault)
  | .ok p =>
    let bytes := Text.Octets.toBytes subject.toText
    let hasGroup := p.groups != 0
    match p.matchAt? { bytes } 0 with
    | none => .ok (if hasGroup then .text "" else .number 0)
    | some found =>
      if hasGroup then
        match found.group? 1 with
        | some (start, stop) => .ok (.text (Text.Octets.ofBytes (bytes.extract start stop)))
        | none => .ok (.text "")
      else .ok (.number found.stop)

/-- Whether an operator holds between values: numbers if both are, or else texts. -/
def compare (operator : String) (first second : Value) : Bool :=
  let (less, equal) := match first.toNumber?, second.toNumber? with
    | some a, some b => (decide (a < b), decide (a = b))
    | _, _ => (decide (first.toText < second.toText), first.toText == second.toText)
  match operator with
  | "<" => less
  | "<=" => less || equal
  | "=" | "==" => equal
  | "!=" => !equal
  | ">=" => !less
  | _ => !less && !equal

/-- A value of two numbers. -/
def compute (operator : String) (first second : Value) : Except Fault Value :=
  match first.toNumber?, second.toNumber? with
  | some a, some b =>
    match operator with
    | "+" => .ok (.number (a + b))
    | "-" => .ok (.number (a - b))
    | "*" => .ok (.number (a * b))
    | "/" => if b = 0 then .error .zeroDivisor else .ok (.number (a.tdiv b))
    | _ => if b = 0 then .error .zeroDivisor else .ok (.number (a.tmod b))
  | _, _ => .error .notANumber

/-- The value of an operator of a level between two values. -/
def combine (level : Nat) (operator : String) (first second : Value) : Except Fault Value :=
  match level with
  | 0 => .ok (if !first.isNull then first else if second.isNull then .number 0 else second)
  | 1 => .ok (if first.isNull || second.isNull then .number 0 else first)
  | 2 => .ok (.number (if compare operator first second then 1 else 0))
  | 5 => front first second
  | _ => compute operator first second

/-- A part of a text from a place on that counts from one, with so many characters. -/
def part (subject place count : Value) : Value :=
  match place.toNumber?, count.toNumber? with
  | some p, some n =>
    if p ≤ 0 || n ≤ 0 then .text ""
    else .text (((subject.toText.drop (p.toNat - 1)).take n.toNat).toString)
  | _, _ => .text ""

/-- The first place in a text where one of some characters stands, or zero. -/
def place (subject among : Value) : Value :=
  let wanted := among.toText.toList
  match subject.toText.toList.findIdx? wanted.contains with
  | some i => .number (i + 1)
  | none => .number 0

/-- The next word. -/
def take : Reader String := do
  let r ← get
  match r.rest with
  | [] => throw (.missing r.last)
  | word :: rest =>
    set (Reading.mk rest word)
    return word

mutual

/-- Reads what the operators from a level on join. Only what is `active` is worked out. -/
def level : Nat → Nat → Bool → Reader Value
  | 0, _, _ => throw .closing
  | fuel + 1, k, active =>
    if 5 < k then operand fuel active
    else do
      let first ← level fuel (k + 1) active
      more fuel k active first

/-- Goes on with operators of a level after a value. -/
def more : Nat → Nat → Bool → Value → Reader Value
  | 0, _, _, _ => throw .closing
  | fuel + 1, k, active, first => do
    match (← get).rest with
    | [] => return first
    | word :: _ =>
      if !(operators k).contains word then return first
      let operator ← take
      let matters := match k with
        | 0 => first.isNull
        | 1 => !first.isNull
        | _ => true
      let second ← level fuel (k + 1) (active && matters)
      let value ← if active then combine k operator first second else pure first
      more fuel k active value

/-- Reads a word, a function with its arguments, or an expression in parentheses. -/
def operand : Nat → Bool → Reader Value
  | 0, _ => throw .closing
  | fuel + 1, active => do
    match ← take with
    | "+" => return .text (← take)
    | "length" =>
      let subject ← operand fuel active
      return .number subject.toText.length
    | "match" =>
      let subject ← operand fuel active
      let pattern ← operand fuel active
      if active then front subject pattern else return subject
    | "index" =>
      let subject ← operand fuel active
      let among ← operand fuel active
      return place subject among
    | "substr" =>
      let subject ← operand fuel active
      let start ← operand fuel active
      let count ← operand fuel active
      return part subject start count
    | "(" =>
      let value ← level fuel 0 active
      let r ← get
      match r.rest with
      | [] => throw (.open_ r.last)
      | word :: _ =>
        if word != ")" then throw (.notClosed word)
        let _ ← take
        return value
    | ")" => throw .closing
    | word => return .text word

end

/-- The value of an expression. -/
def eval (words : List String) : Except Fault Value := do
  let fuel := 20 * words.length + 20
  let (value, reading) ← (level fuel 0 true).run ⟨words, ""⟩
  match reading.rest with
  | [] => return value
  | word :: _ => throw (.extra word)

end Expression

/-- Prints the value of the expression that its arguments are. -/
def expr (c : Call) : Answer :=
  let words := if c.args.head? == some "--" then c.args.drop 1 else c.args
  match c.args, words with
  | ["--help"], _ => c.start.print s!"Usage: {c.name} EXPRESSION\n"
  | ["--version"], _ => c.start.print (c.name ++ "\n")
  | _, [] => c.misuse "missing operand" 2
  | _, words =>
    match Expression.eval words with
    | .error fault => c.start.fail s!"{c.name}: {fault.message}" 2
    | .ok value =>
      { c.start.print (value.toText ++ "\n") with status := if value.isNull then 1 else 0 }

end Bindery.Utility
