import Bindery.Regex.Search

/-!
# Scripts for records

A script is a list of rules, which say what is done with records that meet a condition, and of
functions. Its expressions have numbers and texts as their values.
-/

namespace Bindery.Utility.Awk

inductive Operation where
  | add
  | subtract
  | multiply
  | divide
  | modulo
  | power
  deriving DecidableEq

inductive Relation where
  | less
  | lessEqual
  | equal
  | unequal
  | greaterEqual
  | greater
  deriving DecidableEq

/-- A variable of the script, or of the function that is being called. -/
inductive Name where
  | shared (name : String)
  | own (index : Nat)
  deriving DecidableEq

inductive Expr where
  | number (value : Float)
  | text (value : String)
  | regex (pattern : Pattern)
  | var (name : Name)
  | element (table : Name) (keys : List Expr)
  | field (index : Expr)
  | assign (target value : Expr)
  | update (operation : Operation) (target value : Expr)
  /-- Changes a variable by one; the value is the new one if it is changed before. -/
  | step (operation : Operation) (before : Bool) (target : Expr)
  | arithmetic (operation : Operation) (first second : Expr)
  | minus (body : Expr)
  | plus (body : Expr)
  | negation (body : Expr)
  | relation (relation : Relation) (first second : Expr)
  | fits (negated : Bool) (subject pattern : Expr)
  | isIn (keys : List Expr) (table : Name)
  | both (first second : Expr)
  | either (first second : Expr)
  | conditional (condition first second : Expr)
  | join (first second : Expr)
  /-- Several expressions in parentheses. -/
  | group (parts : List Expr)
  | call (function : String) (args : List Expr)
  | builtin (name : String) (args : List Expr)
  | readLine (target : Option Expr)
  | readFile (target : Option Expr) (file : Expr)
  | readCommand (target : Option Expr) (command : Expr)

/-- Where something is printed. -/
inductive Target where
  | output
  | file (name : Expr)
  | append (name : Expr)
  | command (text : Expr)

inductive Action where
  | nothing
  | block (body : List Action)
  | value (e : Expr)
  | print (args : List Expr) (target : Target)
  | format (args : List Expr) (target : Target)
  | branch (condition : Expr) (first : Action) (second : Option Action)
  | loop (condition : Expr) (body : Action)
  /-- The body comes before the condition. -/
  | loopAfter (body : Action) (condition : Expr)
  | count (start : Option Action) (condition : Option Expr) (step : Option Action) (body : Action)
  | each (name : Name) (table : Name) (body : Action)
  | break_
  | continue_
  | next
  | nextFile
  | exit (status : Option Expr)
  | return_ (value : Option Expr)
  | delete (table : Name) (keys : List Expr)
  | deleteAll (table : Name)

/-- When a rule is followed. -/
inductive Condition where
  | always
  | when (e : Expr)
  | between (first last : Expr)

structure Rule where
  condition : Condition
  /-- Without an action, the record is printed. -/
  action : Option Action

structure Function where
  name : String
  arity : Nat
  body : Action
  /-- Which parameters are tables. -/
  tables : List Bool := []

structure Script where
  starts : List Action := []
  rules : List Rule := []
  ends : List Action := []
  functions : List Function := []

namespace Script

def function? (s : Script) (name : String) : Option Function :=
  s.functions.find? (·.name == name)

end Script

/-! ## Tables among parameters -/

namespace Expr

/-- Whether a parameter stands for a table as a variable. -/
def isOwn (index : Nat) : Name → Bool
  | .own i => i = index
  | .shared _ => false

mutual

/-- Whether an expression uses a parameter as a table. `known` tells which parameters of functions
are tables. -/
def usesTable (known : String → Nat → Bool) (index : Nat) : Expr → Bool
  | .element table keys => isOwn index table || anyUses known index keys
  | .field e | .minus e | .plus e | .negation e | .step _ _ e => usesTable known index e
  | .assign a b | .update _ a b | .arithmetic _ a b | .relation _ a b | .fits _ a b
  | .both a b | .either a b | .join a b => usesTable known index a || usesTable known index b
  | .isIn keys table => isOwn index table || anyUses known index keys
  | .conditional a b c =>
    usesTable known index a || usesTable known index b || usesTable known index c
  | .group es => anyUses known index es
  | .call function args => passes known index function 0 args || anyUses known index args
  | .builtin name args =>
    (name == "split" && passesOwn index (args.drop 1)) || anyUses known index args
  | .readLine target => usesIn known index target
  | .readFile target e | .readCommand target e =>
    usesIn known index target || usesTable known index e
  | .number _ | .text _ | .regex _ | .var _ => false

def anyUses (known : String → Nat → Bool) (index : Nat) : List Expr → Bool
  | [] => false
  | e :: es => usesTable known index e || anyUses known index es

def usesIn (known : String → Nat → Bool) (index : Nat) : Option Expr → Bool
  | some e => usesTable known index e
  | none => false

/-- Whether the first argument is a parameter. -/
def passesOwn (index : Nat) : List Expr → Bool
  | .var name :: _ => isOwn index name
  | _ => false

/-- Whether a parameter is handed on as a table to a function. -/
def passes (known : String → Nat → Bool) (index : Nat) (function : String) (place : Nat) :
    List Expr → Bool
  | [] => false
  | .var name :: es =>
    (isOwn index name && known function place) || passes known index function (place + 1) es
  | _ :: es => passes known index function (place + 1) es

end

end Expr

namespace Action

mutual

def usesTable (known : String → Nat → Bool) (index : Nat) : Action → Bool
  | .block body => anyUses known index body
  | .value e => e.usesTable known index
  | .print args target | .format args target =>
    Expr.anyUses known index args || targetUses known index target
  | .branch c a b => c.usesTable known index || usesTable known index a || usesIn known index b
  | .loop c a | .loopAfter a c => c.usesTable known index || usesTable known index a
  | .count a c b body =>
    usesIn known index a || Expr.usesIn known index c || usesIn known index b ||
      usesTable known index body
  | .each _ table body => Expr.isOwn index table || usesTable known index body
  | .exit e | .return_ e => Expr.usesIn known index e
  | .delete table keys => Expr.isOwn index table || Expr.anyUses known index keys
  | .deleteAll table => Expr.isOwn index table
  | .nothing | .break_ | .continue_ | .next | .nextFile => false

def anyUses (known : String → Nat → Bool) (index : Nat) : List Action → Bool
  | [] => false
  | a :: rest => usesTable known index a || anyUses known index rest

def usesIn (known : String → Nat → Bool) (index : Nat) : Option Action → Bool
  | some a => usesTable known index a
  | none => false

def targetUses (known : String → Nat → Bool) (index : Nat) : Target → Bool
  | .file e | .append e | .command e => e.usesTable known index
  | .output => false

end

end Action

namespace Script

/-- Finds out once more which parameters are tables, given what is known so far. -/
def markTables (s : Script) : Script :=
  let known (name : String) (index : Nat) : Bool :=
    match s.function? name with
    | some f => (f.tables[index]?).getD false
    | none => false
  { s with functions := s.functions.map fun f =>
      { f with tables := (List.range f.arity).map fun index => f.body.usesTable known index } }

/-- Finds out which parameters are tables. -/
def withTables (s : Script) : Script :=
  let count := (s.functions.map (·.arity)).foldl (· + ·) 1
  (List.range count).foldl (fun s _ => s.markTables) s

end Script

end Bindery.Utility.Awk
