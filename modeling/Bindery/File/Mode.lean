/-!
# Changes of permissions

Permissions are the bits of a number, and a text such as `u+x,go=r` says how to change them: for
whom, in which way, and which ones.
-/

namespace Bindery

/-- Which permissions a change is about. -/
inductive Permissions where
  /-- Those of a pattern of bits; with `conditional`, also the one to run what is a directory or may
  be run by somebody. -/
  | bits (bits : Nat) (conditional : Bool)
  /-- Those that others have, so many bits from the right. -/
  | copied (shift : Nat)

/-- One change of permissions. -/
structure ModeChange where
  /-- The bits of those for whom the change is made, or none if nobody is named. -/
  affected : Nat
  /-- A plus, minus or equals sign. -/
  operator : Char
  permissions : Permissions

namespace ModeChange

def affectedBy? : Char → Option Nat
  | 'u' => some 0o4700
  | 'g' => some 0o2070
  | 'o' => some 0o1007
  | 'a' => some 0o7777
  | _ => none

def shiftOf? : Char → Option Nat
  | 'u' => some 6
  | 'g' => some 3
  | 'o' => some 0
  | _ => none

def bitsOf? : Char → Option Nat
  | 'r' => some 0o444
  | 'w' => some 0o222
  | 'x' => some 0o111
  | 's' => some 0o6000
  | 't' => some 0o1000
  | 'X' => some 0
  | _ => none

def isOperator (c : Char) : Bool := c == '+' || c == '-' || c == '='

/-- The permissions that letters stand for. -/
def permissionsOf? (letters : List Char) : Option Permissions :=
  match letters with
  | [c] =>
    match shiftOf? c with
    | some shift => some (.copied shift)
    | none => (bitsOf? c).map (.bits · (c == 'X'))
  | letters => do
    let bits ← letters.mapM bitsOf?
    return .bits (bits.foldl (· ||| ·) 0) (letters.contains 'X')

/-- The changes that operators and letters say, for those who are affected. -/
def actionsOf? (affected : Nat) : Nat → List Char → Option (List ModeChange)
  | _, [] => some []
  | 0, _ :: _ => none
  | fuel + 1, operator :: rest => do
    guard (isOperator operator)
    let letters := rest.takeWhile (!isOperator ·)
    let later ← actionsOf? affected fuel (rest.drop letters.length)
    return ⟨affected, operator, ← permissionsOf? letters⟩ :: later

/-- The changes that one clause says. -/
def clauseOf? (cs : List Char) : Option (List ModeChange) := do
  let who := cs.takeWhile fun c => (affectedBy? c).isSome
  let actions := cs.drop who.length
  guard !actions.isEmpty
  actionsOf? ((who.filterMap affectedBy?).foldl (· ||| ·) 0) actions.length actions

/-- The changes that a text says. -/
def parse? (text : String) : Option (List ModeChange) := do
  let clauses ← (text.splitOn ",").mapM fun clause => clauseOf? clause.toList
  return clauses.flatten

/-- The permissions after a change. Where nobody is named, a mask spares bits. -/
def apply (isDirectory : Bool) (mask mode : Nat) (c : ModeChange) : Nat :=
  let affected := if c.affected = 0 then 0o7777 else c.affected
  let without (a b : Nat) : Nat := a - (a &&& b)
  let value := match c.permissions with
    | .bits bits conditional =>
      if conditional && (isDirectory || mode &&& 0o111 != 0) then bits ||| 0o111 else bits
    | .copied shift =>
      let digit := (mode >>> shift) &&& 7
      digit ||| (digit <<< 3) ||| (digit <<< 6)
  let value := value &&& affected
  let value := if c.affected = 0 then without value mask else value
  match c.operator with
  | '+' => mode ||| value
  | '-' => without mode value
  | _ => without mode affected ||| value

end ModeChange

/-- The digits of permissions in the base eight. -/
def octalDigits (width n : Nat) : String :=
  let digits := Nat.toDigits 8 n
  String.ofList (List.replicate (width - digits.length) '0' ++ digits)

/-- The number that a text of octal digits denotes. -/
def octal? (text : String) : Option Nat :=
  let isDigit (c : Char) : Bool := '0' ≤ c && c ≤ '7'
  if text.isEmpty || !text.toList.all isDigit then none
  else some (text.toList.foldl (fun n c => n * 8 + (c.toNat - 48)) 0)

/-- Permissions in letters, for the three parties. -/
def letterModes (mode : Nat) : List String :=
  [6, 3, 0].map fun shift =>
    let digit := (mode >>> shift) &&& 7
    (if digit &&& 4 != 0 then "r" else "") ++ (if digit &&& 2 != 0 then "w" else "") ++
      (if digit &&& 1 != 0 then "x" else "")

end Bindery
