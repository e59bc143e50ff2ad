import Bindery.Json.Reader
import Bindery.Decimal.Shortest

/-!
# The value of a JSON number

A number written as an integer that fits 64 bits is that integer; every other number is a double.
A double is computed from at most as many leading digits as fit 64 bits, scaled by one power of
ten, so it need not be the nearest double to what was written. A number beyond the greatest double
has no value.
-/

namespace Bindery.Json

/-- The value of a number. -/
inductive Number where
  /-- From 0 up to `2 ^ 64 - 1`. -/
  | nonneg (value : Nat)
  /-- From `- 2 ^ 63` up to -1. -/
  | negative (value : Int)
  | double (value : Float)

/-- The text of a number. -/
def Number.text : Number → String
  | .nonneg n => toString n
  | .negative n => toString n
  | .double x => Decimal.floatText x

def digitValue (c : Char) : Nat := c.toNat - 48

/-- The greatest number of 64 bits. -/
def maxWord : Nat := UInt64.size - 1

/-- The greatest number that has a negative of 64 bits, two to the 63rd power. -/
def maxNegated : Nat := 9223372036854775808

/-- The greatest exponent that is taken as it is, that of 31 bits. -/
def maxExponent : Nat := 2147483647

/-- Reads digits onto a number as long as the result fits 64 bits; the digits left over follow. -/
def gather (value : Nat) : List Char → Nat × List Char
  | [] => (value, [])
  | c :: cs =>
    let next := value * 10 + digitValue c
    if next ≤ maxWord then gather next cs else (value, c :: cs)

/-- The value of a digit sequence. -/
def digitsValue (cs : List Char) : Nat :=
  cs.foldl (fun n c => n * 10 + digitValue c) 0

/-- A power of ten as a double, up to `10 ^ 308`. -/
def tenTo (n : Nat) : Float := Float.ofScientific 1 false n

/-- A double times a power of ten; nothing if it is too great to be one. -/
def scaleByTen (x : Float) (e : Int) : Option Float :=
  if e.natAbs ≤ 308 then
    if 0 ≤ e then
      let y := x * tenTo e.natAbs
      if y.isInf then none else some y
    else some (x / tenTo e.natAbs)
  else if x == 0.0 then some x
  else if 0 ≤ e then none
  else scaleByTen (x / tenTo 308) (e + 308)
termination_by e.natAbs
decreasing_by omega

/-- The parts of a number: sign, whole digits, fraction digits, sign and digits of the exponent. -/
structure Parts where
  negative : Bool
  whole : List Char
  /-- Absent where there is no point. -/
  fraction : Option (List Char)
  /-- Absent where there is no exponent; the flag says that it is negative. -/
  exponent : Option (Bool × List Char)

/-- The parts of a number as it is written. -/
def Parts.ofLexeme (lexeme : List Char) : Parts :=
  let (negative, cs) := match lexeme with
    | '-' :: cs => (true, cs)
    | cs => (false, cs)
  let (whole, cs) := takeDigits cs
  let (fraction, cs) := match cs with
    | '.' :: cs => let (digits, cs) := takeDigits cs; (some digits, cs)
    | cs => (none, cs)
  let exponent := match cs with
    | [] => none
    | _ :: '-' :: cs => some (true, cs)
    | _ :: '+' :: cs => some (false, cs)
    | _ :: cs => some (false, cs)
  ⟨negative, whole, fraction, exponent⟩

/-- The double that the parts denote. The digits of the whole part that do not fit 64 bits count as
zeros, those of the fraction not at all. An exponent of more than 31 bits makes zero, or, with a
positive sign, too great a number. -/
def Parts.double? (p : Parts) : Option Float := do
  let (value, dropped) := gather 0 p.whole
  let fraction := p.fraction.getD []
  let (value, unread) := gather value fraction
  let point : Int := dropped.length - (fraction.length - unread.length : Nat)
  let signed (x : Float) : Float := if p.negative then -x else x
  match p.exponent with
  | some (negativeExponent, digits) =>
    let exponent := digitsValue digits
    if maxExponent < exponent then
      if value != 0 && !negativeExponent then none else some (signed 0.0)
    else
      let e : Int := if negativeExponent then point - exponent else point + exponent
      signed <$> scaleByTen (UInt64.ofNat value).toFloat e
  | none => signed <$> scaleByTen (UInt64.ofNat value).toFloat point

/-- The value of a number as it is written, if it has one. -/
def Number.ofLexeme (lexeme : List Char) : Option Number :=
  let p := Parts.ofLexeme lexeme
  let magnitude := digitsValue p.whole
  if p.fraction.isNone && p.exponent.isNone && magnitude ≤ maxWord then
    if !p.negative then some (.nonneg magnitude)
    else if magnitude == 0 || maxNegated < magnitude then
      some (.double (-(UInt64.ofNat magnitude).toFloat))
    else some (.negative (-(magnitude : Int)))
  else Number.double <$> p.double?

end Bindery.Json
