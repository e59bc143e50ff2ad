import Bindery.Decimal.Shortest

/-!
# Decimals of a given length

A double written with so many places after the point, or with so many significant digits. The value
is taken exactly, and a half goes to the even neighbour.
-/

namespace Bindery.Decimal

/-- A positive double as the quotient of two whole numbers. -/
structure Quotient where
  num : Nat
  den : Nat

/-- The numbers `m` and `q` of which a finite double, its sign left out, is `m · 2 ^ q`. -/
def binaryParts (x : Float) : Nat × Int :=
  let bits := x.toBits.toNat
  let fraction : Nat := bits % Nat.pow 2 52
  let biased : Nat := bits / Nat.pow 2 52 % Nat.pow 2 11
  if biased == 0 then (fraction, -1074) else (Nat.pow 2 52 + fraction, (biased : Int) - 1075)

/-- The quotient that a finite double is, its sign left out. -/
def Quotient.ofFloat (x : Float) : Quotient :=
  let (m, q) := binaryParts x
  { num := m * Nat.pow 2 q.toNat, den := Nat.pow 2 (-q).toNat }

/-- The whole number nearest to a quotient, the even one of two. -/
def Quotient.round (q : Quotient) : Nat :=
  let below := q.num / q.den
  let rest := 2 * (q.num % q.den)
  if rest < q.den then below
  else if q.den < rest then below + 1
  else if below % 2 == 0 then below
  else below + 1

/-- A quotient times a power of ten. -/
def Quotient.scale (q : Quotient) (exponent : Int) : Quotient :=
  { num := q.num * Nat.pow 10 exponent.toNat, den := q.den * Nat.pow 10 (-exponent).toNat }

/-- How many digits a number has. -/
def digitCount (n : Nat) : Nat := (toString n).length

/-- The exponent of the first digit of a quotient other than zero. -/
def Quotient.leading (q : Quotient) : Int :=
  let guess : Int := (digitCount q.num : Int) - digitCount q.den
  let scaled := q.scale (-guess)
  if scaled.num < scaled.den then guess - 1 else guess

/-- A quotient with so many digits and one more: the digits, and the exponent of the first one. -/
def Quotient.significant (q : Quotient) (more : Nat) : Nat × Int :=
  if q.num = 0 then (0, 0)
  else
    let e := q.leading
    let digits := (q.scale ((more : Int) - e)).round
    if Nat.pow 10 (more + 1) ≤ digits then (digits / 10, e + 1) else (digits, e)

/-- Digits with zeros before them, so that there are so many at least. -/
def zeroPadded (width n : Nat) : String :=
  let digits := toString n
  "".pushn '0' (width - digits.length) ++ digits

/-- Digits of which so many stand after the point. With `point` the point is written anyway. -/
def withPoint (digits : String) (places : Nat) (point : Bool) : String :=
  if places = 0 then (if point then digits ++ "." else digits)
  else
    let cs := digits.toList
    let whole := cs.length - places
    String.ofList (cs.take whole) ++ "." ++ String.ofList (cs.drop whole)

/-- A number with so many places after the point. -/
def fixedText (q : Quotient) (places : Nat) (point : Bool) : String :=
  withPoint (zeroPadded (places + 1) (q.scale places).round) places point

/-- A number with one digit before the point, so many after it, and an exponent. -/
def exponentText (q : Quotient) (places : Nat) (point : Bool) : String :=
  let (digits, e) := q.significant places
  let sign := if e < 0 then "-" else "+"
  withPoint (zeroPadded (places + 1) digits) places point ++ "e" ++ sign ++ zeroPadded 2 e.natAbs

/-- A text of digits with a point without the zeros at its end. -/
def withoutZeros (text : String) : String :=
  if text.toList.contains '.' then
    let cs := (text.toList.reverse.dropWhile (· == '0'))
    String.ofList ((if cs.head? == some '.' then cs.drop 1 else cs).reverse)
  else text

/-- A number with so many significant digits, with an exponent if it is large or small. With `all`
no zeros are left out at the end. -/
def generalText (q : Quotient) (precision : Nat) (all : Bool) : String :=
  let precision := if precision = 0 then 1 else precision
  let (_, e) := q.significant (precision - 1)
  if -4 ≤ e && e < precision then
    let text := fixedText q ((precision : Int) - 1 - e).toNat all
    if all then text else withoutZeros text
  else
    let text := exponentText q (precision - 1) all
    if all then text
    else
      let mantissa := text.toList.takeWhile (· != 'e')
      withoutZeros (String.ofList mantissa) ++ String.ofList (text.toList.drop mantissa.length)

/-- Whether a double is a number with an end. -/
def isFinite (x : Float) : Bool := x.toBits.toNat / Nat.pow 2 52 % Nat.pow 2 11 != 2047

/-- The text of a quotient in the way that a letter says: `e` with an exponent, `f` without, `g` as
is shorter. -/
def Quotient.realText (q : Quotient) (letter : Char) (precision : Nat) (alternate : Bool) :
    String :=
  let lower := match letter.toLower with
    | 'e' => exponentText q precision alternate
    | 'f' => fixedText q precision alternate
    | _ => generalText q precision alternate
  if letter.isUpper then lower.map Char.toUpper else lower

/-- The text of a double without its sign, in the way that a letter says. -/
def realText (letter : Char) (precision : Nat) (alternate : Bool) (x : Float) : String :=
  if isFinite x then (Quotient.ofFloat x).realText letter precision alternate
  else
    let lower := if x != x then "nan" else "inf"
    if letter.isUpper then lower.map Char.toUpper else lower

/-! ## Whole numbers -/

/-- The whole number that a double is, if it is one. -/
def whole? (x : Float) : Option Int :=
  if !isFinite x then none
  else
    let q := Quotient.ofFloat x
    if q.num % q.den = 0 then
      let n : Int := (q.num / q.den : Nat)
      some (if isNegative x then -n else n)
    else none

/-- The whole number nearest to zero with which a double begins; zero for one without an end. -/
def truncated (x : Float) : Int :=
  if !isFinite x then 0
  else
    let q := Quotient.ofFloat x
    let n : Int := (q.num / q.den : Nat)
    if isNegative x then -n else n

/-- What is left of a number after the greatest multiple of another one, with the sign of the
first. -/
def remainder (x y : Float) : Float :=
  if x != x || y != y || !isFinite x || y == 0.0 then 0.0 / 0.0
  else if !isFinite y then x
  else
    let (m, p) := binaryParts x
    let (n, q) := binaryParts y
    let e := min p q
    let left := m * Nat.pow 2 (p - e).toNat % (n * Nat.pow 2 (q - e).toNat)
    let value := (Float.ofNat left).scaleB e
    if isNegative x then -value else value

end Bindery.Decimal
