/-!
# The shortest decimal of a double

A finite double is `m · 2 ^ q`, and the reals that round to it form an interval around it, ends
included when `m` is even. Its shortest decimal is a point of the coarsest grid of multiples of a
power of ten that has a point in that interval. If two such points are neighbours of the value the
nearer one is taken, and of two equally near the even one.
-/

namespace Bindery

/-- A decimal `digits · 10 ^ exponent`. -/
structure Decimal where
  digits : Nat
  exponent : Int
  deriving DecidableEq, Repr

namespace Decimal

/-- The number `num / den`, `den` positive, together with the ends of the interval of reals that
round to it; all three have the denominator `den`. -/
structure Rounding where
  num : Nat
  low : Nat
  high : Nat
  den : Nat
  /-- Whether the ends round to the value too. -/
  closed : Bool

/-- The interval of a positive double `m · 2 ^ q`. `narrow` says that the double below it is half as
far away as the one above it. -/
def Rounding.ofBinary (m : Nat) (q : Int) (narrow : Bool) : Rounding :=
  let scale : Nat := Nat.pow 2 (q - 2).toNat
  { num := 4 * m * scale
    low := (4 * m - if narrow then 1 else 2) * scale
    high := (4 * m + 2) * scale
    den := Nat.pow 2 (2 - q).toNat
    closed := decide (m % 2 = 0) }

/-- Whether the point `num / den` rounds to the value. -/
def Rounding.holds (r : Rounding) (num den : Nat) : Bool :=
  if r.closed then r.low * den ≤ num * r.den && num * r.den ≤ r.high * den
  else r.low * den < num * r.den && num * r.den < r.high * den

/-- The point of the grid of multiples of `10 ^ e` that rounds to the value and lies nearest to it,
if the grid has one. -/
def Rounding.onGrid (r : Rounding) (e : Int) : Option Nat :=
  let up : Nat := Nat.pow 10 e.toNat
  let down : Nat := Nat.pow 10 (-e).toNat
  let below := (r.num * down) / (r.den * up)
  let rest := (r.num * down) % (r.den * up)
  let lowHit := r.holds (below * up) down
  let highHit := r.holds ((below + 1) * up) down
  if lowHit && highHit then
    if 2 * rest < r.den * up then some below
    else if r.den * up < 2 * rest then some (below + 1)
    else some (if below % 2 == 0 then below else below + 1)
  else if lowHit then some below
  else if highHit then some (below + 1)
  else none

/-- The first grid, from `10 ^ e` on downwards, that has a point in the interval. -/
def Rounding.shortestFrom (r : Rounding) : Nat → Int → Decimal
  | 0, e => ⟨0, e⟩
  | fuel + 1, e =>
    match r.onGrid e with
    | some digits => ⟨digits, e⟩
    | none => r.shortestFrom fuel (e - 1)

/-- The shortest decimal of a finite double other than zero, its sign left out. No double reaches
`10 ^ 309`, and every one is a multiple of `10 ^ (-1074)`. -/
def shortest (x : Float) : Decimal :=
  let bits := x.toBits.toNat
  let fraction : Nat := bits % Nat.pow 2 52
  let biased : Nat := bits / Nat.pow 2 52 % Nat.pow 2 11
  let r :=
    if biased == 0 then Rounding.ofBinary fraction (-1074) false
    else
      Rounding.ofBinary (Nat.pow 2 52 + fraction) ((biased : Int) - 1075)
        (fraction == 0 && 1 < biased)
  r.shortestFrom 1384 309

/-- A double is negative when its sign bit is set, zero included. -/
def isNegative (x : Float) : Bool :=
  x.toBits.toNat / Nat.pow 2 63 == 1

/-- Digits with a point among them: `digits · 10 ^ exponent` without an exponent, always with at
least one digit on either side of the point. -/
def positional (d : Decimal) : String :=
  let ds := toString d.digits
  if 0 ≤ d.exponent then ds ++ "".pushn '0' d.exponent.toNat ++ ".0"
  else
    let places := (-d.exponent).toNat
    if places < ds.length then
      String.ofList (ds.toList.take (ds.length - places)) ++ "." ++
        String.ofList (ds.toList.drop (ds.length - places))
    else "0." ++ "".pushn '0' (places - ds.length) ++ ds

/-- One digit before the point and the others after it, then the exponent with its sign. -/
def scientific (d : Decimal) : String :=
  let ds := (toString d.digits).toList
  let exponent := d.exponent + (ds.length - 1 : Nat)
  let fraction := ds.drop 1
  String.ofList (ds.take 1) ++ (if fraction.isEmpty then "" else "." ++ String.ofList fraction) ++
    "e" ++ (if exponent < 0 then "-" else "+") ++ toString exponent.natAbs

/-- The text of a finite double: the shortest digits that read back, positional from a hundred
thousandth up to below ten to the sixteenth and scientific beyond. -/
def floatText (x : Float) : String :=
  let sign := if isNegative x then "-" else ""
  if x == 0.0 then sign ++ "0.0"
  else
    let d := shortest x
    let leading := d.exponent + ((toString d.digits).length - 1 : Nat)
    sign ++ if -5 ≤ leading && leading < 16 then positional d else scientific d

end Decimal

end Bindery
