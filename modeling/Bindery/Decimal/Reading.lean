import Bindery.Decimal.Rounded

/-!
# Numbers at the front of a text

`takeNumber` reads the longest number with which a text begins: digits with a point and an exponent,
the same in the base sixteen after `0x`, or a name for what is no number.
-/

namespace Bindery.Decimal

/-- The double nearest to `mantissa · 10 ^ exponent`. -/
def ofDecimal (mantissa : Nat) (exponent : Int) : Float :=
  if mantissa = 0 then 0.0
  else
    let leading := exponent + digitCount mantissa
    if 400 < leading then 1.0 / 0.0
    else if leading < -400 then 0.0
    else if 0 ≤ exponent then Float.ofScientific mantissa false exponent.toNat
    else Float.ofScientific mantissa true (-exponent).toNat

/-- The double nearest to `mantissa · 2 ^ exponent`. -/
def ofBinary (mantissa : Nat) (exponent : Int) : Float :=
  let leading := exponent + Nat.log2 mantissa
  if mantissa = 0 then 0.0
  else if 1100 < leading then 1.0 / 0.0
  else if leading < -1200 then 0.0
  else if 0 ≤ exponent then Float.ofScientific (mantissa * Nat.pow 2 exponent.toNat) false 0
  else
    -- halves are tenths of fives
    let places := (-exponent).toNat
    Float.ofScientific (mantissa * Nat.pow 5 places) true places

/-- The value of a digit in the base sixteen. -/
def hexDigit? (c : Char) : Option Nat :=
  if c.isDigit then some (c.toNat - 48)
  else if 'a' ≤ c && c ≤ 'f' then some (c.toNat - 87)
  else if 'A' ≤ c && c ≤ 'F' then some (c.toNat - 55)
  else none

/-- The number that digits say in a base. -/
def ofDigits (base : Nat) (digits : List Char) : Nat :=
  digits.foldl (fun n c => n * base + (hexDigit? c).getD 0) 0

/-- Digits before and after a point, and what follows them. -/
def takeDigits (isDigit : Char → Bool) (cs : List Char) : List Char × List Char × List Char :=
  let whole := cs.takeWhile isDigit
  match cs.drop whole.length with
  | '.' :: rest =>
    let places := rest.takeWhile isDigit
    if whole.isEmpty && places.isEmpty then ([], [], cs)
    else (whole, places, rest.drop places.length)
  | rest => (whole, [], rest)

/-- An exponent after one of some letters, and what follows it. -/
def takeExponent (letters : List Char) (cs : List Char) : Int × List Char :=
  match cs with
  | c :: rest =>
    if letters.contains c then
      let (negative, digits) := match rest with
        | '-' :: rest => (true, rest)
        | '+' :: rest => (false, rest)
        | rest => (false, rest)
      let found := digits.takeWhile Char.isDigit
      if found.isEmpty then (0, cs)
      else
        let value : Int := ofDigits 10 found
        (if negative then -value else value, digits.drop found.length)
    else (0, cs)
  | [] => (0, [])

/-- Whether a text begins with a name, whatever the case of its letters. -/
def beginsWith (name : String) (cs : List Char) : Bool :=
  (cs.take name.length).map Char.toLower == name.toList

/-- A number without a sign, and what follows it. -/
def takeUnsigned? (cs : List Char) : Option (Float × List Char) :=
  if beginsWith "infinity" cs then some (1.0 / 0.0, cs.drop 8)
  else if beginsWith "inf" cs then some (1.0 / 0.0, cs.drop 3)
  else if beginsWith "nan" cs then some (0.0 / 0.0, cs.drop 3)
  else
    let isHex (c : Char) : Bool := (hexDigit? c).isSome
    let (whole, places, rest) := takeDigits isHex (cs.drop 2)
    if beginsWith "0x" cs && !(whole.isEmpty && places.isEmpty) then
      let (e, rest) := takeExponent ['p', 'P'] rest
      some (ofBinary (ofDigits 16 (whole ++ places)) (e - 4 * places.length), rest)
    else
      let (whole, places, rest) := takeDigits Char.isDigit cs
      if whole.isEmpty && places.isEmpty then none
      else
        let (e, rest) := takeExponent ['e', 'E'] rest
        some (ofDecimal (ofDigits 10 (whole ++ places)) (e - places.length), rest)

/-- Blank characters before a number. -/
def isSpace (c : Char) : Bool := c == ' ' || ('\t' ≤ c && c ≤ '\r')

/-- The number at the front of a text, after blanks, and what follows it. -/
def takeNumber? (cs : List Char) : Option (Float × List Char) :=
  match cs.dropWhile isSpace with
  | '-' :: rest => (takeUnsigned? rest).map fun (x, rest) => (-x, rest)
  | '+' :: rest => takeUnsigned? rest
  | rest => takeUnsigned? rest

/-- Whether a number that a text says has no double near it: its double has no end, or lost digits
next to zero. -/
def isOutOfRange (cs : List Char) (x : Float) : Bool :=
  let isNamed := (cs.dropWhile fun c => isSpace c || c == '-' || c == '+').head?.any fun c =>
    c == 'i' || c == 'I' || c == 'n' || c == 'N'
  let digits := cs.takeWhile fun c => c != 'e' && c != 'E'
  let isZero := digits.all fun c => !c.isDigit || c == '0'
  !isNamed && (!isFinite x || (!isZero && (binaryParts x).1 < Nat.pow 2 52))

end Bindery.Decimal
