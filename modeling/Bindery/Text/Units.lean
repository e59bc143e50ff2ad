/-!
# Numbers with units

A size is a number with a letter for its unit: powers of 1024, or of 1000 if the letter is followed
by `B`. A duration is a number, with places after a point if need be, and a letter for its unit.
-/

/-! ## Sizes -/

namespace Bindery.Utility.Size

/-- The letters of units, in their order. -/
def letters : List Char := ['K', 'M', 'G', 'T', 'P', 'E', 'Z', 'Y', 'R', 'Q']

/-- A base taken so many times as a factor. -/
def power (base : Nat) : Nat → Nat
  | 0 => 1
  | n + 1 => base * power base n

/-- The number of bytes in a unit. -/
def unit? (text : List Char) : Option Nat :=
  match text with
  | [] => some 1
  | ['b'] => some 512
  | ['k'] => some 1024
  | ['k', 'B'] => some 1000
  | ['k', 'i', 'B'] => some 1024
  | c :: rest =>
    match letters.idxOf? c, rest with
    | some i, [] | some i, ['i', 'B'] => some (power 1024 (i + 1))
    | some i, ['B'] => some (power 1000 (i + 1))
    | _, _ => none

/-- The number of bytes that a text denotes. -/
def parse? (text : String) : Option Nat := do
  let cs := text.toList
  let digits := cs.takeWhile Char.isDigit
  let n ← (String.ofList digits).toNat?
  return n * (← unit? (cs.drop digits.length))

end Bindery.Utility.Size

/-! ## Durations -/

namespace Bindery.Text.Duration

/-- The number of seconds in a unit. -/
def unitSeconds? : List Char → Option Nat
  | [] | ['s'] => some 1
  | ['m'] => some 60
  | ['h'] => some 3600
  | ['d'] => some 86400
  | _ => none

/-- The number of thousandths of a second in a duration. -/
def milliseconds? (text : String) : Option Nat := do
  let digits := text.toList.takeWhile Char.isDigit
  let rest := text.toList.drop digits.length
  let (places, unit) := match rest with
    | '.' :: rest => (rest.takeWhile Char.isDigit, rest.dropWhile Char.isDigit)
    | rest => ([], rest)
  if digits.isEmpty && places.isEmpty then none
  else
    let number (cs : List Char) : Nat := ((String.ofList cs).toNat?).getD 0
    let parts := number digits * 1000 + number ((places ++ ['0', '0', '0']).take 3)
    return parts * (← unitSeconds? unit)

end Bindery.Text.Duration
