import Bindery.Decimal.Reading
import Bindery.Shell.Escape
import Bindery.Utility.Basic

/-!
# Progressions

`seq` prints numbers that lie a step apart. They are decimals, and are counted up exactly; how many
places are shown follows from how the arguments were written.
-/

namespace Bindery.Utility

namespace Progression

/-- An argument: the number `value / 10 ^ places`, and how it was written. -/
structure Argument where
  value : Int
  places : Nat
  /-- How many characters it takes without an exponent. -/
  width : Nat
  /-- How many places are to be shown; nothing for a number in the base sixteen. -/
  shown : Option Nat

/-- What an argument says. -/
inductive Reading where
  | number (argument : Argument)
  | endless (isNegative : Bool)
  | notANumber
  | invalid

/-- The exponent of a decimal. -/
def exponentOf (cs : List Char) : Int :=
  (Decimal.takeExponent ['e', 'E'] (cs.dropWhile fun c => c != 'e' && c != 'E')).1

/-- An argument in the base ten, blanks and a plus sign before it left out. -/
def decimal (cs : List Char) : Argument :=
  let isNegative := cs.head? == some '-'
  let (whole, places, _) := Decimal.takeDigits Char.isDigit (if isNegative then cs.drop 1 else cs)
  let mantissa : Int := Decimal.ofDigits 10 (whole ++ places)
  let mantissa := if isNegative then -mantissa else mantissa
  let exponent := exponentOf cs
  let shift := exponent - places.length
  let body := cs.takeWhile fun c => c != 'e' && c != 'E'
  let hasPoint := body.contains '.'
  -- a point without digits on one side of it is shown with them, or not at all
  let width : Int := body.length + (if !hasPoint then 0 else if places.isEmpty then -1
    else if whole.isEmpty then 1 else 0)
  let raised := if 0 ≤ exponent then width + exponent
    else width - exponent + (if !hasPoint || places.isEmpty then 1 else 0)
  let shown : Int := if exponent < 0 then places.length - exponent
    else (places.length : Int) - min (places.length : Int) exponent
  { value := mantissa * (Nat.pow 10 shift.toNat : Nat)
    places := (-shift).toNat
    width := raised.toNat
    shown := some shown.toNat }

/-- What a word says. -/
def read (word : String) : Reading :=
  let cs := word.toList.dropWhile fun c => Decimal.isSpace c || c == '+'
  match Decimal.takeNumber? word.toList with
  | some (x, []) =>
    if x != x then .notANumber
    else if !Decimal.isFinite x then .endless (cs.head? == some '-')
    else if cs.contains 'x' || cs.contains 'X' then
      let (m, q) := Decimal.binaryParts x
      let n : Int := (m * Nat.pow 2 q.toNat * Nat.pow 5 (-q).toNat : Nat)
      let isPlain := !(cs.contains '.' || cs.contains 'p')
      .number ⟨if x < 0.0 then -n else n, (-q).toNat, 0, if isPlain then some 0 else none⟩
    else .number (decimal cs)
  | _ => .invalid

/-- The words of a call with negative numbers kept from being read as options. -/
def guarded : List String → List String
  | [] => []
  | word :: rest =>
    match word.toList with
    | '-' :: c :: cs =>
      if c == '.' || c.isDigit then "--" :: word :: rest
      else if word == "--" then word :: rest
      else
        let last := (c :: cs).getLast?
        let isOpen := (c != '-' && (last == some 's' || last == some 'f')) ||
          word == "--separator" || word == "--format"
        match isOpen, rest with
        | true, value :: rest => word :: value :: guarded rest
        | _, rest => word :: guarded rest
    | _ => word :: rest

/-! ## Formats -/

/-- A format: a text before a number, the directive for it, and a text after it. -/
structure Format where
  before : String
  directive : Shell.Directive
  after : String

/-- A text up to a percent sign that stands for more than itself. -/
def takePlain (found : List Char) : List Char → List Char × List Char
  | '%' :: '%' :: rest => takePlain ('%' :: found) rest
  | '%' :: rest => (found.reverse, '%' :: rest)
  | c :: rest => takePlain (c :: found) rest
  | [] => (found.reverse, [])

/-- Reads a format. -/
def Format.read (text : String) : Except String Format := do
  let name := cited text
  let (before, rest) := takePlain [] text.toList
  if rest.isEmpty then throw s!"format {name} has no % directive"
  let cs := rest.drop 1
  let flags := cs.takeWhile (['-', '+', '#', '0', ' ', '\''].contains ·)
  let cs := cs.drop flags.length
  let width := cs.takeWhile Char.isDigit
  let cs := cs.drop width.length
  let hasPrecision := cs.head? == some '.'
  let places := (cs.drop 1).takeWhile Char.isDigit
  let cs := if hasPrecision then cs.drop (1 + places.length) else cs
  let cs := if cs.head? == some 'L' then cs.drop 1 else cs
  match cs with
  | [] => throw s!"format {name} ends in %"
  | letter :: rest =>
    if !(['e', 'E', 'f', 'F', 'g', 'G'].contains letter) then
      let shown := String.singleton letter
      throw s!"format {name} has unknown %{shown} directive"
    let (after, more) := takePlain [] rest
    if !more.isEmpty then throw s!"format {name} has too many % directives"
    let width := if width.isEmpty then none else some (Int.ofNat (Decimal.ofDigits 10 width))
    let precision := if hasPrecision then some (Int.ofNat (Decimal.ofDigits 10 places)) else none
    return ⟨String.ofList before, ⟨flags, width, precision, letter⟩, String.ofList after⟩

/-- The number `value / 10 ^ places` as a format writes it. -/
def Format.number (f : Format) (value : Int) (places : Nat) : String :=
  let q : Decimal.Quotient := { num := value.natAbs, den := Nat.pow 10 places }
  f.before ++ Shell.Filling.quotientText f.directive (value < 0) q ++ f.after

/-- The format for what was written: as many places as the first number and the step have, and with
`equal` zeros in front. -/
def Format.ofArguments (first step last : Argument) (equal : Bool) : Format :=
  let plain (d : Shell.Directive) : Format := ⟨"", d, ""⟩
  match first.shown, step.shown, last.shown with
  | some a, some b, some c =>
    let places := max a b
    if equal then
      let point (shown : Nat) : Nat := if shown = 0 && places ≠ 0 then 1 else 0
      let left := first.width + (places - a) + point a
      let right : Int := (last.width : Int) + ((places : Int) - c) + point c -
        (if c ≠ 0 && places = 0 then 1 else 0)
      let width := max (left : Int) right
      plain ⟨['0'], some width, some places, 'f'⟩
    else plain ⟨[], none, some places, 'f'⟩
  | _, _, _ => plain ⟨[], none, none, 'g'⟩

/-- Writes so many numbers, with something between them. -/
def write (show_ : Int → String) (separator : String) (step : Int) :
    Nat → Int → Bool → String → String
  | 0, _, _, text => text
  | count + 1, value, isFirst, text =>
    let text := if isFirst then text else text ++ separator
    write show_ separator step count (value + step) false (text ++ show_ value)

/-- How many numbers are written when there is no last one. -/
def endlessCount : Nat := 20000

/-- Writes the numbers from a first one on; with `last` as nothing there is no end to them. -/
def print (c : Call) (format : Format) (separator : String) (first step : Argument)
    (last : Option Argument) : Answer :=
  let places := max (max first.places step.places) ((last.map (·.places)).getD 0)
  let scaled (a : Argument) : Int := a.value * (Nat.pow 10 (places - a.places) : Nat)
  let by_ := scaled step
  let start := scaled first
  let count : Nat := match last with
    | none => endlessCount
    | some last =>
      let way := if by_ < 0 then start - scaled last else scaled last - start
      if way < 0 then 0 else (way / by_.natAbs).toNat + 1
  if count = 0 then c.start
  else
    c.start.print (write (format.number · places) separator by_ count start true "" ++ "\n")

end Progression

open Progression in
/-- Prints the numbers from a first one to a last one, a step apart. -/
def seq (c : Call) : Answer :=
  let form := OptionForm.of "f:s:w" ["format=f", "separator=s", "equal-width=w"] true
  let read (word : String) : Except String Argument :=
    match Progression.read word with
    | .number argument => .ok argument
    | .notANumber => .error ("invalid 'not-a-number' argument: " ++ cited word)
    | _ => .error s!"invalid floating point argument: {cited word}"
  let call := { c with args := guarded c.args }
  call.withOptions form 1 fun w =>
    let one : Argument := ⟨1, 0, 1, some 0⟩
    let texts : Except String (String × Option String × String) := match w.operands with
      | [] => .error "missing operand"
      | [last] => .ok ("1", none, last)
      | [first, last] => .ok (first, none, last)
      | [first, step, last] => .ok (first, some step, last)
      | _ :: _ :: _ :: extra :: _ => .error s!"extra operand {cited extra}"
    match texts with
    | .error text => c.misuse text 1
    | .ok (first, step, last) =>
      let custom := (w.value? ["f"]).map Format.read
      match custom with
      | some (.error text) => c.start.fail s!"{c.name}: {text}" 1
      | custom =>
        let numbers : Except String (Argument × Argument × Option Argument) := do
          let first ← read first
          let step ← match step with
            | none => pure one
            | some word => do
              let step ← read word
              if step.value = 0 then throw s!"invalid Zero increment value: {cited word}"
              pure step
          match Progression.read last with
          | .endless isNegative =>
            -- an end that the numbers move away from leaves none of them
            let last := if isNegative == decide (step.value < 0) then none
              else some { first with value := first.value - step.value * 2 }
            return (first, step, last)
          | _ => return (first, step, some (← read last))
        match numbers with
        | .error text => c.misuse text 1
        | .ok (first, step, last) =>
          let equal := w.has ["w"]
          if custom.isSome && equal then
            c.misuse "format string may not be specified when printing equal width strings" 1
          else
            let format := match custom with
              | some (.ok format) => format
              | _ => Format.ofArguments first step (last.getD one) equal
            print c format ((w.value? ["s"]).getD "\n") first step last

end Bindery.Utility
