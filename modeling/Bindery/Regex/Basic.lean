/-!
# Regular expressions

A regular expression describes parts of a text of bytes. `reach` says where its matches end: it
takes the places at which they may begin to all the places at which they may end, so that no
place is looked at twice. `ends` gives the places for one beginning in order of preference, which
decides what the groups of a match hold: the first alternative that fits, and as many repetitions
as fit.
-/

namespace Bindery

/-- A condition on a place between bytes. -/
inductive Assertion where
  | lineStart
  | lineEnd
  | textStart
  | textEnd
  | wordStart
  | wordEnd
  | wordBoundary
  | noBoundary
  deriving DecidableEq

inductive Regex where
  | empty
  /-- One byte that is accepted. -/
  | one (accepts : UInt8 → Bool)
  | cat (first second : Regex)
  | alt (first second : Regex)
  /-- So many times at least, and at most, if there is a bound. -/
  | many (body : Regex) (least : Nat) (most : Option Nat)
  | group (index : Nat) (body : Regex)
  | assertion (kind : Assertion)
  /-- What the group of an index holds. -/
  | back (index : Nat)

/-- A text in which matches are looked for. -/
structure Subject where
  bytes : ByteArray
  /-- Lines within the text have starts and ends. -/
  hasLines : Bool := false
  /-- The byte at which such lines end. -/
  mark : UInt8 := 10
  /-- The start of the text is not the start of a line. -/
  continues : Bool := false
  /-- Letters are compared without their case. -/
  ignoresCase : Bool := false

namespace Regex

def isWordByte (b : UInt8) : Bool :=
  let c := Char.ofNat b.toNat
  c.isAlphanum || c == '_'

/-- A letter without its case. -/
def foldCase (b : UInt8) : UInt8 := if 65 ≤ b && b ≤ 90 then b + 32 else b

/-- Whether an assertion holds at a place. -/
def holds (s : Subject) (i : Nat) : Assertion → Bool
  | .textStart => i = 0 && !s.continues
  | .textEnd => i = s.bytes.size
  | .lineStart => (i = 0 && !s.continues) || (s.hasLines && 0 < i && s.bytes[i - 1]? == some s.mark)
  | .lineEnd => i = s.bytes.size || (s.hasLines && s.bytes[i]? == some s.mark)
  | .wordStart => !before && after
  | .wordEnd => before && !after
  | .wordBoundary => before != after
  | .noBoundary => before == after
where
  before : Bool := 0 < i && (s.bytes[i - 1]?).any isWordByte
  after : Bool := (s.bytes[i]?).any isWordByte

/-! ## Places -/

/-- The places of two lists in ascending order. -/
def union : List Nat → List Nat → List Nat
  | [], ys => ys
  | xs, [] => xs
  | x :: xs, y :: ys =>
    if x = y then x :: union xs ys
    else if x < y then x :: union xs (y :: ys)
    else y :: union (x :: xs) ys
termination_by xs ys => xs.length + ys.length

/-- Marks places. -/
def markAll (seen : ByteArray) (places : List Nat) : ByteArray :=
  places.foldl (fun seen i => seen.set! i 1) seen

/-- Takes steps from places until there are no new ones, or for so many times. -/
def closure (step : List Nat → List Nat) : Nat → List Nat → ByteArray → ByteArray
  | 0, _, seen => seen
  | fuel + 1, places, seen =>
    match (step places).filter fun i => seen[i]? != some 1 with
    | [] => seen
    | fresh => closure step fuel fresh (markAll seen fresh)

/-- The marked places from one on. -/
def marked (seen : ByteArray) (start : Nat) : List Nat :=
  (List.range (seen.size - start)).filterMap fun k =>
    if seen[start + k]? == some 1 then some (start + k) else none

/-- The places that any number of steps, but not more than so many, lead to. -/
def closed (size : Nat) (step : List Nat → List Nat) (most : Option Nat) (places : List Nat) :
    List Nat :=
  match places with
  | [] => []
  | first :: _ =>
    let bound := (most.getD (size + 1)).min (size + 1)
    let none_ := (List.replicate (size + 1) (0 : UInt8)).toByteArray
    marked (closure step bound places (markAll none_ places)) first

/-- Does something so many times. -/
def iterate (step : List Nat → List Nat) : Nat → List Nat → List Nat
  | 0, places => places
  | n + 1, places => if places.isEmpty then [] else iterate step n (step places)

/-- How many bytes from a place on are accepted. -/
def runLength (s : Subject) (accepts : UInt8 → Bool) : Nat → Nat → Nat
  | 0, _ => 0
  | fuel + 1, i => if (s.bytes[i]?).any accepts then runLength s accepts fuel (i + 1) + 1 else 0

/-- The places that repetitions of one byte lead to, in ascending order. -/
def runEnds (s : Subject) (accepts : UInt8 → Bool) (least : Nat) (most : Option Nat) (i : Nat) :
    List Nat :=
  let length := runLength s accepts (min (most.getD s.bytes.size) s.bytes.size) i
  (List.range (length + 1 - least)).map (i + least + ·)

/-- Where matches end that begin at one of some places, all in ascending order. What a group holds
is not looked at. -/
def reach (s : Subject) : Regex → List Nat → List Nat
  | .empty, places => places
  | .one accepts, places =>
    places.filterMap fun i => if (s.bytes[i]?).any accepts then some (i + 1) else none
  | .cat first second, places => reach s second (reach s first places)
  | .alt first second, places => union (reach s first places) (reach s second places)
  | .many body least most, places =>
    match body, places with
    | .one accepts, [i] => runEnds s accepts least most i
    | body, places =>
      let step := reach s body
      closed s.bytes.size step (most.map (· - least)) (iterate step least places)
  | .group _ body, places => reach s body places
  | .assertion kind, places => places.filter fun i => holds s i kind
  | .back _, places => places

/-! ## Preference -/

/-- Drops places that stood in a list before. -/
def dropRepeats (places : List Nat) : List Nat :=
  (places.foldl (fun found i => if found.contains i then found else i :: found) []).reverse

/-- The places to which repetitions lead, more of them first, and whichever were seen on the
way. -/
def endsOfMany (step : Nat → List Nat) (most : Option Nat) : Nat → Nat → List Nat → List Nat
  | 0, _, found => found
  | fuel + 1, i, found =>
    if most = some 0 then if found.contains i then found else i :: found
    else
      let onward := (step i).filter (i < ·)
      let found := onward.foldl (fun found k =>
        if most.isNone && found.contains k then found
        else endsOfMany step (most.map (· - 1)) fuel k found) found
      if found.contains i then found else i :: found

/-- Where matches end that begin at a place, the preferred ones first. -/
def ends (s : Subject) : Regex → Nat → List Nat
  | .empty, i => [i]
  | .one accepts, i => if (s.bytes[i]?).any accepts then [i + 1] else []
  | .cat first second, i => dropRepeats ((ends s first i).flatMap (ends s second))
  | .alt first second, i => dropRepeats (ends s first i ++ ends s second i)
  | .many body least most, i =>
    match body with
    | .one accepts => (runEnds s accepts least most i).reverse
    | body =>
      let step := ends s body
      let start := (List.range least).foldl (fun places _ => dropRepeats (places.flatMap step)) [i]
      let bound := s.bytes.size + 2
      dropRepeats (start.flatMap fun k =>
        (endsOfMany step (most.map (· - least)) bound k []).reverse)
  | .group _ body, i => ends s body i
  | .assertion kind, i => if holds s i kind then [i] else []
  | .back _, i => [i]

end Regex

end Bindery
