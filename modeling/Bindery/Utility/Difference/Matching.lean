/-!
# Matching lines

Two files as arrays of numbers, one for each line, and the same for lines that count as equal. The
lines that are not `changed` in either file match in their order. The fewest changes are found by
searching from both ends at once for a point in the middle of a shortest way, on either side of
which the search goes on. Before that, lines are left out that would only make the way longer to
find; after it, runs of changes are moved to where they look best.
-/

namespace Bindery.Utility

/-- Which lines of two files are changed. -/
structure Marks where
  first : Array Bool
  second : Array Bool

/-! ## The search -/

namespace Search

/-- A part of both files: from one line up to another one in each. -/
structure Box where
  left : Nat
  right : Nat
  top : Nat
  bottom : Nat

/-- How far the searches have come on each diagonal, the one from the start and the one from the
end, and the diagonals that they look at. -/
structure Fronts where
  forward : Array Int
  backward : Array Int
  forwardLow : Int
  forwardHigh : Int
  backwardLow : Int
  backwardHigh : Int

/-- The diagonals of a box begin at this place in the arrays of the fronts. -/
def Box.place (b : Box) (diagonal : Int) : Nat := (diagonal + b.bottom - b.left + 1).toNat

/-- Goes on over equal lines. -/
def slideDown (xs ys : Array Nat) (b : Box) : Nat → Nat → Nat → Nat
  | 0, x, _ => x
  | fuel + 1, x, y =>
    if x < b.right && y < b.bottom && xs.getD x 0 == ys.getD y 0 then
      slideDown xs ys b fuel (x + 1) (y + 1)
    else x

/-- Goes back over equal lines. -/
def slideUp (xs ys : Array Nat) (b : Box) : Nat → Nat → Nat → Nat
  | 0, x, _ => x
  | fuel + 1, x, y =>
    if b.left < x && b.top < y && xs.getD (x - 1) 0 == ys.getD (y - 1) 0 then
      slideUp xs ys b fuel (x - 1) (y - 1)
    else x

/-- Takes the search from the start one step on, on each diagonal from `d` down; ends with the point
where it meets the other one. -/
def stepForward (xs ys : Array Nat) (b : Box) (odd : Bool) :
    Nat → Int → Fronts → Fronts × Option (Nat × Nat)
  | 0, _, f => (f, none)
  | fuel + 1, d, f =>
    if d < f.forwardLow then (f, none)
    else
      let low := f.forward.getD (b.place (d - 1)) 0
      let high := f.forward.getD (b.place (d + 1)) 0
      let start := if low < high then high else low + 1
      let x := slideDown xs ys b (b.right + 1) start.toNat (start - d).toNat
      let f := { f with forward := f.forward.set! (b.place d) x }
      if odd && f.backwardLow ≤ d && d ≤ f.backwardHigh &&
          f.backward.getD (b.place d) 0 ≤ (x : Int) then
        (f, some (x, ((x : Int) - d).toNat))
      else stepForward xs ys b odd fuel (d - 2) f

/-- Takes the search from the end one step on. -/
def stepBackward (xs ys : Array Nat) (b : Box) (odd : Bool) :
    Nat → Int → Fronts → Fronts × Option (Nat × Nat)
  | 0, _, f => (f, none)
  | fuel + 1, d, f =>
    if d < f.backwardLow then (f, none)
    else
      let low := f.backward.getD (b.place (d - 1)) 0
      let high := f.backward.getD (b.place (d + 1)) 0
      let start := if low < high then low else high - 1
      let x := slideUp xs ys b (b.right + 1) start.toNat (start - d).toNat
      let f := { f with backward := f.backward.set! (b.place d) x }
      if !odd && f.forwardLow ≤ d && d ≤ f.forwardHigh &&
          (x : Int) ≤ f.forward.getD (b.place d) 0 then
        (f, some (x, ((x : Int) - d).toNat))
      else stepBackward xs ys b odd fuel (d - 2) f

/-- A place that no search from the end reaches. -/
def farthest : Int := 4611686018427387904

/-- Takes both searches on until they meet. -/
def meet (xs ys : Array Nat) (b : Box) : Nat → Fronts → Nat × Nat
  | 0, _ => (b.left, b.top)
  | fuel + 1, f =>
    let lowest : Int := (b.left : Int) - b.bottom
    let highest : Int := (b.right : Int) - b.top
    let odd := ((b.left : Int) - b.top - ((b.right : Int) - b.bottom)) % 2 != 0
    let mark (a : Array Int) (d value : Int) : Array Int := a.set! (b.place d) value
    let steps := b.right + b.bottom + 2
    let f := if lowest < f.forwardLow then
        { f with
          forwardLow := f.forwardLow - 1
          forward := mark f.forward (f.forwardLow - 2) (-1) }
      else { f with forwardLow := f.forwardLow + 1 }
    let f := if f.forwardHigh < highest then
        { f with
          forwardHigh := f.forwardHigh + 1
          forward := mark f.forward (f.forwardHigh + 2) (-1) }
      else { f with forwardHigh := f.forwardHigh - 1 }
    match stepForward xs ys b odd steps f.forwardHigh f with
    | (_, some point) => point
    | (f, none) =>
      let f := if lowest < f.backwardLow then
          { f with
            backwardLow := f.backwardLow - 1
            backward := mark f.backward (f.backwardLow - 2) farthest }
        else { f with backwardLow := f.backwardLow + 1 }
      let f := if f.backwardHigh < highest then
          { f with
            backwardHigh := f.backwardHigh + 1
            backward := mark f.backward (f.backwardHigh + 2) farthest }
        else { f with backwardHigh := f.backwardHigh - 1 }
      match stepBackward xs ys b odd steps f.backwardHigh f with
      | (_, some point) => point
      | (f, none) => meet xs ys b fuel f

/-- A point in the middle of a shortest way through a box. -/
def middle (xs ys : Array Nat) (b : Box) : Nat × Nat :=
  let start : Int := (b.left : Int) - b.top
  let stop : Int := (b.right : Int) - b.bottom
  let blank : Array Int := Array.replicate ((b.right - b.left) + (b.bottom - b.top) + 4) 0
  meet xs ys b (b.right + b.bottom + 2)
    { forward := blank.set! (b.place start) b.left
      backward := blank.set! (b.place stop) b.right
      forwardLow := start
      forwardHigh := start
      backwardLow := stop
      backwardHigh := stop }

/-- Marks the lines from one up to another one. -/
def markAll (a : Array Bool) (start stop : Nat) : Array Bool :=
  (List.range (stop - start)).foldl (fun a i => a.set! (start + i) true) a

/-- Marks what is changed in a box. -/
def solve (xs ys : Array Nat) : Nat → Box → Marks → Marks
  | 0, _, m => m
  | fuel + 1, b, m =>
    let x := slideDown xs ys b (b.right + 1) b.left b.top
    let b := { b with left := x, top := b.top + (x - b.left) }
    let x := slideUp xs ys b (b.right + 1) b.right b.bottom
    let b := { b with right := x, bottom := b.bottom - (b.right - x) }
    if b.left = b.right then { m with second := markAll m.second b.top b.bottom }
    else if b.top = b.bottom then { m with first := markAll m.first b.left b.right }
    else
      let (x, y) := middle xs ys b
      let m := solve xs ys fuel { b with right := x, bottom := y } m
      solve xs ys fuel { b with left := x, top := y } m

end Search

/-! ## Lines that are left out -/

/-- What is done with a line before the search. -/
inductive Fate where
  | kept
  /-- No line of the other file is equal to it. -/
  | dropped
  /-- Many lines of the other file are equal to it. -/
  | doubtful
  deriving DecidableEq

namespace Fate

/-- So many times twofold as `n` can be divided by four. -/
def doubled : Nat → Nat → Nat → Nat
  | 0, _, value => value
  | fuel + 1, n, value => if n / 4 = 0 then value else doubled fuel (n / 4) (value * 2)

/-- Drops no doubtful lines where a run begins: up to three lines that are dropped for sure, or to
the first one of these after eight lines. -/
def spared : Nat → Nat → List Fate → List Fate
  | _, _, [] => []
  | i, count, fate :: rest =>
    if 8 ≤ i && fate = .dropped then fate :: rest
    else
      match fate with
      | .dropped => if count = 2 then fate :: rest else fate :: spared (i + 1) (count + 1) rest
      | _ => .kept :: spared (i + 1) 0 rest

/-- The fates of a run of lines that are not kept, which begins and ends with lines that are
dropped. -/
def settledRun (run : List Fate) : List Fate :=
  let doubts := run.count .doubtful
  if run.length < doubts * 4 then run.map fun fate => if fate = .doubtful then .kept else fate
  else
    let least := doubled 64 (run.length / 4) 1 + 1
    let parts := run.splitBy (· == ·)
    let run := parts.flatMap fun part =>
      if part.head? == some .doubtful && least ≤ part.length then part.map fun _ => .kept else part
    (spared 0 0 (spared 0 0 run).reverse).reverse

/-- The fates of lines when it is known which doubtful lines are dropped. -/
def settled : Nat → List Fate → List Fate
  | 0, fates => fates
  | _, [] => []
  | fuel + 1, fate :: rest =>
    if fate != .dropped then .kept :: settled fuel rest
    else
      let run := (fate :: rest).takeWhile (· != .kept)
      let ending := run.reverse.takeWhile (· == .doubtful)
      let run := run.take (run.length - ending.length)
      settledRun run ++ ending.map (fun _ => .kept) ++
        settled fuel ((fate :: rest).drop (run.length + ending.length))

/-- The fates of lines, given how often each occurs in the other file. -/
def ofCounts (counts : List Nat) : List Fate :=
  let many := 5 * doubled 64 (counts.length / 64) 1
  let fates := counts.map fun n =>
    if n = 0 then Fate.dropped else if many < n then .doubtful else .kept
  settled (fates.length + 1) fates

end Fate

/-- How often each number occurs. -/
def occurrences (bound : Nat) (xs : Array Nat) : Array Nat :=
  xs.foldl (fun counts x => counts.modify x (· + 1)) (Array.replicate bound 0)

/-- The places of lines that are kept for the search. -/
def keptPlaces (minimal : Bool) (xs : Array Nat) (others : Array Nat) : Array Nat :=
  if minimal then (List.range xs.size).toArray
  else
    let fates := Fate.ofCounts (xs.toList.map fun x => others.getD x 0)
    (fates.zipIdx.filterMap fun (fate, i) => if fate = .kept then some i else none).toArray

/-! ## Runs of changes -/

namespace Runs

/-- A run of changed lines while it is moved, with the line that follows it and the place in the
other file that goes with that. Places count from one, so that there is one before the first. -/
structure Run where
  changed : Array Bool
  start : Nat
  stop : Nat
  place : Nat
  /-- The latest end of the run at which there is a run of changes in the other file, too. -/
  partner : Option Nat := none

def isSet (a : Array Bool) (i : Nat) : Bool := a.getD i false

/-- The place after the next line that is not changed. -/
def pastSame (other : Array Bool) : Nat → Nat → Nat
  | 0, j => j
  | fuel + 1, j => if isSet other j then pastSame other fuel (j + 1) else j + 1

/-- The next place that is not changed. -/
def pastChanged (changed : Array Bool) : Nat → Nat → Nat
  | 0, i => i
  | fuel + 1, i => if isSet changed i then pastChanged changed fuel (i + 1) else i

/-- The start of the changes that end before a place. -/
def startOf (changed : Array Bool) : Nat → Nat
  | 0 => 0
  | i + 1 => if isSet changed i then startOf changed i else i + 1

/-- The place before a place that is not changed. -/
def placeBefore (other : Array Bool) : Nat → Nat
  | 0 => 0
  | j + 1 => if isSet other j then placeBefore other j else j

/-- Moves a run up as far as it goes, and joins it with those that it meets. -/
def up (line : Nat → Nat) (other : Array Bool) : Nat → Run → Run
  | 0, r => r
  | fuel + 1, r =>
    if 1 < r.start && line (r.start - 1) == line (r.stop - 1) then
      let changed := (r.changed.set! (r.start - 1) true).set! (r.stop - 1) false
      up line other fuel
        { r with
          changed
          start := startOf changed (r.start - 1)
          stop := r.stop - 1
          place := placeBefore other r.place }
    else r

/-- The place after a place that is not changed, and whether there were changes on the way. -/
def placeAfter (other : Array Bool) (j : Nat) : Nat × Bool :=
  let next := pastChanged other (other.size + 1) (j + 1)
  (next, next != j + 1)

/-- Moves a run down as far as it goes. -/
def down (line : Nat → Nat) (size : Nat) (other : Array Bool) : Nat → Run → Run
  | 0, r => r
  | fuel + 1, r =>
    if r.stop ≤ size && line r.start == line r.stop then
      let changed := (r.changed.set! r.start false).set! r.stop true
      let stop := pastChanged changed (changed.size + 1) (r.stop + 1)
      let (place, hasPartner) := placeAfter other r.place
      let partner := if hasPartner then some stop else r.partner
      down line size other fuel { r with changed, start := r.start + 1, stop, place, partner }
    else r

/-- Moves a run up and down until it grows no more. -/
def grown (line : Nat → Nat) (size : Nat) (other : Array Bool) : Nat → Run → Run
  | 0, r => r
  | fuel + 1, r =>
    let length := r.stop - r.start
    let r := up line other (size + 1) r
    let partner := if isSet other (r.place - 1) then some r.stop else none
    let r := down line size other (size + 1) { r with partner }
    if r.stop - r.start = length then r else grown line size other fuel r

/-- Moves a run up to an end. -/
def back (other : Array Bool) (target : Nat) : Nat → Run → Run
  | 0, r => r
  | fuel + 1, r =>
    if target < r.stop then
      back other target fuel
        { r with
          changed := (r.changed.set! (r.start - 1) true).set! (r.stop - 1) false
          start := r.start - 1
          stop := r.stop - 1
          place := placeBefore other r.place }
    else r

/-- Moves the runs of changes from a line on. -/
def all (line : Nat → Nat) (size : Nat) (other : Array Bool) :
    Nat → Nat → Nat → Array Bool → Array Bool
  | 0, _, _, changed => changed
  | fuel + 1, i, j, changed =>
    if size < i then changed
    else if !isSet changed i then
      all line size other fuel (i + 1) (pastSame other (other.size + 1) j) changed
    else
      let stop := pastChanged changed (changed.size + 1) (i + 1)
      let place := pastChanged other (other.size + 1) j
      let r := grown line size other (size + 1) { changed, start := i, stop, place }
      let r := match r.partner with
        | some target => back other target (size + 1) r
        | none => r
      all line size other fuel r.stop r.place r.changed

/-- The changed lines of a file with the runs moved; `other` are those of the other file. -/
def moved (xs : Array Nat) (changed other : Array Bool) : Array Bool :=
  let framed (a : Array Bool) : Array Bool := (#[false] ++ a).push false
  let line (i : Nat) : Nat := xs.getD (i - 1) 0
  (all line xs.size (framed other) (2 * xs.size + 2) 1 1 (framed changed)).extract 1 (xs.size + 1)

end Runs

/-! ## The result -/

/-- The changed lines of two files. With `minimal` no lines are left out of the search. -/
def Marks.of (minimal : Bool) (xs ys : Array Nat) : Marks :=
  let bound := (xs ++ ys).foldl max 0 + 1
  let firstPlaces := keptPlaces minimal xs (occurrences bound ys)
  let secondPlaces := keptPlaces minimal ys (occurrences bound xs)
  let shortFirst := firstPlaces.map fun i => xs.getD i 0
  let shortSecond := secondPlaces.map fun i => ys.getD i 0
  let blank (n : Nat) : Array Bool := Array.replicate n false
  let found := Search.solve shortFirst shortSecond (shortFirst.size + shortSecond.size + 2)
    ⟨0, shortFirst.size, 0, shortSecond.size⟩ ⟨blank shortFirst.size, blank shortSecond.size⟩
  -- what was left out is changed
  let spread (size : Nat) (places : Array Nat) (changed : Array Bool) : Array Bool :=
    (places.zip changed).foldl (fun a (i, c) => a.set! i c) (Array.replicate size true)
  let first := spread xs.size firstPlaces found.first
  let second := spread ys.size secondPlaces found.second
  let first := Runs.moved xs first second
  { first, second := Runs.moved ys second first }

/-- A change: how many lines of either file are before it, and how many it takes and gives. -/
structure Change where
  first : Nat
  second : Nat
  removed : Nat
  added : Nat
  deriving DecidableEq

/-- How many lines from one on are changed. -/
def runLength (changed : Array Bool) : Nat → Nat → Nat
  | 0, _ => 0
  | fuel + 1, i => if changed.getD i false then runLength changed fuel (i + 1) + 1 else 0

/-- The changes that marks make up, from a line of either file on. -/
def Marks.changes (m : Marks) : Nat → Nat → Nat → List Change → List Change
  | 0, _, _, found => found.reverse
  | fuel + 1, i, j, found =>
    if m.first.size ≤ i && m.second.size ≤ j then found.reverse
    else
      let removed := runLength m.first (m.first.size + 1) i
      let added := runLength m.second (m.second.size + 1) j
      if removed = 0 && added = 0 then m.changes fuel (i + 1) (j + 1) found
      else m.changes fuel (i + removed) (j + added) (⟨i, j, removed, added⟩ :: found)

/-- The changes from one file to another one. So many equal lines at the start and the end of both
are not looked at. -/
def changesFrom (minimal : Bool) (xs ys : Array Nat) (before after : Nat) : List Change :=
  let inner (a : Array Nat) : Array Nat := a.extract before (a.size - after)
  let m := Marks.of minimal (inner xs) (inner ys)
  let found := m.changes (m.first.size + m.second.size + 2) 0 0 []
  found.map fun c => { c with first := c.first + before, second := c.second + before }

end Bindery.Utility
