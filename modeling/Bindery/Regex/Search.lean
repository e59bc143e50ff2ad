import Bindery.Regex.Basic

/-!
# Searches

`Pattern.find?` finds the first match of a regular expression in a text, and of those that begin
there the longest one. The groups are what the preferred way through the expression gives that ends
where the longest match does. An expression that asks for what a group holds is matched by trying
all ways.
-/

namespace Bindery

namespace Regex

/-- Where groups begin and end, the latest one first. -/
abbrev Groups := List (Nat × Nat × Nat)

/-- Whether there is a group in an expression. -/
def hasGroup : Regex → Bool
  | .group _ _ => true
  | .cat first second | .alt first second => hasGroup first || hasGroup second
  | .many body _ _ => hasGroup body
  | _ => false

/-- Whether an expression asks for what a group holds. -/
def hasBack : Regex → Bool
  | .back _ => true
  | .cat first second | .alt first second => hasBack first || hasBack second
  | .many body _ _ | .group _ body => hasBack body
  | _ => false

/-- Whether a match may be empty. -/
def mayBeEmpty : Regex → Bool
  | .one _ => false
  | .cat first second => mayBeEmpty first && mayBeEmpty second
  | .alt first second => mayBeEmpty first || mayBeEmpty second
  | .many body least _ => least = 0 || mayBeEmpty body
  | .group _ body => mayBeEmpty body
  | _ => true

/-- Whether a match that is not empty may begin with a byte. -/
def mayBegin (b : UInt8) : Regex → Bool
  | .one accepts => accepts b
  | .cat first second => mayBegin b first || (mayBeEmpty first && mayBegin b second)
  | .alt first second => mayBegin b first || mayBegin b second
  | .many body _ _ | .group _ body => mayBegin b body
  | .back _ => true
  | _ => false

/-! ## Groups -/

/-- The groups of a repetition that goes from a place to another one. `taken` tells whether there
was a turn before, `step` how a turn gets there, and `fill` what its groups are. -/
def groupsOfMany (body : Regex) (s : Subject) (fill : Nat → Nat → Groups → Groups) (last : Nat) :
    Nat → Bool → Nat → Option Nat → Nat → Groups → Groups
  | 0, _, _, _, _, groups => groups
  | fuel + 1, taken, least, most, i, groups =>
    let rest := Regex.many body (least - 1) (most.map (· - 1))
    let reaches (k : Nat) : Bool := (reach s rest [k]).contains last
    if most = some 0 then groups
    else if 0 < least then
      match (ends s body i).find? reaches with
      | some k => groupsOfMany body s fill last fuel true (least - 1) (most.map (· - 1)) k
          (fill i k groups)
      | none => groups
    else if i = last then
      if !taken && (ends s body i).contains i then
        let filled := fill i i []
        groups ++ filled.filter fun group => !groups.any (·.1 = group.1)
      else groups
    else
      match (ends s body i).find? fun k => i < k && reaches k with
      | some k => groupsOfMany body s fill last fuel true 0 (most.map (· - 1)) k (fill i k groups)
      | none => groups

/-- The groups of a match from a place to another one. -/
def groupsOf (s : Subject) : Regex → Nat → Nat → Groups → Groups
  | .cat first second, i, j, groups =>
    if !hasGroup first then
      if !hasGroup second then groups
      else
        match (ends s first i).find? fun k => (reach s second [k]).contains j with
        | some k => groupsOf s second k j groups
        | none => groups
    else
      match (ends s first i).find? fun k => (reach s second [k]).contains j with
      | some k => groupsOf s second k j (groupsOf s first i k groups)
      | none => groups
  | .alt first second, i, j, groups =>
    if (reach s first [i]).contains j then groupsOf s first i j groups
    else groupsOf s second i j groups
  | .many body least most, i, j, groups =>
    if hasGroup body then
      groupsOfMany body s (groupsOf s body) j (s.bytes.size + least + 2) false least most i groups
    else groups
  | .group index body, i, j, groups => (index, i, j) :: groupsOf s body i j groups
  | _, _, _, groups => groups

/-! ## All ways -/

/-- Whether two parts of a text are the same. -/
def isSame (s : Subject) (length i j : Nat) : Bool :=
  (List.range length).all fun k =>
    match s.bytes[i + k]?, s.bytes[j + k]? with
    | some a, some b => if s.ignoresCase then foldCase a == foldCase b else a == b
    | _, _ => false

/-- The ways of a repetition. -/
def waysOfMany (step : Nat → Groups → List (Nat × Groups)) :
    Nat → Nat → Option Nat → Nat → Groups → List (Nat × Groups)
  | 0, _, _, i, groups => [(i, groups)]
  | fuel + 1, least, most, i, groups =>
    let turns := if most = some 0 then [] else
      (step i groups).filter fun (k, _) => 0 < least || i < k
    let later := turns.flatMap fun (k, groups) =>
      waysOfMany step fuel (least - 1) (most.map (· - 1)) k groups
    if least = 0 then later ++ [(i, groups)] else later

/-- All ways to match from a place on: where they end, and their groups. -/
def ways (s : Subject) : Regex → Nat → Groups → List (Nat × Groups)
  | .empty, i, groups => [(i, groups)]
  | .one accepts, i, groups => if (s.bytes[i]?).any accepts then [(i + 1, groups)] else []
  | .cat first second, i, groups =>
    (ways s first i groups).flatMap fun (k, groups) => ways s second k groups
  | .alt first second, i, groups => ways s first i groups ++ ways s second i groups
  | .many body least most, i, groups =>
    waysOfMany (ways s body) (s.bytes.size + least + 2) least most i groups
  | .group index body, i, groups =>
    (ways s body i groups).map fun (k, groups) => (k, (index, i, k) :: groups)
  | .assertion kind, i, groups => if holds s i kind then [(i, groups)] else []
  | .back index, i, groups =>
    match groups.lookup index with
    | some (a, b) => if isSame s (b - a) a i then [(i + (b - a), groups)] else []
    | none => []

end Regex

/-! ## Patterns -/

/-- A regular expression with what a search wants to know about it. -/
structure Pattern where
  regex : Regex
  /-- How many groups there are. -/
  groups : Nat
  ignoresCase : Bool := false
  /-- Groups are asked for in the expression. -/
  hasBack : Bool := regex.hasBack
  mayBeEmpty : Bool := regex.mayBeEmpty
  /-- The bytes with which a match may begin. -/
  beginnings : ByteArray :=
    ((List.range 256).map fun b =>
      if regex.mayBegin (UInt8.ofNat b) then (1 : UInt8) else 0).toByteArray

/-- A match: where it begins and ends, and its groups. -/
structure Match where
  start : Nat
  stop : Nat
  groups : Regex.Groups := []

namespace Match

/-- What a group holds, if anything; the group of index zero is the match. -/
def group? (m : Match) (index : Nat) : Option (Nat × Nat) :=
  if index = 0 then some (m.start, m.stop) else m.groups.lookup index

end Match

namespace Pattern

/-- The longest match that begins at a place. -/
def matchAt? (p : Pattern) (s : Subject) (start : Nat) : Option Match :=
  if p.hasBack then
    (p.regex.ways s start []).foldl (fun best (stop, groups) =>
      match best with
      | some found => if found.stop < stop then some ⟨start, stop, groups⟩ else best
      | none => some ⟨start, stop, groups⟩) none
  else
    match (Regex.reach s p.regex [start]).getLast? with
    | none => none
    | some stop =>
      if p.groups = 0 then some ⟨start, stop, []⟩
      else some ⟨start, stop, p.regex.groupsOf s start stop []⟩

/-- Where the matches end that begin at a place, the longest one first. -/
def endsAt (p : Pattern) (s : Subject) (start : Nat) : List Nat :=
  if p.hasBack then (((p.regex.ways s start []).map (·.1)).mergeSort fun a b => b ≤ a)
  else (Regex.reach s p.regex [start]).reverse

/-- Whether a match may begin at a place. -/
def mayBeginAt (p : Pattern) (s : Subject) (start : Nat) : Bool :=
  p.mayBeEmpty || (s.bytes[start]?).any fun b => p.beginnings[b.toNat]? == some 1

/-- The first match that begins at one of so many places from one on, and of those that begin there
the longest. -/
def findFrom (p : Pattern) (s : Subject) : Nat → Nat → Option Match
  | 0, _ => none
  | fuel + 1, start =>
    if p.mayBeginAt s start then
      match p.matchAt? s start with
      | some found => some found
      | none => findFrom p s fuel (start + 1)
    else findFrom p s fuel (start + 1)

/-- Whether there is a match that begins at a place or after it. -/
def occurs (p : Pattern) (s : Subject) (start : Nat) : Bool :=
  let places := (List.range (s.bytes.size + 1 - start)).filterMap fun k =>
    if p.mayBeginAt s (start + k) then some (start + k) else none
  if places.isEmpty then false
  else if p.hasBack then (p.findFrom s (s.bytes.size + 1 - start) start).isSome
  else !(Regex.reach s p.regex places).isEmpty

/-- The first match from a place on, and of those that begin there the longest. -/
def find? (p : Pattern) (s : Subject) (start : Nat) : Option Match :=
  let s := { s with ignoresCase := p.ignoresCase }
  if p.occurs s start then p.findFrom s (s.bytes.size + 1 - start) start else none

/-- Whether there is a match in a text. -/
def isIn (p : Pattern) (bytes : ByteArray) : Bool :=
  p.occurs { bytes, ignoresCase := p.ignoresCase } 0

end Pattern

end Bindery
