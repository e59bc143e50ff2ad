import Bindery.Utility.Sorting

/-!
# Files with sorted lines

The utilities that leave out repeated lines, and that compare or join files whose lines are sorted.
-/

namespace Bindery.Utility

/-! ## Repeated lines -/

/-- What of two lines is compared. -/
structure Comparison where
  skippedFields : Nat := 0
  skippedCharacters : Nat := 0
  width : Option Nat := none
  ignoresCase : Bool := false

/-- The part of a line that is compared. -/
def Comparison.part (x : Comparison) (line : String) : List Char :=
  let rest := (LineOrder.Key.afterFields none x.skippedFields line.toList).drop x.skippedCharacters
  let rest := match x.width with
    | some width => rest.take width
    | none => rest
  if x.ignoresCase then rest.map Char.toUpper else rest

/-- Lines in groups, each of lines in a row that are the same. -/
def groupsBy (x : Comparison) (lines : List String) : List (List String) :=
  let (groups, last) := lines.foldl
    (fun ((groups, last) : List (List String) × List Char) line =>
      let part := x.part line
      match groups with
      | group :: others =>
        if part == last then ((line :: group) :: others, last) else ([line] :: groups, part)
      | [] => ([[line]], part)) ([], [])
  let _ := last
  groups.reverse.map List.reverse

/-- Whether a name is short for one of some names, and for which one. -/
def abbreviated? (names : List String) (name : String) : Option String :=
  if names.contains name then some name
  else
    match names.filter fun full => name.toList.isPrefixOf full.toList with
    | [full] => some full
    | _ => none

/-- The words of a call with a number with a sign as the option it stands for. -/
def withSkips (args : List String) : List String :=
  args.map fun word =>
    match word.toList with
    | '-' :: d :: ds => if (d :: ds).all Char.isDigit then "-f" ++ String.ofList (d :: ds) else word
    | '+' :: d :: ds => if (d :: ds).all Char.isDigit then "-s" ++ String.ofList (d :: ds) else word
    | _ => word

/-- Groups of lines as they are printed, with marks around them. -/
def groupsText (mark : Char) (method : String) (groups : List (List String)) : String :=
  let text (group : List String) : String := String.join (group.map (·.push mark))
  let gap := String.singleton mark
  match method with
  | "prepend" => String.join (groups.map fun g => gap ++ text g)
  | "append" => String.join (groups.map fun g => text g ++ gap)
  | "both" => String.join (groups.map fun g => gap ++ text g) ++ if groups.isEmpty then "" else gap
  | "separate" => gap.intercalate (groups.map text)
  | _ => String.join (groups.map text)

/-- The text of some files. -/
def textOf (texts : List (String × String)) : String := String.join (texts.map (·.2))

def uniq (c : Call) : Answer :=
  let form : OptionForm := .of "cdDf:is:uw:z" ["count=c", "repeated=d", "all-repeated::", "group::",
    "skip-fields=f", "ignore-case=i", "skip-chars=s", "unique=u", "check-chars=w",
    "zero-terminated=z"]
  let c : Call := { c with args := withSkips c.args }
  c.withOptions form 1 fun w =>
    let number (letter what : String) : Except String (Option Nat) :=
      match w.value? [letter] with
      | none => .ok none
      | some text =>
        match text.toNat? with
        | some n => .ok (some n)
        | none => .error s!"{text}: invalid number of {what}"
    let comparison : Except String Comparison := do
      return {
        skippedFields := (← number "f" "fields to skip").getD 0
        skippedCharacters := (← number "s" "bytes to skip").getD 0
        width := ← number "w" "bytes to compare"
        ignoresCase := w.has ["i"] }
    let method (name standard : String) : String :=
      match w.value? [name] with
      | some "" | none => standard
      | some text => (abbreviated? ["none", "separate", "prepend", "append", "both"] text).getD text
    let all := w.has ["D", "all-repeated"]
    match comparison, w.operands with
    | .error text, _ => c.fail c.start text
    | _, _ :: _ :: extra :: _ => c.misuse s!"extra operand '{extra}'" 1
    | .ok comparison, words =>
      if w.has ["group"] && (all || w.has ["c", "d", "u"]) then
        c.misuse "--group is mutually exclusive with -c/-d/-D/-u" 1
      else if all && w.has ["c"] then
        c.misuse "printing all duplicated lines and repeat counts is meaningless" 1
      else
        let mark := lineMark w
        let (a, texts) := readEach c (words.take 1) fun word e =>
          if e = .isDirectory then s!"error reading '{word}': {e.reason}"
          else s!"{shown word}: {e.reason}"
        let groups := groupsBy comparison (linesAt mark (textOf texts))
        let text :=
          if w.has ["group"] then groupsText mark (method "group" "separate") groups
          else if all then
            let groups := groups.filter (1 < ·.length)
            let groups := if w.has ["u"] then groups.map List.dropLast else groups
            groupsText mark (method "all-repeated" "none") groups
          else
            let kept := groups.filter fun g =>
              if g.length = 1 then !w.has ["d"] else !w.has ["u"]
            String.join (kept.map fun g =>
              (if w.has ["c"] then padLeft 7 (toString g.length) ++ " " else "") ++
                (g.headD "").push mark)
        if a.status != 0 then a
        else
          match words with
          | [_, target] =>
            if target = "-" then a.print text
            else
              match c.write a.tree target text with
              | .ok tree => { a with tree }
              | .error e => c.fail a s!"{shown target}: {e.reason}"
          | _ => a.print text

/-! ## Comparing two files -/

/-- What two files have in common. -/
structure Common where
  answer : Answer
  /-- How many lines stand in the first one only, in the second one only, and in both. -/
  counts : Nat × Nat × Nat := (0, 0, 0)
  /-- The lines before the next ones, and whether a file was told of that is not sorted. -/
  last : Option String × Option String := (none, none)
  told : Bool × Bool := (false, false)

namespace Common

/-- Whether the order of lines is checked: always, never, or once the files differ. -/
def checks (w : Words) (s : Common) : Bool :=
  if w.has ["nocheck-order"] then false
  else w.has ["check-order"] || 0 < s.counts.1 + s.counts.2.1

/-- Notes that a file has two lines in a row that are not in order. -/
def tell (c : Call) (w : Words) (s : Common) (isFirst : Bool) (previous next : String) : Common :=
  let told := if isFirst then s.told.1 else s.told.2
  if told || !s.checks w || previous ≤ next then s
  else
    let number := if isFirst then 1 else 2
    { s with
      answer := c.fail s.answer s!"file {number} is not in sorted order"
      told := if isFirst then (true, s.told.2) else (s.told.1, true) }

/-- Looks at the lines of a file from the one that was taken on. -/
def advance (c : Call) (w : Words) (s : Common) (isFirst : Bool) (taken : String)
    (rest : List String) : Common :=
  let before := if isFirst then s.last.1 else s.last.2
  let s := match rest, before with
    | next :: _, _ => s.tell c w isFirst taken next
    | [], some before => s.tell c w isFirst before taken
    | [], none => s
  { s with last := if isFirst then (some taken, s.last.2) else (s.last.1, some taken) }

/-- Goes through the lines of two files. -/
def run (c : Call) (w : Words) (line : Nat → String → String) :
    Nat → Common → List String → List String → Common
  | 0, s, _, _ => s
  | fuel + 1, s, xs, ys =>
    let stops := w.has ["check-order"] && (s.told.1 || s.told.2)
    let (one, two, both) := s.counts
    let print (column : Nat) (text : String) (counts : Nat × Nat × Nat) : Common :=
      { s with answer := s.answer.print (line column text), counts }
    if stops then s
    else
      match xs, ys with
      | [], [] => s
      | x :: xs, [] =>
        run c w line fuel ((print 1 x (one + 1, two, both)).advance c w true x xs) xs []
      | [], y :: ys =>
        run c w line fuel ((print 2 y (one, two + 1, both)).advance c w false y ys) [] ys
      | x :: xs, y :: ys =>
        if x = y then
          let s := (print 3 x (one, two, both + 1)).advance c w true x xs
          run c w line fuel (s.advance c w false y ys) xs ys
        else if x < y then
          run c w line fuel ((print 1 x (one + 1, two, both)).advance c w true x xs) xs (y :: ys)
        else
          run c w line fuel ((print 2 y (one, two + 1, both)).advance c w false y ys) (x :: xs) ys

end Common

def comm (c : Call) : Answer :=
  let form : OptionForm := .of "123z" ["check-order", "nocheck-order", "output-delimiter:",
    "total", "zero-terminated=z"]
  c.withOptions form 1 fun w =>
    match w.operands with
    | [] => c.misuse "missing operand" 1
    | [only] => c.misuse s!"missing operand after '{only}'" 1
    | [first, second] =>
      let mark := lineMark w
      let joint := match w.value? ["output-delimiter"] with
        | some "" => "\x00"
        | some text => text
        | none => "\t"
      let line (column : Nat) (text : String) : String :=
        if w.has [toString column] then ""
        else
          let before := ((List.range (column - 1)).filter fun i => !w.has [toString (i + 1)]).length
          String.join (List.replicate before joint) ++ text.push mark
      let (x, a) := c.read c.start first
      let (y, a) := c.read a second
      match x, y with
      | .ok x, .ok y =>
        let xs := linesAt mark x
        let ys := linesAt mark y
        let s := Common.run c w line (xs.length + ys.length + 1) { answer := a } xs ys
        let (one, two, both) := s.counts
        let a := s.answer
        let a := if w.has ["total"] && !(w.has ["check-order"] && (s.told.1 || s.told.2)) then
            a.print s!"{one}{joint}{two}{joint}{both}{joint}total{mark}"
          else a
        if (s.told.1 || s.told.2) && !w.has ["check-order"] then
          c.fail a "input is not in sorted order"
        else a
      | .error e, _ => c.fail a s!"{shown first}: {e.reason}"
      | _, .error e => c.fail a s!"{shown second}: {e.reason}"
    | _ :: _ :: extra :: _ => c.misuse s!"extra operand '{extra}'" 1

/-! ## Joining two files -/

/-- How lines of two files are joined. -/
structure Joining where
  /-- The fields that must be the same, counted from zero. -/
  first : Nat := 0
  second : Nat := 0
  tab : Option Char := none
  ignoresCase : Bool := false
  /-- What stands in the place of fields that a line does not have. -/
  empty : String := ""
  /-- The fields of an output line: a file and a field, or neither for the common one. -/
  format : Option (List (Option (Bool × Nat))) := none
  /-- Lines of the first and of the second file are printed that fit none of the other one. -/
  alone : Bool × Bool := (false, false)
  /-- Lines that fit are printed. -/
  paired : Bool := true

namespace Joining

/-- The fields of a text between blanks. Blanks at the end are before a field without text. -/
def blankFields : Nat → List Char → List String
  | 0, _ => []
  | fuel + 1, cs =>
    let field := cs.takeWhile (!isBlank ·)
    match cs.drop field.length with
    | [] => [String.ofList field]
    | rest => String.ofList field :: blankFields fuel (rest.dropWhile isBlank)
where
  isBlank (c : Char) : Bool := c == ' ' || c == '\t' || c == '\n'

/-- The fields of a line. -/
def fields (j : Joining) (line : String) : List String :=
  match j.tab with
  | some tab => line.splitOn (String.singleton tab)
  | none =>
    match line.toList.dropWhile blankFields.isBlank with
    | [] => []
    | cs => blankFields (cs.length + 1) cs

/-- The field that lines are joined by. -/
def key (j : Joining) (isFirst : Bool) (fields : List String) : String :=
  fields.getD (if isFirst then j.first else j.second) ""

/-- What is compared of a field. -/
def folded (j : Joining) (key : String) : String :=
  if j.ignoresCase then key.map Char.toUpper else key

/-- An output line for a line of either file. -/
def line (j : Joining) (x y : Option (List String)) : String :=
  let separator := String.singleton (j.tab.getD ' ')
  let field (fields : Option (List String)) (n : Nat) : String :=
    match fields.bind fun fields => fields[n]? with
    | some "" | none => j.empty
    | some text => text
  let common := match x with
    | some _ => field x j.first
    | none => field y j.second
  let parts := match j.format with
    | some format => format.map fun
      | none => common
      | some (isFirst, n) => if isFirst then field x n else field y n
    | none =>
      let others (fields : Option (List String)) (place : Nat) : List String :=
        ((fields.getD []).eraseIdx place).map fun text => if text.isEmpty then j.empty else text
      common :: others x j.first ++ others y j.second
  separator.intercalate parts

/-- A line with its number. -/
structure Numbered where
  number : Nat
  text : String
  fields : List String

/-- How far two files have been joined. -/
structure Progress where
  /-- The lines of the output, the last one first. -/
  done : List String := []
  /-- There were lines that fit none of the other file. -/
  lonely : Bool := false
  /-- The lines of the first and of the second file that are not in order. -/
  faults : Option Numbered × Option Numbered := (none, none)

/-- Looks at the line after one that was taken. -/
def advance (j : Joining) (always isFirst : Bool) (s : Progress) (taken : Numbered)
    (rest : List Numbered) : Progress :=
  match rest with
  | [] => s
  | next :: _ =>
    let key (x : Numbered) : String := j.folded (j.key isFirst x.fields)
    let known := if isFirst then s.faults.1 else s.faults.2
    if known.isSome || !(s.lonely || always) || key taken ≤ key next then s
    else
      { s with
        faults := if isFirst then (some next, s.faults.2) else (s.faults.1, some next) }

/-- Looks at the lines after each of some that were taken. -/
def advanceAll (j : Joining) (always isFirst : Bool) (s : Progress) :
    Nat → List Numbered → Progress
  | n + 1, x :: rest => advanceAll j always isFirst (j.advance always isFirst s x rest) n rest
  | _, _ => s

/-- The lines at the front that have a field in common with the first one. -/
def group (j : Joining) (isFirst : Bool) (lines : List Numbered) : List Numbered :=
  match lines with
  | [] => []
  | x :: _ =>
    let key (x : Numbered) : String := j.folded (j.key isFirst x.fields)
    lines.takeWhile fun y => key y == key x

/-- Joins the lines of two files. -/
def run (j : Joining) (always : Bool) :
    Nat → Progress → List Numbered → List Numbered → Progress
  | 0, s, _, _ => s
  | fuel + 1, s, xs, ys =>
    let put (s : Progress) (isWanted : Bool) (x y : Option Numbered) : Progress :=
      if isWanted then
        { s with done := j.line (x.map (·.fields)) (y.map (·.fields)) :: s.done }
      else s
    match xs, ys with
    | [], [] => s
    | x :: rest, [] =>
      j.run always fuel (j.advance always true (put s j.alone.1 (some x) none) x rest) rest []
    | [], y :: rest =>
      j.run always fuel (j.advance always false (put s j.alone.2 none (some y)) y rest) [] rest
    | x :: restX, y :: restY =>
      let a := j.folded (j.key true x.fields)
      let b := j.folded (j.key false y.fields)
      if a < b then
        let s := j.advance always true (put s j.alone.1 (some x) none) x restX
        j.run always fuel { s with lonely := true } restX ys
      else if b < a then
        let s := j.advance always false (put s j.alone.2 none (some y)) y restY
        j.run always fuel { s with lonely := true } xs restY
      else
        let left := j.group true xs
        let right := j.group false ys
        let s := j.advanceAll always true s left.length xs
        let s := j.advanceAll always false s right.length ys
        let s := left.foldl (fun s x =>
          right.foldl (fun s y => put s j.paired (some x) (some y)) s) s
        j.run always fuel s (xs.drop left.length) (ys.drop right.length)

/-- A field of the output. -/
def fieldOf (text : String) : Except String (Option (Bool × Nat)) :=
  match text.splitOn "." with
  | ["0"] => .ok none
  | ["1", n] | ["2", n] =>
    match n.toNat? with
    | some (n + 1) => .ok (some (text.startsWith "1", n))
    | _ => .error s!"invalid field number: '{n}'"
  | _ => .error s!"invalid file number in field spec: '{text}'"

/-- Changes the way of joining as an option says. -/
def withOption (j : Joining) : String × String → Except String Joining
  | ("i", _) => .ok { j with ignoresCase := true }
  | ("e", empty) => .ok { j with empty }
  | ("t", text) =>
    match text.toList with
    | [] => .ok { j with tab := some '\n' }
    | [c] => .ok { j with tab := some c }
    | ['\\', '0'] => .ok { j with tab := some '\x00' }
    | _ => .error s!"multi-character tab '{text}'"
  | (name, text) =>
    let file (j : Joining) : Except String Joining :=
      match text with
      | "1" => .ok { j with alone := (true, j.alone.2) }
      | "2" => .ok { j with alone := (j.alone.1, true) }
      | _ => .error s!"invalid field number: '{text}'"
    let place : Except String Nat :=
      match text.toNat? with
      | some (n + 1) => .ok n
      | _ => .error s!"invalid field number: '{text}'"
    match name with
    | "a" => file j
    | "v" => file { j with paired := false }
    | "1" => place.map fun first => { j with first }
    | "2" => place.map fun second => { j with second }
    | "j" => place.map fun n => { j with first := n, second := n }
    | "o" =>
      if text == "auto" then .ok j
      else do
        let parts := (text.splitOn ",").flatMap (·.splitOn " ")
        let format ← (parts.filter (· != "")).mapM fieldOf
        return { j with format := some ((j.format.getD []) ++ format) }
    | _ => .ok j

end Joining

def join (c : Call) : Answer :=
  let form : OptionForm := .of "a:e:i1:2:j:o:t:v:z" ["ignore-case=i", "check-order",
    "nocheck-order", "zero-terminated=z", "header"]
  c.withOptions form 1 fun w =>
    match w.options.foldlM Joining.withOption {}, w.operands with
    | .error text, _ => c.fail c.start text
    | _, [] => c.misuse "missing operand" 1
    | _, [only] => c.misuse s!"missing operand after '{only}'" 1
    | .ok j, [first, second] =>
      let mark := lineMark w
      let (x, a) := c.read c.start first
      let (y, a) := c.read a second
      match x, y with
      | .ok x, .ok y =>
        let numbered (text : String) : List Joining.Numbered :=
          (linesAt mark text).zipIdx.map fun (line, i) => ⟨i + 1, line, j.fields line⟩
        let xs := numbered x
        let ys := numbered y
        let titles := if w.has ["header"] then 1 else 0
        let title := if titles = 0 || (xs.isEmpty && ys.isEmpty) then [] else
          [j.line (xs.head?.map (·.fields)) (ys.head?.map (·.fields))]
        let s := j.run (w.has ["check-order"]) (xs.length + ys.length + 1) { done := title }
          (xs.drop titles) (ys.drop titles)
        let a := a.print (String.join (s.done.reverse.map (·.push mark)))
        let faults := [(first, s.faults.1), (second, s.faults.2)].filterMap
          fun (name, found) => found.map fun x => s!"{name}:{x.number}: is not sorted: {x.text}"
        if w.has ["nocheck-order"] || faults.isEmpty then a
        else c.fail (faults.foldl (c.fail · ·) a) "input is not in sorted order"
      | .error e, _ => c.fail a s!"{shown first}: {e.reason}"
      | _, .error e => c.fail a s!"{shown second}: {e.reason}"
    | _, _ :: _ :: extra :: _ => c.misuse s!"extra operand '{extra}'" 1

end Bindery.Utility
