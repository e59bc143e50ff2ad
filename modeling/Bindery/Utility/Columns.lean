import Bindery.Utility.Display

/-!
# Columns

The utilities that put lines beside each other, break long lines, and turn tabs into blanks or
blanks into tabs.
-/

namespace Bindery.Utility

/-! ## Lines beside each other -/

/-- The marks that a list of them denotes; one of them may be empty. -/
def delimitersOf : List Char → Option (List String)
  | [] => some []
  | ['\\'] => none
  | '\\' :: c :: rest =>
    let mark := match c with
      | '0' => ""
      | 'b' => "\x08"
      | 'f' => "\x0c"
      | 'n' => "\n"
      | 'r' => "\r"
      | 't' => "\t"
      | 'v' => "\x0b"
      | c => String.singleton c
    (delimitersOf rest).map (mark :: ·)
  | c :: rest => (delimitersOf rest).map (String.singleton c :: ·)

/-- Texts with marks between them, which are taken in turn. -/
def joinedBy (marks : Array String) (texts : List String) : String :=
  let count := max 1 marks.size
  (texts.zipIdx.foldl (fun text (part, i) =>
    if i = 0 then part else text ++ marks.getD ((i - 1) % count) "" ++ part) "")

/-- The rows of some columns. -/
def rowsOf : Nat → List (List String) → List (List String)
  | 0, _ => []
  | fuel + 1, columns =>
    if columns.all List.isEmpty then []
    else columns.map (·.headD "") :: rowsOf fuel (columns.map (·.drop 1))

/-- The lines of each of the files; those of the standard input are dealt out in turn. -/
def columnsOf (c : Call) (mark : Char) (words : List String) : Answer × List (List String) :=
  let dashes := words.countP (· == "-")
  let (a, columns, _) := words.foldl
    (fun ((a, columns, seen) : Answer × List (List String) × Nat) word =>
      if word = "-" && 1 < dashes then
        let input := (c.input.toOption.map Text.Octets.ofBytes).getD ""
        let lines := (linesAt mark input).zipIdx.filter fun (_, i) => i % dashes = seen
        ({ a with drains := true }, columns ++ [lines.map (·.1)], seen + 1)
      else
        match c.read a word with
        | (.ok text, a) => (a, columns ++ [linesAt mark text], seen)
        | (.error e, a) => (c.fail a s!"{shown word}: {e.reason}", columns, seen))
    (c.start, [], 0)
  (a, columns)

def paste (c : Call) : Answer :=
  c.withOptions (.of "d:sz" ["serial=s", "delimiters=d", "zero-terminated=z"]) 1 fun w =>
    let given := (w.value? ["d"]).getD "\t"
    match delimitersOf given.toList with
    | none => c.fail c.start s!"delimiter list ends with an unescaped backslash: {given}"
    | some marks =>
      let marks := marks.toArray
      let mark := if w.has ["z"] then '\x00' else '\n'
      let words := if w.operands.isEmpty then ["-"] else w.operands
      let (a, columns) := columnsOf c mark words
      if w.has ["s"] then
        a.print (String.join (columns.map fun lines => (joinedBy marks lines).push mark))
      else if a.status != 0 then a
      else
        let bound := columns.foldl (fun n column => n + column.length) 1
        a.print (String.join ((rowsOf bound columns).map fun row =>
          (joinedBy marks row).push mark))

/-! ## Long lines -/

/-- The column after a character. -/
def columnAfter (countsBytes : Bool) (column : Nat) (c : Char) : Nat :=
  if countsBytes then column + 1
  else
    match c with
    | '\x08' => column - 1
    | '\r' => 0
    | '\t' => column + 8 - column % 8
    | _ => column + 1

/-- The column at the end of a text. -/
def columnOf (countsBytes : Bool) (cs : List Char) : Nat :=
  cs.foldl (columnAfter countsBytes) 0

/-- Breaks a text into lines that are no longer than a width. `line` holds the characters of the
line so far, the last one first. -/
def folded (width : Nat) (countsBytes atBlanks : Bool) :
    Nat → List Char → Nat → List Char → List Char → List Char
  | 0, line, _, _, done => (line ++ done).reverse
  | _, line, _, [], done => (line ++ done).reverse
  | fuel + 1, line, column, c :: rest, done =>
    if c == '\n' then
      folded width countsBytes atBlanks fuel [] 0 rest ('\n' :: line ++ done)
    else
      let next := columnAfter countsBytes column c
      if next ≤ width then folded width countsBytes atBlanks fuel (c :: line) next rest done
      else
        let isBlank (c : Char) : Bool := c == ' ' || c == '\t'
        let tail := if atBlanks then line.takeWhile (!isBlank ·) else []
        let head := line.drop tail.length
        if atBlanks && !head.isEmpty then
          let column := columnOf countsBytes tail.reverse
          folded width countsBytes atBlanks fuel tail column (c :: rest) ('\n' :: head ++ done)
        else if line.isEmpty then
          folded width countsBytes atBlanks fuel [c] next rest done
        else folded width countsBytes atBlanks fuel [] 0 (c :: rest) ('\n' :: line ++ done)

def fold (c : Call) : Answer :=
  let args := c.args.map fun word =>
    match word.toList with
    | '-' :: d :: ds =>
      if (d :: ds).all Char.isDigit then "-w" ++ String.ofList (d :: ds) else word
    | _ => word
  let c : Call := { c with args }
  c.withOptions (.of "bsw:" ["bytes=b", "spaces=s", "width=w"]) 1 fun w =>
    let given := (w.value? ["w"]).getD "80"
    match given.toNat? with
    | some (width + 1) =>
      let (a, texts) := readAll c w.operands
      texts.foldl (fun a (_, text) =>
        let cs := folded (width + 1) (w.has ["b"]) (w.has ["s"]) (2 * text.length + 2) [] 0
          text.toList []
        a.print (String.ofList cs)) a
    | some 0 =>
      c.fail c.start s!"invalid number of columns: {cited given}: Numerical result out of range"
    | none => c.fail c.start s!"invalid number of columns: {cited given}"

/-! ## Tabs -/

/-- Where tabs lead: to columns of a list, and then to multiples of a number. -/
structure TabStops where
  columns : List Nat := []
  every : Option Nat := some 8
  /-- Multiples count from the last column of the list. -/
  fromLast : Bool := false

/-- The next stop after a column, if there is one. -/
def TabStops.next? (t : TabStops) (column : Nat) : Option Nat :=
  match t.columns.find? (column < ·) with
  | some stop => some stop
  | none =>
    t.every.map fun n =>
      let start := if t.fromLast then t.columns.getLastD 0 else 0
      start + ((column - start) / n + 1) * n

/-- The stops that lists of numbers denote. -/
def tabStopsOf (texts : List String) : Except String TabStops := do
  if texts.isEmpty then return {}
  let parts := (texts.flatMap (·.splitOn ",")).flatMap (·.splitOn " ") |>.filter (· != "")
  let (columns, every, fromLast) ← parts.foldlM
    (fun ((columns, every, fromLast) : List Nat × Option Nat × Bool) part => do
      let (mark, digits) := match part.toList with
        | '/' :: rest => ('/', rest)
        | '+' :: rest => ('+', rest)
        | rest => (' ', rest)
      match (String.ofList digits).toNat? with
      | none =>
        let rest := String.ofList (digits.dropWhile Char.isDigit)
        throw s!"tab size contains invalid character(s): '{rest}'"
      | some 0 => throw "tab size cannot be 0"
      | some n =>
        if mark == ' ' then
          if (columns.getLast?).any (n ≤ ·) then throw "tab sizes must be ascending"
          return (columns ++ [n], every, fromLast)
        else return (columns, some n, mark == '+')) ([], none, false)
  match columns, every with
  | [], none => return {}
  | [n], none => return { columns := [], every := some n }
  | columns, every => return { columns, every, fromLast }

/-- Turns tabs into blanks. With `onlyFirst`, only those before the first other character of a
line. -/
def expandText (t : TabStops) (onlyFirst : Bool) (text : String) : String :=
  (text.foldl (fun ((done, column, active) : String × Nat × Bool) c =>
    match c with
    | '\n' => (done.push c, 0, true)
    | '\t' =>
      if !active then (done.push c, column, active)
      else
        let stop := (t.next? column).getD (column + 1)
        (done ++ String.ofList (List.replicate (stop - column) ' '), stop, active)
    | '\x08' => (done.push c, column - 1, active && !onlyFirst)
    | c => (done.push c, column + 1, active && (!onlyFirst || c == ' '))) ("", 0, true)).1

/-- How far a line has come in which blanks are turned into tabs. -/
structure Untabbing where
  done : String := ""
  column : Nat := 0
  /-- Blanks that may become a tab. -/
  pending : List Char := []
  /-- The first of them ended at a stop. -/
  endsAtStop : Bool := false
  afterBlank : Bool := true
  active : Bool := true

namespace Untabbing

/-- The pending blanks with a tab as the first one. -/
def tabFirst (pending : List Char) : List Char :=
  match pending with
  | _ :: rest => '\t' :: rest
  | [] => []

/-- Writes a character after the pending blanks. -/
def write (u : Untabbing) (c : Char) : Untabbing :=
  let pending := if 1 < u.pending.length && u.endsAtStop then tabFirst u.pending else u.pending
  { u with
    done := (u.done ++ String.ofList pending).push c
    pending := []
    endsAtStop := u.endsAtStop && pending.isEmpty }

/-- Takes a blank or a tab. -/
def takeBlank (t : TabStops) (u : Untabbing) (c : Char) : Untabbing :=
  match t.next? u.column with
  | none => { u.write c with active := false, afterBlank := true }
  | some stop =>
    let spare (pending : List Char) : List Char := if u.endsAtStop then pending.take 1 else []
    if c == '\t' then
      { { u with column := stop, pending := spare (tabFirst u.pending) }.write '\t' with
        afterBlank := true }
    else
      let column := u.column + 1
      if u.afterBlank && column = stop then
        { { u with column, pending := spare ['\t'] }.write '\t' with afterBlank := true }
      else
        { u with
          column
          pending := u.pending ++ [c]
          endsAtStop := u.endsAtStop || column = stop
          afterBlank := true }

/-- Takes a character. With `onlyFirst`, a line is left as it is after its first blanks. -/
def take (t : TabStops) (onlyFirst : Bool) (u : Untabbing) (c : Char) : Untabbing :=
  if c == '\n' then { done := (u.write c).done }
  else if !u.active then { u with done := u.done.push c }
  else if c == ' ' || c == '\t' then u.takeBlank t c
  else
    let column := if c == '\x08' then u.column - 1 else u.column + 1
    { { u with column }.write c with afterBlank := false, active := !onlyFirst }

end Untabbing

/-- Turns blanks into tabs. With `onlyFirst`, only those at the start of a line. -/
def unexpandText (t : TabStops) (onlyFirst : Bool) (text : String) : String :=
  let u := text.foldl (Untabbing.take t onlyFirst) {}
  let pending := if 1 < u.pending.length && u.endsAtStop then Untabbing.tabFirst u.pending
    else u.pending
  u.done ++ String.ofList pending

/-- The words of a call with lists of stops as the option that they stand for. -/
def withStops (args : List String) : List String :=
  args.map fun word =>
    match word.toList with
    | '-' :: d :: ds => if d.isDigit then "-t" ++ String.ofList (d :: ds) else word
    | _ => word

def expand (c : Call) : Answer :=
  let c : Call := { c with args := withStops c.args }
  c.withOptions (.of "it:" ["tabs=t", "initial=i"]) 1 fun w =>
    match tabStopsOf ((w.options.filter (·.1 == "t")).map (·.2)) with
    | .error text => c.fail c.start text
    | .ok stops =>
      let (a, texts) := readAll c w.operands
      a.print (expandText stops (w.has ["i"]) (String.join (texts.map (·.2))))

def unexpand (c : Call) : Answer :=
  let c : Call := { c with args := withStops c.args }
  c.withOptions (.of "at:" ["tabs=t", "all=a", "first-only"]) 1 fun w =>
    match tabStopsOf ((w.options.filter (·.1 == "t")).map (·.2)) with
    | .error text => c.fail c.start text
    | .ok stops =>
      let onlyFirst := w.has ["first-only"] || !w.has ["a", "t"]
      let (a, texts) := readAll c w.operands
      a.print (unexpandText stops onlyFirst (String.join (texts.map (·.2))))

end Bindery.Utility
