import Bindery.Regex.Parser
import Bindery.Regex.Search
import Bindery.Text.Units
import Bindery.Utility.Difference.Matching
import Bindery.Utility.Errand
import Std.Data.HashMap

/-!
# Differences

The utilities that compare files. `cmp` finds the first byte in which two files differ; `diff` finds
the fewest lines that have to be removed and added to make one file of the other.
-/

namespace Bindery.Utility

/-! ## Bytes -/

/-- How many bytes two texts have in common at their front. -/
def commonStart : Nat → List Char → List Char → Nat
  | n, x :: xs, y :: ys => if x == y then commonStart (n + 1) xs ys else n
  | n, _, _ => n

/-- A byte as it is shown: its number in octal digits. -/
def octalByte (c : Char) : String :=
  let digits := Nat.toDigits 8 c.toNat
  padLeft 3 (String.ofList digits)

/-- A byte with marks for what cannot be seen. -/
def markedByte (c : Char) : String :=
  let low (n : Nat) : String :=
    if n < 32 then s!"^{Char.ofNat (n + 64)}" else if n = 127 then "^?" else s!"{Char.ofNat n}"
  if 128 ≤ c.toNat then "M-" ++ low (c.toNat - 128) else low c.toNat

/-- A number of bytes to be skipped in either file. -/
def skipOf? (text : String) : Option (Nat × Nat) :=
  match text.splitOn ":" with
  | [one] => (Size.parse? one).map fun n => (n, n)
  | [one, two] => do return (← Size.parse? one, ← Size.parse? two)
  | _ => none

def cmp (c : Call) : Answer :=
  let form : OptionForm := .of "bci:ln:sv" ["print-bytes=b", "print-chars=c", "ignore-initial=i",
    "verbose=l", "bytes=n", "silent=s", "quiet=s"]
  c.withOptions form 2 fun w =>
    let skip := ((w.value? ["i"]).bind skipOf?).getD (0, 0)
    match w.operands with
    | [] => c.misuse s!"missing operand after '{c.name}'" 2
    | left :: rest =>
      let right := rest.headD "-"
      let number (i : Nat) : Option Nat := (rest[i]?).bind Size.parse?
      let skip := ((number 1).getD skip.1, (number 2).getD skip.2)
      let (x, a) := c.read c.start left
      let (y, a) := c.read a right
      match x, y with
      | .error e, _ => a.fail s!"{c.name}: {left}: {e.reason}" 2
      | _, .error e => a.fail s!"{c.name}: {right}: {e.reason}" 2
      | .ok x, .ok y =>
        let limit (cs : List Char) : List Char :=
          match (w.value? ["n"]).bind Size.parse? with
          | some n => cs.take n
          | none => cs
        let xs := limit (x.toList.drop skip.1)
        let ys := limit (y.toList.drop skip.2)
        let silent := w.has ["s"]
        if w.has ["l"] && !silent then
          let width := (toString (min xs.length ys.length)).length
          let pairs := (xs.zip ys).zipIdx.filter fun ((p, q), _) => p != q
          let text := String.join (pairs.map fun ((p, q), i) =>
            padLeft width (toString (i + 1)) ++ " " ++
              if w.has ["b"] then
                octalByte p ++ " " ++ padRight 4 (markedByte p) ++ " " ++ octalByte q ++ " " ++
                  markedByte q ++ "\n"
              else octalByte p ++ " " ++ octalByte q ++ "\n")
          let a := a.print text
          let a := if pairs.isEmpty then a else { a with status := 1 }
          if xs.length = ys.length then a
          else
            let short := if xs.length < ys.length then left else right
            let length := min xs.length ys.length
            if length = 0 then a.fail s!"{c.name}: EOF on {short} which is empty" 1
            else a.fail s!"{c.name}: EOF on {short} after byte {length}" 1
        else
          let same := commonStart 0 xs ys
          if same = xs.length && same = ys.length then a
          else if silent then { a with status := 1 }
          else
            let lines := (xs.take same).count '\n'
            match xs[same]?, ys[same]? with
            | some p, some q =>
              let bytes := if w.has ["b", "c"] then
                  s!" is {octalByte p} {markedByte p} {octalByte q} {markedByte q}"
                else ""
              let unit := if w.has ["b", "c"] then "byte" else "char"
              let text := s!"{left} {right} differ: {unit} {same + 1}, line {lines + 1}{bytes}\n"
              { a.print text with status := 1 }
            | p, _ =>
              let short := if p.isNone then left else right
              if same = 0 then a.fail s!"{c.name}: EOF on {short} which is empty" 1
              else
                let inLine := xs[same - 1]? != some '\n'
                let line := if inLine then s!"in line {lines + 1}" else s!"line {lines}"
                a.fail s!"{c.name}: EOF on {short} after byte {same}, {line}" 1

/-! ## Reports -/

/-- The forms of reports. -/
inductive ReportForm where
  | plain
  | unified (around : Nat)
  | context (around : Nat)
  /-- A script for an editor. -/
  | script
  /-- The same from the first change on, with the commands before the numbers. -/
  | forward
  /-- Commands with numbers of lines to be removed and added. -/
  | counted
  /-- Both files beside each other. -/
  | columns
  deriving DecidableEq

namespace ReportForm

/-- How many lines are shown around changes. -/
def around : ReportForm → Nat
  | unified n | context n => n
  | _ => 0

/-- Whether a last line without a line end cannot be told from one that has it. -/
def isLoose (f : ReportForm) : Bool := f = .script || f = .forward

end ReportForm

/-- How lines are compared, and how changes are reported. -/
structure DiffStyle where
  ignoresCase : Bool := false
  /-- Blanks are left out, or runs of them are the same, or those at the end of lines. -/
  ignoresBlanks : Bool := false
  foldsBlanks : Bool := false
  ignoresTrailing : Bool := false
  ignoresEmpty : Bool := false
  form : ReportForm := .plain
  /-- The width of a report with both files beside each other. -/
  width : Nat := 130
  /-- Lines of both files are shown once, or not at all. -/
  leftOnly : Bool := false
  hidesCommon : Bool := false
  /-- Lines that tell where a change is. -/
  landmark : Option Pattern := none
  brief : Bool := false
  tellsSame : Bool := false
  recursive : Bool := false
  missingIsEmpty : Bool := false
  asText : Bool := false
  /-- No lines are left out of the search for the fewest changes. -/
  minimal : Bool := false
  labels : List String := []
  /-- The options as a line before the changes of a file shows them. -/
  options : List String := []

namespace DiffStyle

/-- Lines are equal only if all their characters are. -/
def comparesAll (s : DiffStyle) : Bool :=
  !(s.ignoresCase || s.ignoresBlanks || s.foldsBlanks || s.ignoresTrailing || s.form.isLoose)

def isBlank (c : Char) : Bool := c == ' ' || c == '\t' || c == '\r' || c == '\x0b' || c == '\x0c'

/-- What is compared of a line. -/
def reduced (s : DiffStyle) (line : String) : String :=
  let cs := line.toList
  let cs := if s.ignoresBlanks then cs.filter (!isBlank ·)
    else if s.foldsBlanks then
      let runs := cs.splitBy fun a b => isBlank a == isBlank b
      let text := runs.flatMap fun run => if run.any isBlank then [' '] else run
      if text.getLast? == some ' ' then text.dropLast else text
    else if s.ignoresTrailing then (cs.reverse.dropWhile isBlank).reverse
    else cs
  String.ofList (if s.ignoresCase then cs.map Char.toLower else cs)

end DiffStyle

/-- A file that is compared: its name, its lines, and whether the last one ends. -/
structure DiffFile where
  name : String
  lines : Array String
  isEnded : Bool

/-- Numbers for texts, the same for the same texts. -/
def numbered (texts : List String) : Array Nat :=
  (texts.foldl (fun ((known, found) : Std.HashMap String Nat × Array Nat) text =>
    match known[text]? with
    | some n => (known, found.push n)
    | none => (known.insert text known.size, found.push known.size)) ({}, #[])).2

namespace DiffFile

/-- The file of a text. -/
def of (name text : String) : DiffFile :=
  { name, lines := (plainLines text).toArray
    isEnded := text.isEmpty || text.endsWith "\n" }

/-- A line with a mark before it, and a note if it is the last one and has no end. -/
def show_ (f : DiffFile) (mark : String) (i : Nat) : String :=
  let note := if !f.isEnded && i + 1 = f.lines.size then "\\ No newline at end of file\n" else ""
  mark ++ f.lines.getD i "" ++ "\n" ++ note

/-- Lines from one on, each with a mark before it. -/
def showAll (f : DiffFile) (mark : String) (start count : Nat) : String :=
  String.join ((List.range count).map fun i => f.show_ mark (start + i))

end DiffFile

/-- The numbers of lines, from the one after `start`, as reports show them. -/
def rangeText (start count : Nat) : String :=
  if count = 0 then toString start
  else if count = 1 then toString (start + 1)
  else s!"{start + 1},{start + count}"

/-- A report that says what to do. -/
def plainReport (x y : DiffFile) (changes : List Change) : String :=
  String.join (changes.map fun c =>
    let letter := if c.removed = 0 then "a" else if c.added = 0 then "d" else "c"
    let middle := if c.removed != 0 && c.added != 0 then "---\n" else ""
    rangeText c.first c.removed ++ letter ++ rangeText c.second c.added ++ "\n" ++
      x.showAll "< " c.first c.removed ++ middle ++ y.showAll "> " c.second c.added)

/-- The letter of a change. -/
def Change.letter (c : Change) : String :=
  if c.removed = 0 then "a" else if c.added = 0 then "d" else "c"

/-- Added lines as an editor takes them: a point alone would end them. -/
def typedLines (isTyping : Bool) : List String → String
  | [] => if isTyping then ".\n" else ""
  | line :: rest =>
    let start := if isTyping then "" else "a\n"
    if line == "." then start ++ "..\n.\ns/.//\n" ++ typedLines false rest
    else start ++ line ++ "\n" ++ typedLines true rest

/-- The added lines of a change. -/
def DiffFile.added (f : DiffFile) (c : Change) : List String :=
  (List.range c.added).map fun i => f.lines.getD (c.second + i) ""

/-- A report that is a script for an editor, the last change first. -/
def scriptReport (y : DiffFile) (changes : List Change) : String :=
  String.join (changes.reverse.map fun c =>
    let text := if c.added = 0 then "" else typedLines true (y.added c)
    rangeText c.first c.removed ++ c.letter ++ "\n" ++ text)

/-- A report with commands before numbers, the first change first. -/
def forwardReport (y : DiffFile) (changes : List Change) : String :=
  String.join (changes.map fun c =>
    let text := if c.added = 0 then "" else
      String.join ((y.added c).map (· ++ "\n")) ++ ".\n"
    c.letter ++ (rangeText c.first c.removed).replace "," " " ++ "\n" ++ text)

/-- A report that counts the lines to be removed and added. -/
def countedReport (y : DiffFile) (changes : List Change) : String :=
  String.join (changes.map fun c =>
    let removal := if c.removed = 0 then "" else s!"d{c.first + 1} {c.removed}\n"
    let lines := y.added c
    let isOpen := !y.isEnded && c.second + c.added = y.lines.size
    let text := "\n".intercalate lines ++ if isOpen then "" else "\n"
    let addition := if c.added = 0 then "" else s!"a{c.first + c.removed} {c.added}\n" ++ text
    removal ++ addition)

/-! ### Files beside each other -/

/-- Where the columns are: the width of one, and where the second one begins. -/
def columnPlaces (width : Nat) : Nat × Nat :=
  let unaligned := width / 2 + 5 + width % 2
  let offset := unaligned - unaligned % 8
  if offset ≤ 3 || width ≤ offset then (0, width)
  else (min (offset - 3) (width - offset), offset)

/-- Goes from one column to another one. -/
def tabTo : Nat → Nat → Nat → String
  | 0, _, _ => ""
  | fuel + 1, start, stop =>
    let tab := start + 8 - start % 8
    if tab ≤ stop then "\t" ++ tabTo fuel tab stop else "".pushn ' ' (stop - start)

/-- As much of a line as a column holds; `place` is where it would be, `shown` where it is. -/
def columnText (bound place shown : Nat) : List Char → List Char → List Char × Nat
  | [], found => (found.reverse, shown)
  | '\t' :: rest, found =>
    let next := place + 8 - place % 8
    if place = shown && next < bound then columnText bound next next rest ('\t' :: found)
    else columnText bound next shown rest found
  | c :: rest, found =>
    if place < bound then columnText bound (place + 1) (place + 1) rest (c :: found)
    else columnText bound (place + 1) shown rest found

/-- A line of either file with a sign between them. Lines come with whether they end. -/
def pairText (width : Nat) (left : Option (String × Bool)) (sign : Char)
    (right : Option (String × Bool)) : String :=
  let (half, second) := columnPlaces width
  let (text, column) := match left with
    | some (line, _) => columnText half 0 0 line.toList []
    | none => ([], 0)
  let ends := left.any (·.2)
  let middle := (half + second - 1) / 2
  let sign := match right with
    | some (_, isEnded) =>
      if sign == '|' && ends != isEnded then (if ends then '/' else '\\') else sign
    | none => sign
  let (gap, column) :=
    if sign == ' ' then ("", column)
    else ((tabTo 64 column middle).push sign, middle + 1)
  let rest := match right with
    | some (line, _) =>
      if line.isEmpty then ""
      else
        tabTo 64 column second ++ String.ofList (columnText half 0 0 line.toList []).1
    | none => ""
  String.ofList text ++ gap ++ rest ++ if ends || right.any (·.2) then "\n" else ""

/-- A report with both files beside each other. -/
def columnsReport (s : DiffStyle) (x y : DiffFile) (changes : List Change) : String :=
  let line (f : DiffFile) (i : Nat) : String × Bool :=
    (f.lines.getD i "", f.isEnded || i + 1 != f.lines.size)
  let same (start second stop : Nat) : String :=
    if s.hidesCommon then ""
    else
      String.join ((List.range (stop - start)).map fun i =>
        if s.leftOnly then pairText s.width (some (line x (start + i))) '(' none
        else pairText s.width (some (line x (start + i))) ' ' (some (line y (second + i))))
  let (text, first, second) := changes.foldl
    (fun ((text, first, second) : String × Nat × Nat) c =>
      let pairs := (List.range (max c.removed c.added)).map fun i =>
        let left := if i < c.removed then some (line x (c.first + i)) else none
        let right := if i < c.added then some (line y (c.second + i)) else none
        let sign := if left.isNone then '>' else if right.isNone then '<' else '|'
        pairText s.width left sign right
      (text ++ same first second c.first ++ String.join pairs, c.first + c.removed,
        c.second + c.added)) ("", 0, 0)
  text ++ same first second x.lines.size

/-- The last line before one that tells where a change is, as reports show it. -/
def landmarkText (s : DiffStyle) (x : DiffFile) (start : Nat) : String :=
  match s.landmark with
  | none => ""
  | some p =>
    let before := (x.lines.extract 0 start).toList.reverse
    match before.find? fun line => p.isIn (Text.Octets.toBytes line) with
    | none => ""
    | some line =>
      let cs := ((line.toList.dropWhile DiffStyle.isBlank).take 40).reverse
      " " ++ String.ofList (cs.dropWhile DiffStyle.isBlank).reverse

/-- Changes in groups, which are so far from each other that the lines around them do not meet. -/
def hunksOf (around : Nat) : List Change → List (List Change)
  | [] => []
  | c :: rest =>
    match hunksOf around rest with
    | (next :: others) :: hunks =>
      if next.first ≤ c.first + c.removed + 2 * around then (c :: next :: others) :: hunks
      else [c] :: (next :: others) :: hunks
    | hunks => [c] :: hunks

/-- The lines of a hunk: how many are before it in either file, and how many it has. -/
def hunkBounds (around : Nat) (x y : DiffFile) (hunk : List Change) : Change :=
  match hunk, hunk.getLast? with
  | first :: _, some last =>
    let before := min around first.first
    let stop := last.first + last.removed
    let after := min around (x.lines.size - stop)
    let _ := y
    { first := first.first - before
      second := first.second - before
      removed := stop + after - (first.first - before)
      added := last.second + last.added + after - (first.second - before) }
  | _, _ => ⟨0, 0, 0, 0⟩

/-- The numbers of the lines of a hunk in one file. -/
def hunkRange (start count : Nat) : String :=
  if count = 0 then s!"{start},0"
  else if count = 1 then toString (start + 1) else s!"{start + 1},{count}"

/-- A report with lines around the changes, in which both files are run together. -/
def unifiedReport (s : DiffStyle) (around : Nat) (x y : DiffFile) (changes : List Change) :
    String :=
  String.join ((hunksOf around changes).map fun hunk =>
    let b := hunkBounds around x y hunk
    let (text, at_) := hunk.foldl (fun ((text, at_) : String × Nat) c =>
      (text ++ x.showAll " " at_ (c.first - at_) ++ x.showAll "-" c.first c.removed ++
        y.showAll "+" c.second c.added, c.first + c.removed)) ("", b.first)
    s!"@@ -{hunkRange b.first b.removed} +{hunkRange b.second b.added} @@" ++
      landmarkText s x b.first ++ "\n" ++ text ++
      x.showAll " " at_ (b.first + b.removed - at_))

/-- The numbers of the lines of a hunk in one file, the first and the last one. -/
def contextRange (start count : Nat) : String :=
  if count = 0 then toString start
  else if count = 1 then toString (start + 1) else s!"{start + 1},{start + count}"

/-- A report with lines around the changes, in which one file follows the other. -/
def contextReport (s : DiffStyle) (around : Nat) (x y : DiffFile) (changes : List Change) :
    String :=
  String.join ((hunksOf around changes).map fun hunk =>
    let b := hunkBounds around x y hunk
    let side (f : DiffFile) (start count : Nat) (part : Change → Nat × Nat) (mark : String)
        (show_ : Bool) : String :=
      if !show_ then ""
      else
        let (text, at_) := hunk.foldl (fun ((text, at_) : String × Nat) c =>
          let (first, n) := part c
          let mark := if c.removed != 0 && c.added != 0 then "! " else mark
          (text ++ f.showAll "  " at_ (first - at_) ++ f.showAll mark first n, first + n))
          ("", start)
        text ++ f.showAll "  " at_ (start + count - at_)
    "***************" ++ landmarkText s x b.first ++ "\n*** " ++
      contextRange b.first b.removed ++ " ****\n" ++
      side x b.first b.removed (fun c => (c.first, c.removed)) "- " (hunk.any (·.removed != 0)) ++
      "--- " ++ contextRange b.second b.added ++ " ----\n" ++
      side y b.second b.added (fun c => (c.second, c.added)) "+ " (hunk.any (·.added != 0)))

/-- How many lines two lists have in common at their front. -/
def commonLines : Nat → List Nat → List Nat → Nat
  | n, x :: xs, y :: ys => if x == y then commonLines (n + 1) xs ys else n
  | n, _, _ => n

/-- The changes from one file to another one. Equal lines at the start and the end are not looked
at, but for those that are shown around changes. -/
def changesBetween (s : DiffStyle) (x y : DiffFile) : List Change :=
  let marked (isLoose : Bool) (reduce : String → String) (f : DiffFile) : List String :=
    f.lines.toList.zipIdx.map fun (line, i) =>
      let isOpen := !f.isEnded && i + 1 = f.lines.size && !isLoose
      reduce line ++ if isOpen then "\x00" else "\n"
  let numbers (isLoose : Bool) (reduce : String → String) : Array Nat × Array Nat :=
    let all := numbered (marked isLoose reduce x ++ marked isLoose reduce y)
    (all.extract 0 x.lines.size, all.extract x.lines.size all.size)
  let isLoose := s.ignoresBlanks || s.foldsBlanks || s.ignoresTrailing || s.form.isLoose
  let (xs, ys) := numbers isLoose s.reduced
  let (rawFirst, rawSecond) := if s.comparesAll then (xs, ys) else
      numbers s.form.isLoose fun line => line
  let around := s.form.around
  let before := commonLines 0 rawFirst.toList rawSecond.toList - around
  let after := commonLines 0 (rawFirst.toList.drop before).reverse
    (rawSecond.toList.drop before).reverse - around
  let changes := changesFrom s.minimal xs ys before after
  if !s.ignoresEmpty then changes
  else
    changes.filter fun c =>
      let isEmpty (f : DiffFile) (start count : Nat) : Bool :=
        (List.range count).all fun i => (s.reduced (f.lines.getD (start + i) "")).isEmpty
      !(isEmpty x c.first c.removed && isEmpty y c.second c.added)

/-- The report of the changes from one file to another one. -/
def DiffStyle.report (s : DiffStyle) (x y : DiffFile) (changes : List Change) : String :=
  let title (i : Nat) (f : DiffFile) : String :=
    (s.labels[i]?).getD (f.name ++ "\t1970-01-01 00:00:00.000000000 +0000")
  match s.form with
  | .unified around =>
    s!"--- {title 0 x}\n+++ {title 1 y}\n" ++ unifiedReport s around x y changes
  | .context around =>
    s!"*** {title 0 x}\n--- {title 1 y}\n" ++ contextReport s around x y changes
  | .script => scriptReport y changes
  | .forward => forwardReport y changes
  | .counted => countedReport y changes
  | .columns => columnsReport s x y changes
  | .plain => plainReport x y changes

/-- Compares two texts. -/
def DiffStyle.compare (s : DiffStyle) (e : Errand) (first second x y : String)
    (title : String) : Errand :=
  let isBinary (text : String) : Bool := !s.asText && text.toList.contains '\x00'
  let differ (e : Errand) : Errand :=
    if e.answer.status = 0 then { e with answer := { e.answer with status := 1 } } else e
  let same := x == y
  if same then
    let e := if s.form = .columns then
        let f := DiffFile.of first x
        { e with answer := e.answer.print (columnsReport s f f []) }
      else e
    e.sayIf s.tellsSame s!"Files {first} and {second} are identical"
  else if isBinary x || isBinary y then
    if s.brief then differ (e.say s!"Files {first} and {second} differ")
    else
      let e := e.say s!"Binary files {first} and {second} differ"
      { e with answer := { e.answer with status := 2 } }
  else
    let a := DiffFile.of first x
    let b := DiffFile.of second y
    let changes := changesBetween s a b
    let open_ := if s.form.isLoose then [a, b].filter (!·.isEnded) else []
    let complain (e : Errand) : Errand :=
      open_.foldl (fun e f =>
        let e := e.fail s!"{f.name}: No newline at end of file\n"
        { e with answer := { e.answer with status := 2 } }) e
    if changes.isEmpty && s.form != .columns then
      if open_.isEmpty then
        e.sayIf s.tellsSame s!"Files {first} and {second} are identical"
      else complain e
    else if s.brief then differ (e.say s!"Files {first} and {second} differ")
    else
      let e := if changes.isEmpty then e else differ e
      complain { e with answer := e.answer.print (title ++ s.report a b changes) }

/-- Compares what two paths lead to. -/
def DiffStyle.run (s : DiffStyle) : Nat → Bool → Errand → String → String → Errand
  | 0, _, e, _, _ => e
  | fuel + 1, isOperand, e, first, second =>
    let trouble (e : Errand) (word : String) (cause : SystemError) : Errand :=
      let e := e.fail s!"{word}: {cause.reason}"
      { e with answer := { e.answer with status := 2 } }
    let isDirectory (word : String) : Bool := word != "-" && leadsToDirectory e.tree word
    match isDirectory first, isDirectory second with
    | true, true =>
      if !isOperand && !s.recursive then
        e.say s!"Common subdirectories: {first} and {second}"
      else
        let names (word : String) : List String :=
          ((placeBehind? e.tree word).map (namesIn e.tree)).getD []
        let xs := names first
        let ys := names second
        let all := ((xs ++ ys).mergeSort fun a b => decide (a ≤ b)).eraseDups
        let differ (e : Errand) : Errand :=
          if e.answer.status = 0 then { e with answer := { e.answer with status := 1 } } else e
        all.foldl (fun e name =>
          match xs.contains name, ys.contains name with
          | true, true => s.run fuel false e (inside first name) (inside second name)
          | inFirst, _ =>
            let here := if inFirst then first else second
            if s.missingIsEmpty && !leadsToDirectory e.tree (inside here name) then
              s.run fuel false e (inside first name) (inside second name)
            else differ (e.say s!"Only in {here}: {name}")) e
    | true, false =>
      if isOperand then s.run fuel isOperand e (inside first (lastPart second)) second
      else e.say s!"File {first} is a directory while file {second} is a regular file"
    | false, true =>
      if isOperand then s.run fuel isOperand e first (inside second (lastPart first))
      else e.say s!"File {first} is a regular file while file {second} is a directory"
    | false, false =>
      let (x, a) := e.call.read e.answer first
      let (y, a) := e.call.read a second
      let e := { e with answer := a }
      let read (r : Except SystemError String) : Except SystemError String :=
        match r with
        | .error cause => if s.missingIsEmpty && cause = .notFound then .ok "" else .error cause
        | r => r
      let title := if isOperand || !s.recursive then "" else
        " ".intercalate (["diff"] ++ s.options ++ [first, second]) ++ "\n"
      match read x, read y with
      | .ok x, .ok y => s.compare e first second x y title
      | .error cause, .ok _ => trouble e first cause
      | .ok _, .error cause => trouble e second cause
      | .error cause, .error other => trouble (trouble e first cause) second other

def diff (c : Call) : Answer :=
  let form : OptionForm := .of "0123456789abBcC:dD:eEfF:hHiI:lL:nNpPqrsS:tTuU:vwW:x:X:yZ"
    ["binary", "brief=q", "color::", "context::", "ed=e", "exclude=x", "expand-tabs=t",
      "ignore-all-space=w", "ignore-blank-lines=B", "ignore-case=i", "ignore-space-change=b",
      "ignore-tab-expansion=E", "ignore-trailing-space=Z", "label=L", "minimal=d", "new-file=N",
      "normal", "recursive=r", "report-identical-files=s", "show-c-function=p",
      "side-by-side=y", "speed-large-files=H", "strip-trailing-cr", "text=a", "unified::",
      "unidirectional-new-file=P", "width=W", "rcs=n", "forward-ed=f", "left-column",
      "suppress-common-lines", "show-function-line=F", "horizon-lines:", "tabsize:"]
  c.withOptions form 2 fun w =>
    let number (name : String) : Option Nat := (w.value? [name]).bind String.toNat?
    let given (name : String) : Option Nat :=
      (w.value? [name]).map fun text => (text.toNat?).getD 3
    let unified := (number "U").orElse fun _ => (given "unified").orElse fun _ =>
      if w.has ["u"] then some 3 else none
    let context := (number "C").orElse fun _ => (given "context").orElse fun _ =>
      if w.has ["c"] then some 3 else none
    let landmark := Pattern.parse { extended := false }
      ((w.value? ["F"]).getD (if w.has ["p"] then "^[[:alpha:]$_]" else "$^"))
    let form : ReportForm := match unified, context with
      | some n, _ => .unified n
      | none, some n => .context n
      | none, none =>
        if w.has ["e"] then .script
        else if w.has ["f"] then .forward
        else if w.has ["n"] then .counted
        else if w.has ["y"] then .columns
        else if w.has ["p"] then .context 3
        else .plain
    let landmark := if w.has ["p", "F"] then landmark else .error .unfinished
    let s : DiffStyle :=
      { ignoresCase := w.has ["i"]
        ignoresBlanks := w.has ["w"]
        foldsBlanks := w.has ["b"]
        ignoresTrailing := w.has ["Z"]
        ignoresEmpty := w.has ["B"]
        form
        width := (number "W").getD 130
        leftOnly := w.has ["left-column"]
        hidesCommon := w.has ["suppress-common-lines"]
        landmark := landmark.toOption
        brief := w.has ["q"]
        tellsSame := w.has ["s"]
        recursive := w.has ["r"]
        missingIsEmpty := w.has ["N"]
        asText := w.has ["a"]
        minimal := w.has ["d"]
        labels := (w.options.filter (·.1 == "L")).map (·.2)
        options := c.args.filter fun word => word.startsWith "-" && word != "-" }
    match w.operands with
    | [] => c.misuse s!"missing operand after '{c.args.getLastD c.name}'" 2
    | [only] => c.misuse s!"missing operand after '{only}'" 2
    | [first, second] => (s.run (c.tree.nodes.length + 2) true (Errand.start c) first second).answer
    | _ :: _ :: extra :: _ => c.misuse s!"extra operand '{extra}'" 2

end Bindery.Utility
