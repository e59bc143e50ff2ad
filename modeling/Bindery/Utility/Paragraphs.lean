import Bindery.Utility.Display

/-!
# Paragraphs

`fmt` fills the lines of paragraphs. Where lines are broken is chosen for a paragraph as a whole:
each line has a cost that grows with its distance from the length aimed at, and breaks are dear or
cheap by the words around them. The cheapest way to break the rest of a paragraph from each word on
is worked out from the last word to the first.
-/

namespace Bindery.Utility

namespace Paragraph

/-- What is asked for. -/
structure Plan where
  /-- The length that lines stay below. -/
  width : Nat := 75
  /-- The length that lines are to have. -/
  goal : Nat := 70
  /-- Only lines that begin with this are filled. -/
  lead : String := ""
  /-- Blanks before the lead. -/
  leadSpace : Nat := 0
  /-- The length of the lead with the blanks after it. -/
  fullLength : Nat := 0
  /-- The second line of a paragraph tells how far the others are indented. -/
  crown : Bool := false
  /-- As with `crown`, and a first line indented as the second one is a paragraph by itself. -/
  tagged : Bool := false
  /-- Lines are broken, but not joined. -/
  splits : Bool := false
  /-- One blank between words, and two after sentences. -/
  uniform : Bool := false

structure Word where
  text : String
  /-- Blanks after the word. -/
  space : Nat := 1
  /-- It begins as something in parentheses does. -/
  opens : Bool := false
  punctuated : Bool := false
  /-- It ends as a sentence does. -/
  period : Bool := false
  /-- It is the last one of a sentence. -/
  final : Bool := false
  deriving Inhabited

namespace Word

def length (w : Word) : Nat := w.text.length

def isOpening (c : Char) : Bool := ['(', '[', '\x60', '\'', '"'].contains c

def isClosing (c : Char) : Bool := [')', ']', '\'', '"'].contains c

def isEnding (c : Char) : Bool := ['.', '?', '!'].contains c

def isPunctuation (c : Char) : Bool :=
  '!' ≤ c && c ≤ '~' && !c.isAlphanum

/-- What a word tells by its first and last characters. -/
def of (text : List Char) : Word :=
  let last := text.reverse
  let body := last.dropWhile isClosing
  let ending := if body.isEmpty then text.headD ' ' else body.headD ' '
  { text := String.ofList text
    opens := isOpening (text.headD ' ')
    punctuated := isPunctuation (last.headD ' ')
    period := isEnding ending }

end Word

/-! ## Costs -/

def square (n : Int) : Int := n * n

/-- The cost of a line that is so much shorter or longer than it is to be. -/
def shortCost (n : Int) : Int := square (n * 10)

/-- The cost of two lines whose lengths differ so much. -/
def raggedCost (n : Int) : Int := shortCost n / 2

/-- The cost of a line that begins with a word; `before` are the words before it, the nearest one
first. -/
def startCost (before : Option Word × Option Word) (w : Word) : Int :=
  let line := square 70
  let line := match before with
    | (none, _) => line
    | (some last, earlier) =>
      if last.period then
        if last.final then line - square 50 else line + square 600
      else if last.punctuated then line - square 40
      else if earlier.any (·.final) then line + square 200 / ((last.length : Int) + 2)
      else line
  if w.opens then line - square 40
  else if w.final then line + square 150 / ((w.length : Int) + 2)
  else line

/-- The cheapest way to break the words from one on. -/
structure Break where
  cost : Int := 0
  /-- The word with which the next line begins. -/
  next : Nat := 0
  /-- The length of the first line. -/
  length : Nat := 0
  deriving Inhabited

/-- Tries longer and longer first lines; `length` is that of the line up to the word `w`. -/
def lengthen (p : Plan) (words : Array Word) (breaks : Array Break) :
    Nat → Nat → Nat → Option Break → Option Break
  | 0, _, _, best => best
  | fuel + 1, w, length, best =>
    let w := w + 1
    let rest := breaks[w]!
    let lineCost : Int :=
      if w = words.size then 0
      else
        let short := shortCost ((p.goal : Int) - length)
        if rest.next = words.size then short
        else short + raggedCost ((length : Int) - rest.length)
    let cost := lineCost + rest.cost
    let best := if best.all (cost < ·.cost) then some ⟨cost, w, length⟩ else best
    if w = words.size then best
    else
      let longer := length + words[w - 1]!.space + words[w]!.length
      if longer < p.width then lengthen p words breaks fuel w longer best else best

/-- The cheapest breaks from each word on. `first` and `other` are how far lines are indented. -/
def breaks (p : Plan) (words : Array Word) (first other : Nat) : Array Break :=
  let start : Array Break := Array.replicate (words.size + 1) {}
  (List.range words.size).foldr (fun i found =>
    let word := words[i]!
    let length := (if i = 0 then first else other) + word.length
    match lengthen p words found (words.size + 1) i length none with
    | none => found
    | some best =>
      let before := if i = 0 then none else words[i - 1]?
      let earlier := if i < 2 then none else words[i - 2]?
      found.set! i { best with cost := best.cost + startCost (before, earlier) word }) start

/-! ## Lines -/

/-- What was written so far. -/
structure Output where
  text : String := ""
  column : Nat := 0
  /-- There were tabs in what was read, so that there are in what is written. -/
  tabs : Bool := false
  /-- How far the lines of the last paragraph are indented after the first one. -/
  other : Nat := 0

namespace Output

def put (o : Output) (text : String) : Output :=
  { o with text := o.text ++ text, column := o.column + text.length }

/-- Goes on to a column by tabs. -/
def tabTo (target : Nat) : Nat → Output → Output
  | 0, o => o
  | fuel + 1, o =>
    if o.column < target then
      tabTo target fuel { o with text := o.text.push '\t', column := (o.column / 8 + 1) * 8 }
    else o

def putSpace (o : Output) (count : Nat) : Output :=
  let target := o.column + count
  let tabTarget := target / 8 * 8
  let o := if o.tabs && o.column + 1 < tabTarget then tabTo tabTarget (count + 1) o else o
  { o with text := o.text.pushn ' ' (target - o.column), column := target }

def endLine (o : Output) : Output := { o with text := o.text.push '\n', column := 0 }

end Output

/-- Writes the line of the words from one up to another. -/
def putLine (p : Plan) (o : Output) (words : Array Word) (leadIndent indent start stop : Nat) :
    Output :=
  let o := ({ o with column := 0 }.putSpace leadIndent).put p.lead
  let o := o.putSpace (indent - o.column)
  let line := (words.extract start stop).toList
  let o := (line.dropLast).foldl (fun o w => (o.put w.text).putSpace w.space) o
  match line.getLast? with
  | some w => (o.put w.text).endLine
  | none => o.endLine

/-- Writes the lines from a word on. -/
def putLines (p : Plan) (words : Array Word) (found : Array Break) (leadIndent other : Nat) :
    Nat → Nat → Output → Output
  | 0, _, o => o
  | fuel + 1, start, o =>
    if words.size ≤ start then o
    else
      let stop := found[start]!.next
      putLines p words found leadIndent other fuel stop
        (putLine p o words leadIndent other start stop)

/-- Writes a paragraph. -/
def putWords (p : Plan) (o : Output) (words : Array Word) (leadIndent first other : Nat) :
    Output :=
  let found := breaks p words first other
  let stop := found[0]!.next
  let o := putLine p o words leadIndent first 0 stop
  putLines p words found leadIndent other words.size stop o

/-! ## What is read -/

/-- A line: the blanks before the lead, the column where the text begins, and the text. -/
structure Line where
  leadIndent : Nat
  column : Nat
  text : List Char
  /-- There is a line end after it. -/
  isEnded : Bool := true
  /-- There is a tab before the text. -/
  hasTab : Bool := false

/-- The column after blanks, and what follows them. -/
def skipSpace (column : Nat) : List Char → Nat × List Char
  | ' ' :: rest => skipSpace (column + 1) rest
  | '\t' :: rest => skipSpace ((column / 8 + 1) * 8) rest
  | rest => (column, rest)

/-- Goes along the lead as far as it is there. -/
def skipLead (column : Nat) : List Char → List Char → Nat × List Char × Bool
  | [], cs => (column, cs, true)
  | l :: lead, c :: cs => if l == c then skipLead (column + 1) lead cs else (column, c :: cs, false)
  | _ :: _, [] => (column, [], false)

def Line.of (p : Plan) (cs : List Char) (isEnded : Bool) : Line :=
  let (column, rest) := skipSpace 0 cs
  let line (leadIndent column : Nat) (text : List Char) : Line :=
    let hasTab := (cs.take (cs.length - text.length)).contains '\t'
    { leadIndent, column, text, isEnded, hasTab }
  if p.lead.isEmpty then line (min p.leadSpace column) column rest
  else
    let (after, rest, isWhole) := skipLead column p.lead.toList rest
    if isWhole then
      let (after, rest) := skipSpace after rest
      line column after rest
    else line column after rest

/-- Whether a line is one that is filled. -/
def Line.isFilled (p : Plan) (l : Line) : Bool :=
  !l.text.isEmpty && p.leadSpace ≤ l.leadIndent && l.leadIndent + p.fullLength ≤ l.column

def isBlank (c : Char) : Bool := c == ' ' || ('\t' ≤ c && c ≤ '\r')

/-- The words of a text with the blanks after them. -/
def wordsOf (p : Plan) : Nat → Nat → List Char → List Word → List Word
  | 0, _, _, found => found.reverse
  | fuel + 1, column, cs, found =>
    let text := cs.takeWhile (!isBlank ·)
    if cs.isEmpty then found.reverse
    else
      -- other blanks than spaces and tabs begin words
      let text := if text.isEmpty then cs.take 1 ++ (cs.drop 1).takeWhile (!isBlank ·) else text
      let column := column + text.length
      let (after, rest) := skipSpace column (cs.drop text.length)
      let word := Word.of text
      let isLast := rest.isEmpty
      let final := isLast && word.period || (word.period && 1 < after - column)
      let space := if isLast || p.uniform then (if final then 2 else 1) else after - column
      wordsOf p fuel after rest ({ word with space, final } :: found)

/-- Writes a line that is not filled. -/
def putRest (p : Plan) (o : Output) (l : Line) : Output :=
  let o := { o with column := 0 }
  let isBare := l.text.isEmpty
  let o :=
    if l.leadIndent < l.column || !isBare then
      let o := o.putSpace l.leadIndent
      let o := o.put (String.ofList (p.lead.toList.take (l.column - o.column)))
      if isBare then o else o.putSpace (l.column - o.column)
    else o
  let o := o.put (String.ofList l.text)
  let isLead := isBare && l.leadIndent < l.column && l.leadIndent + p.lead.length ≤ l.column
  if l.isEnded || isLead then o.endLine else o

/-- The lines of a paragraph after its first one, and how far they are indented; `last` is how far
those of the paragraph before it were. -/
def others (p : Plan) (last : Nat) (first : Line) (rest : List Line) : Nat × List Line :=
  let isSame (l : Line) : Bool :=
    l.leadIndent = first.leadIndent && l.isFilled { p with leadSpace := 0 }
  let run (column : Nat) : List Line := rest.takeWhile fun l => isSame l && l.column = column
  let next := rest.head?.filter isSame
  if p.splits then (first.column, [])
  else if p.crown then
    match next with
    | some next => (next.column, run next.column)
    | none => (first.column, [])
  else if p.tagged then
    match next.filter (·.column != first.column) with
    | some next => (next.column, run next.column)
    | none =>
      if last != first.column then (last, []) else (if first.column = 0 then 3 else 0, [])
  else (first.column, run first.column)

/-- Fills the lines of a file. -/
def fill (p : Plan) : Nat → List Line → Output → Output
  | 0, _, o | _, [], o => o
  | fuel + 1, l :: rest, o =>
    let o := { o with tabs := o.tabs || l.hasTab }
    if !l.isFilled p then fill p fuel rest (putRest p o l)
    else
      let (other, more) := others p o.other l rest
      let lines := l :: more
      let after := rest.drop more.length
      let tabs := o.tabs || lines.any (fun l => l.hasTab || l.text.contains '\t') ||
        after.head?.any (·.hasTab)
      let words := (lines.flatMap fun l => wordsOf p (l.text.length + 1) l.column l.text []).toArray
      let words := words.modify (words.size - 1) fun w => { w with period := true, final := true }
      fill p fuel after (putWords p { o with tabs, other } words l.leadIndent l.column other)

/-- A text with its paragraphs filled. -/
def filled (p : Plan) (text : String) : String :=
  let lines := (linesOf text).map fun line =>
    Line.of p (withoutEnd line).toList (line.endsWith "\n")
  (fill p (lines.length + 1) lines {}).text

/-- What a lead says about the lines that are filled. -/
def Plan.withLead (p : Plan) (lead : String) : Plan :=
  let cs := lead.toList
  let space := (cs.takeWhile (· == ' ')).length
  let body := cs.drop space
  let short := (body.reverse.dropWhile (· == ' ')).reverse
  { p with lead := String.ofList short, leadSpace := space, fullLength := body.length }

end Paragraph

open Paragraph in
/-- Fills the lines of paragraphs. -/
def fmt (c : Call) : Answer :=
  let form := OptionForm.of "cstuw:p:g:" ["crown-margin=c", "split-only=s", "tagged-paragraph=t",
    "uniform-spacing=u", "width=w", "prefix=p", "goal=g"]
  let args := match c.args with
    | first :: rest =>
      match first.toList with
      | '-' :: d :: ds => if d.isDigit then "-w" :: String.ofList (d :: ds) :: rest else c.args
      | _ => c.args
    | [] => []
  let call := { c with args }
  call.withOptions form 1 fun w =>
    let size (name : String) (most : Nat) : Except String (Option Nat) :=
      match w.value? [name] with
      | none => .ok none
      | some text =>
        match text.toNat? with
        | some n =>
          if n ≤ most then .ok (some n)
          else .error s!"invalid width: {cited text}: Numerical result out of range"
        | none => .error s!"invalid width: {cited text}"
    let sizes : Except String (Nat × Nat) := do
      let width ← size "w" 2500
      let goal ← size "g" (width.getD 75)
      match width, goal with
      | none, none => return (75, 70)
      | some width, none => return (width, width * 187 / 200)
      | none, some goal => return (goal + 10, goal)
      | some width, some goal => return (width, goal)
    match sizes with
    | .error text => c.start.fail s!"{c.name}: {text}" 1
    | .ok (width, goal) =>
      let plan : Paragraph.Plan :=
        { width
          goal
          crown := w.has ["c"]
          tagged := w.has ["t"]
          splits := w.has ["s"]
          uniform := w.has ["u"] }
      let plan := plan.withLead ((w.value? ["p"]).getD "")
      let words := if w.operands.isEmpty then ["-"] else w.operands
      words.foldl (fun a word =>
        match c.read a word with
        | (.ok text, a) => a.print (filled plan text)
        | (.error e, a) =>
          if e = .isDirectory then c.fail a "read error"
          else c.fail a s!"cannot open {quoted word} for reading: {e.reason}") c.start

end Bindery.Utility
