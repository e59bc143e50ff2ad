import Bindery.Regex.Parser
import Bindery.Utility.Basic

/-!
# Showing files

The utilities that copy files to the output, as they are, with marks, with numbers, or backwards.
What they have shown is a `Page`, which runs on from one file to the next.
-/

namespace Bindery.Utility

/-! ## Reading -/

/-- Reads files one after the other; those that cannot be read are told of in words of their own. -/
def readEach (c : Call) (words : List String) (complaint : String → SystemError → String) :
    Answer × List (String × String) :=
  (if words.isEmpty then ["-"] else words).foldl (fun (a, texts) word =>
    match c.read a word with
    | (.ok text, a) => (a, texts ++ [(word, text)])
    | (.error e, a) => (c.fail a (complaint word e), texts)) (c.start, [])

/-- Reads files one after the other; those that cannot be read are told of. -/
def readAll (c : Call) (words : List String) : Answer × List (String × String) :=
  readEach c words fun word e => s!"{shown word}: {e.reason}"

/-- The message about a file that cannot be opened, or cannot be read once it is open. -/
def openComplaint (verb : String) (word : String) (e : SystemError) : String :=
  let name := if word = "-" then "standard input" else word
  if e = .isDirectory then s!"error reading '{name}': {e.reason}"
  else s!"{verb} '{name}' for reading: {e.reason}"

/-! ## Marks -/

/-- How lines are shown. -/
structure LineStyle where
  /-- Numbers before lines: none, before all, or before those that are not empty. -/
  numbers : Option Bool := none
  /-- Several empty lines become one. -/
  squeezes : Bool := false
  showsEnds : Bool := false
  showsTabs : Bool := false
  /-- Characters that cannot be seen are shown by marks. -/
  showsControls : Bool := false

/-- A byte below 128 as marks show it. -/
def caretText (n : Nat) : String :=
  if n < 32 then s!"^{Char.ofNat (n + 64)}" else if n = 127 then "^?" else s!"{Char.ofNat n}"

/-- A byte as marks show it. -/
def visible (c : Char) : String :=
  if 128 ≤ c.toNat then "M-" ++ caretText (c.toNat - 128) else caretText c.toNat

/-- What has been shown. -/
structure Page where
  text : String := ""
  /-- The number of the next line. -/
  number : Nat := 1
  /-- Whether a line has been begun. -/
  midLine : Bool := false
  /-- The number of empty lines at the end, up to two. -/
  empties : Nat := 0
  /-- A carriage return is held back until it is known whether a line ends there. -/
  holdsReturn : Bool := false

namespace Page

/-- Begins a line with its number. -/
def putNumber (p : Page) : Page :=
  { p with text := p.text ++ padLeft 6 (toString p.number) ++ "\t", number := p.number + 1 }

/-- Ends a line. -/
def endLine (p : Page) (style : LineStyle) : Page :=
  let isEmpty := !p.midLine
  let empties := if isEmpty then min 2 (p.empties + 1) else 0
  let p := { p with empties, midLine := false }
  if empties = 2 && style.squeezes then p
  else
    let p := if isEmpty && style.numbers == some false then p.putNumber else p
    let mark := if !style.showsEnds then "" else if p.holdsReturn then "^M$" else "$"
    { p with text := p.text ++ mark ++ "\n", holdsReturn := false }

/-- Shows a byte. -/
def put (style : LineStyle) (p : Page) (c : Char) : Page :=
  if c == '\n' then p.endLine style
  else
    let p := if p.holdsReturn then { p with text := p.text.push '\r', holdsReturn := false } else p
    let p := if !p.midLine && style.numbers.isSome then p.putNumber else p
    let p := { p with midLine := true }
    if c == '\t' then { p with text := p.text ++ if style.showsTabs then "^I" else "\t" }
    else if style.showsControls then { p with text := p.text ++ visible c }
    else if c == '\r' && style.showsEnds then { p with holdsReturn := true }
    else { p with text := p.text.push c }

/-- The text of all that has been shown. -/
def finish (p : Page) : String := if p.holdsReturn then p.text.push '\r' else p.text

end Page

/-- Whether a word names the file that the output goes to, with more in it than was written. -/
def isOutput (c : Call) (word text : String) : Bool :=
  match c.output with
  | some (place, _) =>
    let source := if word = "-" then c.source.map (·.1)
      else (c.tree.seekLocation (pathOf word)).toOption
    source == some place && !text.isEmpty
  | none => false

def cat (c : Call) : Answer :=
  let form : OptionForm := .of "AbeEnstTuv" ["number-nonblank=b", "number=n", "squeeze-blank=s",
    "show-nonprinting=v", "show-ends=E", "show-tabs=T", "show-all=A"]
  c.withOptions form 1 fun w =>
    let style : LineStyle :=
      { numbers := if w.has ["b"] then some true else if w.has ["n"] then some false else none
        squeezes := w.has ["s"]
        showsEnds := w.has ["A", "e", "E"]
        showsTabs := w.has ["A", "t", "T"]
        showsControls := w.has ["A", "e", "t", "v"] }
    let isPlain := style.numbers.isNone && !style.squeezes && !style.showsEnds &&
      !style.showsTabs && !style.showsControls
    let words := if w.operands.isEmpty then ["-"] else w.operands
    let bad := SystemError.badDescriptor
    let close (a : Answer) : Answer :=
      if a.drains && !c.input.isOk then c.fail a s!"closing standard input: {bad.reason}" else a
    if c.mute then c.fail c.start s!"standard output: {bad.reason}"
    else
      let (a, page) := words.foldl (fun ((a, page) : Answer × Page) word =>
        match c.read a word with
        | (.ok text, a) =>
          if isOutput c word text then (c.fail a s!"{shown word}: input file is output file", page)
          else if isPlain then (a.print text, page)
          else
            let page := text.foldl (Page.put style) { page with text := "" }
            (a.print page.text, page)
        | (.error e, a) => (c.fail a s!"{shown word}: {e.reason}", page)) (c.start, {})
      close (if page.holdsReturn then a.print "\r" else a)

/-! ## Numbers -/

/-- Which lines are given numbers. -/
inductive NumberedLines where
  | all
  | filled
  | none
  | matching (pattern : Pattern)

/-- How lines are numbered. -/
structure Numbering where
  header : NumberedLines := .none
  body : NumberedLines := .filled
  footer : NumberedLines := .none
  start : Int := 1
  step : Int := 1
  /-- So many empty lines count as one. -/
  joined : Nat := 1
  separator : String := "\t"
  width : Nat := 6
  /-- `ln`, `rn` or `rz`: at the left, at the right, or with zeros. -/
  form : String := "rn"
  /-- Every page begins anew. -/
  resets : Bool := true
  /-- The two characters of the marks between sections. -/
  mark : String := "\\:"

namespace Numbering

/-- A number in its column. -/
def column (n : Numbering) (value : Int) : String :=
  let text := toString value
  match n.form with
  | "ln" => padRight n.width text
  | "rz" =>
    let digits := toString value.natAbs
    let sign := if value < 0 then "-" else ""
    sign ++ String.ofList (List.replicate (n.width - sign.length - digits.length) '0') ++ digits
  | _ => padLeft n.width text

/-- Numbers a line of a section, given the next number and how many empty lines there were. -/
def line (n : Numbering) (which : NumberedLines) (number : Int) (empties : Nat) (text : String) :
    String × Int × Nat :=
  let numbered := (n.column number ++ n.separator ++ text ++ "\n", number + n.step, 0)
  let blank := padLeft (n.width + n.separator.length) ""
  let bare := (blank ++ text ++ "\n", number, empties)
  match which with
  | .all =>
    if 1 < n.joined && text.isEmpty then
      if empties + 1 = n.joined then numbered else (blank ++ "\n", number, empties + 1)
    else numbered
  | .filled => if text.isEmpty then bare else numbered
  | .none => bare
  | .matching pattern => if pattern.isIn (Text.Octets.toBytes text) then numbered else bare

/-- Numbers lines, which may hold marks that begin sections. -/
def number (n : Numbering) (lines : List String) : String :=
  let mark (count : Nat) : String := String.join (List.replicate count n.mark)
  let reset (number : Int) : Int := if n.resets then n.start else number
  (lines.foldl (fun ((text, which, number, empties) : String × NumberedLines × Int × Nat) line =>
    let section? : Option NumberedLines :=
      if n.mark.isEmpty then none
      else if line = mark 3 then some n.header
      else if line = mark 2 then some n.body
      else if line = mark 1 then some n.footer else none
    match section? with
    | some which => (text ++ "\n", which, reset number, empties)
    | none =>
      let (shown, number, empties) := n.line which number empties line
      (text ++ shown, which, number, empties)) ("", n.body, n.start, 0)).1

/-- The lines that a style of numbers is for. -/
def linesOf? (text : String) : Option NumberedLines :=
  match text.toList with
  | ['a'] => some .all
  | ['t'] => some .filled
  | ['n'] => some .none
  | 'p' :: pattern =>
    (Pattern.parse { extended := false } (String.ofList pattern)).toOption.map .matching
  | _ => none

/-- Changes the numbering as an option says. -/
def withOption (n : Numbering) : String × String → Except String Numbering
  | ("b", text) =>
    match linesOf? text with
    | some body => .ok { n with body }
    | none => .error s!"invalid body numbering style: '{text}'"
  | ("h", text) =>
    match linesOf? text with
    | some header => .ok { n with header }
    | none => .error s!"invalid header numbering style: '{text}'"
  | ("f", text) =>
    match linesOf? text with
    | some footer => .ok { n with footer }
    | none => .error s!"invalid footer numbering style: '{text}'"
  | ("v", text) =>
    match text.toInt? with
    | some start => .ok { n with start }
    | none => .error s!"invalid starting line number: '{text}'"
  | ("i", text) =>
    match text.toInt? with
    | some step => .ok { n with step }
    | none => .error s!"invalid line number increment: '{text}'"
  | ("l", text) =>
    match text.toNat? with
    | some (joined + 1) => .ok { n with joined := joined + 1 }
    | _ => .error s!"invalid line number of blank lines: '{text}'"
  | ("w", text) =>
    match text.toNat? with
    | some (width + 1) => .ok { n with width := width + 1 }
    | _ => .error s!"invalid line number field width: '{text}'"
  | ("n", form) =>
    if ["ln", "rn", "rz"].contains form then .ok { n with form }
    else .error s!"invalid line numbering format: '{form}'"
  | ("s", separator) => .ok { n with separator }
  | ("p", _) => .ok { n with resets := false }
  | ("d", text) => .ok { n with mark := if text.length = 1 then text ++ ":" else text }
  | _ => .ok n

end Numbering

def nl (c : Call) : Answer :=
  let form : OptionForm := .of "h:b:f:v:i:pl:s:w:n:d:" ["header-numbering=h", "body-numbering=b",
    "footer-numbering=f", "starting-line-number=v", "line-increment=i", "no-renumber=p",
    "join-blank-lines=l", "number-separator=s", "number-width=w", "number-format=n",
    "section-delimiter=d"]
  c.withOptions form 1 fun w =>
    match w.options.foldlM Numbering.withOption {} with
    | .error text =>
      if text.startsWith "invalid body" || text.startsWith "invalid header" ||
          text.startsWith "invalid footer" || text.startsWith "invalid line numbering format" then
        c.misuse text 1
      else c.fail c.start text
    | .ok numbering =>
      let (a, texts) := readAll c w.operands
      a.print (numbering.number (texts.flatMap fun (_, text) => plainLines text))

/-! ## Backwards -/

/-- The pieces of a text between marks. Each has the mark that follows it, or else the one before
it. -/
def piecesAround (separator : String) (marksFollow : Bool) (text : String) : List String :=
  match text.splitOn separator with
  | [] => []
  | first :: rest =>
    let pieces :=
      if marksFollow then
        ((first :: rest).dropLast.map (· ++ separator)) ++ [(first :: rest).getLastD ""]
      else first :: rest.map (separator ++ ·)
    pieces.filter (!·.isEmpty)

/-- Prints the lines of files, the last one first. -/
def tac (c : Call) : Answer :=
  c.withOptions (.of "brs:" ["before=b", "regex=r", "separator=s"]) 1 fun w =>
    let separator := match w.value? ["s"] with
      | some "" => "\x00"
      | some text => text
      | none => "\n"
    let words := if w.operands.isEmpty then ["-"] else w.operands
    words.foldl (fun a word =>
      match c.read a word with
      | (.ok text, a) =>
        a.print (String.join (piecesAround separator (!w.has ["b"]) text).reverse)
      | (.error e, a) =>
        if e = .isDirectory then c.fail a s!"{shown word}: read error: Invalid argument"
        else c.fail a s!"failed to open '{word}' for reading: {e.reason}") c.start

/-- Prints the lines of files, the last character first. -/
def rev (c : Call) : Answer :=
  c.withOptions (.of "0V" ["zero=0"]) 1 fun w =>
    let mark := if w.has ["0"] then '\x00' else '\n'
    let (a, texts) := readEach c w.operands fun word e => s!"cannot open {word}: {e.reason}"
    a.print (String.join (texts.flatMap fun (_, text) =>
      (splitAfter mark text).map fun line =>
        let cs := line.toList
        if cs.getLast? == some mark then String.ofList (cs.dropLast.reverse ++ [mark])
        else String.ofList cs.reverse))

/-! ## Copies -/

def tee (c : Call) : Answer :=
  c.withOptions (.of "aip" ["append=a", "ignore-interrupts=i", "output-error::"]) 1 fun w =>
    let (input, a) := c.read c.start "-"
    let text := input.toOption.getD ""
    let a := match input with
      | .ok _ => a
      | .error e => c.fail a s!"read error: {e.reason}"
    let a := w.operands.foldl (fun a word =>
      let old := if w.has ["a"] then (a.tree.read (pathOf word)).toOption.getD .empty else .empty
      match c.write a.tree word (Text.Octets.ofBytes old ++ text) with
      | .ok tree => { a with tree }
      | .error e => c.fail a s!"{shown word}: {e.reason}") a
    a.print text

end Bindery.Utility
