import Bindery.Regex.Parser
import Bindery.Utility.Basic
import Bindery.Shell.Pattern

/-!
# Searching files

`grep` prints the lines of files in which a pattern is found. A `Finder` finds the parts of a line
that fit; a `Report` says what is printed about the lines.
-/

namespace Bindery.Utility

namespace Grep

/-! ## Finding -/

/-- What is to be found. -/
structure Finder where
  patterns : List Pattern
  /-- A match must be a whole line. -/
  wholeLines : Bool := false
  /-- A match must not be a part of a word. -/
  wholeWords : Bool := false

/-- Whether a part of a line is no part of a word. -/
def isWord (bytes : ByteArray) (start stop : Nat) : Bool :=
  let before := 0 < start && (bytes[start - 1]?).any Regex.isWordByte
  let after := (bytes[stop]?).any Regex.isWordByte
  !before && !after

namespace Finder

/-- The end of the longest match of a pattern that begins at a place. -/
def endOf? (f : Finder) (line : ByteArray) (start : Nat) (p : Pattern) : Option Nat :=
  let s : Subject := { bytes := line, ignoresCase := p.ignoresCase }
  let ends := p.endsAt s start
  if f.wholeLines then if start = 0 && ends.contains line.size then some line.size else none
  else if f.wholeWords then
    match ends with
    | [] => none
    | longest :: others =>
      if isWord line start longest then some longest
      else others.find? fun stop => start < stop && isWord line start stop
  else ends.head?

/-- The first match that begins at one of so many places from one on. -/
def findFrom (f : Finder) (line : ByteArray) : Nat → Nat → Option (Nat × Nat)
  | 0, _ => none
  | fuel + 1, start =>
    let s : Subject := { bytes := line }
    let ends := (f.patterns.filter (·.mayBeginAt s start)).filterMap (f.endOf? line start)
    match ends with
    | [] => findFrom f line fuel (start + 1)
    | first :: others => some (start, others.foldl max first)

/-- The first match from a place on. -/
def find? (f : Finder) (line : ByteArray) (start : Nat) : Option (Nat × Nat) :=
  f.findFrom line (line.size + 1 - start) start

/-- Whether something is found in a line. -/
def isIn (f : Finder) (line : ByteArray) : Bool :=
  if f.wholeLines || f.wholeWords then (f.find? line 0).isSome
  else f.patterns.any (·.isIn line)

/-- The parts of a line that are found and are not empty. -/
def all (f : Finder) (line : ByteArray) : Nat → Nat → List (Nat × Nat)
  | 0, _ => []
  | fuel + 1, start =>
    match f.find? line start with
    | none => []
    | some (first, stop) =>
      if first = stop then all f line fuel (stop + 1)
      else (first, stop) :: all f line fuel stop

end Finder

/-! ## Patterns -/

/-- The ways in which patterns are written. -/
inductive Syntax where
  | basic
  | extended
  | fixed
  deriving DecidableEq

/-- The pattern of a text in which every character stands for itself. -/
def fixedPattern (text : String) (ignoresCase : Bool) : Pattern :=
  let dialect : Dialect := { extended := false, ignoresCase }
  let regex := text.toList.foldr (fun c rest => Regex.cat (Regex.ofChar dialect c) rest) .empty
  { regex, groups := 0, ignoresCase }

/-- Whether a text looks like the name of a class without brackets around it. -/
def isBareClass (text : String) : Bool :=
  let cs := text.toList
  4 < cs.length && "[:".toList.isPrefixOf cs && "]:".toList.isPrefixOf cs.reverse &&
    (cs.drop 2 |>.take (cs.length - 4)).all Char.isAlpha

/-- The pattern of a text, or what is wrong with it. -/
def patternOf (style : Syntax) (ignoresCase : Bool) (text : String) : Except String Pattern :=
  match style with
  | .fixed => .ok (fixedPattern text ignoresCase)
  | style =>
    if isBareClass text then
      .error "character class syntax is [[:space:]], not [:space:]"
    else
      let dialect : Dialect :=
        { extended := style = .extended
          strict := false
          looseBraces := style = .extended
          ignoresCase }
      (Pattern.parse dialect text).mapError RegexFault.message

/-! ## Reports -/

/-- What is printed about lines. -/
structure Report where
  inverted : Bool := false
  counts : Bool := false
  /-- The names of files are printed, of those with matches, or of those without. -/
  lists : Option Bool := none
  quiet : Bool := false
  onlyMatching : Bool := false
  withNames : Bool := false
  lineNumbers : Bool := false
  offsets : Bool := false
  /-- The text begins at a tab stop. -/
  aligned : Bool := false
  /-- The byte after names. -/
  nameEnd : Option Char := none
  /-- The byte at the end of lines. -/
  mark : UInt8 := 10
  most : Option Nat := none
  before : Nat := 0
  after : Nat := 0
  /-- Groups of lines are kept apart. -/
  grouped : Bool := false
  separator : Option String := some "--"
  asText : Bool := false
  skipsBinary : Bool := false
  colored : Bool := false

/-- A line of a file. -/
structure TextLine where
  number : Nat
  offset : Nat
  bytes : ByteArray
  selected : Bool

namespace Report

/-- A text in a colour. -/
def inColor (r : Report) (color text : String) : String :=
  if r.colored && !text.isEmpty then s!"\x1b[{color}m\x1b[K{text}\x1b[m\x1b[K" else text

def sign (r : Report) (c : Char) : String := r.inColor "36" (String.singleton c)

/-- The name of a file and what follows it. -/
def nameText (r : Report) (name : String) (separator : Char) : String :=
  r.inColor "35" name ++ match r.nameEnd with
    | some c => String.singleton c
    | none => r.sign separator

/-- What stands before a line. -/
def front (r : Report) (name : String) (number offset : Nat) (separator : Char) : String :=
  let width := if r.aligned then 2 else 0
  let column (n : Nat) : String := r.inColor "32" (padLeft width (toString n)) ++ r.sign separator
  let text := (if r.withNames then r.nameText name separator else "") ++
    (if r.lineNumbers then column number else "") ++ (if r.offsets then column offset else "")
  if r.aligned && !text.isEmpty then text ++ "\t" else text

/-- The text of a line with the matches in it in a colour. -/
def painted (r : Report) (f : Finder) (line : ByteArray) : String :=
  if !r.colored || r.inverted then Text.Octets.ofBytes line
  else
    let (text, stop) := (f.all line (line.size + 1) 0).foldl (fun (text, last) (start, stop) =>
      (text ++ Text.Octets.ofBytes (line.extract last start) ++
        r.inColor "01;31" (Text.Octets.ofBytes (line.extract start stop)), stop)) ("", 0)
    text ++ Text.Octets.ofBytes (line.extract stop line.size)

/-- A line as it is printed. -/
def lineText (r : Report) (f : Finder) (name : String) (line : TextLine) : String :=
  let lineEnd := String.singleton (Char.ofNat r.mark.toNat)
  let separator := if line.selected then ':' else '-'
  if r.onlyMatching then
    if line.selected && !r.inverted then
      String.join ((f.all line.bytes (line.bytes.size + 1) 0).map fun (start, stop) =>
        r.front name line.number (line.offset + start) separator ++
          r.inColor "01;31" (Text.Octets.ofBytes (line.bytes.extract start stop)) ++ lineEnd)
    else ""
  else
    let text := if line.selected then r.painted f line.bytes else Text.Octets.ofBytes line.bytes
    r.front name line.number line.offset separator ++ text ++ lineEnd

/-- Which lines are printed: those that are selected, and those around them. -/
def shownLines (r : Report) (lines : List TextLine) : List TextLine :=
  let chosen := (lines.filter (·.selected)).take (r.most.getD lines.length)
  if !r.grouped then chosen
  else
    let numbers := chosen.map (·.number)
    let last := numbers.getLastD 0
    (lines.filter fun line =>
      numbers.any fun n => n ≤ line.number + r.before && line.number ≤ n + r.after).map
      fun line => { line with selected := line.selected && line.number ≤ last }

/-- Lines as they are printed, with marks between groups. -/
def linesText (r : Report) (f : Finder) (name : String) (anyBefore : Bool)
    (lines : List TextLine) : String :=
  let mark := match r.separator with
    | some text => r.inColor "36" text ++ "\n"
    | none => ""
  (lines.foldl (fun (text, last) line =>
    let apart := r.grouped && match last with
      | some n => n + 1 != line.number
      | none => anyBefore
    ((text ++ if apart then mark else "") ++ r.lineText f name line, some line.number))
    ("", (none : Option Nat))).1

end Report

/-- The lines of a file. -/
def linesOf (r : Report) (f : Finder) (bytes : ByteArray) : List TextLine :=
  let lines := splitAfter (Char.ofNat r.mark.toNat) (Text.Octets.ofBytes bytes)
  let (found, _, _) := lines.foldl (fun (found, number, offset) line =>
    let text := Text.Octets.toBytes line
    let ended := text.size != 0 && text[text.size - 1]? == some r.mark
    let bytes := if ended then text.extract 0 (text.size - 1) else text
    let entry : TextLine := ⟨number, offset, bytes, f.isIn bytes != r.inverted⟩
    (entry :: found, number + 1, offset + text.size)) (([] : List TextLine), 1, 0)
  found.reverse

/-- The state of a search through files. -/
structure Progress where
  answer : Answer
  /-- Something was selected. -/
  found : Bool := false
  /-- Something could not be read. -/
  failed : Bool := false
  /-- Lines were printed. -/
  printed : Bool := false
  /-- Nothing more is to be looked for. -/
  ended : Bool := false

/-- What is done with a file once it is read. -/
def reportFile (r : Report) (f : Finder) (c : Call) (p : Progress) (name : String)
    (bytes : ByteArray) : Progress :=
  let isBinary := !r.asText && r.mark != 0 && bytes.toList.contains 0
  if isBinary && r.skipsBinary then p
  else
    let lines := linesOf r f bytes
    let count := min (lines.countP (·.selected)) (r.most.getD lines.length)
    let found := 0 < count
    let p := { p with found := p.found || found }
    if r.quiet then { p with ended := p.found }
    else
      let nameLine := r.inColor "35" name ++ match r.nameEnd with
        | some c => String.singleton c
        | none => "\n"
      match r.lists with
      | some true => if found then { p with answer := p.answer.print nameLine } else p
      | some false => if found then p else { p with answer := p.answer.print nameLine }
      | none =>
        if r.counts then
          let front := if r.withNames then r.nameText name ':' else ""
          { p with answer := p.answer.print (front ++ s!"{count}\n") }
        else if !found then p
        else if isBinary then
          { p with answer := p.answer.printError s!"{c.name}: {name}: binary file matches\n" }
        else
          let text := r.linesText f name p.printed (r.shownLines lines)
          { p with answer := p.answer.print text, printed := true }

/-! ## Files -/

/-- How files are chosen. -/
structure Choice where
  recursive : Bool := false
  /-- Whether links are followed below a directory. -/
  follows : Bool := false
  skipsDirectories : Bool := false
  silent : Bool := false
  includes : List String := []
  excludes : List String := []
  excludedDirectories : List String := []
  /-- No file was named, so that names begin below the directory. -/
  unnamed : Bool := false
  /-- The name of what is read when no file is. -/
  label : String := "(standard input)"

/-- Whether the file of a name is looked into. -/
def Choice.takes (choice : Choice) (name : String) : Bool :=
  let base := (name.splitOn "/").getLastD name
  let among (patterns : List String) : Bool :=
    patterns.any fun p => NamePattern.fits p base || NamePattern.fits p name
  !among choice.excludes && (choice.includes.isEmpty || among choice.includes)

/-- The files below a directory, each with its name. -/
def filesBelow (tree : FileTree) (choice : Choice) : Nat → String → Location → List String
  | 0, _, _ => []
  | fuel + 1, name, place =>
    ((tree.entries place).mergeSort fun a b => a ≤ b).flatMap fun entry =>
      let path :=
        if name.isEmpty || name.endsWith "/" then name ++ entry else name ++ "/" ++ entry
      match tree.node? (place ++ [entry]) with
      | some .directory =>
        if choice.excludedDirectories.any (NamePattern.fits · entry) then []
        else filesBelow tree choice fuel path (place ++ [entry])
      | some (.file _) | some (.program _) => if choice.takes entry then [path] else []
      | some (.link _) =>
        if choice.follows && choice.takes entry && tree.isFile path then [path] else []
      | _ => []

/-- Looks into a file. -/
def searchFile (r : Report) (f : Finder) (choice : Choice) (c : Call) (p : Progress)
    (word : String) : Progress :=
  let name := if word = "-" then choice.label else word
  match c.read p.answer word with
  | (.ok text, answer) =>
    let bytes := Text.Octets.toBytes text
    let answer :=
      if word = "-" && c.readsFile then
        match r.most.bind fun n => (linesOf r f bytes |>.filter (·.selected))[n - 1]? with
        | some line =>
          { answer with
            drains := false, taken := min bytes.size (line.offset + line.bytes.size + 1) }
        | none => answer
      else answer
    reportFile r f c { p with answer } name bytes
  | (.error e, answer) =>
    if e = .isDirectory && choice.skipsDirectories then { p with answer }
    else
      let text := s!"{c.name}: {name}: {e.reason}\n"
      let answer := if choice.silent then answer else answer.printError text
      let p := { p with answer, failed := true }
      if e = .isDirectory then
        match r.lists, r.counts && !r.quiet with
        | some false, _ => reportFile r f c p name .empty
        | none, true => reportFile r f c p name .empty
        | _, _ => p
      else p

/-- Looks into a file, or into the files below a directory. -/
def searchWord (r : Report) (f : Finder) (choice : Choice) (c : Call) (p : Progress)
    (word : String) : Progress :=
  if p.ended then p
  else
    match choice.recursive && word != "-", c.tree.seekLocation (pathOf word) with
    | true, .ok place =>
      if c.tree.node? place matches some .directory then
        let bound := c.tree.nodes.length + 1
        let name := if choice.unnamed then "" else pathOf word
        let files := (filesBelow c.tree choice bound name place).map Text.Octets.encode
        files.foldl (fun p file => if p.ended then p else searchFile r f choice c p file) p
      else if choice.takes word then searchFile r f choice c p word else p
    | _, _ =>
      let isExcluded := word != "-" && !choice.takes word
      if isExcluded then p else searchFile r f choice c p word

/-! ## Options -/

def optionForm : OptionForm :=
  .of "0123456789A:B:C:D:EFGHILPTUVX:abcd:e:f:hiLlm:noqRrsuvwxyZz"
    ["basic-regexp=G", "extended-regexp=E", "fixed-regexp=F", "fixed-strings=F", "perl-regexp=P",
      "after-context=A", "before-context=B", "binary-files:", "binary=U", "byte-offset=b",
      "context=C", "color::", "colour::", "count=c", "devices=D", "directories=d", "exclude:",
      "exclude-from:", "exclude-dir:", "file=f", "files-with-matches=l", "files-without-match=L",
      "group-separator:", "no-group-separator", "include:", "ignore-case=i", "no-ignore-case",
      "initial-tab=T", "label:", "line-buffered", "line-number=n", "line-regexp=x", "max-count=m",
      "no-filename=h", "no-messages=s", "null=Z", "null-data=z", "only-matching=o", "quiet=q",
      "recursive=r", "dereference-recursive=R", "regexp=e", "invert-match=v", "silent=q", "text=a",
      "unix-byte-offsets=u", "with-filename=H", "word-regexp=w"]

/-- The values of an option, in order. -/
def valuesOf (w : Words) (name : String) : List String :=
  (w.options.filter (·.1 == name)).map (·.2)

/-- Whether the last one of two kinds of options is of the first kind. -/
def lastOf (w : Words) (first second : List String) : Bool :=
  match w.options.reverse.find? fun o => first.contains o.1 || second.contains o.1 with
  | some (name, _) => first.contains name
  | none => false

/-- The number that options of digits make up, those of one run being one number. -/
def digitsOf (w : Words) : Option String :=
  let digits := w.options.filter fun o => o.1.length = 1 && o.1.toList.all Char.isDigit
  if digits.isEmpty then none else some (String.join (digits.map (·.1)))

/-- A number of lines of context. -/
def contextOf (text : String) : Except String Nat :=
  match text.toNat? with
  | some n => .ok n
  | none => .error s!"{text}: invalid context length argument"

/-- The report that options ask for. -/
def reportOf (w : Words) (operands : Nat) (recursive : Bool) : Except String Report := do
  let length (letter : String) : Except String (Option Nat) :=
    match (w.value? [letter]).orElse fun _ => w.value? ["C"] |>.orElse fun _ => digitsOf w with
    | none => .ok none
    | some text => some <$> contextOf text
  let before ← length "B"
  let after ← length "A"
  let most ← match w.value? ["m"] with
    | none => .ok none
    | some text =>
      match text.toInt? with
      | some n => .ok (if n < 0 then none else some n.toNat)
      | none => .error "invalid max count"
  let color := (w.value? ["color", "colour"]).getD "never"
  return {
    inverted := w.has ["v"]
    counts := w.has ["c"]
    lists := if w.has ["l", "L"] then some (lastOf w ["l"] ["L"]) else none
    quiet := w.has ["q"]
    onlyMatching := w.has ["o"]
    withNames :=
      if w.has ["H", "h"] then lastOf w ["H"] ["h"] else 1 < operands || recursive
    lineNumbers := w.has ["n"]
    offsets := w.has ["b"]
    aligned := w.has ["T"]
    nameEnd := if w.has ["Z"] then some '\x00' else none
    mark := if w.has ["z"] then 0 else 10
    most := if w.has ["q", "l", "L"] && most != some 0 then some 1 else most
    before := before.getD 0
    after := after.getD 0
    grouped := before.isSome || after.isSome
    separator :=
      if w.has ["no-group-separator"] then none else some ((w.value? ["group-separator"]).getD "--")
    asText := w.has ["a"] || w.value? ["binary-files"] = some "text"
    skipsBinary := w.has ["I"] || w.value? ["binary-files"] = some "without-match"
    colored := color == "always" }

/-- The text of a pattern, and where it comes from if that is a line of a file. -/
structure Source where
  text : String
  file : Option (String × Nat) := none

/-- The texts of patterns, and what is left of the operands; none if there is no pattern. -/
def sourcesOf (c : Call) (w : Words) (a : Answer) :
    Except String (Option (Answer × List Source × List String)) := do
  let split (text : String) : List Source := (text.splitOn "\n").map ({ text := · })
  let (a, found) ← w.options.foldlM (fun (a, found) (name, value) =>
    match name with
    | "e" => .ok (a, found ++ split value)
    | "f" =>
      match c.read a value with
      | (.ok text, a) =>
        let lines := (plainLines text).zipIdx.map fun (line, i) => ⟨line, some (value, i + 1)⟩
        .ok (a, found ++ lines)
      | (.error e, _) => .error s!"{value}: {e.reason}"
    | _ => .ok (a, found)) (a, ([] : List Source))
  if w.has ["e", "f"] then return some (a, found, w.operands)
  else
    match w.operands with
    | text :: rest => return some (a, split text, rest)
    | [] => return none

/-- The way in which the options say that patterns are written. -/
def syntaxOf (w : Words) : Except String Syntax :=
  match ((w.options.map (·.1)).filter ["E", "F", "G", "P"].contains).eraseDups with
  | [] | ["G"] => .ok .basic
  | ["F"] => .ok .fixed
  | [_] => .ok .extended
  | _ => .error "conflicting matchers specified"

/-- The patterns of texts, or what is wrong with them. -/
def patternsOf (style : Syntax) (ignoresCase : Bool) (sources : List Source) :
    Except (List String) (List Pattern) :=
  let (patterns, faults) := sources.foldl (fun (patterns, faults) source =>
    match patternOf style ignoresCase source.text with
    | .ok pattern => (patterns ++ [pattern], faults)
    | .error fault =>
      let spot := match source.file with
        | some (file, line) => s!"{file}:{line}: "
        | none => ""
      (patterns, faults ++ [spot ++ fault])) (([] : List Pattern), ([] : List String))
  if faults.isEmpty then .ok patterns else .error faults

/-- The choice of files that options make. -/
def choiceOf (w : Words) (recursive unnamed : Bool) : Choice where
  recursive := recursive
  follows := w.has ["R"]
  skipsDirectories := w.value? ["d"] = some "skip"
  silent := w.has ["s"]
  includes := valuesOf w "include"
  excludes := valuesOf w "exclude"
  excludedDirectories := valuesOf w "exclude-dir"
  unnamed := unnamed
  label := (w.value? ["label"]).getD "(standard input)"

/-- Searches as options say. -/
def search (c : Call) (w : Words) (a : Answer) (sources : List Source) (operands : List String) :
    Except (List String) Answer := do
  let recursive := w.has ["r", "R"] || w.value? ["d"] = some "recurse"
  let files := if !operands.isEmpty then operands else if recursive then ["."] else ["-"]
  let style ← (syntaxOf w).mapError ([·])
  let report ← (reportOf w files.length recursive).mapError ([·])
  let patterns ← patternsOf style (lastOf w ["i", "y"] ["no-ignore-case"]) sources
  let finder : Finder := { patterns, wholeLines := w.has ["x"], wholeWords := w.has ["w"] }
  let choice := choiceOf w recursive operands.isEmpty
  let start : Progress := { answer := a }
  let p := if report.most = some 0 then start
    else files.foldl (searchWord report finder choice c) start
  let status := if p.failed && !(report.quiet && p.found) then 2 else if p.found then 0 else 1
  return { p.answer with status }

end Grep

def grep (c : Call) : Answer :=
  let usage := s!"Usage: {c.name} [OPTION]... PATTERNS [FILE]..."
  let misuse (a : Answer) : Answer :=
    a.fail s!"{usage}\nTry '{c.name} --help' for more information." 2
  match Grep.optionForm.readWords {} none c.args with
  | .error reason => misuse (c.start.printError s!"{c.name}: {reason}\n")
  | .ok w =>
    if w.has ["help"] then c.start.print (usage ++ "\n")
    else if w.has ["version", "V"] then c.start.print (c.name ++ "\n")
    else
      match Grep.sourcesOf c w c.start with
      | .error reason => c.start.fail s!"{c.name}: {reason}" 2
      | .ok none => misuse c.start
      | .ok (some (a, sources, operands)) =>
        match Grep.search c w a sources operands with
        | .ok a => a
        | .error faults => faults.foldl (fun a fault => a.fail s!"{c.name}: {fault}" 2) a

/-- `grep` for patterns that are written in the extended way. -/
def egrep (c : Call) : Answer := grep { c with name := "grep", args := "-E" :: c.args }

/-- `grep` for texts. -/
def fgrep (c : Call) : Answer := grep { c with name := "grep", args := "-F" :: c.args }

end Bindery.Utility
