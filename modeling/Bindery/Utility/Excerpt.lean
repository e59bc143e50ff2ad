import Bindery.Text.Units
import Bindery.Utility.Display

/-!
# Parts of files

The utilities that print the start or the end of files, or parts of their lines, or that put parts
into files of their own.
-/

namespace Bindery.Utility

/-! ## Start and end -/

/-- A part of a file: so many lines or bytes, from one end or up to the other one. -/
structure Extent where
  countsBytes : Bool := false
  /-- Up to so many before the other end, or from that many on. -/
  isOpposite : Bool := false
  count : Nat := 10

/-- The number of an extent, which a sign may precede. -/
def extentOf? (countsBytes : Bool) (opposite : Char) (text : String) : Option Extent :=
  match text.toList with
  | c :: digits =>
    let rest := if c == '-' || c == '+' then digits else c :: digits
    let isOpposite := c == opposite
    (Size.parse? (String.ofList rest)).map ({ countsBytes, isOpposite, count := · })
  | [] => none

/-- The extent that options ask for; `opposite` is the sign that means the other end. -/
def extentFrom (w : Words) (opposite : Char) : Except String Extent :=
  let given := w.options.filter fun o => o.1 == "n" || o.1 == "c"
  given.foldlM (fun _ (name, text) =>
    match extentOf? (name == "c") opposite text with
    | some extent => .ok extent
    | none =>
      let unit := if name == "c" then "bytes" else "lines"
      .error s!"invalid number of {unit}: '{text}'") {}

/-- The options of utilities that take the start or the end of files. -/
def extentForm : OptionForm :=
  .of "n:c:qvzfFs:" ["lines=n", "bytes=c", "quiet=q", "silent=q", "verbose=v", "zero-terminated=z",
    "follow::", "retry", "pid:", "sleep-interval=s", "presume-input-pipe"]

/-- Prints a part of each file, under its name if there are several. For what is read from the
standard input, `consumed` says how much of it is gone. -/
def excerpts (c : Call) (w : Words) (take : String → String) (consumed : String → Option Nat) :
    Answer :=
  let words := if w.operands.isEmpty then ["-"] else w.operands
  let names := ["q", "v"]
  let titled := match w.options.reverse.find? fun o => names.contains o.1 with
    | some (name, _) => name == "v"
    | none => 1 < words.length
  let title (a : Answer) (word : String) : Answer :=
    let name := if word = "-" then "standard input" else word
    let gap := if a.written.any (·.1 = 1) then "\n" else ""
    if titled then a.print (gap ++ s!"==> {name} <==\n") else a
  words.foldl (fun a word =>
    let fresh := !a.drains && a.taken = 0
    match c.read a word with
    | (.ok text, a) =>
      let a := (title a word).print (take text)
      match word = "-" && fresh, consumed text with
      | true, some n => { a with drains := false, taken := min n text.length }
      | _, _ => a
    | (.error e, a) =>
      let a := if e = .isDirectory then title a word else a
      c.fail a (openComplaint "cannot open" word e)) c.start

/-- The words of a call with a number as its first option, which stands for a count. -/
def withCount (letters : String) (args : List String) : Except String (List String) :=
  match args with
  | [] => .ok []
  | first :: rest =>
    match first.toList with
    | '-' :: d :: ds =>
      if !d.isDigit then .ok args
      else
        let digits := (d :: ds).takeWhile Char.isDigit
        let marks := (d :: ds).drop digits.length
        let unit := String.ofList (marks.filter ['b', 'k', 'm'].contains)
        let unit := if unit == "m" then "M" else unit
        match marks.find? (!letters.toList.contains ·) with
        | some c => .error s!"invalid trailing option -- {c}"
        | none =>
          let bytes := marks.contains 'c' || !unit.isEmpty
          let option := (if bytes then "-c" else "-n") ++ String.ofList digits ++ unit
          let others := marks.filter ['q', 'v', 'z', 'f'].contains
          .ok (option :: others.map (fun c => s!"-{c}") ++ rest)
    | _ => .ok args

/-- The first pieces of a text that an extent says. -/
def Extent.start (x : Extent) (mark : Char) (text : String) : String :=
  let take {α : Type} (items : List α) : List α :=
    items.take (if x.isOpposite then items.length - x.count else x.count)
  if x.countsBytes then String.ofList (take text.toList)
  else String.join (take (splitAfter mark text))

/-- The last pieces of a text that an extent says. -/
def Extent.stop (x : Extent) (mark : Char) (text : String) : String :=
  let drop {α : Type} (items : List α) : List α :=
    items.drop (if x.isOpposite then x.count - 1 else items.length - x.count)
  if x.countsBytes then String.ofList (drop text.toList)
  else String.join (drop (splitAfter mark text))

/-- The byte at which lines end. -/
def lineMark (w : Words) : Char := if w.has ["z"] then '\x00' else '\n'

/-- How many bytes are read at once from what is no file. -/
def blockSize : Nat := 8192

def head (c : Call) : Answer :=
  match withCount "bkmclqvz" c.args with
  | .error text => c.misuse text 1
  | .ok args =>
    let c : Call := { c with args }
    c.withOptions extentForm 1 fun w =>
      match extentFrom w '-' with
      | .error text => c.fail c.start text
      | .ok x =>
        let take := x.start (lineMark w)
        let consumed (text : String) : Option Nat :=
          let n := (take text).length
          if c.readsFile then some n
          else if x.isOpposite then none
          else if x.countsBytes then some n
          else some ((n + blockSize - 1) / blockSize * blockSize)
        excerpts c w take consumed

def tail (c : Call) : Answer :=
  let misplaced (args : List String) : Bool :=
    2 < args.length && (((args.headD "").toList.drop 1).head?).any Char.isDigit
  let digit := String.ofList (((c.args.headD "").toList.drop 1).take 1)
  match withCount "bclf" c.args with
  | .error _ => c.fail c.start s!"option used in invalid context -- {digit}"
  | .ok args =>
    if misplaced c.args && args != c.args then
      c.fail c.start s!"option used in invalid context -- {digit}"
    else
      let c : Call := { c with args }
      c.withOptions extentForm 1 fun w =>
        match extentFrom w '+' with
        | .error text => c.fail c.start text
        | .ok x => excerpts c w (x.stop (lineMark w)) fun _ => none

/-! ## Parts of lines -/

/-- Positions in a line, from one to another one, both of them in it. -/
structure Span where
  low : Nat
  high : Option Nat
  deriving DecidableEq

namespace Span

def holds (s : Span) (n : Nat) : Bool := s.low ≤ n && s.high.all (n ≤ ·)

/-- One span of a list. -/
def parse (zero : String) (fault : List Char → String) (text : List Char) : Except String Span := do
  let number (digits : List Char) : Except String (Option Nat) :=
    if digits.isEmpty then .ok none
    else
      match (String.ofList digits).toNat? with
      | some n => .ok (some n)
      | none => .error (fault (digits.dropWhile Char.isDigit))
  let low := text.takeWhile (· != '-')
  match text.drop low.length with
  | [] =>
    match ← number low with
    | some 0 | none => throw zero
    | some n => return ⟨n, some n⟩
  | _ :: high =>
    let low ← number low
    if low = some 0 then throw zero
    if high.contains '-' then throw (fault [])
    let high ← number high
    if low.isNone && high.isNone then throw "invalid range with no endpoint: -"
    let low := low.getD 1
    if high.any (· < low) then throw "invalid decreasing range"
    return ⟨low, high⟩

/-- Puts a span before those that begin after it, as one with the first if they have a position in
common. -/
def join (s : Span) : List Span → List Span
  | [] => [s]
  | next :: rest =>
    if s.high.all (next.low ≤ ·) then
      let high := match s.high, next.high with
        | some a, some b => some (max a b)
        | _, _ => none
      ⟨s.low, high⟩ :: rest
    else s :: next :: rest

/-- The spans that hold the positions which these ones do not hold. -/
def complement (spans : List Span) : List Span :=
  let (gaps, next) := spans.foldl (fun ((gaps, next) : List Span × Option Nat) s =>
    match next with
    | none => (gaps, none)
    | some n =>
      (if n < s.low then gaps ++ [⟨n, some (s.low - 1)⟩] else gaps, s.high.map (· + 1)))
    ([], some 1)
  match next with
  | some n => gaps ++ [⟨n, none⟩]
  | none => gaps

/-- The spans of a list, in order. -/
def parseList (inFields : Bool) (text : String) : Except String (List Span) := do
  let zero := if inFields then "fields are numbered from 1"
    else "byte/character positions are numbered from 1"
  let fault (rest : List Char) : String :=
    if rest.isEmpty then
      if inFields then "invalid field range" else "invalid byte or character range"
    else
      let rest := String.ofList rest
      if inFields then s!"invalid field value '{rest}'"
      else s!"invalid byte/character position '{rest}'"
  let parts := text.toList.splitBy fun a b => !isComma a && !isComma b
  let items := parts.filter fun part => !part.any isComma
  if items.length != parts.countP (·.any isComma) + 1 then throw zero
  let spans ← items.mapM (parse zero fault)
  let sorted := spans.mergeSort fun a b => a.low ≤ b.low
  return (sorted.foldr join []).foldr join []
where
  isComma (c : Char) : Bool := c == ',' || c == ' ' || c == '\t'

end Span

/-- Which parts of lines are taken, and what is put between them. -/
structure Cutting where
  spans : List Span
  /-- What stands between fields, if parts are fields. -/
  delimiter : Option Char := none
  /-- What is put between parts. -/
  joint : Option String := none
  /-- Lines without fields are left out. -/
  needsFields : Bool := false

namespace Cutting

/-- The characters of a line at the positions that are taken. -/
def characters (cut : Cutting) (line : String) : String :=
  let cs := line.toList.zipIdx
  let parts := cut.spans.map fun s =>
    String.ofList ((cs.filter fun (_, i) => s.holds (i + 1)).map (·.1))
  (cut.joint.getD "").intercalate (parts.filter (!·.isEmpty))

/-- The fields of a line that are taken, or the whole line if it has but one. -/
def fields (cut : Cutting) (delimiter : Char) (line : String) : Option String :=
  match line.splitOn (String.singleton delimiter) with
  | [_] => if cut.needsFields then none else some line
  | fields =>
    let taken := fields.zipIdx.filter fun (_, i) => cut.spans.any (·.holds (i + 1))
    some ((cut.joint.getD (String.singleton delimiter)).intercalate (taken.map (·.1)))

def line (cut : Cutting) (line : String) : Option String :=
  match cut.delimiter with
  | some delimiter => cut.fields delimiter line
  | none => some (cut.characters line)

end Cutting

/-- The cutting that options ask for. -/
def cuttingOf (w : Words) : Except String Cutting := do
  let lists := w.options.filter fun o => ["b", "c", "f"].contains o.1
  match lists with
  | [] => throw "you must specify a list of bytes, characters, or fields"
  | _ :: _ :: _ => throw "only one list may be specified"
  | [(name, text)] =>
    let inFields := name == "f"
    let delimiter := (w.value? ["d"]).map (·.toList)
    if delimiter.any (1 < ·.length) then throw "the delimiter must be a single character"
    if !inFields && delimiter.isSome then
      throw "an input delimiter may be specified only when operating on fields"
    if !inFields && w.has ["s"] then
      throw "suppressing non-delimited lines makes sense\n\tonly when operating on fields"
    let spans ← Span.parseList inFields text
    return {
      spans := if w.has ["complement"] then Span.complement spans else spans
      delimiter :=
        if inFields then
          some (match delimiter with
            | none => '\t'
            | some cs => cs.headD '\x00')
        else none
      joint := w.value? ["output-delimiter"]
      needsFields := w.has ["s"] }

def cut (c : Call) : Answer :=
  let form : OptionForm := .of "b:c:d:f:nsz" ["bytes=b", "characters=c", "delimiter=d", "fields=f",
    "only-delimited=s", "complement", "output-delimiter:", "zero-terminated=z"]
  c.withOptions form 1 fun w =>
    match cuttingOf w with
    | .error text => c.misuse text 1
    | .ok cutting =>
      let mark := lineMark w
      let (a, texts) := readAll c w.operands
      let lines := texts.flatMap fun (_, text) => (linesAt mark text).filterMap cutting.line
      a.print (String.join (lines.map (·.push mark)))

/-! ## Files of parts -/

/-- A number in letters or digits, so many of them. -/
def inAlphabet (alphabet : List Char) : Nat → Nat → List Char → List Char
  | 0, _, rest => rest
  | width + 1, n, rest =>
    let base := alphabet.length
    inAlphabet alphabet width (n / base) (alphabet.getD (n % base) 'a' :: rest)

/-- How the names of parts end. -/
structure Suffixes where
  alphabet : List Char
  width : Nat := 2
  /-- Names grow longer when there are many of them. -/
  grows : Bool := true
  first : Nat := 0
  ending : String := ""

namespace Suffixes

/-- The number of names that begin with letters other than the last one. -/
def room (s : Suffixes) (width : Nat) : Nat :=
  let base := s.alphabet.length
  (base - 1) * Size.power base (width - 1)

/-- The suffix of a number, which gets longer by two letters when the last letter would lead. -/
def growing (s : Suffixes) : Nat → Nat → Nat → List Char → List Char
  | 0, width, n, front => front ++ inAlphabet s.alphabet width n []
  | fuel + 1, width, n, front =>
    if n < s.room width then front ++ inAlphabet s.alphabet width n []
    else growing s fuel (width + 1) (n - s.room width) (front ++ [s.alphabet.getLastD 'z'])

/-- The suffix of the part of a number, if there is one. -/
def text? (s : Suffixes) (n : Nat) : Option String :=
  if s.grows then some (String.ofList (s.growing 8 s.width n []) ++ s.ending)
  else if s.first + n < Size.power s.alphabet.length s.width then
    some (String.ofList (inAlphabet s.alphabet s.width (s.first + n) []) ++ s.ending)
  else none

end Suffixes

/-- The items of a list, so many at a time. -/
def groupsOf {α : Type} (n : Nat) : Nat → List α → List (List α)
  | 0, _ | _, [] => []
  | fuel + 1, items => items.take n :: groupsOf n fuel (items.drop n)

/-- Where parts end that are as long as each other. -/
def partEnds (size parts : Nat) : List Nat :=
  (List.range parts).map fun i => (i + 1) * (size / parts) + min (i + 1) (size % parts)

/-- Lines put together so that no part has more bytes than it may, unless a line has more. -/
def linesWithin (limit : Nat) (lines : List String) : List String :=
  let (parts, last) := lines.foldl (fun ((parts, last) : List String × String) line =>
    if last.isEmpty || last.length + line.length ≤ limit then (parts, last ++ line)
    else (last :: parts, line)) ([], "")
  (if last.isEmpty then parts else last :: parts).reverse

/-- The parts of a text that options ask for. -/
def partsOf (w : Words) (text : String) : Except String (List String) := do
  let mark := match (w.value? ["t"]).map (·.toList) with
    | some [c] => c
    | some ['\\', '0'] => '\x00'
    | _ => '\n'
  let lines := splitAfter mark text
  let bound := text.length + 1
  let count (what text : String) : Except String Nat :=
    match Size.parse? text with
    | some (n + 1) => .ok (n + 1)
    | _ => .error s!"invalid number of {what}: '{text}'"
  let inLines (n : Nat) : List String := (groupsOf n bound lines).map String.join
  match w.options.filter fun o => ["l", "b", "C", "n"].contains o.1 with
  | [] => return inLines 1000
  | [("l", value)] => return inLines (← count "lines" value)
  | [("b", value)] =>
    return (groupsOf (← count "bytes" value) bound text.toList).map String.ofList
  | [("C", value)] => return linesWithin (← count "bytes" value) lines
  | [(_, value)] =>
    match value.splitOn "/" with
    | [value] =>
      let ends := partEnds text.length (← count "chunks" value)
      let cs := text.toList
      return (ends.zip (0 :: ends)).map fun (stop, start) =>
        String.ofList ((cs.drop start).take (stop - start))
    | ["l", value] =>
      let ends := partEnds text.length (← count "chunks" value)
      let starts := (lines.foldl (fun (starts, offset) line =>
        ((line, offset) :: starts, offset + line.length)) (([] : List (String × Nat)), 0)).1.reverse
      return (ends.zip (0 :: ends)).map fun (stop, start) =>
        String.join ((starts.filter fun (_, offset) =>
          (start ≤ offset || start = 0) && offset < stop).map (·.1))
    | ["r", value] =>
      let n ← count "chunks" value
      return (List.range n).map fun i =>
        String.join ((lines.zipIdx.filter fun (_, j) => j % n = i).map (·.1))
    | _ => throw s!"invalid number of chunks: '{value}'"
  | _ => throw "cannot split in more than one way"

/-- The form of the names that options ask for. -/
def suffixesOf (w : Words) (parts : Nat) : Suffixes :=
  let digits := "0123456789".toList
  let alphabet :=
    if w.has ["d", "numeric-suffixes"] then digits
    else if w.has ["x", "hex-suffixes"] then digits ++ ['a', 'b', 'c', 'd', 'e', 'f']
    else "abcdefghijklmnopqrstuvwxyz".toList
  let first := ((w.value? ["numeric-suffixes", "hex-suffixes"]).bind String.toNat?).getD 0
  let width := (w.value? ["a"]).bind String.toNat?
  let needed := if w.has ["n"] && 100 < parts + first && alphabet.length = 10 then 3 else 2
  { alphabet
    width := width.getD needed
    grows := width.isNone && first = 0 && !w.has ["n"]
    first
    ending := (w.value? ["additional-suffix"]).getD "" }

def split (c : Call) : Answer :=
  let form : OptionForm := .of "a:b:C:del:n:t:uxv" ["bytes=b", "lines=l", "line-bytes=C",
    "suffix-length=a", "elide-empty-files=e", "unbuffered=u", "numeric-suffixes::",
    "hex-suffixes::", "additional-suffix:", "number=n", "separator=t", "verbose=v", "filter:"]
  let args := c.args.map fun word =>
    match word.toList with
    | '-' :: d :: ds =>
      if (d :: ds).all Char.isDigit then "-l" ++ String.ofList (d :: ds) else word
    | _ => word
  let c : Call := { c with args }
  c.withOptions form 1 fun w =>
    match w.operands with
    | _ :: _ :: extra :: _ => c.misuse s!"extra operand '{extra}'" 1
    | words =>
      let word := words.headD "-"
      let start := (words.drop 1).headD "x"
      match partsOf w "" with
      | .error text =>
        if text.startsWith "cannot" then c.misuse text 1 else c.fail c.start text
      | .ok _ =>
        match c.read c.start word with
        | (.error e, a) =>
          if e = .isDirectory then c.fail a s!"{shown word}: {e.reason}"
          else c.fail a s!"cannot open '{word}' for reading: {e.reason}"
        | (.ok text, a) =>
          let parts := (partsOf w text).toOption.getD []
          let parts := if w.has ["e"] then parts.filter (· != "") else parts
          put w (suffixesOf w parts.length) start a 0 parts
where
  /-- Writes parts into files, one after the other. -/
  put (w : Words) (suffixes : Suffixes) (start : String) (a : Answer) (n : Nat) :
      List String → Answer
    | [] => a
    | part :: rest =>
      match suffixes.text? n with
      | none => c.fail a "output file suffixes exhausted"
      | some suffix =>
        let name := start ++ suffix
        let a := if w.has ["v"] then a.print s!"creating file '{name}'\n" else a
        match c.write a.tree name part with
        | .ok tree => put w suffixes start { a with tree } (n + 1) rest
        | .error e => c.fail a s!"{shown name}: {e.reason}"

end Bindery.Utility
