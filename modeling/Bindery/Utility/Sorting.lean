import Bindery.Utility.Display
import Bindery.Utility.Excerpt

/-!
# Sorting lines

`sort` puts lines in an order, which a list of keys may say. Each key compares a part of the lines
in its own way; lines that no key tells apart are compared as a whole.
-/

namespace Bindery.Utility

namespace LineOrder

/-! ## Comparing texts -/

def isBlank (c : Char) : Bool := c == ' ' || c == '\t'

/-- The order of two values of a linear order. -/
def orderOf {α : Type} [Ord α] (x y : α) : Ordering := compare x y

/-- The order of two texts by their bytes. -/
def compareText : List Char → List Char → Ordering
  | [], [] => .eq
  | [], _ => .lt
  | _, [] => .gt
  | x :: xs, y :: ys => if x < y then .lt else if y < x then .gt else compareText xs ys

/-- A decimal number: its sign, its digits before the point, without zeros at the front, and those
after it, without zeros at the end. -/
structure Decimal where
  isNegative : Bool
  whole : List Char
  places : List Char

/-- The decimal number at the start of a text, and what follows it. -/
def decimalOf (text : List Char) : Decimal × List Char :=
  let text := text.dropWhile isBlank
  let (isNegative, text) := match text with
    | '-' :: rest => (true, rest)
    | text => (false, text)
  let digits := text.takeWhile Char.isDigit
  let rest := text.drop digits.length
  let (places, rest) := match rest with
    | '.' :: rest =>
      let places := rest.takeWhile Char.isDigit
      (places, rest.drop places.length)
    | rest => ([], rest)
  ({ isNegative
     whole := digits.dropWhile (· == '0')
     places := (places.reverse.dropWhile (· == '0')).reverse }, rest)

namespace Decimal

def isZero (d : Decimal) : Bool := d.whole.isEmpty && d.places.isEmpty

/-- The order of two numbers without their signs. -/
def compareSizes (x y : Decimal) : Ordering :=
  (orderOf x.whole.length y.whole.length).then
    ((compareText x.whole y.whole).then (compareText x.places y.places))

protected def compare (x y : Decimal) : Ordering :=
  match x.isNegative && !x.isZero, y.isNegative && !y.isZero with
  | false, false => x.compareSizes y
  | true, true => y.compareSizes x
  | true, false => .lt
  | false, true => .gt

end Decimal

/-- The order of two texts by the numbers at their start. -/
def compareNumbers (x y : List Char) : Ordering := (decimalOf x).1.compare (decimalOf y).1

/-- The place of a unit among the units of sizes. -/
def unitRank (c : Option Char) : Int :=
  match c with
  | some 'k' => 1
  | some c => (Size.letters.idxOf? c).elim 0 fun i => (i : Int) + 1
  | none => 0

/-- The order of two texts by the sizes at their start. -/
def compareSizes (x y : List Char) : Ordering :=
  let rank (text : List Char) : Int :=
    let (d, rest) := decimalOf text
    if d.isZero then 0
    else
      let rank := unitRank rest.head?
      if d.isNegative then -rank else rank
  (orderOf (rank x) (rank y)).then (compareNumbers x y)

/-- A number in scientific form. -/
inductive Value where
  /-- No number at all. -/
  | none
  | notANumber
  | infinite (isNegative : Bool)
  /-- Digits, and the place of the point as a power of ten. -/
  | finite (mantissa : Int) (exponent : Int)

/-- A power of ten. -/
def tens (n : Nat) : Nat := Size.power 10 n

namespace Value

def rank : Value → Nat
  | none => 0
  | notANumber => 1
  | infinite true => 2
  | finite .. => 3
  | infinite false => 4

protected def compare (x y : Value) : Ordering :=
  match x, y with
  | finite m e, finite n f =>
    let low := min e f
    let scale (m e : Int) : Int := m * tens (min (e - low).toNat 5000)
    orderOf (scale m e) (scale n f)
  | x, y => orderOf x.rank y.rank

end Value

/-- The number at the start of a text, which may have a power of ten after it. -/
def valueOf (text : List Char) : Value :=
  let text := (text.dropWhile fun c => isBlank c || c == '\n')
  let (isNegative, text) := match text with
    | '-' :: rest => (true, rest)
    | '+' :: rest => (false, rest)
    | text => (false, text)
  let letters := (text.take 3).map Char.toLower
  if letters == ['n', 'a', 'n'] then .notANumber
  else if letters == ['i', 'n', 'f'] then .infinite isNegative
  else
    let whole := text.takeWhile Char.isDigit
    let rest := text.drop whole.length
    let (places, rest) := match rest with
      | '.' :: rest =>
        let places := rest.takeWhile Char.isDigit
        (places, rest.drop places.length)
      | rest => ([], rest)
    if whole.isEmpty && places.isEmpty then .none
    else
      let number (digits : List Char) : Nat := ((String.ofList digits).toNat?).getD 0
      let exponent : Int := match rest with
        | 'e' :: rest | 'E' :: rest =>
          match rest with
          | '-' :: digits => -(number (digits.takeWhile Char.isDigit) : Int)
          | '+' :: digits | digits => number (digits.takeWhile Char.isDigit)
        | _ => 0
      let mantissa : Int := number (whole ++ places)
      .finite (if isNegative then -mantissa else mantissa) (exponent - places.length)

/-- The number of the month whose name a text begins with. -/
def monthOf (text : List Char) : Nat :=
  let name := String.ofList (((text.dropWhile isBlank).take 3).map Char.toUpper)
  let months :=
    ["JAN", "FEB", "MAR", "APR", "MAY", "JUN", "JUL", "AUG", "SEP", "OCT", "NOV", "DEC"]
  (months.idxOf? name).elim 0 (· + 1)

/-! ## Versions -/

/-- The rank of a character in a version: a tilde, the end, letters, other characters. -/
def versionRank (c : Option Char) : Int :=
  match c with
  | none => 0
  | some '~' => -1
  | some c =>
    if c.isDigit then 0 else if c.isAlpha then c.toNat else (c.toNat : Int) + 256

/-- The order of two texts without digits. -/
def compareRanks : List Char → List Char → Ordering
  | [], [] => .eq
  | x :: xs, [] => (orderOf (versionRank (some x)) 0).then (compareRanks xs [])
  | [], y :: ys => (orderOf 0 (versionRank (some y))).then (compareRanks [] ys)
  | x :: xs, y :: ys =>
    (orderOf (versionRank (some x)) (versionRank (some y))).then (compareRanks xs ys)

/-- The order of two texts in which runs of digits are numbers. -/
def compareRuns : Nat → List Char → List Char → Ordering
  | 0, _, _ => .eq
  | fuel + 1, x, y =>
    if x.isEmpty && y.isEmpty then .eq
    else
      let letters (cs : List Char) : List Char := cs.takeWhile (!·.isDigit)
      let afterLetters (cs : List Char) : List Char := cs.dropWhile (!·.isDigit)
      let digits (cs : List Char) : List Char :=
        ((afterLetters cs).takeWhile Char.isDigit).dropWhile (· == '0')
      let rest (cs : List Char) : List Char := (afterLetters cs).dropWhile Char.isDigit
      (compareRanks (letters x) (letters y)).then <|
        (orderOf (digits x).length (digits y).length).then <|
          (compareText (digits x) (digits y)).then (compareRuns fuel (rest x) (rest y))

/-- The length of a text without its endings, each of which is a point with letters after it. -/
def stemLength (cs : List Char) : Nat :=
  let isPart (c : Char) : Bool := c.isAlphanum || c == '~'
  let rec go : Nat → List Char → Nat
    | 0, rest => rest.length
    | fuel + 1, rest =>
      let part := rest.takeWhile isPart
      match rest.drop part.length, part.getLast? with
      | '.' :: before, some first =>
        if (first.isAlpha || first == '~') && !before.isEmpty then go fuel before else rest.length
      | _, _ => rest.length
  go cs.length cs.reverse

/-- The order of two texts as versions. -/
def compareVersions (x y : List Char) : Ordering :=
  let fuel := x.length + y.length + 1
  let special (cs : List Char) : Nat :=
    match cs with
    | [] => 0
    | ['.'] => 1
    | ['.', '.'] => 2
    | '.' :: _ => 3
    | _ => 4
  (orderOf (special x) (special y)).then <|
    if special x < 3 then .eq
    else
      (compareRuns fuel (x.take (stemLength x)) (y.take (stemLength y))).then (compareRuns fuel x y)

/-! ## Keys -/

/-- How the parts of lines are compared. -/
structure Manner where
  skipsStart : Bool := false
  skipsEnd : Bool := false
  dictionary : Bool := false
  visible : Bool := false
  folds : Bool := false
  numeric : Bool := false
  general : Bool := false
  human : Bool := false
  month : Bool := false
  version : Bool := false
  reverses : Bool := false
  deriving DecidableEq

namespace Manner

/-- Whether nothing is said but that the order is reversed. -/
def isPlain (m : Manner) : Bool := { m with reverses := false } == {}

/-- A manner with a letter; a blank is skipped at the start, the end, or both. -/
def add (m : Manner) (atStart atEnd : Bool) : Char → Option Manner
  | 'b' =>
    some { m with skipsStart := m.skipsStart || atStart, skipsEnd := m.skipsEnd || atEnd }
  | 'd' => some { m with dictionary := true }
  | 'f' => some { m with folds := true }
  | 'g' => some { m with general := true }
  | 'h' => some { m with human := true }
  | 'i' => some { m with visible := true }
  | 'M' => some { m with month := true }
  | 'n' => some { m with numeric := true }
  | 'r' => some { m with reverses := true }
  | 'V' => some { m with version := true }
  | _ => none

/-- The letters of manners that do not go together. -/
def conflict? (m : Manner) : Option String :=
  let numbers := [(m.general, "g"), (m.human, "h"), (m.month, "M"), (m.numeric, "n")]
  let texts := [(m.dictionary, "d"), (m.visible && !m.dictionary, "i")]
  let chosen := numbers.filter (·.1)
  let others := (m.version :: (texts.map (·.1)).take 1 ++ [m.visible]).contains true
  if 1 < chosen.length || (chosen.length = 1 && others) ||
      (m.version && (m.dictionary || m.visible)) then
    let letters := texts.take 1 ++ numbers.take 2 ++ [(m.visible && !m.dictionary, "i")] ++
      numbers.drop 2 ++ [(m.version, "V")]
    some (String.join ((letters.filter (·.1)).map (·.2)))
  else none

/-- The order of two parts. -/
def order (m : Manner) (x y : List Char) : Ordering :=
  let kept (cs : List Char) : List Char :=
    let cs := if m.dictionary then cs.filter fun c => c.isAlphanum || isBlank c
      else if m.visible then cs.filter fun c => 32 ≤ c.toNat && c.toNat < 127 else cs
    if m.folds then cs.map Char.toUpper else cs
  let x := kept x
  let y := kept y
  if m.numeric then compareNumbers x y
  else if m.general then (valueOf x).compare (valueOf y)
  else if m.human then compareSizes x y
  else if m.month then orderOf (monthOf x) (monthOf y)
  else if m.version then compareVersions x y
  else compareText x y

end Manner

/-- A part of a line. -/
structure Key where
  /-- How many fields are before it, and how many characters of its first field. -/
  fields : Nat := 0
  characters : Nat := 0
  /-- How many fields are before its last one, and how many characters it has of that, all of them
  if none; without this, it goes to the end of the line. -/
  last : Option (Nat × Nat) := none
  manner : Manner := {}

namespace Key

/-- A line after so many fields. -/
def afterFields (tab : Option Char) : Nat → List Char → List Char
  | 0, line => line
  | n + 1, line =>
    match tab with
    | some tab => afterFields (some tab) n ((line.dropWhile (· != tab)).drop 1)
    | none => afterFields none n ((line.dropWhile isBlank).dropWhile (!isBlank ·))

/-- What is left of a line after the end of a key. -/
def afterEnd (k : Key) (tab : Option Char) (line : List Char) : List Char :=
  match k.last with
  | none => []
  | some (fields, 0) =>
    match tab with
    | some tab => ((afterFields (some tab) fields line).dropWhile (· != tab))
    | none => afterFields none (fields + 1) line
  | some (fields, characters) =>
    let line := afterFields tab fields line
    let line := if k.manner.skipsEnd then line.dropWhile isBlank else line
    line.drop characters

/-- The part of a line that a key takes. -/
def part (k : Key) (tab : Option Char) (line : List Char) : List Char :=
  let start := afterFields tab k.fields line
  let start := if k.manner.skipsStart then start.dropWhile isBlank else start
  let start := start.drop k.characters
  start.take (start.length - (k.afterEnd tab line).length)

/-- A count of fields or characters, and what follows it. -/
def count (text : List Char) : Except String (Nat × List Char) :=
  let digits := text.takeWhile Char.isDigit
  match (String.ofList digits).toNat? with
  | some n => .ok (n, text.drop digits.length)
  | none =>
    let shown := String.ofList text
    .error s!"invalid number at field start: invalid count at start of '{shown}'"

/-- The letters that say how a key is compared. -/
def letters (atStart : Bool) (m : Manner) : List Char → Manner × List Char
  | [] => (m, [])
  | c :: rest =>
    match m.add atStart (!atStart) c with
    | some m => letters atStart m rest
    | none => (m, c :: rest)

/-- Reads a key. -/
def parse (text : String) : Except String Key := do
  let fault (rest : List Char) : Except String Unit :=
    if rest.isEmpty then .ok ()
    else .error s!"stray character in field spec: invalid field specification '{text}'"
  let zero (what : String) : String := s!"{what}: invalid field specification '{text}'"
  let (fields, rest) ← count text.toList
  if fields = 0 then throw (zero "field number is zero")
  let (characters, rest) ← match rest with
    | '.' :: rest => count rest
    | rest => pure (1, rest)
  if characters = 0 then throw (zero "character offset is zero")
  let (manner, rest) := letters true {} rest
  match rest with
  | ',' :: rest =>
    let (last, rest) ← count rest
    if last = 0 then throw (zero "field number is zero")
    let (lastCharacters, rest) ← match rest with
      | '.' :: rest => count rest
      | rest => pure (0, rest)
    let (manner, rest) := letters false manner rest
    fault rest
    return { fields := fields - 1, characters := characters - 1
             last := some (last - 1, lastCharacters), manner }
  | rest =>
    fault rest
    return { fields := fields - 1, characters := characters - 1, manner }

end Key

/-! ## The order of lines -/

/-- How lines are sorted. -/
structure Plan where
  keys : List Key
  tab : Option Char
  manner : Manner
  unique : Bool
  stable : Bool
  mark : Char

/-- A line, with its parts for the keys. -/
structure Entry where
  text : List Char
  parts : List (List Char)

namespace Plan

/-- A line, taken apart. -/
def entry (p : Plan) (line : String) : Entry :=
  let text := line.toList
  { text, parts := p.keys.map fun k => k.part p.tab text }

/-- The order of two lines as the keys tell them apart. -/
def keyOrder (keys : List Key) (x y : List (List Char)) : Ordering :=
  match keys, x, y with
  | k :: keys, a :: x, b :: y =>
    let order := k.manner.order a b
    (if k.manner.reverses then order.swap else order).then (keyOrder keys x y)
  | _, _, _ => .eq

/-- The order of two lines. -/
def order (p : Plan) (x y : Entry) : Ordering :=
  let byKeys := keyOrder p.keys x.parts y.parts
  if byKeys != .eq then byKeys
  else if !p.keys.isEmpty && (p.unique || p.stable) then .eq
  else
    let whole := compareText x.text y.text
    if p.manner.reverses then whole.swap else whole

/-- Whether the lines are in order as they are, and else the first one that is not. -/
def disorder? (p : Plan) : Nat → List Entry → Option (Nat × Entry)
  | n, x :: y :: rest =>
    let order := p.order x y
    if order == .gt || (p.unique && order == .eq) then some (n, y)
    else disorder? p (n + 1) (y :: rest)
  | _, _ => none

/-- Drops lines that are the same as the one before them. -/
def withoutRepeats (p : Plan) (entries : List Entry) : List Entry :=
  (entries.foldl (fun (kept : List Entry) e =>
    match kept with
    | [] => [e]
    | last :: _ => if p.order last e == .eq then kept else e :: kept) []).reverse

/-- Puts two lists together, the lesser first line first. -/
def merge (p : Plan) : Nat → List Entry → List Entry → List Entry → List Entry
  | fuel + 1, x :: xs, y :: ys, done =>
    if p.order x y == .gt then merge p fuel (x :: xs) ys (y :: done)
    else merge p fuel xs (y :: ys) (x :: done)
  | _, xs, ys, done => done.reverse ++ xs ++ ys

end Plan

/-- The options that change how lines are compared, by their letters. -/
def mannerOptions : List String := ["b", "d", "f", "g", "h", "i", "M", "n", "r", "V"]

/-- The manner that a name stands for. -/
def mannerNamed? (name : String) : Option String :=
  [("general-numeric", "g"), ("human-numeric", "h"), ("month", "M"), ("numeric", "n"),
    ("version", "V")].lookup name

/-- The plan that options ask for. -/
def planOf (w : Words) : Except String Plan := do
  let manner ← w.options.foldlM (fun (m : Manner) (name, value) =>
    let letter := if name == "sort" then mannerNamed? value else
      if mannerOptions.contains name then some name else none
    match letter with
    | some letter => .ok ((letter.toList.foldl (fun m c => (m.add true true c).getD m)) m)
    | none => if name == "sort" then .error s!"invalid argument '{value}' for '--sort'" else .ok m)
    ({} : Manner)
  let keys ← (w.options.filter (·.1 == "k")).mapM fun (_, text) => Key.parse text
  let keys := keys.map fun k =>
    if k.manner.isPlain && !k.manner.reverses then { k with manner } else k
  let keys := if keys.isEmpty && !manner.isPlain then [{ manner }] else keys
  match (keys.filterMap fun k => k.manner.conflict?).head? with
  | some letters => throw s!"options '-{letters}' are incompatible"
  | none => pure ()
  let tab ← match (w.value? ["t"]).map (·.toList) with
    | none => pure none
    | some [] => throw "empty tab"
    | some [c] => pure (some c)
    | some ['\\', '0'] => pure (some '\x00')
    | some cs => throw s!"multi-character tab '{String.ofList cs}'"
  return {
    keys, tab, manner
    unique := w.has ["u"]
    stable := w.has ["s"]
    mark := lineMark w }

def optionForm : OptionForm :=
  .of "bcCdfghik:mMno:rRsS:t:T:uVy:z" ["ignore-leading-blanks=b", "check::", "compress-program:",
    "debug", "dictionary-order=d", "ignore-case=f", "files0-from:", "general-numeric-sort=g",
    "ignore-nonprinting=i", "key=k", "merge=m", "month-sort=M", "numeric-sort=n",
    "human-numeric-sort=h", "version-sort=V", "random-sort=R", "random-source:", "sort:",
    "output=o", "reverse=r", "stable=s", "batch-size:", "buffer-size=S", "field-separator=t",
    "temporary-directory=T", "unique=u", "zero-terminated=z", "parallel:"]

/-- Sorts the lines of files as a plan says. -/
def sorted (p : Plan) (isMerge : Bool) (files : List (List Entry)) : List Entry :=
  let before (x y : Entry) : Bool := p.order x y != .gt
  let all :=
    if isMerge then
      files.foldl (fun done lines => p.merge (done.length + lines.length) done lines []) []
    else files.flatten.mergeSort before
  if p.unique then p.withoutRepeats all else all

end LineOrder

open LineOrder in
def sort (c : Call) : Answer :=
  c.withOptions LineOrder.optionForm 2 fun w =>
    match planOf w with
    | .error text => c.start.fail s!"{c.name}: {text}" 2
    | .ok p =>
      let checks := w.has ["c", "C", "check"]
      match checks, w.operands with
      | true, _ :: extra :: _ =>
        let letter := if w.has ["C"] then "C" else "c"
        c.start.fail s!"{c.name}: extra operand '{extra}' not allowed with -{letter}" 2
      | _, _ =>
        let (a, texts) := readEach c w.operands fun word e =>
          if e = .isDirectory then s!"read failed: {shown word}: {e.reason}"
          else s!"cannot read: {shown word}: {e.reason}"
        if a.status != 0 then { a with status := 2, written := a.written.take 1 }
        else
          let lines (text : String) : List Entry := (linesAt p.mark text).map p.entry
          let files := texts.map fun (_, text) => lines text
          if checks then
            match p.disorder? 2 files.flatten with
            | none => a
            | some (n, e) =>
              let check := (w.value? ["check"]).getD ""
              let silent := w.has ["C"] || ["quiet", "silent"].contains check
              let name := w.operands.headD "-"
              if silent then { a with status := 1 }
              else a.fail s!"{c.name}: {name}:{n}: disorder: {String.ofList e.text}" 1
          else
            let entries := LineOrder.sorted p (w.has ["m"]) files
            let text := String.join (entries.map fun e => String.ofList (e.text ++ [p.mark]))
            match w.value? ["o"] with
            | none => a.print text
            | some word =>
              match c.write a.tree word text with
              | .ok tree => { a with tree }
              | .error e => a.fail s!"{c.name}: open failed: {shown word}: {e.reason}" 2

end Bindery.Utility
