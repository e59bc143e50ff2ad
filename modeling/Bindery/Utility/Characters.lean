import Bindery.Utility.Basic

/-!
# Replacing characters

`tr` replaces the characters of one set by those of another one, deletes the characters of a set, or
leaves one of several that are the same. A set is a text with ranges, classes and counts in it.
-/

namespace Bindery.Utility

namespace Charset

/-- A character of a text, and whether a backslash was before it. -/
structure Written where
  char : Char
  escaped : Bool := false

def isOctal (c : Char) : Bool := '0' ≤ c && c ≤ '7'

/-- The character that a letter after a backslash stands for. -/
def escapeOf (c : Char) : Char :=
  match c with
  | 'a' => '\x07'
  | 'b' => '\x08'
  | 'f' => '\x0c'
  | 'n' => '\n'
  | 'r' => '\r'
  | 't' => '\t'
  | 'v' => '\x0b'
  | c => c

/-- The characters that a text is written with. -/
def writtenOf : Nat → List Char → List Written
  | 0, _ | _, [] => []
  | _ + 1, ['\\'] => [⟨'\\', false⟩]
  | fuel + 1, '\\' :: c :: rest =>
    if isOctal c then
      let digits := (c :: rest).take 3 |>.takeWhile isOctal
      let value (digits : List Char) : Nat := digits.foldl (fun n d => n * 8 + (d.toNat - 48)) 0
      let digits := if 255 < value digits then digits.dropLast else digits
      ⟨Char.ofNat (value digits), true⟩ :: writtenOf fuel ((c :: rest).drop digits.length)
    else ⟨escapeOf c, true⟩ :: writtenOf fuel rest
  | fuel + 1, c :: rest => ⟨c, false⟩ :: writtenOf fuel rest

/-- A part of a set. -/
inductive Item where
  | char (c : Char)
  | range (low high : Char)
  | cls (name : String)
  | equivalent (c : Char)
  /-- A character so many times; without a number, as often as needed. -/
  | repeated (c : Char) (count : Option Nat)

def isPlain (w : Written) (c : Char) : Bool := w.char == c && !w.escaped

/-- The text up to a mark and a closing bracket, and what follows them. -/
def bracketed? (mark : Char) : List Written → Option (List Written × List Written)
  | a :: b :: rest =>
    if isPlain a mark && isPlain b ']' then some ([], rest)
    else (bracketed? mark (b :: rest)).map fun (inside, rest) => (a :: inside, rest)
  | _ => none

def textOf (ws : List Written) : String := String.ofList (ws.map (·.char))

/-- The names of classes. -/
def classNames : List String :=
  ["alnum", "alpha", "blank", "cntrl", "digit", "graph", "lower", "print", "punct", "space",
    "upper", "xdigit"]

/-- Whether a character is in a class. -/
def inClass (name : String) (c : Char) : Bool :=
  let n := c.toNat
  let isGraph := 32 < n && n < 127
  match name with
  | "alnum" => c.isAlphanum
  | "alpha" => c.isAlpha
  | "blank" => c == ' ' || c == '\t'
  | "cntrl" => n < 32 || n = 127
  | "digit" => c.isDigit
  | "graph" => isGraph
  | "lower" => c.isLower
  | "print" => n = 32 || isGraph
  | "punct" => isGraph && !c.isAlphanum
  | "space" => n = 32 || (9 ≤ n && n ≤ 13)
  | "upper" => c.isUpper
  | "xdigit" => c.isDigit || ('a' ≤ c.toLower && c.toLower ≤ 'f')
  | _ => false

def allBytes : List Char := (List.range 256).map Char.ofNat

/-- The count in a part such as `[c*8]`. -/
def countOf (ws : List Written) : Except String (Option Nat) :=
  let cs := ws.map (·.char)
  let fault := s!"invalid repeat count '{textOf ws}' in [c*n] construct"
  let count? : Option Nat :=
    match cs with
    | [] => some 0
    | '0' :: _ =>
      if cs.all isOctal then some (cs.foldl (fun n d => n * 8 + (d.toNat - 48)) 0) else none
    | cs => (String.ofList cs).toNat?
  match count? with
  | some 0 => .ok none
  | some n => .ok (some n)
  | none => .error fault

/-- The part in brackets at the start of a text, if there is one, and what follows it. -/
def bracketItem? (ws : List Written) : Except String (Option (Item × List Written)) := do
  match ws with
  | opening :: a :: b :: rest =>
    if !isPlain opening '[' then return none
    let named ← if isPlain a ':' then
        match bracketed? ':' (b :: rest) with
        | some (name, rest) =>
          let name := textOf name
          if name.isEmpty then throw "missing character class name '[::]'"
          if !classNames.contains name then throw s!"invalid character class '{name}'"
          pure (some (Item.cls name, rest))
        | none => pure none
      else if isPlain a '=' then
        match bracketed? '=' (b :: rest) with
        | some ([c], rest) => pure (some (Item.equivalent c.char, rest))
        | some ([], _) => throw "missing equivalence class character '[==]'"
        | some (name, _) =>
          throw s!"{textOf name}: equivalence class operand must be a single character"
        | none => pure none
      else pure none
    if named.isSome then return named
    if !isPlain b '*' then return none
    let count := rest.takeWhile (!isPlain · ']')
    match rest.drop count.length with
    | [] => return none
    | _ :: rest => return some (.repeated a.char (← countOf count), rest)
  | _ => return none

/-- The parts of a set. -/
def itemsOf : Nat → List Written → Except String (List Item)
  | 0, _ | _, [] => .ok []
  | fuel + 1, w :: rest => do
    match ← bracketItem? (w :: rest) with
    | some (item, rest) => return item :: (← itemsOf fuel rest)
    | none =>
      match rest with
      | dash :: high :: after =>
        if isPlain dash '-' then
          if high.char < w.char then
            throw (s!"range-endpoints of '{w.char}-{high.char}' are in reverse collating " ++
              "sequence order")
          return .range w.char high.char :: (← itemsOf fuel after)
        else return .char w.char :: (← itemsOf fuel rest)
      | rest => return .char w.char :: (← itemsOf fuel rest)

/-- The parts of a set that a text denotes. -/
def parse (text : String) : Except String (List Item) :=
  itemsOf (text.length + 1) (writtenOf (text.length + 1) text.toList)

/-- The characters of a part; `fill` is how often one is taken that has no count. -/
def Item.chars (fill : Nat) : Item → List Char
  | char c | equivalent c => [c]
  | range low high =>
    (List.range (high.toNat + 1 - low.toNat)).map fun i => Char.ofNat (low.toNat + i)
  | cls name => allBytes.filter (inClass name)
  | repeated c count => List.replicate (count.getD fill) c

def charsOf (fill : Nat) (items : List Item) : List Char := items.flatMap (Item.chars fill)

def isFilling : Item → Bool
  | .repeated _ none => true
  | _ => false

def isClass : Item → Bool
  | .cls _ => true
  | _ => false

def isCaseClass : Item → Bool
  | .cls name => name == "upper" || name == "lower"
  | _ => false

/-- Where classes of capital or small letters begin. -/
def casePlaces (fill : Nat) (items : List Item) : List Nat :=
  (items.foldl (fun ((places, at_) : List Nat × Nat) item =>
    (if isCaseClass item then places ++ [at_] else places, at_ + (item.chars fill).length))
    ([], 0)).1

end Charset

/-- What is done with characters. -/
structure Replacement where
  /-- What becomes of each byte. -/
  table : Array (Option Char)
  /-- The characters of which one stands for several in a row. -/
  squeezed : List Char

namespace Replacement

/-- Replaces the characters of a text. -/
def apply (r : Replacement) (text : String) : String :=
  let squeezes := (List.range 256).map fun n => r.squeezed.contains (Char.ofNat n)
  let squeezes := squeezes.toArray
  (text.foldl (fun ((done, last) : String × Option Char) c =>
    match r.table.getD c.toNat none with
    | none => (done, last)
    | some c =>
      if last == some c && squeezes.getD c.toNat false then (done, last)
      else (done.push c, some c)) ("", none)).1

end Replacement

open Charset in
/-- The characters that two sets pair with each other. -/
def pairsOf (complements truncates : Bool) (first second : List Item) :
    Except String (List (Char × Char)) := do
  let chars := charsOf 0 first
  let chars := if complements then allBytes.filter (!chars.contains ·) else chars
  let fixed := (charsOf 0 second).length
  let fill := chars.length - fixed
  let targets := charsOf fill second
  if second.any fun | .equivalent _ => true | _ => false then
    throw "[=c=] expressions may not appear in string2 when translating"
  if second.any fun item => isClass item && !isCaseClass item then
    throw ("when translating, the only character classes that may appear in\nstring2 are " ++
      "'upper' and 'lower'")
  let places := casePlaces 0 first
  if !(casePlaces fill second).all places.contains then
    throw "misaligned [:upper:] and/or [:lower:] construct"
  let isShort := targets.length < chars.length && !truncates
  if isShort && targets.isEmpty then
    throw "when not truncating set1, string2 must be non-empty"
  if isShort && (second.getLast?).any isClass then
    throw ("when translating with string1 longer than string2,\nthe latter string must not end " ++
      "with a character class")
  let last := targets.getLastD 'x'
  let targets := if isShort then targets ++ List.replicate (chars.length - targets.length) last
    else targets
  if complements && first.any isClass &&
      !(targets.length = chars.length && targets.all (· == last)) then
    throw ("when translating with complemented character classes,\nstring2 must map all " ++
      "characters in the domain to one")
  return chars.zip targets

open Charset in
/-- The replacement that options and sets ask for. -/
def replacementOf (w : Words) (first second : List Item) : Except String Replacement := do
  let complements := w.has ["c", "C"]
  let deletes := w.has ["d"]
  let squeezes := w.has ["s"]
  let translates := w.operands.length = 2 && !deletes
  if first.any isFilling then throw "the [c*] repeat construct may not appear in string1"
  if 1 < second.countP isFilling then
    throw "only one [c*] repeat construct may appear in string2"
  if !translates && second.any isFilling then
    throw "the [c*] construct may appear in string2 only when translating"
  let chars := charsOf 0 first
  let isFirst (c : Char) : Bool := chars.contains c != complements
  let plain : Array (Option Char) := (allBytes.map some).toArray
  if translates then
    let pairs ← pairsOf complements (w.has ["t"]) first second
    let table := pairs.foldl (fun t (c, target) => t.set! c.toNat (some target)) plain
    return { table, squeezed := if squeezes then charsOf 256 second else [] }
  else if deletes then
    let table := (allBytes.map fun c => if isFirst c then none else some c).toArray
    return { table, squeezed := if squeezes then charsOf 0 second else [] }
  else return { table := plain, squeezed := allBytes.filter isFirst }

def tr (c : Call) : Answer :=
  let form : OptionForm :=
    .of "cCdst" ["complement=c", "delete=d", "squeeze-repeats=s", "truncate-set1=t"] true
  c.withOptions form 1 fun w =>
    let deletes := w.has ["d"]
    let squeezes := w.has ["s"]
    let least := if deletes == squeezes then 2 else 1
    let most := if deletes && !squeezes then 1 else 2
    match w.operands with
    | [] => c.misuse "missing operand" 1
    | [only] =>
      if least = 2 then
        let why := if squeezes then "Two strings must be given when both deleting and squeezing " ++
          "repeats." else "Two strings must be given when translating."
        c.misuse s!"missing operand after '{only}'\n{why}" 1
      else run w only ""
    | [first, second] =>
      if most = 1 then
        c.misuse (s!"extra operand '{second}'\nOnly one string may be given when deleting " ++
          "without squeezing repeats.") 1
      else run w first second
    | _ :: _ :: extra :: _ => c.misuse s!"extra operand '{extra}'" 1
where
  run (w : Words) (first second : String) : Answer :=
    let found : Except String Replacement := do
      replacementOf w (← Charset.parse first) (← Charset.parse second)
    match found with
    | .error text => c.fail c.start text
    | .ok replacement =>
      let (input, a) := c.read c.start "-"
      match input with
      | .ok text => a.print (replacement.apply text)
      | .error e => c.fail a s!"read error: {e.reason}"

end Bindery.Utility
