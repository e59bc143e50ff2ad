import Bindery.Decimal.Reading
import Bindery.Shell.Escape
import Std.Data.HashMap

/-!
# Values and tables

A value is a number or a text, or both: a text that was read counts as a number where it looks like
one, and a variable that was not set is zero and the empty text.

A format is a text with directives, each of which is replaced by a value.

A table holds values under keys, which are texts or whole numbers. The order in which the keys are
gone through shows how the table is built: keys are in chains by their hashes, and one that is
looked for moves to the front of its chain. There is a chain for a key as a text and one for it as a
number; the first are only there when they have been asked for. When the chains grow too long there
are made twice as many.
-/

namespace Bindery.Utility.Awk

inductive Value where
  | absent
  | number (value : Float)
  | text (value : String)
  /-- A text that was read. -/
  | input (value : String)
  deriving Inhabited

/-! ## Numbers in texts -/

def isBlank (c : Char) : Bool := c == ' ' || c == '\t' || c == '\x0b' || c == '\x0c' || c == '\r'

/-- The number that a text looks like, blanks around it left out. -/
def numeral? (text : String) : Option Float :=
  let cs := (text.toList.dropWhile isBlank)
  match cs with
  | [] => none
  | c :: _ =>
    if !(c.isDigit || c == '+' || c == '-' || c == '.') then none
    else
      let cs := (cs.reverse.dropWhile isBlank)
      let last := cs.headD ' '
      if !(last.isDigit || last == '.') then none
      else
        match Decimal.takeNumber? cs.reverse with
        | some (x, []) => some x
        | _ => none

/-- The number at the front of a text, or zero. -/
def numberOf (text : String) : Float :=
  match text.toList with
  | [] => 0.0
  | [c] => if c.isDigit then Float.ofNat (c.toNat - 48) else 0.0
  | cs => ((Decimal.takeNumber? cs).map (·.1)).getD 0.0

/-! ## Numbers as texts -/

/-- The whole number of 64 bits that a number begins with. -/
def wholeOf (x : Float) : Int :=
  if x != x then -9223372036854775808
  else if 18446744073709551615.0 ≤ x then 18446744073709551615
  else if x ≤ -9223372036854775808.0 then -9223372036854775808
  else Decimal.truncated x

/-- A number as a format writes it that gives six digits. -/
def shortText (x : Float) : String :=
  if x != x then "-nan"
  else (if Decimal.isNegative x then "-" else "") ++ Decimal.realText 'g' 6 false x

/-- A number as a text: whole ones in full, others by a format. -/
def numberText (format : Float → String) (x : Float) : String :=
  if x == x.floor && x.abs < 9007199254740992.0 then toString x.toInt64.toInt
  else if x == x.floor && -9223372036854775808.0 ≤ x && x ≤ 18446744073709551616.0 then
    toString (wholeOf x)
  else format x

namespace Value

def toNumber : Value → Float
  | absent => 0.0
  | number x => x
  | text s | input s => numberOf s

/-- The text of a value; `format` writes numbers that are not whole. -/
def toText (format : Float → String) : Value → String
  | absent => ""
  | number x => numberText format x
  | text s | input s => s

/-- The number that a value counts as in a comparison, if it does. -/
def numeric? : Value → Option Float
  | absent => some 0.0
  | number x => some x
  | text _ => none
  | input s => numeral? s

def isTrue : Value → Bool
  | absent => false
  | number x => x != 0.0
  | text s => !s.isEmpty
  | input s =>
    match numeral? s with
    | some x => x != 0.0
    | none => !s.isEmpty

def ofBool (b : Bool) : Value := number (if b then 1.0 else 0.0)

def ofNat (n : Nat) : Value := number (Float.ofNat n)

/-- The order of two values: of the numbers if both count as numbers, else of the texts. Numbers may
have no order. -/
def compare (format : Float → String) (a b : Value) : Option Ordering :=
  match a.numeric?, b.numeric? with
  | some x, some y =>
    if x < y then some .lt else if x == y then some .eq else if y < x then some .gt else none
  | _, _ =>
    let s := a.toText format
    let t := b.toText format
    some (if s < t then .lt else if s == t then .eq else .gt)

end Value

/-! ## Formats -/

namespace Format

/-- A directive: flags, width and precision, and the letter. -/
abbrev Directive := Shell.Directive

/-- A number as a directive writes it. -/
def realField (d : Directive) (x : Float) : String :=
  let isNegative := x != x || Decimal.isNegative x
  Shell.Filling.realText d isNegative x

/-- The character that a value stands for. -/
def characterOf (v : Value) : Char :=
  let ofNumber (x : Float) : Char := Char.ofNat ((wholeOf x % 256).toNat)
  match v with
  | .absent => '\x00'
  | .number x => ofNumber x
  | .text s => (s.toList.head?).getD '\x00'
  | .input s =>
    match numeral? s with
    | some x => ofNumber x
    | none => (s.toList.head?).getD '\x00'

/-- What is wrong with a format. -/
inductive Fault where
  | missing
  | improper (number : Nat)

/-- A format filled so far. -/
structure State where
  text : String := ""
  args : List Value
  /-- How many directives there were. -/
  count : Nat := 0

/-- A width or a precision: digits, or a star for an argument. -/
def takeSize (args : List Value) (cs : List Char) :
    Except Fault (Option Int × List Value × List Char) :=
  match cs, args with
  | '*' :: rest, v :: args => .ok (some (wholeOf v.toNumber), args, rest)
  | '*' :: _, [] => .error .missing
  | cs, args =>
    let digits := cs.takeWhile Char.isDigit
    let value := if digits.isEmpty then none else some (Int.ofNat (Decimal.ofDigits 10 digits))
    .ok (value, args, cs.drop digits.length)

/-- A value as a directive writes it; nothing for a letter that is not known. -/
def field? (format : Float → String) (d : Directive) (v : Value) : Option String :=
  match d.letter with
  | 's' => some (Shell.Filling.padTo d (Shell.Filling.cut d (v.toText format)))
  | 'c' => some (Shell.Filling.padTo d (String.singleton (characterOf v)))
  | 'd' | 'i' => some (Shell.Filling.numberText d (wholeOf v.toNumber))
  | 'o' | 'x' | 'X' | 'u' =>
    some (Shell.Filling.numberText d (Shell.Filling.unsigned (wholeOf v.toNumber)))
  | 'e' | 'f' | 'g' | 'E' | 'F' | 'G' => some (realField d v.toNumber)
  | _ => none

/-- Fills a directive, the text after its percent sign. -/
def directive (format : Float → String) (s : State) (cs : List Char) :
    Except (Fault × State) (State × List Char) :=
  let fail {α : Type} (fault : Fault) : Except (Fault × State) α := .error (fault, s)
  let flags := cs.takeWhile (['#', '-', '+', ' ', '0'].contains ·)
  match takeSize s.args (cs.drop flags.length) with
  | .error fault => fail fault
  | .ok (width, args, cs) =>
    let isPoint := cs.head? == some '.'
    match if isPoint then takeSize args (cs.drop 1) else .ok (none, args, cs) with
    | .error fault => fail fault
    | .ok (precision, args, cs) =>
      let precision := if isPoint then some (precision.getD 0) else none
      let cs := cs.dropWhile fun c => c == 'l' || c == 'h'
      match args, cs with
      | [], _ => fail .missing
      | v :: args, letter :: rest =>
        match field? format ⟨flags, width, precision, letter⟩ v with
        | some text => .ok ({ text := s.text ++ text, args, count := s.count + 1 }, rest)
        | none => fail (.improper (s.count + 1))
      | _ :: _, [] => fail (.improper (s.count + 1))

/-- Fills the rest of a format. -/
def fill (format : Float → String) : Nat → State → List Char → Except (Fault × State) State
  | 0, s, _ | _, s, [] => .ok s
  | fuel + 1, s, c :: rest =>
    if c != '%' then fill format fuel { s with text := s.text.push c } rest
    else if rest.head? == some '%' then
      fill format fuel { s with text := s.text.push '%' } (rest.drop 1)
    else do
      let (s, rest) ← directive format s rest
      fill format fuel s rest

end Format

/-- A format filled with values. -/
def formatted (number : Float → String) (format : String) (args : List Value) :
    Except (Format.Fault × Format.State) String :=
  (Format.fill number (format.length + 1) { args } format.toList).map (·.text)

/-- How a format writes one number. -/
def numberBy (format : String) (x : Float) : String :=
  if format == "%.6g" then shortText x
  else ((formatted shortText format [.number x]).toOption).getD (shortText x)

/-! ## Tables -/


/-- A key: a text, or a whole number. -/
inductive Key where
  | text (value : String)
  | number (value : Int)

/-- The text of a key. -/
def Key.toText : Key → String
  | text s => s
  | number n => toString n

/-- The hash of a text, in 32 bits. -/
def hashOf (text : String) : UInt32 :=
  text.foldl (fun h c => (h ^^^ c.val) * 16777619) 2166136261

structure Table where
  values : Std.HashMap String Value := {}
  /-- The chains of keys as texts. -/
  texts : Array (List String) := #[]
  /-- The chains of keys as numbers. -/
  numbers : Array (List Int) := #[]
  hasTexts : Bool := false
  hasNumbers : Bool := false
  /-- All keys are numbers from one on, and no others were looked for. -/
  isList : Bool := false
  deriving Inhabited

namespace Table

/-- The number of chains of a new table. -/
def startSize : Nat := 64

/-- The number of keys for which there is to be a chain. -/
def chainLimit : Nat := 12

def size (t : Table) : Nat := t.values.size

/-- The number of chains. -/
def chains (t : Table) : Nat := t.numbers.size

def textPlace (count : Nat) (key : String) : Nat := (hashOf key).toNat % count

def numberPlace (count : Nat) (key : Int) : Nat := (key % (count : Int)).toNat

/-- A table without keys that has its chains. -/
def fresh : Table where
  texts := Array.replicate startSize []
  numbers := Array.replicate startSize []

/-- The key `k` at the front of a chain that may hold it. -/
def toFront {α : Type} [BEq α] (k : α) (chain : List α) : List α :=
  match chain with
  | first :: _ => if first == k then chain else k :: chain.filter (· != k)
  | [] => [k]

def touchText (t : Table) (key : String) : Table :=
  let place := textPlace t.chains key
  { t with texts := t.texts.modify place (toFront key), hasTexts := true }

def touchNumber (t : Table) (key : Int) : Table :=
  let place := numberPlace t.chains key
  { t with numbers := t.numbers.modify place (toFront key), hasNumbers := true }

/-- Puts all keys into chains as texts. -/
def addTexts (t : Table) : Table :=
  if t.hasTexts then t
  else
    let all := t.numbers.foldl (fun texts chain =>
      chain.foldl (fun (texts : Array (List String)) n =>
        let key := toString n
        texts.modify (textPlace t.chains key) (key :: ·)) texts) t.texts
    { t with texts := all, hasTexts := true, isList := false }

/-- Chains twice as many: the keys of each are divided, in their order. -/
def divide {α : Type} (place : Nat → α → Nat) (chains : Array (List α)) : Array (List α) :=
  let count := 2 * chains.size
  let part (low : Bool) : Array (List α) :=
    chains.mapIdx fun i chain => chain.filter fun k => (place count k == i) == low
  part true ++ part false

/-- Makes room for one more key. -/
def grow (t : Table) : Table :=
  if t.chains * chainLimit < t.size + 1 then
    { t with texts := divide textPlace t.texts, numbers := divide numberPlace t.numbers }
  else t

/-- Notes that a key was looked for that is there. -/
def found (t : Table) : Key → Table
  | .text key => t.addTexts.touchText key
  | .number n =>
    let place := numberPlace t.chains n
    if t.isList then t
    else if ((t.numbers[place]?).getD []).contains n then t.touchNumber n
    else (t.touchText (toString n)).touchNumber n

/-- Notes a key that is not there yet. -/
def addKey (t : Table) (key : Key) : Table :=
  let t := if t.chains = 0 then { fresh with values := t.values } else { t with isList := false }
  match key with
  | .text key => (if t.hasNumbers then t.addTexts else t).grow.touchText key
  | .number n =>
    let t := t.grow
    (if t.hasTexts then t.touchText (toString n) else t).touchNumber n

/-- The value of a key, which is there from then on. -/
def get (t : Table) (key : Key) : Value × Table :=
  let name := key.toText
  match t.values[name]? with
  | some v => (v, t.found key)
  | none =>
    let t := t.addKey key
    (.absent, { t with values := t.values.insert name .absent })

/-- Gives a key a value. -/
def set (t : Table) (key : Key) (value : Value) : Table :=
  let name := key.toText
  let t := if t.values.contains name then t.found key else t.addKey key
  { t with values := t.values.insert name value }

/-- Whether a key is there. -/
def has (t : Table) (key : Key) : Bool × Table :=
  if t.values.contains key.toText then (true, t.found key)
  else
    match key with
    | .text _ => (false, if t.size = 0 then t else t.addTexts)
    | .number _ => (false, t)

/-- Removes a key. -/
def erase (t : Table) (key : Key) : Table :=
  let name := key.toText
  let (isThere, t) := t.has key
  if !isThere then t
  else if t.size = 1 then {}
  else
    let values := t.values.erase name
    let texts := t.texts.modify (textPlace t.chains name) (·.filter (· != name))
    let numbers := match name.toInt? with
      | some n => t.numbers.modify (numberPlace t.chains n) (·.filter (· != n))
      | none => t.numbers
    { t with values, texts, numbers }

/-- The keys in the order of the chains. -/
def keys (t : Table) : List String × Table :=
  if t.size = 0 then ([], t)
  else
    let t := t.addTexts
    ((t.texts.toList).flatten, t)

/-- The table of texts under the numbers from one on. -/
def ofList (parts : List Value) : Table :=
  let count := parts.length
  let sizes := (List.range 40).map fun i => startSize * Nat.pow 2 i
  let chains := (sizes.find? fun n => count ≤ n * chainLimit).getD startSize
  if parts.isEmpty then {}
  else
    let t : Table :=
      { texts := Array.replicate chains [], numbers := Array.replicate chains []
        hasNumbers := true, isList := true }
    (parts.zipIdx 1).foldl (fun t (v, i) =>
      let numbers := t.numbers.modify (numberPlace chains i) ((i : Int) :: ·)
      { t with numbers, values := t.values.insert (toString i) v }) t

end Table

end Bindery.Utility.Awk
