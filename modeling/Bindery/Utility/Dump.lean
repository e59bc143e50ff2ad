import Bindery.Text.Units
import Bindery.Utility.Display

/-!
# Bytes as text

The utilities that print bytes as numbers, or as letters and digits from which the bytes can be read
again.
-/

namespace Bindery.Utility

/-! ## Numbers -/

/-- What a group of bytes is printed as. -/
inductive DumpKind where
  /-- The names of characters. -/
  | named
  /-- Characters, with escapes. -/
  | character
  /-- A number in a base. -/
  | number (base : Nat)
  /-- A number with a sign. -/
  | signed
  deriving DecidableEq

/-- A way to print bytes. -/
structure DumpStyle where
  kind : DumpKind
  /-- How many bytes make up a number. -/
  size : Nat
  /-- The characters are printed after the numbers. -/
  withText : Bool := false

namespace DumpStyle

/-- The width of a number, without the blank before it. -/
def width (s : DumpStyle) : Nat :=
  match s.kind, s.size with
  | .named, _ | .character, _ => 3
  | .number 8, 1 => 3
  | .number 8, 2 => 6
  | .number 8, 4 => 11
  | .number 8, _ => 22
  | .number 16, n => 2 * n
  | .number _, 1 => 3
  | .number _, 2 => 5
  | .number _, 4 => 10
  | .number _, _ => 20
  | .signed, 1 => 4
  | .signed, 2 => 6
  | .signed, 4 => 11
  | .signed, _ => 20

/-- The names of the bytes that are no visible characters. -/
def names : List String :=
  ["nul", "soh", "stx", "etx", "eot", "enq", "ack", "bel", "bs", "ht", "nl", "vt", "ff", "cr",
    "so", "si", "dle", "dc1", "dc2", "dc3", "dc4", "nak", "syn", "etb", "can", "em", "sub", "esc",
    "fs", "gs", "rs", "us", "sp"]

def padded (width base n : Nat) : String :=
  let digits := Nat.toDigits base n
  String.ofList (List.replicate (width - digits.length) '0' ++ digits)

/-- A byte as a character. -/
def characterText (b : UInt8) : String :=
  match b.toNat with
  | 0 => "\\0"
  | 7 => "\\a"
  | 8 => "\\b"
  | 9 => "\\t"
  | 10 => "\\n"
  | 11 => "\\v"
  | 12 => "\\f"
  | 13 => "\\r"
  | n => if 32 ≤ n && n < 127 then String.singleton (Char.ofNat n) else padded 3 8 n

/-- The number that bytes make up, the low one first. -/
def value (bytes : List UInt8) : Nat := bytes.foldr (fun b n => b.toNat + 256 * n) 0

/-- A group of bytes, at the right of its width. -/
def itemText (s : DumpStyle) (bytes : List UInt8) : String :=
  let text := match s.kind with
    | .named =>
      let n := (value bytes) % 128
      if n = 127 then "del" else names.getD n (String.singleton (Char.ofNat n))
    | .character => characterText (bytes.headD 0)
    | .number 10 => toString (value bytes)
    | .number base => padded s.width base (value bytes)
    | .signed =>
      let half := Size.power 256 s.size / 2
      let n := value bytes
      if n < half then toString n else s!"-{2 * half - n}"
  padLeft s.width text

/-- The groups of a line, filled up with zeros. -/
def groups (size : Nat) : Nat → List UInt8 → List (List UInt8)
  | 0, _ | _, [] => []
  | fuel + 1, bytes =>
    let group := bytes.take size
    (group ++ List.replicate (size - group.length) 0) :: groups size fuel (bytes.drop size)

/-- A line of so many bytes. `column` is the width that all styles have for the bytes of a group of
the greatest size. -/
def line (s : DumpStyle) (perLine : Nat) (greatest column : Nat) (bytes : List UInt8) : String :=
  let perGroup := greatest / s.size
  let extra := column - perGroup * (s.width + 1)
  let groups := groups s.size (bytes.length + 1) bytes
  let text := String.join (groups.zipIdx.map fun (group, i) =>
    let rest := i % perGroup
    let before :=
      (extra * (perGroup - rest)) / perGroup - (extra * (perGroup - rest - 1)) / perGroup
    padLeft (before + 1) "" ++ s.itemText group)
  if !s.withText then text
  else
    let missing := perLine / s.size - groups.length
    let fill := padLeft (missing * (s.width + 1) + missing * extra / perGroup) ""
    let visible := bytes.map fun b =>
      if 32 ≤ b.toNat && b.toNat < 127 then Char.ofNat b.toNat else '.'
    text ++ fill ++ "  >" ++ String.ofList visible ++ "<"

/-- The sizes that letters stand for. -/
def sizeOfLetter? : Char → Option Nat
  | 'C' => some 1
  | 'S' => some 2
  | 'I' => some 4
  | 'L' => some 8
  | _ => none

/-- The styles that a text says. -/
def parse : Nat → List Char → Except String (List DumpStyle)
  | 0, _ | _, [] => .ok []
  | fuel + 1, c :: rest => do
    let digits := rest.takeWhile Char.isDigit
    let (size, rest) := match digits, rest with
      | [], letter :: more =>
        match sizeOfLetter? letter with
        | some size => (size, more)
        | none => (4, rest)
      | [], [] => (4, [])
      | digits, rest => (((String.ofList digits).toNat?).getD 0, rest.drop digits.length)
    let text := String.ofList (c :: rest)
    let (kind, size) ← match c with
      | 'a' => pure (DumpKind.named, 1)
      | 'c' => pure (DumpKind.character, 1)
      | 'd' => pure (DumpKind.signed, size)
      | 'o' => pure (DumpKind.number 8, size)
      | 'u' => pure (DumpKind.number 10, size)
      | 'x' => pure (DumpKind.number 16, size)
      | c => throw s!"invalid character '{c}' in type string '{text}'"
    if !([1, 2, 4, 8].contains size) then
      throw (s!"invalid type string '{text}';\n" ++
        s!"this system doesn't provide a {size}-byte integral type")
    let withText := rest.head? == some 'z'
    return { kind, size, withText } :: (← parse fuel (if withText then rest.drop 1 else rest))

end DumpStyle

/-- A place in a dump, as it is printed before lines. -/
def dumpAddress (radix : Char) (place : Nat) : String :=
  match radix with
  | 'd' => DumpStyle.padded 7 10 place
  | 'x' => DumpStyle.padded 6 16 place
  | 'n' => ""
  | _ => DumpStyle.padded 7 8 place

/-- Bytes in lines. -/
def linesOfBytes (perLine : Nat) : Nat → List UInt8 → List (List UInt8)
  | 0, _ | _, [] => []
  | fuel + 1, bytes => bytes.take perLine :: linesOfBytes perLine fuel (bytes.drop perLine)

/-- The text of a dump. Lines that are the same as the one before them are left out. -/
def dump (styles : List DumpStyle) (radix : Char) (perLine start : Nat) (showsAll : Bool)
    (bytes : List UInt8) : String :=
  let greatest := styles.foldl (fun most s => max most s.size) 1
  let column := styles.foldl (fun most s => max most (greatest / s.size * (s.width + 1))) 0
  let addressWidth := (dumpAddress radix 0).length
  let (text, _, _, place) := (linesOfBytes perLine (bytes.length + 1) bytes).foldl
    (fun ((text, last, starred, place) : String × Option (List UInt8) × Bool × Nat) line =>
      let next := place + line.length
      if !showsAll && last == some line && line.length = perLine then
        (if starred then text else text ++ "*\n", last, true, next)
      else
        let rows := styles.zipIdx.map fun (s, i) =>
          (if i = 0 then dumpAddress radix place else padLeft addressWidth "") ++
            s.line perLine greatest column line ++ "\n"
        (text ++ String.join rows, some line, false, next)) ("", none, false, start)
  text ++ if radix == 'n' then "" else dumpAddress radix place ++ "\n"

/-- The options of `od` that stand for styles, with the text of the style. -/
def dumpLetters : List (String × String) :=
  [("a", "a"), ("b", "o1"), ("c", "c"), ("d", "u2"), ("i", "dI"), ("l", "dL"), ("o", "o2"),
    ("s", "d2"), ("x", "x2"), ("B", "o2"), ("D", "u4"), ("X", "x4"), ("O", "o4")]

/-- A number in the base that its first characters say. -/
def numberWithBase? (text : String) : Option Nat :=
  match text.toList with
  | '0' :: 'x' :: digits | '0' :: 'X' :: digits =>
    let digit (c : Char) : Option Nat :=
      if c.isDigit then some (c.toNat - 48)
      else if 'a' ≤ c.toLower && c.toLower ≤ 'f' then some (c.toLower.toNat - 87) else none
    if digits.isEmpty then none
    else (digits.mapM digit).map fun ds => ds.foldl (fun n d => n * 16 + d) 0
  | _ => Size.parse? text

def od (c : Call) : Answer :=
  let form : OptionForm := .of "A:aBbcDdeFfHhIij:LlN:OoS:st:vw::Xx" ["skip-bytes=j",
    "address-radix=A", "read-bytes=N", "format=t", "output-duplicates=v", "strings::",
    "traditional", "width=w", "endian:"]
  c.withOptions form 1 fun w =>
    let styles? := w.options.foldlM (fun (styles : List DumpStyle) (name, value) =>
      match name, dumpLetters.lookup name with
      | "t", _ => (DumpStyle.parse (value.length + 1) value.toList).map (styles ++ ·)
      | _, some text => (DumpStyle.parse 9 text.toList).map (styles ++ ·)
      | _, none => .ok styles) []
    let number (name what : String) : Except String (Option Nat) :=
      match w.value? [name] with
      | none => .ok none
      | some text =>
        match numberWithBase? text with
        | some n => .ok (some n)
        | none => .error s!"invalid -{name} argument '{text}'{what}"
    let radix := ((w.value? ["A"]).getD "o").toList.headD 'o'
    let settings : Except String (List DumpStyle × Nat × Option Nat × Nat) := do
      let styles ← styles?
      let styles := if styles.isEmpty then [{ kind := .number 8, size := 2 }] else styles
      if !(['d', 'o', 'x', 'n'].contains radix) then
        throw s!"invalid output address radix '{radix}'; it must be one character from [doxn]"
      let skip ← number "j" ""
      let most ← number "N" ""
      let width ← match w.value? ["w"] with
        | none => pure 16
        | some "" => pure 32
        | some text =>
          match text.toNat? with
          | some (n + 1) => pure (n + 1)
          | _ => throw s!"invalid -w argument '{text}'"
      return (styles, skip.getD 0, most, width)
    match settings with
    | .error text => c.fail c.start text
    | .ok (styles, skip, most, width) =>
      let (a, texts) := readAll c w.operands
      let all := String.join (texts.map (·.2))
      if all.length < skip then
        c.fail a "cannot skip past end of combined input"
      else
        let cs := all.toList.drop skip
        let cs := match most with
          | some n => cs.take n
          | none => cs
        if texts.isEmpty then a
        else
          let bytes := cs.map fun c => UInt8.ofNat c.toNat
          a.print (dump styles radix width skip (w.has ["v"]) bytes)

/-! ## Letters and digits -/

/-- An alphabet in which bytes are written. -/
structure Alphabet where
  letters : Array Char
  /-- How many bits a letter stands for. -/
  bits : Nat
  /-- How many letters make up a group, which is filled up with equals signs. -/
  group : Nat

namespace Alphabet

def sixtyFour : Alphabet :=
  ⟨"ABCDEFGHIJKLMNOPQRSTUVWXYZabcdefghijklmnopqrstuvwxyz0123456789+/".toList.toArray, 6, 4⟩

def thirtyTwo : Alphabet := ⟨"ABCDEFGHIJKLMNOPQRSTUVWXYZ234567".toList.toArray, 5, 8⟩

/-- The bits of a number, so many of them, the high one first. -/
def bitsOf : Nat → Nat → List Bool
  | 0, _ => []
  | count + 1, n => bitsOf count (n / 2) ++ [n % 2 == 1]

def ofBits (bits : List Bool) : Nat := bits.foldl (fun n b => 2 * n + if b then 1 else 0) 0

/-- The letters for bits. -/
def lettersFor (x : Alphabet) : Nat → List Bool → List Char
  | 0, _ | _, [] => []
  | fuel + 1, bits =>
    let part := bits.take x.bits
    let part := part ++ List.replicate (x.bits - part.length) false
    x.letters.getD (ofBits part) 'A' :: lettersFor x fuel (bits.drop x.bits)

/-- Bytes in letters. -/
def encode (x : Alphabet) (bytes : List UInt8) : List Char :=
  let groupBytes := x.bits * x.group / 8
  (linesOfBytes groupBytes (bytes.length + 1) bytes).flatMap fun group =>
    let letters := x.lettersFor (x.group + 1) (group.flatMap fun b => bitsOf 8 b.toNat)
    letters ++ List.replicate (x.group - letters.length) '='

/-- The bytes that bits make up. -/
def bytesFor : Nat → List Bool → List UInt8
  | 0, _ => []
  | fuel + 1, bits =>
    if bits.length < 8 then []
    else UInt8.ofNat (ofBits (bits.take 8)) :: bytesFor fuel (bits.drop 8)

/-- The bytes that letters stand for, and whether all of the letters are well formed. -/
def decode (x : Alphabet) : Nat → List Char → List UInt8 × Bool
  | 0, _ | _, [] => ([], true)
  | fuel + 1, cs =>
    let group := cs.take x.group
    let letters := group.takeWhile (· != '=')
    let values := letters.map fun c => x.letters.idxOf? c
    let known := (values.takeWhile Option.isSome).filterMap id
    let bytes := bytesFor 9 (known.flatMap (bitsOf x.bits))
    let isWhole := known.length = letters.length && group.length = x.group &&
      (group.drop letters.length).all (· == '=') &&
      (known.length * x.bits) % 8 < x.bits && 0 < bytes.length
    if !isWhole then (bytes, false)
    else
      let (rest, good) := decode x fuel (cs.drop x.group)
      (bytes ++ rest, good)

end Alphabet

/-- A text in lines of a width. -/
def wrapped (width : Nat) : Nat → List Char → String
  | 0, _ | _, [] => ""
  | fuel + 1, cs => String.ofList (cs.take width) ++ "\n" ++ wrapped width fuel (cs.drop width)

/-- Writes bytes in an alphabet, or reads them. -/
def alphabetic (x : Alphabet) (c : Call) : Answer :=
  c.withOptions (.of "diw:" ["decode=d", "ignore-garbage=i", "wrap=w"]) 1 fun w =>
    match w.operands with
    | _ :: extra :: _ => c.misuse s!"extra operand {quoted extra}" 1
    | words =>
      let word := words.headD "-"
      let given := (w.value? ["w"]).getD "76"
      match given.toNat? with
      | none => c.fail c.start s!"invalid wrap size: '{given}'"
      | some width =>
        match c.read c.start word with
        | (.error e, a) =>
          if e = .isDirectory then c.fail a s!"read error: {e.reason}"
          else c.fail a s!"{shown word}: {e.reason}"
        | (.ok text, a) =>
          if w.has ["d"] then
            let cs := text.toList.filter fun ch =>
              ch != '\n' && (!w.has ["i"] || x.letters.contains ch || ch == '=')
            let (bytes, good) := x.decode (cs.length + 1) cs
            let a := a.print (Text.Octets.ofBytes bytes.toByteArray)
            if good then a else c.fail a "invalid input"
          else
            let letters := x.encode (text.toList.map fun ch => UInt8.ofNat ch.toNat)
            if width = 0 then a.print (String.ofList letters)
            else a.print (wrapped width (letters.length + 1) letters)

def base64 (c : Call) : Answer := alphabetic .sixtyFour c

def base32 (c : Call) : Answer := alphabetic .thirtyTwo c

end Bindery.Utility
