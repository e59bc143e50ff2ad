import Bindery.Decimal.Reading

/-!
# Escapes and formats

How `echo` and `printf` read the escapes of a text, and how `printf` fills a format with arguments.
Texts are bytes, each as the character of its number.
-/

namespace Bindery.Shell

/-! ## Escapes -/

def isOctalDigit (c : Char) : Bool := '0' ≤ c && c ≤ '7'

/-- The byte of octal digits, at most three, and what follows them. -/
def takeOctal (cs : List Char) : Char × List Char :=
  let digits := (cs.take 3).takeWhile isOctalDigit
  let value := digits.foldl (fun n d => n * 8 + (d.toNat - 48)) 0
  (Char.ofNat (value % 256), cs.drop digits.length)

/-- The character of a letter after a backslash. -/
def escapeLetter? : Char → Option Char
  | '\\' => some '\\'
  | 'a' => some '\x07'
  | 'b' => some '\x08'
  | 'e' => some '\x1b'
  | 'f' => some '\x0c'
  | 'n' => some '\n'
  | 'r' => some '\r'
  | 't' => some '\t'
  | 'v' => some '\x0b'
  | _ => none

/-- The character of an escape, after the backslash, and what follows it. An escape that is not
known stands for its backslash. -/
def takeEscape (cs : List Char) : Char × List Char :=
  match cs with
  | [] => ('\\', [])
  | c :: rest =>
    if isOctalDigit c then takeOctal cs
    else
      match escapeLetter? c with
      | some e => (e, rest)
      | none => ('\\', cs)

/-- A text with its escapes read, and whether one of them ends all output. Octal escapes may have a
zero before their digits. -/
def readEscapes : Nat → List Char → List Char × Bool
  | 0, cs => (cs, false)
  | _ + 1, [] => ([], false)
  | fuel + 1, '\\' :: cs =>
    match cs with
    | 'c' :: _ => ([], true)
    | cs =>
      let digits := match cs with
        | '0' :: d :: rest => if isOctalDigit d then d :: rest else cs
        | cs => cs
      let (c, rest) := takeEscape digits
      let (text, stops) := readEscapes fuel rest
      (c :: text, stops)
  | fuel + 1, c :: cs =>
    let (text, stops) := readEscapes fuel cs
    (c :: text, stops)

def unescape (s : String) : String × Bool :=
  let (text, stops) := readEscapes (s.length + 1) s.toList
  (String.ofList text, stops)

/-- What `echo` writes. -/
def echoText (args : List String) : String :=
  let (args, ending) := match args with
    | "-n" :: args => (args, "")
    | args => (args, "\n")
  go args ending
where
  go : List String → String → String
    | [], ending => ending
    | arg :: rest, ending =>
      let (text, stops) := unescape arg
      if stops then text
      else text ++ (if rest.isEmpty then "" else " ") ++ go rest ending

/-! ## Formats -/

/-- A directive of a format: its flags, width and precision, and its letter. -/
structure Directive where
  flags : List Char
  width : Option Int
  precision : Option Int
  letter : Char

/-- What filling a format comes to. -/
structure Filling where
  text : String := ""
  /-- The arguments that are left. -/
  args : List String
  /-- Messages about arguments that are no numbers. -/
  warnings : List String := []
  /-- Nothing more is to be written. -/
  stopped : Bool := false
  /-- The format is not understood. -/
  fault : Option String := none

namespace Filling

def add (f : Filling) (text : String) : Filling := { f with text := f.text ++ text }

def warn (f : Filling) (text : String) : Filling := { f with warnings := f.warnings ++ [text] }

/-- The next argument. -/
def take (f : Filling) : Option String × Filling := (f.args.head?, { f with args := f.args.drop 1 })

def isBlank (c : Char) : Bool := [' ', '\t', '\n', '\x0b', '\x0c', '\r'].contains c

def hexValue? (c : Char) : Option Nat :=
  if c.isDigit then some (c.toNat - 48)
  else if 'a' ≤ c && c ≤ 'f' then some (c.toNat - 87)
  else if 'A' ≤ c && c ≤ 'F' then some (c.toNat - 55)
  else none

/-- The number at the front of a text in the base that its first digits tell, and what follows it;
nothing if there is none. -/
def takeInteger (cs : List Char) : Option (Int × List Char) :=
  let start := cs.dropWhile isBlank
  let (negative, digits) := match start with
    | '-' :: rest => (true, rest)
    | '+' :: rest => (false, rest)
    | rest => (false, rest)
  let (base, digits) := match digits with
    | '0' :: x :: h :: rest =>
      if (x == 'x' || x == 'X') && (hexValue? h).isSome then (16, h :: rest) else (8, digits)
    | '0' :: _ => (8, digits)
    | _ => (10, digits)
  let isDigit (c : Char) : Bool := (hexValue? c).any (· < base)
  let found := digits.takeWhile isDigit
  if found.isEmpty then none
  else
    let value : Int := found.foldl (fun n c => n * base + (hexValue? c).getD 0) 0
    some (if negative then -value else value, digits.dropWhile isDigit)

/-- The next argument as an integer, within the given bounds. -/
def takeNumber (f : Filling) (low high : Int) : Int × Filling :=
  match f.take with
  | (none, f) => (0, f)
  | (some arg, f) =>
    match arg.toList with
    | '"' :: c :: _ | '\'' :: c :: _ => (c.toNat, f)
    | ['"'] | ['\''] => (0, f)
    | cs =>
      match takeInteger cs with
      | none => (0, if cs.isEmpty then f else f.warn s!"{arg}: expected numeric value")
      | some (n, rest) =>
        let f := if rest.isEmpty then f else f.warn s!"{arg}: not completely converted"
        if n < low then (low, f.warn s!"{arg}: Numerical result out of range")
        else if high < n then (high, f.warn s!"{arg}: Numerical result out of range")
        else (n, f)

/-- A text in a field of the width of a directive. -/
def padTo (d : Directive) (text : String) : String :=
  let width := (d.width.getD 0).natAbs
  let gap := String.ofList (List.replicate (width - text.length) ' ')
  if d.flags.contains '-' || d.width.any (· < 0) then text ++ gap else gap ++ text

/-- The digits of a number in the base of a letter. -/
def digitsOf (letter : Char) (n : Nat) : String :=
  let base := match letter with
    | 'o' => 8
    | 'x' | 'X' => 16
    | _ => 10
  let digits := Nat.toDigits base n
  String.ofList (if letter == 'X' then digits.map Char.toUpper else digits)

/-- A number as a directive writes it. -/
def numberText (d : Directive) (n : Int) : String :=
  let digits := digitsOf d.letter n.natAbs
  let digits := if d.precision = some 0 && n = 0 then "" else digits
  let zeros (count : Nat) : String := String.ofList (List.replicate count '0')
  let digits := match d.precision with
    | some p => zeros (p.toNat - digits.length) ++ digits
    | none => digits
  let mark :=
    if n < 0 then "-"
    else if d.letter == 'd' || d.letter == 'i' then
      if d.flags.contains '+' then "+" else if d.flags.contains ' ' then " " else ""
    else if d.flags.contains '#' && n ≠ 0 then
      match d.letter with
      | 'x' => "0x"
      | 'X' => "0X"
      | 'o' => if digits.startsWith "0" then "" else "0"
      | _ => ""
    else ""
  let fills := d.flags.contains '0' && !d.flags.contains '-' && d.precision.isNone &&
    d.width.all (0 ≤ ·)
  if fills then mark ++ zeros ((d.width.getD 0).toNat - mark.length - digits.length) ++ digits
  else padTo d (mark ++ digits)

/-- Digits of a number with places in the field of a directive. -/
def realField (d : Directive) (isNegative isFinite : Bool) (digits : String) : String :=
  let mark := if isNegative then "-" else if d.flags.contains '+' then "+"
    else if d.flags.contains ' ' then " " else ""
  let fills := d.flags.contains '0' && !d.flags.contains '-' && d.width.all (0 ≤ ·) && isFinite
  if fills then
    let width := (d.width.getD 0).natAbs
    mark ++ String.ofList (List.replicate (width - mark.length - digits.length) '0') ++ digits
  else padTo d (mark ++ digits)

/-- How many places a directive asks for. -/
def placesOf (d : Directive) : Nat :=
  match d.precision with
  | some p => if p < 0 then 6 else p.toNat
  | none => 6

/-- A number with places as a directive writes it. -/
def realText (d : Directive) (isNegative : Bool) (x : Float) : String :=
  let digits := Decimal.realText d.letter (placesOf d) (d.flags.contains '#') x
  realField d isNegative (Decimal.isFinite x) digits

/-- A quotient as a directive writes it. -/
def quotientText (d : Directive) (isNegative : Bool) (q : Decimal.Quotient) : String :=
  realField d isNegative true (q.realText d.letter (placesOf d) (d.flags.contains '#'))

/-- The next argument as a number with places, and whether it has a minus sign. -/
def takeReal (f : Filling) : Float × Bool × Filling :=
  match f.take with
  | (none, f) => (0.0, false, f)
  | (some arg, f) =>
    match arg.toList with
    | '"' :: c :: _ | '\'' :: c :: _ => (Float.ofNat c.toNat, false, f)
    | ['"'] | ['\''] | [] => (0.0, false, f)
    | cs =>
      match Decimal.takeNumber? cs with
      | none => (0.0, false, f.warn s!"{arg}: expected numeric value")
      | some (x, rest) =>
        let isNegative := (cs.dropWhile Decimal.isSpace).head? == some '-'
        let warn (reason : String) : Float × Bool × Filling :=
          (x, isNegative, f.warn s!"{arg}: {reason}")
        if !rest.isEmpty then warn "not completely converted"
        else if Decimal.isOutOfRange cs x then warn "Numerical result out of range"
        else (x, isNegative, f)

/-- A text cut to the precision of a directive. -/
def cut (d : Directive) (text : String) : String :=
  match d.precision with
  | some p => if p < 0 then text else (text.take p.toNat).toString
  | none => text

/-- The number of 64 bits without sign that a number stands for. -/
def unsigned (n : Int) : Int := n % 18446744073709551616

/-- The letters of directives. -/
def letters : List Char :=
  ['s', 'b', 'c', 'd', 'i', 'o', 'u', 'x', 'X', 'e', 'E', 'f', 'F', 'g', 'G']

/-- Writes one argument as a directive says. -/
def apply (f : Filling) (d : Directive) : Filling :=
  match d.letter with
  | 's' => let (arg, f) := f.take; f.add (padTo d (cut d (arg.getD "")))
  | 'b' =>
    let (arg, f) := f.take
    let (text, stops) := unescape (arg.getD "")
    { f.add (padTo d (cut d text)) with stopped := stops }
  | 'c' =>
    let (arg, f) := f.take
    f.add (padTo d (String.singleton ((arg.bind (·.toList.head?)).getD '\x00')))
  | 'd' | 'i' =>
    let (n, f) := f.takeNumber (-9223372036854775808) 9223372036854775807
    f.add (numberText d n)
  | 'o' | 'u' | 'x' | 'X' =>
    let (n, f) := f.takeNumber (-18446744073709551615) 18446744073709551615
    f.add (numberText d (unsigned n))
  | 'e' | 'E' | 'f' | 'F' | 'g' | 'G' =>
    let (x, isNegative, f) := f.takeReal
    f.add (realText d isNegative x)
  | _ => f

/-- A width or precision: a number, or an argument where there is a star. -/
def takeSize (f : Filling) (cs : List Char) : Option Int × Filling × List Char :=
  match cs with
  | '*' :: rest =>
    let (n, f) := f.takeNumber (-2147483648) 2147483647
    (some n, f, rest)
  | cs =>
    let digits := cs.takeWhile Char.isDigit
    let value := if digits.isEmpty then none else ((String.ofList digits).toNat?.map Int.ofNat)
    (value, f, cs.dropWhile Char.isDigit)

/-- Reads a directive, after its percent sign, and applies it. -/
def directive (f : Filling) (start : List Char) : Filling × List Char :=
  let isFlag (c : Char) : Bool := ['#', '-', '+', ' ', '0'].contains c
  let flags := start.takeWhile isFlag
  let (width, f, cs) := f.takeSize (start.dropWhile isFlag)
  let (precision, f, cs) := match cs with
    | '.' :: cs =>
      let (p, f, cs) := f.takeSize cs
      (some (p.getD 0), f, cs)
    | cs => (none, f, cs)
  match cs with
  | letter :: cs =>
    if letters.contains letter then (f.apply ⟨flags, width, precision, letter⟩, cs)
    else
      let whole := String.ofList (start.take (start.length - cs.length))
      ({ f with fault := some s!"%{whole}: invalid directive" }, cs)
  | [] => ({ f with fault := some "missing format character" }, [])

/-- Fills a format with arguments once. -/
def once (f : Filling) : Nat → List Char → Filling
  | 0, _ | _, [] => f
  | fuel + 1, c :: cs =>
    if f.stopped || f.fault.isSome then f
    else
      match c, cs with
      | '\\', cs =>
        let (e, rest) := takeEscape cs
        (f.add (String.singleton e)).once fuel rest
      | '%', '%' :: cs => (f.add "%").once fuel cs
      | '%', cs =>
        let (f, rest) := f.directive cs
        f.once fuel rest
      | c, cs => (f.add (String.singleton c)).once fuel cs

/-- Fills a format with arguments as often as it takes to use them up. -/
def all (format : String) (f : Filling) : Nat → Filling
  | 0 => f
  | fuel + 1 =>
    let after := f.once (format.length + 1) format.toList
    if after.stopped || after.fault.isSome || after.args.isEmpty ||
        after.args.length = f.args.length then after
    else all format after fuel

end Filling

/-- What `printf` writes for a format and arguments. -/
def formatText (format : String) (args : List String) : Filling :=
  Filling.all format { args } (args.length + 1)

end Bindery.Shell
