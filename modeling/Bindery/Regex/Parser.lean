import Bindery.Regex.Search

/-!
# Reading regular expressions

There are two ways to write an expression: in the basic one, groups, counts and alternatives are
written with backslashes, in the extended one without. `Pattern.parse` reads both; a `Dialect` says
which one it is, and what programs make of texts that are no expressions.
-/

namespace Bindery

/-- Why a text is no regular expression. -/
inductive RegexFault where
  | unmatchedBracket
  | unmatchedOpening
  | unmatchedClosing
  | unmatchedBrace
  | badCount
  | badRange
  | badRepetition
  | badClass
  | badReference
  | tooBig
  | trailingBackslash
  /-- The text ends where a list begins. -/
  | unfinished
  deriving DecidableEq

def RegexFault.message : RegexFault → String
  | unmatchedBracket => "Unmatched [, [^, [:, [., or [="
  | unmatchedOpening => "Unmatched ( or \\("
  | unmatchedClosing => "Unmatched ) or \\)"
  | unmatchedBrace => "Unmatched \\\x7b"
  | badCount => "Invalid content of \\\x7b\\\x7d"
  | badRange => "Invalid range end"
  | badRepetition => "Invalid preceding regular expression"
  | badClass => "Invalid character class name"
  | badReference => "Invalid back reference"
  | tooBig => "Regular expression too big"
  | trailingBackslash => "Trailing backslash"
  | unfinished => "Invalid regular expression"

/-- A way to write regular expressions. -/
structure Dialect where
  extended : Bool
  /-- A repetition must follow something. -/
  strict : Bool := true
  /-- Braces that hold no count stand for themselves. -/
  looseBraces : Bool := false
  ignoresCase : Bool := false
  /-- A point and a negated list do not stand for a line end. -/
  sparesLineEnds : Bool := false
  /-- A backslash takes the meaning from the character after it in lists, too, and letters after it
  stand for themselves elsewhere. -/
  plainEscapes : Bool := false

namespace Regex

/-- What a text of an expression is made of. -/
inductive Sign where
  | char (c : Char)
  | point
  | opening
  | closing
  | bar
  | star
  | plus
  | question
  | brace
  | bracket
  | anchor (kind : Assertion)
  | reference (index : Nat)
  | letters (accepts : UInt8 → Bool)
  | ended

/-- What is left of an expression while it is read. -/
structure Reading where
  rest : List Char
  /-- How many groups have begun. -/
  opened : Nat := 0
  /-- The groups that have ended. -/
  closed : List Nat := []

abbrev Parser := StateT Reading (Except RegexFault)

def byteOf (c : Char) : UInt8 := UInt8.ofNat c.toNat

def isSpaceByte (b : UInt8) : Bool := b == 32 || (9 ≤ b && b ≤ 13)

/-- What a letter after a backslash stands for. -/
def signOfLetter? : Char → Option Sign
  | 'w' => some (.letters isWordByte)
  | 'W' => some (.letters fun b => !isWordByte b)
  | 's' => some (.letters isSpaceByte)
  | 'S' => some (.letters fun b => !isSpaceByte b)
  | 'b' => some (.anchor .wordBoundary)
  | 'B' => some (.anchor .noBoundary)
  | '<' => some (.anchor .wordStart)
  | '>' => some (.anchor .wordEnd)
  | '\x60' => some (.anchor .textStart)
  | '\'' => some (.anchor .textEnd)
  | _ => none

/-- The sign after a backslash. -/
def signAfterBackslash (d : Dialect) (c : Char) : Sign :=
  let operator? : Option Sign := match c with
    | '(' => some .opening
    | ')' => some .closing
    | '|' => some .bar
    | '+' => some .plus
    | '?' => some .question
    | '{' => some .brace
    | _ => none
  match operator?, d.extended with
  | some sign, false => sign
  | _, _ =>
    if d.plainEscapes then .char c
    else if '1' ≤ c && c ≤ '9' then .reference (c.toNat - 48)
    else (signOfLetter? c).getD (.char c)

/-- The sign of a character that no backslash precedes, other than the anchors of the basic way. -/
def signOf (d : Dialect) (c : Char) : Sign :=
  match c, d.extended with
  | '(', true => .opening
  | ')', true => .closing
  | '|', true => .bar
  | '+', true => .plus
  | '?', true => .question
  | '{', true => .brace
  | '*', _ => .star
  | '.', _ => .point
  | '[', _ => .bracket
  | c, _ => .char c

/-- The first sign of a text, and what follows it. `starts` tells that a caret is an anchor here. -/
def nextSign (d : Dialect) (starts : Bool) : List Char → Except RegexFault (Sign × List Char)
  | [] => .ok (.ended, [])
  | ['\\'] => .error .trailingBackslash
  | '\\' :: c :: rest => .ok (signAfterBackslash d c, rest)
  | '^' :: rest => .ok (if d.extended || starts then .anchor .lineStart else .char '^', rest)
  | '$' :: rest =>
    let ends := d.extended || match rest with
      | [] => true
      | '\\' :: c :: _ => c == ')' || c == '|'
      | _ => false
    .ok (if ends then .anchor .lineEnd else .char '$', rest)
  | c :: rest => .ok (signOf d c, rest)

/-! ## Lists -/

/-- The bytes of a class of characters. -/
def classOf? (name : String) : Option (UInt8 → Bool) :=
  let within (test : Char → Bool) : Option (UInt8 → Bool) :=
    some fun b => b < 128 && test (Char.ofNat b.toNat)
  match name with
  | "alpha" => within Char.isAlpha
  | "digit" => within Char.isDigit
  | "alnum" => within Char.isAlphanum
  | "upper" => within Char.isUpper
  | "lower" => within Char.isLower
  | "space" => some isSpaceByte
  | "blank" => some fun b => b == 32 || b == 9
  | "punct" => within fun c => 32 < c.toNat && c.toNat < 127 && !c.isAlphanum
  | "cntrl" => some fun b => b < 32 || b == 127
  | "print" => some fun b => 32 ≤ b && b < 127
  | "graph" => some fun b => 32 < b && b < 127
  | "xdigit" => within fun c => c.isDigit || ('a' ≤ c && c ≤ 'f') || ('A' ≤ c && c ≤ 'F')
  | _ => none

/-- The text up to a mark and a closing bracket, and what follows. -/
def takeNamed (mark : Char) : List Char → Option (List Char × List Char)
  | c :: ']' :: rest =>
    if c == mark then some ([], rest)
    else (takeNamed mark (']' :: rest)).map fun (name, rest) => (c :: name, rest)
  | c :: rest => (takeNamed mark rest).map fun (name, rest) => (c :: name, rest)
  | [] => none

/-- One end of a range, or a single character, in a list. -/
def takeListed (d : Dialect) : List Char → Except RegexFault (Char × List Char)
  | '[' :: '.' :: rest | '[' :: '=' :: rest =>
    match takeNamed '.' rest, takeNamed '=' rest with
    | some ([c], rest), _ | _, some ([c], rest) => .ok (c, rest)
    | _, _ => .error .unmatchedBracket
  | '\\' :: c :: rest =>
    if d.plainEscapes then .ok (c, rest) else .ok ('\\', c :: rest)
  | c :: rest => .ok (c, rest)
  | [] => .error .unmatchedBracket

/-- The bytes that are listed up to a closing bracket, which may be listed itself if it comes
first. -/
def takeList (d : Dialect) :
    Nat → Bool → List Char → Except RegexFault ((UInt8 → Bool) × List Char)
  | 0, _, _ | _, _, [] => .error .unmatchedBracket
  | fuel + 1, first, c :: cs => do
    if c == ']' && !first then return (fun _ => false, cs)
    let named := match c, cs with
      | '[', ':' :: cs => some (takeNamed ':' cs)
      | _, _ => none
    match named with
    | some none => throw .unmatchedBracket
    | some (some (name, rest)) =>
      match classOf? (String.ofList name) with
      | none => throw .badClass
      | some accepts =>
        let accepts := if d.ignoresCase && (name == "upper".toList || name == "lower".toList) then
            fun b => isAlphaByte b else accepts
        let (others, rest) ← takeList d fuel false rest
        return (fun b => accepts b || others b, rest)
    | none =>
      let (low, rest) ← takeListed d (c :: cs)
      let (high, rest) ← (match rest with
        | '-' :: e :: after =>
          if e == ']' then .ok (low, rest) else takeListed d (e :: after)
        | _ => .ok (low, rest) : Except RegexFault (Char × List Char))
      if high < low then throw .badRange
      let (others, rest) ← takeList d fuel false rest
      let from_ := byteOf low
      let last := byteOf high
      let accepts (b : UInt8) : Bool :=
        (from_ ≤ b && b ≤ last) ||
          (d.ignoresCase && isAlphaByte b && from_ ≤ otherCase b && otherCase b ≤ last)
      return (fun b => accepts b || others b, rest)
where
  isAlphaByte (b : UInt8) : Bool := (65 ≤ b && b ≤ 90) || (97 ≤ b && b ≤ 122)
  otherCase (b : UInt8) : UInt8 := if b < 97 then b + 32 else b - 32

/-- The bytes of a list, after its opening bracket. -/
def takeBracket (d : Dialect) (cs : List Char) :
    Except RegexFault ((UInt8 → Bool) × List Char) := do
  match cs with
  | [] | ['^'] => throw .unfinished
  | '^' :: cs =>
    let (accepts, rest) ← takeList d (cs.length + 1) true cs
    return (fun b => !accepts b && !(d.sparesLineEnds && b == 10), rest)
  | cs => takeList d (cs.length + 1) true cs

/-! ## Counts -/

/-- The bounds in braces, after the opening one, and what follows the closing one. -/
def takeCount (d : Dialect) (cs : List Char) :
    Except RegexFault (Nat × Option Nat × List Char) := do
  let number (cs : List Char) : Option Nat × List Char :=
    let digits := cs.takeWhile Char.isDigit
    ((String.ofList digits).toNat?, cs.drop digits.length)
  let closing (cs : List Char) : Option (List Char) :=
    match cs, d.extended with
    | '}' :: rest, true => some rest
    | '\\' :: '}' :: rest, false => some rest
    | _, _ => none
  let (low, rest) := number cs
  let (least, most, rest) := match rest with
    | ',' :: rest =>
      let (high, rest) := number rest
      (low.getD 0, high, rest)
    | rest => (low.getD 0, low, rest)
  let hasComma := (cs.drop (cs.takeWhile Char.isDigit).length).head? == some ','
  if low.isNone && !hasComma then
    throw (if rest.isEmpty then .unmatchedBrace else .badCount)
  match closing rest with
  | none => throw (if rest.isEmpty then .unmatchedBrace else .badCount)
  | some after =>
    if most.any (· < least) then throw .badCount
    if 32767 < most.getD least then throw .tooBig
    return (least, if hasComma then most else some least, after)

/-! ## Expressions -/

/-- The expression of a character. -/
def ofChar (d : Dialect) (c : Char) : Regex :=
  let b := byteOf c
  if d.ignoresCase then
    let folded := foldCase b
    .one fun x => foldCase x == folded
  else .one (· == b)

/-- Goes past a sign. -/
def takeSign (d : Dialect) (starts : Bool) : Parser Sign := do
  let r ← get
  let (sign, rest) ← nextSign d starts r.rest
  set { r with rest }
  return sign

/-- Looks at a sign. -/
def peekSign (d : Dialect) (starts : Bool) : Parser Sign := do
  return (← nextSign d starts (← get).rest).1

/-- Applies the repetitions that come next. -/
def repetitions (d : Dialect) (body : Regex) : Nat → Parser Regex
  | 0 => return body
  | fuel + 1 => do
    let before ← get
    let again (least : Nat) (most : Option Nat) : Parser Regex := do
      if d.strict && !d.extended then
        match ← peekSign d false with
        | .star | .brace => throw .badRepetition
        | _ => pure ()
      repetitions d (.many body least most) fuel
    match ← takeSign d false with
    | .star => again 0 none
    | .plus => again 1 none
    | .question => again 0 (some 1)
    | .brace =>
      match takeCount d (← get).rest with
      | .ok (least, most, rest) =>
        modify fun r => { r with rest }
        again least most
      | .error fault =>
        if d.looseBraces && fault != .tooBig then
          set before
          return body
        else throw fault
    | _ =>
      set before
      return body

mutual

/-- Alternatives; `inside` tells that a closing parenthesis ends them. -/
def alternatives (d : Dialect) : Nat → Bool → Parser Regex
  | 0, _ => throw .tooBig
  | fuel + 1, inside => do
    let before := (← get).closed
    let first ← sequence d fuel inside true
    match ← peekSign d false with
    | .bar =>
      let _ ← takeSign d false
      let here := (← get).closed
      modify fun r => { r with closed := before }
      let others ← alternatives d fuel inside
      modify fun r => { r with closed := here ++ r.closed }
      return .alt first others
    | _ => return first

/-- Expressions that follow each other. -/
def sequence (d : Dialect) : Nat → Bool → Bool → Parser Regex
  | 0, _, _ => throw .tooBig
  | fuel + 1, inside, starts => do
    match ← peekSign d starts with
    | .ended | .bar => return .empty
    | .closing =>
      if inside then return .empty
      else if d.extended && !d.strict then
        let _ ← takeSign d starts
        let first ← repetitions d (ofChar d ')') fuel
        return .cat first (← sequence d fuel inside false)
      else throw .unmatchedClosing
    | sign =>
      let _ ← takeSign d starts
      let single (r : Regex) : Parser Regex := do
        let first ← repetitions d r fuel
        return .cat first (← sequence d fuel inside false)
      match sign with
      | .char c => single (ofChar d c)
      | .point => single (.one fun b => !(d.sparesLineEnds && b == 10))
      | .letters accepts => single (.one accepts)
      | .anchor kind => return .cat (.assertion kind) (← sequence d fuel inside true)
      | .bracket =>
        let (accepts, rest) ← (takeBracket d (← get).rest : Except RegexFault _)
        modify fun r => { r with rest }
        single (.one accepts)
      | .reference index =>
        if (← get).closed.contains index then single (.back index) else throw .badReference
      | .opening =>
        let index := (← get).opened + 1
        modify fun r => { r with opened := index }
        let body ← alternatives d fuel true
        match ← takeSign d false with
        | .closing =>
          modify fun r => { r with closed := index :: r.closed }
          single (.group index body)
        | _ => throw .unmatchedOpening
      | .star => atStart fuel inside '*'
      | .plus => atStart fuel inside '+'
      | .question => atStart fuel inside '?'
      | .brace =>
        if !d.extended then
          if d.strict then throw .badRepetition else single (ofChar d '{')
        else if d.strict then throw .badRepetition
        else if (takeCount d (← get).rest).isOk then
          match takeCount d (← get).rest with
          | .ok (_, _, rest) => modify fun r => { r with rest }
          | .error _ => pure ()
          sequence d fuel inside starts
        else single (ofChar d '{')
      | .ended | .bar | .closing => return .empty
where
  /-- A repetition of nothing: a plain character in the basic way, else nothing or an error. -/
  atStart (fuel : Nat) (inside : Bool) (c : Char) : Parser Regex := do
    if !d.extended then
      let first ← repetitions d (ofChar d c) fuel
      return .cat first (← sequence d fuel inside false)
    else if d.strict then throw .badRepetition
    else
      match ← peekSign d true with
      | .closing =>
        let _ ← takeSign d true
        let first ← repetitions d (ofChar d ')') fuel
        return .cat first (← sequence d fuel inside false)
      | _ => sequence d fuel inside true

end

end Regex

namespace Pattern

/-- The pattern that a text says, whose characters are bytes. -/
def parse (d : Dialect) (text : String) : Except RegexFault Pattern := do
  let bound := 2 * text.length + 4
  let (regex, reading) ← (Regex.alternatives d bound false).run { rest := text.toList }
  return { regex, groups := reading.opened, ignoresCase := d.ignoresCase }

end Pattern

end Bindery
