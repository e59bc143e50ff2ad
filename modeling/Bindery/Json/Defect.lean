import Bindery.Json.Escape
import Bindery.Json.Number

/-!
# What is wrong with a text

A `Defect` is a reason why a text is no JSON value that can be held in memory, and `defect?` finds
the first one in a text, reading it from the front. It is asked only for the wording: whether a text
is sound is decided by the reader of documents.
-/

namespace Bindery.Json

/-- Why a text is not a JSON value. -/
inductive Defect where
  | endInList
  | endInObject
  | endInString
  | endInValue
  | noColon
  | noListComma
  | noObjectComma
  | badWord
  | noValue
  | badEscape
  | badNumber
  | tooGreat
  | controlCharacter
  | keyNotText
  /-- A surrogate that is not the second of a pair. -/
  | loneSurrogate
  /-- A leading surrogate without an escape after it. -/
  | brokenPair
  | trailingComma
  | trailingText
  | tooDeep
  deriving DecidableEq, Repr

def Defect.message : Defect → String
  | endInList => "EOF while parsing a list"
  | endInObject => "EOF while parsing an object"
  | endInString => "EOF while parsing a string"
  | endInValue => "EOF while parsing a value"
  | noColon => "expected `:`"
  | noListComma => "expected `,` or `]`"
  | noObjectComma => "expected `,` or `\x7d`"
  | badWord => "expected ident"
  | noValue => "expected value"
  | badEscape => "invalid escape"
  | badNumber => "invalid number"
  | tooGreat => "number out of range"
  | controlCharacter =>
    "control character (\\u0000-\\u001F) found while parsing a string"
  | keyNotText => "key must be a string"
  | loneSurrogate => "lone leading surrogate in hex escape"
  | brokenPair => "unexpected end of hex escape"
  | trailingComma => "trailing comma"
  | trailingText => "trailing characters"
  | tooDeep => "recursion limit exceeded"

/-- What follows a part of a text, unless the part has a defect. -/
abbrev Scan := Except Defect (List Char)

/-- The key that marks an object as a value kept as text. -/
def rawKey : String := "$serde_json::private::RawValue"

namespace Scan

def skipSpace (cs : List Char) : List Char := cs.dropWhile isSpace

/-! ## Strings -/

/-- The unit of a numbered escape, from the four digits at the front of a text. -/
def unit (cs : List Char) : Except Defect (Nat × List Char) :=
  match cs with
  | a :: b :: c :: d :: rest =>
    if [a, b, c, d].all isHexDigit then .ok (unitValue a b c d, rest) else .error .badEscape
  | cs => .error (if (String.ofList cs).utf8ByteSize < 4 then .endInString else .badEscape)

/-- What follows the escape of a leading surrogate: the escape of a trailing one. -/
def trailing (cs : List Char) : Scan :=
  match cs with
  | [] => .error .endInString
  | '\\' :: [] => .error .endInString
  | '\\' :: 'u' :: rest => do
    let (second, rest) ← unit rest
    if isTrailingSurrogate second then return rest else throw .loneSurrogate
  | _ => .error .brokenPair

/-- What follows a backslash in a string. -/
def escape (cs : List Char) : Scan :=
  match cs with
  | [] => .error .endInString
  | 'u' :: rest => do
    let (first, rest) ← unit rest
    if isTrailingSurrogate first then throw .loneSurrogate
    else if isLeadingSurrogate first then trailing rest
    else return rest
  | e :: rest => if isEscapeLetter e then .ok rest else .error .badEscape

/-- What follows the opening quote of a string. -/
def string : Nat → List Char → Scan
  | 0, _ | _, [] => .error .endInString
  | _ + 1, '"' :: rest => .ok rest
  | fuel + 1, '\\' :: rest => do string fuel (← escape rest)
  | fuel + 1, c :: rest =>
    if c.toNat < 32 then .error .controlCharacter else string fuel rest

/-! ## Numbers and words -/

/-- At least one digit, after the point of a number or in its exponent. -/
def digits (cs : List Char) : Scan :=
  match cs with
  | [] => .error .endInValue
  | c :: _ => if c.isDigit then .ok (cs.dropWhile Char.isDigit) else .error .badNumber

/-- The exponent of a number, if there is one. -/
def exponent (cs : List Char) : Scan :=
  match cs with
  | e :: s :: rest =>
    if e != 'e' && e != 'E' then .ok cs
    else if s == '+' || s == '-' then digits rest
    else digits (s :: rest)
  | [e] => if e == 'e' || e == 'E' then .error .endInValue else .ok cs
  | [] => .ok []

/-- A number without its sign. -/
def unsigned (cs : List Char) : Scan := do
  let rest ← match cs with
    | '0' :: c :: rest => if c.isDigit then throw .badNumber else pure (c :: rest)
    | cs => digits cs
  match rest with
  | '.' :: rest => exponent (← digits rest)
  | rest => exponent rest

/-- A number, which must have a value. -/
def number (cs : List Char) : Scan := do
  let rest ← match cs with
    | '-' :: cs => unsigned cs
    | cs => unsigned cs
  match Number.ofLexeme (cs.take (cs.length - rest.length)) with
  | some _ => return rest
  | none => throw .tooGreat

/-- The letters of a word, the first of which has been seen. -/
def word : List Char → List Char → Scan
  | [], cs => .ok cs
  | _ :: _, [] => .error .endInValue
  | e :: expected, c :: cs => if e = c then word expected cs else .error .badWord

/-! ## Values -/

/-- What follows an object that is a value kept as text, once the text has been read. -/
def closeRaw (cs : List Char) : Scan :=
  match skipSpace cs with
  | '\x7d' :: rest => .ok rest
  | ',' :: _ => .error .trailingComma
  | [] => .error .endInObject
  | _ => .error .trailingText

/-- The front of a text up to what follows it. -/
def consumed (cs rest : List Char) : List Char := cs.take (cs.length - rest.length)

mutual

/-- A value, in which `room` more brackets may be entered. -/
def value (room : Nat) : Nat → List Char → Scan
  | 0, _ => .error .endInValue
  | fuel + 1, cs =>
    match skipSpace cs with
    | [] => .error .endInValue
    | 'n' :: rest => word ['u', 'l', 'l'] rest
    | 't' :: rest => word ['r', 'u', 'e'] rest
    | 'f' :: rest => word ['a', 'l', 's', 'e'] rest
    | '"' :: rest => string (rest.length + 1) rest
    | '[' :: rest => if room = 0 then .error .tooDeep else items (room - 1) fuel true rest
    | '\x7b' :: rest => if room = 0 then .error .tooDeep else members (room - 1) fuel true rest
    | c :: rest =>
      if c == '-' || c.isDigit then number (c :: rest) else .error .noValue

/-- What follows the opening bracket of an array, or one of its values. -/
def items (room : Nat) : Nat → Bool → List Char → Scan
  | 0, _, _ => .error .endInList
  | fuel + 1, first, cs =>
    match first, skipSpace cs with
    | _, [] => .error .endInList
    | _, ']' :: rest => .ok rest
    | true, cs => do items room fuel false (← value room fuel cs)
    | false, ',' :: rest =>
      match skipSpace rest with
      | [] => .error .endInValue
      | ']' :: _ => .error .trailingComma
      | cs => do items room fuel false (← value room fuel cs)
    | false, _ => .error .noListComma

/-- What follows the opening brace of an object, or one of its members. -/
def members (room : Nat) : Nat → Bool → List Char → Scan
  | 0, _, _ => .error .endInObject
  | fuel + 1, first, cs =>
    match first, skipSpace cs with
    | _, [] => .error .endInObject
    | _, '\x7d' :: rest => .ok rest
    | true, cs => member room fuel true cs
    | false, ',' :: rest =>
      match skipSpace rest with
      | [] => .error .endInValue
      | '\x7d' :: _ => .error .trailingComma
      | cs => member room fuel false cs
    | false, _ => .error .noObjectComma

/-- A member of an object, and the members after it. -/
def member (room : Nat) : Nat → Bool → List Char → Scan
  | 0, _, _ => .error .endInObject
  | fuel + 1, first, cs =>
    match cs with
    | '"' :: cs => do
      let rest ← string (cs.length + 1) cs
      let key := (consumed cs rest).dropLast
      match skipSpace rest with
      | ':' :: rest =>
        let rest ← value room fuel rest
        if first && unescape key = some rawKey.toList then closeRaw rest
        else members room fuel false rest
      | [] => throw .endInObject
      | _ => throw .noColon
    | _ => .error .keyNotText

end

end Scan

/-- The first defect of a text that should be one value and nothing else. -/
def defect? (s : String) : Option Defect :=
  let cs := s.toList
  match Scan.value 127 (3 * cs.length + 3) cs with
  | .error defect => some defect
  | .ok rest => if (Scan.skipSpace rest).isEmpty then none else some .trailingText

end Bindery.Json
