import Bindery.Json.Reader

/-!
# Escapes in JSON strings

`unescape` gives the text that the inside of a string denotes: numbered escapes are UTF-16 units,
two of which may make one character, and a surrogate that stands alone denotes none. `escape`
writes a text with the fewest escapes that JSON allows.
-/

namespace Bindery.Json

/-- The value of a hexadecimal digit. -/
def hexDigitValue (c : Char) : Nat :=
  if c ≤ '9' then c.toNat - 48 else if c ≤ 'F' then c.toNat - 55 else c.toNat - 87

/-- The number that four hexadecimal digits denote. -/
def unitValue (a b c d : Char) : Nat :=
  ((hexDigitValue a * 16 + hexDigitValue b) * 16 + hexDigitValue c) * 16 + hexDigitValue d

def isLeadingSurrogate (unit : Nat) : Bool := 0xD800 ≤ unit && unit ≤ 0xDBFF

def isTrailingSurrogate (unit : Nat) : Bool := 0xDC00 ≤ unit && unit ≤ 0xDFFF

/-- The character that a pair of surrogates denotes. -/
def surrogatePair (leading trailing : Nat) : Char :=
  Char.ofNat (0x10000 + (leading - 0xD800) * 0x400 + (trailing - 0xDC00))

/-- The character that a letter after a backslash denotes. -/
def escapedLetter : Char → Char
  | 'b' => '\x08'
  | 'f' => '\x0c'
  | 'n' => '\n'
  | 'r' => '\r'
  | 't' => '\t'
  | c => c

/-- The text that the inside of a string denotes, if its numbered escapes make characters. -/
def unescape : List Char → Option (List Char)
  | '\\' :: 'u' :: a :: b :: c :: d :: rest =>
    let unit := unitValue a b c d
    if isTrailingSurrogate unit then none
    else if isLeadingSurrogate unit then
      match rest with
      | '\\' :: 'u' :: e :: f :: g :: h :: rest =>
        let second := unitValue e f g h
        if isTrailingSurrogate second then (unescape rest).map (surrogatePair unit second :: ·)
        else none
      | _ => none
    else (unescape rest).map (Char.ofNat unit :: ·)
  | '\\' :: e :: rest => (unescape rest).map (escapedLetter e :: ·)
  | c :: rest => (unescape rest).map (c :: ·)
  | [] => some []

/-- A hexadecimal digit in lower case. -/
def hexDigit (n : Nat) : Char :=
  if n < 10 then Char.ofNat (48 + n) else Char.ofNat (87 + n)

/-- How a character is written inside a string. -/
def escapeChar (c : Char) : List Char :=
  match c with
  | '"' => ['\\', '"']
  | '\\' => ['\\', '\\']
  | '\x08' => ['\\', 'b']
  | '\x0c' => ['\\', 'f']
  | '\n' => ['\\', 'n']
  | '\r' => ['\\', 'r']
  | '\t' => ['\\', 't']
  | c =>
    if c.toNat < 32 then ['\\', 'u', '0', '0', hexDigit (c.toNat / 16), hexDigit (c.toNat % 16)]
    else [c]

/-- The inside of the string that denotes a text. -/
def escape (cs : List Char) : List Char :=
  cs.flatMap escapeChar

/-- The JSON string that denotes a text. -/
def stringText (s : String) : String :=
  "\"" ++ String.ofList (escape s.toList) ++ "\""

end Bindery.Json
