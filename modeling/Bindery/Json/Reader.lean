import Bindery.Json.Document

/-!
# Reading JSON text

`readDoc` reads one value from the front of a text and gives back what follows it. The grammar is
strict: no comments, no trailing commas, no leading zeros, and white space is the space, the tab,
the line feed and the carriage return. `parse` reads a whole text, white space around it allowed.

The recursion is bounded by the length of the text, since every value has at least one character.
-/

namespace Bindery.Json

/-- The white space of JSON. -/
def isSpace (c : Char) : Bool :=
  c == ' ' || c == '\t' || c == '\n' || c == '\r'

/-- The white space at the front of a text, and what follows it. -/
def takeSpace (cs : List Char) : List Char × List Char :=
  (cs.takeWhile isSpace, cs.dropWhile isSpace)

/-! ## Strings -/

def isHexDigit (c : Char) : Bool :=
  ('0' ≤ c && c ≤ '9') || ('a' ≤ c && c ≤ 'f') || ('A' ≤ c && c ≤ 'F')

/-- The characters that may follow a backslash, besides a numbered escape. -/
def isEscapeLetter (c : Char) : Bool :=
  ['"', '\\', '/', 'b', 'f', 'n', 'r', 't'].contains c

/-- Reads the inside of a string up to its closing quote, which is dropped. Controls must be
escaped, and an escape must be one that JSON has; whether numbered escapes make characters is left
to whoever decodes the string. -/
def readString : List Char → Option (List Char × List Char)
  | [] => none
  | '"' :: rest => some ([], rest)
  | '\\' :: 'u' :: a :: b :: c :: d :: rest =>
    if isHexDigit a && isHexDigit b && isHexDigit c && isHexDigit d then
      (readString rest).map fun (body, rest) => ('\\' :: 'u' :: a :: b :: c :: d :: body, rest)
    else none
  | '\\' :: e :: rest =>
    if isEscapeLetter e then
      (readString rest).map fun (body, rest) => ('\\' :: e :: body, rest)
    else none
  | c :: rest =>
    if c == '\\' || c.toNat < 32 then none
    else (readString rest).map fun (body, rest) => (c :: body, rest)

/-! ## Numbers -/

/-- The digits at the front of a text, and what follows them. -/
def takeDigits (cs : List Char) : List Char × List Char :=
  (cs.takeWhile Char.isDigit, cs.dropWhile Char.isDigit)

/-- At least one digit. -/
def readDigits (cs : List Char) : Option (List Char × List Char) :=
  match takeDigits cs with
  | ([], _) => none
  | found => some found

/-- The whole part of a number: a zero alone, or digits that start with another one. -/
def readWhole (cs : List Char) : Option (List Char × List Char) :=
  match readDigits cs with
  | some ('0' :: _ :: _, _) => none
  | found => found

/-- The fraction of a number, with its point; absent where there is no point. -/
def readFraction : List Char → Option (List Char × List Char)
  | '.' :: cs => (readDigits cs).map fun (digits, rest) => ('.' :: digits, rest)
  | cs => some ([], cs)

/-- The exponent of a number, with its letter and sign; absent where there is no letter. -/
def readExponent : List Char → Option (List Char × List Char)
  | e :: cs =>
    if e == 'e' || e == 'E' then
      match cs with
      | s :: ds =>
        if s == '+' || s == '-' then
          (readDigits ds).map fun (digits, rest) => (e :: s :: digits, rest)
        else
          (readDigits cs).map fun (digits, rest) => (e :: digits, rest)
      | [] => none
    else some ([], e :: cs)
  | [] => some ([], [])

/-- A number without its sign. -/
def readUnsigned (cs : List Char) : Option (List Char × List Char) := do
  let (whole, cs) ← readWhole cs
  let (fraction, cs) ← readFraction cs
  let (exponent, cs) ← readExponent cs
  return (whole ++ fraction ++ exponent, cs)

/-- A number in its own spelling. -/
def readNumber : List Char → Option (List Char × List Char)
  | '-' :: cs => (readUnsigned cs).map fun (lexeme, rest) => ('-' :: lexeme, rest)
  | cs => readUnsigned cs

/-! ## Values -/

/-- The text before the next value or closing bracket of a list: white space, and between two
values a comma. Nothing if the comma is missing, or if the closing bracket follows it. -/
def readSeparator (first : Bool) (close : Char) (cs : List Char) : Option (List Char × List Char) :=
  let (before, rest) := takeSpace cs
  if first || rest.head? == some close then some (before, rest)
  else match rest with
    | ',' :: rest =>
      let (after, rest) := takeSpace rest
      if rest.head? == some close then none else some (before ++ ',' :: after, rest)
    | _ => none

/-- The text between a key and its value. -/
def readColon (cs : List Char) : Option (List Char × List Char) :=
  match takeSpace cs with
  | (before, ':' :: rest) =>
    let (after, rest) := takeSpace rest
    some (before ++ ':' :: after, rest)
  | _ => none

mutual

/-- Reads a value from the front of a text. -/
def readDoc : Nat → List Char → Doc × List Char
  | 0, _ => (.fault, [])
  | fuel + 1, cs =>
    match cs with
    | 'n' :: 'u' :: 'l' :: 'l' :: rest => (.null, rest)
    | 't' :: 'r' :: 'u' :: 'e' :: rest => (.bool true, rest)
    | 'f' :: 'a' :: 'l' :: 's' :: 'e' :: rest => (.bool false, rest)
    | '"' :: rest =>
      match readString rest with
      | some (body, rest) => (.string body, rest)
      | none => (.fault, [])
    | '[' :: rest =>
      let (items, rest) := readItems fuel true rest
      (.array items, rest)
    | '\x7b' :: rest =>
      let (members, rest) := readMembers fuel true rest
      (.object members, rest)
    | cs =>
      match readNumber cs with
      | some (lexeme, rest) => (.number lexeme, rest)
      | none => (.fault, [])

/-- Reads what follows the opening bracket of an array, or one of its values. -/
def readItems : Nat → Bool → List Char → Items × List Char
  | 0, _, _ => (.fault, [])
  | fuel + 1, first, cs =>
    match readSeparator first ']' cs with
    | none => (.fault, [])
    | some (sep, ']' :: rest) => (.close sep, rest)
    | some (sep, cs) =>
      let (value, cs) := readDoc fuel cs
      let (rest, cs) := readItems fuel false cs
      (.item sep value rest, cs)

/-- Reads what follows the opening brace of an object, or one of its members. -/
def readMembers : Nat → Bool → List Char → Members × List Char
  | 0, _, _ => (.fault, [])
  | fuel + 1, first, cs =>
    match readSeparator first '\x7d' cs with
    | none => (.fault, [])
    | some (sep, '\x7d' :: rest) => (.close sep, rest)
    | some (sep, '"' :: cs) =>
      match readString cs with
      | none => (.fault, [])
      | some (key, cs) =>
        match readColon cs with
        | none => (.member sep key [] .fault .fault, [])
        | some (colon, cs) =>
          let (value, cs) := readDoc fuel cs
          let (rest, cs) := readMembers fuel false cs
          (.member sep key colon value rest, cs)
    | some _ => (.fault, [])

end

/-- A whole text: one value, and whether nothing but white space follows it. -/
structure Parsed where
  doc : Doc
  /-- Nothing but white space follows the value. -/
  ended : Bool

/-- Reads a text as one value with white space around it. -/
def parse (s : String) : Parsed :=
  let (doc, rest) := readDoc (s.toList.length + 1) (takeSpace s.toList).2
  ⟨doc, rest.all isSpace⟩

/-- The value of a text that is JSON as a whole. -/
def Parsed.sound? (p : Parsed) : Option Doc :=
  if p.doc.isSound && p.ended then some p.doc else none

end Bindery.Json
