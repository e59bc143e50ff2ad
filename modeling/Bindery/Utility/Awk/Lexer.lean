import Bindery.Decimal.Reading
import Bindery.Regex.Parser

/-!
# Tokens of scripts

A script is taken apart into tokens. Whether a slash divides or begins an expression is decided by
the token before it.
-/

namespace Bindery.Utility.Awk

inductive Token where
  | number (value : Float)
  | text (value : String)
  | regex (pattern : Pattern)
  | name (name : String)
  /-- A name before a parenthesis. -/
  | function (name : String)
  | keyword (name : String)
  | builtin (name : String)
  | sign (text : String)
  | newline
  | ended

namespace Token

/-- What a message calls a token. -/
def shown : Token → String
  | number x => Decimal.realText 'g' 6 false x
  | text s => "\"" ++ s
  | regex _ => "/"
  | name s | function s | keyword s | builtin s | sign s => s
  | newline => "end of line"
  | ended => "end of file"

def keywords : List String :=
  ["BEGIN", "END", "function", "if", "else", "while", "do", "for", "in", "break", "continue",
    "next", "nextfile", "exit", "return", "delete", "print", "printf", "getline"]

def builtins : List String :=
  ["length", "substr", "index", "split", "sub", "gsub", "match", "sprintf", "sin", "cos", "atan2",
    "exp", "log", "sqrt", "int", "rand", "srand", "tolower", "toupper", "system", "close", "fflush",
    "strftime", "systime", "mktime"]

/-- Whether a slash after the token divides. -/
def precedesDivision : Token → Bool
  | number _ | text _ | regex _ | name _ => true
  | sign s => [")", "]", "$", "++", "--"].contains s
  | keyword s => s == "getline"
  | _ => false

/-- Signs of more than one character, the longer ones first. -/
def longSigns : List String :=
  ["&&", "||", "++", "--", "+=", "-=", "*=", "/=", "%=", "^=", "==", "<=", ">=", "!=", "!~", ">>"]

def shortSigns : List Char :=
  ['\x7b', '\x7d', '(', ')', '[', ']', ';', ',', '+', '-', '*', '/', '%', '^', '!', '>', '<', '|',
    '?', ':', '~', '$', '=']

end Token

/-! ## Texts -/

def isOctalDigit (c : Char) : Bool := '0' ≤ c && c ≤ '7'

/-- The character of a letter after a backslash. -/
def escapeLetter? : Char → Option Char
  | 'a' => some '\x07'
  | 'b' => some '\x08'
  | 'f' => some '\x0c'
  | 'n' => some '\n'
  | 'r' => some '\r'
  | 't' => some '\t'
  | 'v' => some '\x0b'
  | '"' => some '"'
  | '\\' => some '\\'
  | _ => none

/-- A text with its escapes read; one that is not known stands as it is. -/
def unescaped : Nat → List Char → List Char
  | 0, cs => cs
  | _, [] => []
  | fuel + 1, '\\' :: c :: rest =>
    match escapeLetter? c with
    | some e => e :: unescaped fuel rest
    | none =>
      let digits := ((c :: rest).take 3).takeWhile isOctalDigit
      let hex := (rest.take 2).takeWhile fun d => (Decimal.hexDigit? d).isSome
      if !digits.isEmpty then
        Char.ofNat (Decimal.ofDigits 8 digits % 256) ::
          unescaped fuel ((c :: rest).drop digits.length)
      else if c == 'x' && !hex.isEmpty then
        Char.ofNat (Decimal.ofDigits 16 hex) :: unescaped fuel (rest.drop hex.length)
      else '\\' :: c :: unescaped fuel rest
  | fuel + 1, c :: rest => c :: unescaped fuel rest

def textOf (cs : List Char) : String := String.ofList (unescaped (cs.length + 1) cs)

/-! ## Regular expressions -/

/-- Characters that mean something in an expression. -/
def isSpecial (c : Char) : Bool :=
  ['\\', '^', '$', '.', '[', ']', '|', '(', ')', '*', '+', '?', '\x7b', '\x7d'].contains c

/-- The text of an expression with those escapes read that stand for a character. -/
def plainRegex : Nat → List Char → List Char
  | 0, cs => cs
  | _, [] => []
  | fuel + 1, '\\' :: c :: rest =>
    let digits := ((c :: rest).take 3).takeWhile isOctalDigit
    if !digits.isEmpty then
      let e := Char.ofNat (Decimal.ofDigits 8 digits % 256)
      let rest := plainRegex fuel ((c :: rest).drop digits.length)
      if isSpecial e then '\\' :: e :: rest else e :: rest
    else
      match escapeLetter? c with
      | some '\\' => '\\' :: '\\' :: plainRegex fuel rest
      | some e => e :: plainRegex fuel rest
      | none =>
        if c == '/' then c :: plainRegex fuel rest else '\\' :: c :: plainRegex fuel rest
  | fuel + 1, c :: rest => c :: plainRegex fuel rest

/-- What is wrong with an expression. -/
def regexFaultText : RegexFault → String
  | .unmatchedOpening => "missing ')'"
  | .unmatchedClosing => "missing '('"
  | .unmatchedBracket | .badClass | .badRange => "bad class -- [], [^] or ["
  | _ => "missing operand"

/-- The pattern of a text. -/
def patternOf (text : String) : Except String Pattern :=
  let cs := plainRegex (text.length + 1) text.toList
  let dialect : Dialect := { extended := true, plainEscapes := true, looseBraces := true }
  match Pattern.parse dialect (String.ofList cs) with
  | .ok pattern => .ok pattern
  | .error fault =>
    let reason := regexFaultText fault
    .error s!"regular expression compile failed ({reason})\n{text}"

/-! ## Tokens -/

/-- A text up to a closing quote, and what follows it. -/
def takeText (found : List Char) : List Char → Option (List Char × List Char)
  | '"' :: rest => some (found.reverse, rest)
  | '\\' :: '\n' :: rest => takeText found rest
  | '\\' :: c :: rest => takeText (c :: '\\' :: found) rest
  | '\n' :: _ | [] => none
  | c :: rest => takeText (c :: found) rest

/-- An expression up to a slash that is not in a list, and what follows it. -/
def takeRegex (inList : Bool) (found : List Char) : List Char → Option (List Char × List Char)
  | '/' :: rest => if inList then takeRegex true ('/' :: found) rest else some (found.reverse, rest)
  | '\\' :: c :: rest =>
    takeRegex inList (if c == '/' then '/' :: found else c :: '\\' :: found) rest
  | '\n' :: _ | [] => none
  | '[' :: ']' :: rest => takeRegex true (']' :: '[' :: found) rest
  | '[' :: '^' :: ']' :: rest => takeRegex true (']' :: '^' :: '[' :: found) rest
  | c :: rest =>
    let inList := if c == '[' then true else if c == ']' then false else inList
    takeRegex inList (c :: found) rest

def isNameStart (c : Char) : Bool := c.isAlpha || c == '_'

def isNamePart (c : Char) : Bool := c.isAlphanum || c == '_'

/-- The text of a number without names for what is none. -/
def startsNumber (cs : List Char) : Bool :=
  match cs with
  | '.' :: d :: _ => d.isDigit
  | d :: _ => d.isDigit
  | [] => false

/-- The tokens of a text with their lines, the last one first; `line` is the number of the line. -/
def tokens : Nat → Nat → List (Token × Nat) → List Char → Except String (List (Token × Nat))
  | 0, _, found, _ => .ok found
  | _, line, found, [] => .ok ((.ended, line) :: found)
  | fuel + 1, line, found, c :: rest =>
    let cs := c :: rest
    let add (t : Token) (rest : List Char) : Except String (List (Token × Nat)) :=
      tokens fuel line ((t, line) :: found) rest
    let last := ((found.head?).map (·.1)).getD .newline
    let isBlank := c == ' ' || c == '\t' || c == '\r' || c == '\x0c' || c == '\x0b'
    if c == '\n' then tokens fuel (line + 1) ((.newline, line) :: found) rest
    else if isBlank then tokens fuel line found rest
    else if c == '\\' && rest.head? == some '\n' then
      tokens fuel (line + 1) found (rest.drop 1)
    else if c == '\\' && rest.take 2 == ['\r', '\n'] then
      tokens fuel (line + 1) found (rest.drop 2)
    else if c == '#' then tokens fuel line found (rest.dropWhile (· != '\n'))
    else if c == '"' then
      match takeText [] rest with
      | some (text, rest) => add (.text (textOf text)) rest
      | none =>
        let start := String.ofList ((rest.takeWhile (· != '\n')).take 10)
        .error s!"line {line}: runaway string constant \"{start} ..."
    else if startsNumber cs then
      let hex := c == '0' && (rest.head? == some 'x' || rest.head? == some 'X')
      match if hex then some (0.0, rest) else Decimal.takeNumber? cs with
      | some (value, rest) => add (.number value) rest
      | none => add (.sign (String.singleton c)) rest
    else if isNameStart c then
      let word := cs.takeWhile isNamePart
      let name := String.ofList word
      let rest := cs.drop word.length
      if Token.keywords.contains name then add (.keyword name) rest
      else if Token.builtins.contains name then add (.builtin name) rest
      else if rest.head? == some '(' then add (.function name) rest
      else add (.name name) rest
    else if c == '/' && !last.precedesDivision then
      match takeRegex false [] rest with
      | some (text, rest) =>
        match patternOf (String.ofList text) with
        | .ok pattern => add (.regex pattern) rest
        | .error reason => .error s!"line {line}: {reason}"
      | none =>
        let start := String.ofList ((rest.takeWhile (· != '\n')).take 10)
        .error s!"line {line}: runaway regular expression /{start} ..."
    else
      let pair := String.ofList (cs.take 2)
      if Token.longSigns.contains pair then add (.sign pair) (rest.drop 1)
      else if Token.shortSigns.contains c then add (.sign (String.singleton c)) rest
      else
        let shown := String.singleton c
        .error (s!"{line}: unexpected character '" ++ shown ++ "'")

end Bindery.Utility.Awk
