import Bindery.Text.Uppercase
import Bindery.Text.Lowercase
import Bindery.Text.Alphanumeric
import Bindery.Text.CaseMap
import Bindery.Text.FinalSigma

/-!
# Names of generated items

Schema names are free text; the names of generated items must be identifiers of the generated
code. Each kind of item has its own spelling rule, a pure function of the schema name, and a name
that is a keyword of the generated code is escaped.
-/

namespace Bindery.Naming

open Bindery.Text

/-- The keywords of the generated code, strict and reserved, that a raw identifier can spell. -/
def keywords : List String :=
  ["abstract", "as", "async", "await", "become", "box", "break", "const", "continue", "crate",
    "do", "dyn", "else", "enum", "extern", "false", "final", "fn", "for", "gen", "if", "impl",
    "in", "let", "loop", "macro", "match", "mod", "move", "mut", "override", "priv", "pub", "ref",
    "return", "static", "struct", "super", "trait", "true", "try", "type", "typeof", "unsafe",
    "unsized", "use", "virtual", "where", "while", "yield"]

/-- The keywords that not even a raw identifier can spell. -/
def pathKeywords : List String :=
  ["crate", "self", "Self", "super"]

/-- An identifier in place of a keyword: a raw identifier, or a trailing underscore where there is
none. -/
def escapeKeyword (ident : String) : String :=
  if pathKeywords.contains ident then ident ++ "_"
  else if keywords.contains ident then "r#" ++ ident
  else ident

/-- A character that may stand in an identifier. -/
def isIdentChar (c : Char) : Bool :=
  isAlphanumeric c || c == '_'

/-- Puts an underscore for every character that an identifier cannot hold, and one in front where
the text is empty or starts with a digit. -/
def sanitizeChars (cs : List Char) : List Char :=
  let kept := cs.map fun c => if isIdentChar c then c else '_'
  match kept with
  | [] => ['_']
  | c :: _ => if c.isDigit then '_' :: kept else kept

/-- The exported spelling: the first character in upper case. -/
def typeChars : List Char → List Char
  | [] => []
  | c :: cs => toUpper c ++ cs

/-- The exported spelling of a declaration name. -/
def typeIdent (name : String) : String :=
  String.ofList (typeChars name.toList)

/-- Joins the words of a literal that hyphens separate, each starting in upper case. `start` says
that the next character starts a word; a hyphen where a word should start stands as `N`. -/
def constCharsFrom (start : Bool) : List Char → List Char
  | [] => []
  | '-' :: cs => if start then 'N' :: constCharsFrom true cs else constCharsFrom true cs
  | c :: cs => (if start then toUpper c else [c]) ++ constCharsFrom false cs

/-- The constant name of an enumeration literal, before keywords are escaped. -/
def enumConstIdent (literal : String) : String :=
  String.ofList (sanitizeChars (constCharsFrom true literal.toList))

/-- A character that separates words in a schema name. -/
def isWordSeparator (c : Char) : Bool :=
  c == '-' || c == '.' || c == ' '

/-- Whether an upper-case character between its neighbours starts a new word: after a lower-case
letter or a digit, and, within a run of capitals, before a lower-case letter. -/
def startsWord (before : Option Char) (after : Option Char) : Bool :=
  match before with
  | none => false
  | some p =>
    if isLowercase p || p.isDigit then true
    else if isUppercase p then after.any isLowercase
    else false

/-- Adds an underscore to a reversed text that neither is empty nor ends in one. -/
def withUnderscore : List Char → List Char
  | [] => []
  | '_' :: out => '_' :: out
  | out => '_' :: out

/-- Lower-cases a name word by word, with underscores between the words. `before` is the character
just read and `out` the output so far, last character first. -/
def snakeCharsFrom (before : Option Char) (out : List Char) : List Char → List Char
  | [] => out.reverse
  | c :: cs =>
    if isWordSeparator c then snakeCharsFrom (some c) (withUnderscore out) cs
    else if isUppercase c then
      let out := if startsWord before cs.head? then withUnderscore out else out
      snakeCharsFrom (some c) ((toLower c).reverse ++ out) cs
    else snakeCharsFrom (some c) (c :: out) cs

/-- The snake-case spelling of a name. A run of capitals is one word. -/
def snakeCase (name : String) : String :=
  String.ofList (snakeCharsFrom none [] name.toList)

/-- The identifier of the field that carries a property. -/
def fieldIdent (wireName : String) : String :=
  escapeKeyword (String.ofList (sanitizeChars (snakeCharsFrom none [] wireName.toList)))

/-- The identifier of the function that belongs to an exported identifier. -/
def fnIdent (ident : String) : String :=
  escapeKeyword (snakeCase ident)

/-- The module, and file stem, of a domain. -/
def moduleName (domain : String) : String :=
  lowercase domain

/-- The module of a domain as a declaration spells it. -/
def moduleIdent (domain : String) : String :=
  escapeKeyword (moduleName domain)

end Bindery.Naming
