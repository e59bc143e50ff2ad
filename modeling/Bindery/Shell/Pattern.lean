/-!
# Patterns

A pattern says which texts fit it: `*` stands for any characters, `?` for any one, and brackets for
one of those listed in them; a backslash takes the meaning from the character that follows it, as
quotes do. `fits` compares a whole text, `trim` takes away the part at one end that fits. Utilities
compare names with these patterns.
-/

namespace Bindery.Shell

/-- A character of an expanded text, and whether it was quoted. -/
structure Marked where
  char : Char
  quoted : Bool
  deriving DecidableEq

/-- Whether a character is the given one, and not quoted. -/
def Marked.isBare (m : Marked) (c : Char) : Bool := m.char == c && !m.quoted

def isPunctuation (c : Char) : Bool :=
  32 < c.toNat && c.toNat < 127 && !c.isAlphanum

/-- Whether a character belongs to the class of a name. -/
def inClass (name : String) (c : Char) : Bool :=
  match name with
  | "alpha" => c.isAlpha
  | "digit" => c.isDigit
  | "alnum" => c.isAlphanum
  | "upper" => c.isUpper
  | "lower" => c.isLower
  | "space" => [' ', '\t', '\n', '\x0b', '\x0c', '\r'].contains c
  | "blank" => c == ' ' || c == '\t'
  | "punct" => isPunctuation c
  | "cntrl" => c.toNat < 32 || c.toNat == 127
  | "print" => 32 ≤ c.toNat && c.toNat < 127
  | "graph" => 32 < c.toNat && c.toNat < 127
  | "xdigit" => c.isDigit || ('a' ≤ c && c ≤ 'f') || ('A' ≤ c && c ≤ 'F')
  | _ => false

/-- What one entry between brackets lists. -/
inductive Listed where
  | range (low high : Char)
  | named (name : String)
  deriving DecidableEq

def Listed.has (c : Char) : Listed → Bool
  | range low high => low ≤ c && c ≤ high
  | named name => inClass name c

/-- A part of a pattern. -/
inductive Glob where
  | char (c : Char)
  /-- Any one character. -/
  | one
  /-- Any characters, or none. -/
  | many
  /-- One of the characters listed, or, negated, one of the others. -/
  | bracket (negated : Bool) (listed : List Listed)
  deriving DecidableEq

namespace Glob

/-- The name of a class, after the bracket and the colon that open it. -/
def className : List Marked → Option (List Char × List Marked)
  | c :: d :: rest =>
    if c.isBare ':' && d.isBare ']' then some ([], rest)
    else (className (d :: rest)).map fun (name, rest) => (c.char :: name, rest)
  | _ => none

/-- What is listed up to the closing bracket, which may be listed itself if it comes first. -/
def readListed : Nat → Bool → List Marked → Option (List Listed × List Marked)
  | 0, _, _ | _, _, [] => none
  | fuel + 1, first, c :: rest =>
    if c.isBare ']' && !first then some ([], rest)
    else
      match (if c.isBare '[' && rest.head?.any (·.isBare ':') then className (rest.drop 1)
        else none) with
      | some (name, rest) =>
        (readListed fuel false rest).map fun (listed, rest) =>
          (.named (String.ofList name) :: listed, rest)
      | none =>
        let (low, rest) := match c.isBare '\\', rest with
          | true, d :: rest => (d.char, rest)
          | _, rest => (c.char, rest)
        match rest with
        | dash :: high :: after =>
          if dash.isBare '-' && !high.isBare ']' then
            let (high, after) := match high.isBare '\\', after with
              | true, d :: after => (d.char, after)
              | _, after => (high.char, after)
            (readListed fuel false after).map fun (listed, rest) =>
              (.range low high :: listed, rest)
          else
            (readListed fuel false rest).map fun (listed, rest) => (.range low low :: listed, rest)
        | rest =>
          (readListed fuel false rest).map fun (listed, rest) => (.range low low :: listed, rest)

/-- The part that an opening bracket starts, if it is closed. -/
def readBracket (cs : List Marked) : Option (Glob × List Marked) :=
  let negated := cs.head?.any (·.isBare '!')
  let cs := if negated then cs.drop 1 else cs
  (readListed (cs.length + 1) true cs).map fun (listed, rest) => (.bracket negated listed, rest)

/-- The parts of a pattern. -/
def read : Nat → List Marked → List Glob
  | 0, _ | _, [] => []
  | fuel + 1, c :: rest =>
    if c.quoted then .char c.char :: read fuel rest
    else
      match c.char, rest with
      | '*', rest => .many :: read fuel rest
      | '?', rest => .one :: read fuel rest
      | '\\', d :: rest => .char d.char :: read fuel rest
      | '[', rest =>
        match readBracket rest with
        | some (part, rest) => part :: read fuel rest
        | none => .char '[' :: read fuel rest
      | c, rest => .char c :: read fuel rest

/-- The pattern that a marked text is. -/
def ofMarked (cs : List Marked) : List Glob := read cs.length cs

/-- Whether one character fits a part that stands for one. -/
def fitsOne (c : Char) : Glob → Bool
  | char p => p == c
  | one => true
  | many => false
  | bracket negated listed => (listed.any (·.has c)) != negated

/-- Whether a whole text fits a pattern. -/
def fits : List Glob → List Char → Bool
  | [], cs => cs.isEmpty
  | many :: ps, [] => fits ps []
  | many :: ps, c :: cs => fits ps (c :: cs) || fits (many :: ps) cs
  | _ :: _, [] => false
  | p :: ps, c :: cs => fitsOne c p && fits ps cs
termination_by ps cs => ps.length + cs.length

/-- Takes away the part at the start of a text that fits a pattern, the longest or the shortest. -/
def trimStart (pattern : List Glob) (longest : Bool) (cs : List Char) : List Char :=
  let lengths := List.range (cs.length + 1)
  let lengths := if longest then lengths.reverse else lengths
  match lengths.find? fun n => fits pattern (cs.take n) with
  | some n => cs.drop n
  | none => cs

/-- Takes away the part at the end of a text that fits a pattern, the longest or the shortest. -/
def trimEnd (pattern : List Glob) (longest : Bool) (cs : List Char) : List Char :=
  let lengths := List.range (cs.length + 1)
  let lengths := if longest then lengths else lengths.reverse
  match lengths.find? fun n => fits pattern (cs.drop n) with
  | some n => cs.take n
  | none => cs

end Glob

/-- Whether a marked text has a part that stands for other characters. -/
def hasGlob (cs : List Marked) : Bool :=
  cs.any fun c => c.isBare '*' || c.isBare '?' || c.isBare '['

end Bindery.Shell

/-! ## Patterns for names

A backslash takes the meaning from the character after it, and a caret after an opening bracket
negates a list as an exclamation mark does.
-/

namespace Bindery.Utility.NamePattern

/-- The characters of a pattern, those after backslashes as quoted ones. -/
def marked : List Char → List Shell.Marked
  | '\\' :: c :: rest => ⟨c, true⟩ :: marked rest
  | '[' :: '^' :: rest => ⟨'[', false⟩ :: ⟨'!', false⟩ :: marked rest
  | c :: rest => ⟨c, false⟩ :: marked rest
  | [] => []

/-- A text in small letters. -/
def folded (text : String) : String := text.map Char.toLower

/-- Whether a name fits a pattern. -/
def fits (pattern name : String) (ignoresCase : Bool := false) : Bool :=
  let (pattern, name) := if ignoresCase then (folded pattern, folded name) else (pattern, name)
  Shell.Glob.fits (Shell.Glob.ofMarked (marked pattern.toList)) name.toList

end Bindery.Utility.NamePattern
