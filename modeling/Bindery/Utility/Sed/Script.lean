import Bindery.Regex.Parser
import Bindery.Utility.Basic

/-!
# Editing scripts

An editing script is a list of commands, each of which may be limited to some lines. Commands in
braces and branches are jumps in that list, so that the place in a script is a number.

A script comes in parts, from arguments and files. `Script.read` reads them one character after the
other, and tells of the first character at which they make no sense.
-/

namespace Bindery.Utility.Sed

/-- A regular expression, and whether the lines within a text have starts and ends of their own. -/
structure Expression where
  pattern : Pattern
  hasLines : Bool := false

/-- A condition on lines. An expression that is missing is the one that was used last. -/
inductive Address where
  | line (number : Nat)
  /-- A line, and every line that is a multiple of a step further on. -/
  | every (first step : Nat)
  | last
  | fits (expression : Option Expression)
  /-- So many lines after the first one of a range. -/
  | further (count : Nat)
  /-- The next line whose number is a multiple. -/
  | multiple (factor : Nat)

/-! ## Replacements -/

/-- A case for letters. -/
inductive LetterCase where
  | upper
  | lower
  deriving DecidableEq

/-- A piece of a replacement: a text, and what a group holds, in some case. -/
structure Piece where
  text : ByteArray
  group : Option Nat := none
  /-- The case of the first letter. -/
  first : Option LetterCase := none
  /-- The case of the other letters. -/
  others : Option LetterCase := none

/-- What a substitution does. -/
structure Substitution where
  expression : Option Expression
  pieces : List Piece
  /-- The first match that is replaced. -/
  number : Nat := 1
  isGlobal : Bool := false
  prints : Bool := false
  /-- The line is run as a command afterwards. -/
  runs : Bool := false
  /-- The file to which the line is written afterwards. -/
  file : Option String := none

/-! ## Commands -/

/-- When a branch is taken. -/
inductive Branch where
  | always
  | afterSubstitution
  | withoutSubstitution
  deriving DecidableEq

inductive Action where
  /-- Goes past the end of a block, on lines that are not meant. -/
  | skip (stop : Nat)
  /-- The end of a block. -/
  | stop
  | append (text : ByteArray)
  | insert (text : ByteArray)
  | change (text : ByteArray)
  | branch (kind : Branch) (label : String)
  | number
  | delete
  | deleteFirst
  | run (command : ByteArray)
  | name
  | take
  | takeMore
  | hold
  | holdMore
  | list (width : Option Nat)
  | next
  | nextMore
  | print
  | printFirst
  | quit (status : Nat)
  | quitSilently (status : Nat)
  | read (file : String)
  | readLine (file : String)
  | substitute (substitution : Substitution)
  | write (file : String)
  | writeFirst (file : String)
  | exchange
  | translate (table : ByteArray)
  | empty

structure Command where
  first : Option Address := none
  second : Option Address := none
  isNegated : Bool := false
  action : Action

structure Script where
  commands : Array Command
  /-- The places in the script that have names. -/
  labels : List (String × Nat)
  /-- Lines are not printed at the end of the script. -/
  isQuiet : Bool
  /-- The number of its parts that are arguments. -/
  expressions : Nat

/-! ## Escapes -/

/-- What a text is for. -/
inductive Purpose where
  | regex
  | replacement
  | lines
  | table
  deriving DecidableEq

def digitOf? (base : Nat) (c : Char) : Option Nat :=
  let value :=
    if c.isDigit then c.toNat - 48
    else if 'a' ≤ c && c ≤ 'f' then c.toNat - 87
    else if 'A' ≤ c && c ≤ 'F' then c.toNat - 55 else 99
  if value < base then some value else none

/-- A byte that is written in digits, with how many of them there are. -/
def digitsOf (base count : Nat) (cs : List Char) : Option (Char × Nat) :=
  let digits := (cs.take count).takeWhile fun c => (digitOf? base c).isSome
  if digits.isEmpty then none
  else
    let value := (digits.filterMap (digitOf? base)).foldl (fun n d => n * base + d) 0
    some (Char.ofNat (value % 256), digits.length)

/-- A byte that comes from digits, as it stands in a text. -/
def protect (purpose : Purpose) (c : Char) : List Char :=
  match purpose with
  | .regex => [c]
  | .replacement => if c == '&' || c == '\\' then ['\\', c] else [c]
  | .lines | .table => if c == '\\' then ['\\', c] else [c]

/-- The escapes that stand for single bytes. -/
def namedByte? : Char → Option Char
  | 'a' => some '\x07'
  | 'f' => some '\x0c'
  | 'r' => some '\r'
  | 't' => some '\t'
  | 'v' => some '\x0b'
  | _ => none

/-- The control character of a character. -/
def controlOf (c : Char) : Char := Char.ofNat (c.toUpper.toNat ^^^ 0x40)

/-- Puts bytes in the place of the escapes that stand for them. -/
def normalize (purpose : Purpose) : Nat → List Char → List Char
  | 0, cs => cs
  | _ + 1, [] => []
  | fuel + 1, '\\' :: c :: rest =>
    let number (base count : Nat) : List Char :=
      match digitsOf base count rest with
      | some (byte, length) =>
        protect purpose byte ++ normalize purpose fuel (rest.drop length)
      | none => c :: normalize purpose fuel rest
    match namedByte? c with
    | some byte => byte :: normalize purpose fuel rest
    | none =>
      match c with
      | 'n' =>
        if purpose = .regex then '\\' :: c :: normalize purpose fuel rest
        else '\n' :: normalize purpose fuel rest
      | 'd' => number 10 3
      | 'o' => number 8 3
      | 'x' => number 16 2
      | 'c' =>
        match rest with
        | '\\' :: '\\' :: rest => controlOf '\\' :: normalize purpose fuel rest
        | e :: rest => controlOf e :: normalize purpose fuel rest
        | [] => ['\\']
      | c => '\\' :: c :: normalize purpose fuel rest
  | fuel + 1, c :: rest => c :: normalize purpose fuel rest

def normalized (purpose : Purpose) (cs : List Char) : List Char :=
  normalize purpose cs.length cs

/-- A text without the backslashes that stand before characters. -/
def plainText : List Char → List Char
  | '\\' :: c :: rest => c :: plainText rest
  | c :: rest => c :: plainText rest
  | [] => []

/-- The bytes of characters. -/
def bytesOf (cs : List Char) : ByteArray := Text.Octets.toBytes (String.ofList cs)

/-! ## Characters -/

/-- A part of a script. -/
structure Part where
  text : List Char
  /-- The file it is in. -/
  file : Option String := none
  extended : Bool := false

/-- Where a character stands, for messages. -/
structure Spot where
  file : Option String
  line : Nat
  expression : Nat
  count : Nat

def Spot.message (s : Spot) (text : String) : String :=
  match s.file with
  | some file => s!"file {file} line {s.line}: {text}"
  | none => s!"-e expression #{s.expression}, char {s.count}: {text}"

/-- What is left of a script, and what was found in it. -/
structure Reading where
  rest : List Char := []
  spot : Spot := ⟨none, 1, 0, 0⟩
  extended : Bool := false
  later : List Part
  commands : Array Command := #[]
  labels : List (String × Nat) := []
  /-- The blocks that are open: their places in the script, and in its text. -/
  blocks : List (Nat × Spot) := []
  files : List String := []

abbrev Parser := ExceptT String (StateM Reading)

def fault {α : Type} (text : String) : Parser α := do
  throw ((← get).spot.message text)

/-- The next character of the part, if there is one. -/
def takeChar : Parser (Option Char) := do
  let r ← get
  match r.rest with
  | [] => return none
  | c :: rest =>
    let spot := { r.spot with
      count := r.spot.count + 1, line := if c == '\n' then r.spot.line + 1 else r.spot.line }
    set { r with rest, spot }
    return some c

/-- Puts a character back. -/
def putBack (c : Option Char) : Parser Unit :=
  match c with
  | none => return
  | some c => modify fun r =>
    let line := if c == '\n' then r.spot.line - 1 else r.spot.line
    { r with rest := c :: r.rest, spot := { r.spot with count := r.spot.count - 1, line } }

/-- Goes on with the next part, if there is one. -/
def nextPart : Parser Bool := do
  let r ← get
  match r.later with
  | [] => return false
  | part :: later =>
    let expression := if part.file.isNone then r.spot.expression + 1 else r.spot.expression
    set { r with
      rest := part.text
      later
      extended := part.extended
      spot := ⟨part.file, 1, expression, 0⟩ }
    return true

def isBlank (c : Char) : Bool := c == ' ' || c == '\t'

def isSpace (c : Char) : Bool := c == ' ' || ('\t' ≤ c && c ≤ '\r')

/-- Goes past characters of a kind. -/
def skipWhile (test : Char → Bool) : Parser Unit :=
  modify fun r =>
    let skipped := r.rest.takeWhile test
    let lines := skipped.count '\n'
    { r with
      rest := r.rest.drop skipped.length
      spot := { r.spot with count := r.spot.count + skipped.length, line := r.spot.line + lines } }

/-- The characters of a kind that come next. -/
def takeWhileChars (test : Char → Bool) : Parser (List Char) := do
  let cs := (← get).rest.takeWhile test
  skipWhile test
  return cs

/-- The next character that is no blank. -/
def takeNonblank : Parser (Option Char) := do
  skipWhile isBlank
  takeChar

/-- The number whose first digit is given, if it is one. -/
def takeNumber (c : Option Char) : Parser Nat := do
  putBack c
  let digits ← takeWhileChars Char.isDigit
  return digits.foldl (fun n d => n * 10 + (d.toNat - 48)) 0

/-- The end of a command. -/
def endCommand : Parser Unit := do
  match ← takeNonblank with
  | none | some '\n' | some ';' => return
  | some c =>
    if c == '}' || c == '#' then putBack (some c) else fault "extra characters after command"

/-! ## Parts of commands -/

/-- The rest of a bracket expression, its closing bracket with it. `inner` is the mark of a class
that is open in it, `first` tells that a closing bracket stands for itself. -/
def takeBracket : Nat → Option Char → Bool → List Char → Parser (Option (List Char))
  | 0, _, _, _ => return none
  | fuel + 1, inner, first, found => do
    match ← takeChar with
    | none => return none
    | some '\n' =>
      putBack (some '\n')
      return none
    | some c =>
      let next := (← get).rest.head?
      match inner with
      | some mark =>
        if c == mark && next == some ']' then
          let _ ← takeChar
          takeBracket fuel none false (']' :: c :: found)
        else takeBracket fuel inner false (c :: found)
      | none =>
        if c == ']' && !first then return some (c :: found)
        else if c == '[' && (next == some ':' || next == some '.' || next == some '=') then
          let _ ← takeChar
          takeBracket fuel next false (next.getD c :: c :: found)
        else if c == '\\' && next == some 'n' then
          let _ ← takeChar
          takeBracket fuel none false ('\n' :: found)
        else takeBracket fuel none (first && c == '^' && found.head? == some '[') (c :: found)

/-- The text up to a mark, in reverse. A backslash takes its meaning from the mark. -/
def takeUntil (mark : Char) (isRegex : Bool) : Nat → List Char → Parser (Option (List Char))
  | 0, _ => return none
  | fuel + 1, found => do
    match ← takeChar with
    | none => return none
    | some '\n' =>
      putBack (some '\n')
      return none
    | some c =>
      if c == mark then return some found
      else if c == '\\' then
        match ← takeChar with
        | none => return none
        | some e =>
          if e == 'n' && isRegex then takeUntil mark isRegex fuel ('\n' :: found)
          else if e == '\n' then takeUntil mark isRegex fuel ('\n' :: found)
          else if e == mark && (isRegex || e != '&') then
            takeUntil mark isRegex fuel (e :: found)
          else takeUntil mark isRegex fuel (e :: '\\' :: found)
      else if c == '[' && isRegex then
        match ← takeBracket ((← get).rest.length + 1) none true (c :: found) with
        | none => return none
        | some found => takeUntil mark isRegex fuel found
      else takeUntil mark isRegex fuel (c :: found)

/-- The text up to a mark. -/
def takeMarked (mark : Char) (isRegex : Bool) : Parser (Option (List Char)) := do
  let bound := (← get).rest.length + 1
  return (← takeUntil mark isRegex bound []).map List.reverse

/-- The expression of a text; an empty text stands for the one that was used last. -/
def expressionOf (cs : List Char) (ignoresCase hasLines : Bool) (groups : Nat) :
    Parser (Option Expression) := do
  if cs.isEmpty then
    if ignoresCase || hasLines then fault "cannot specify modifiers on empty regexp"
    else return none
  else
    let dialect : Dialect :=
      { extended := (← get).extended, ignoresCase, sparesLineEnds := hasLines }
    match Pattern.parse dialect (String.ofList (normalized .regex cs)) with
    | .error cause => fault cause.message
    | .ok pattern =>
      if pattern.groups < groups then
        fault s!"invalid reference \\{groups} on `s' command's RHS"
      else return some { pattern, hasLines }

/-- The flags after the expression of an address, and then the address. -/
def takeFlags (cs : List Char) : Nat → Bool → Bool → Parser Address
  | 0, _, _ => fault "unterminated address regex"
  | fuel + 1, ignoresCase, hasLines => do
    match ← takeNonblank with
    | some 'I' => takeFlags cs fuel true hasLines
    | some 'M' => takeFlags cs fuel ignoresCase true
    | c =>
      putBack c
      return .fits (← expressionOf cs ignoresCase hasLines 0)

/-- The address that begins with a character, if one does. -/
def takeAddress (c : Option Char) : Parser (Option Address) := do
  let expression (mark : Option Char) : Parser (Option Address) := do
    match mark with
    | none => fault "unterminated address regex"
    | some mark =>
      match ← takeMarked mark true with
      | none => fault "unterminated address regex"
      | some cs => some <$> takeFlags cs ((← get).rest.length + 1) false false
  match c with
  | some '/' => expression (some '/')
  | some '\\' => expression (← takeChar)
  | some '$' => return some .last
  | some '+' => return some (.further (← takeNumber (← takeNonblank)))
  | some '~' => return some (.multiple (← takeNumber (← takeNonblank)))
  | some c =>
    if !c.isDigit then return none
    else
      let number ← takeNumber (some c)
      match ← takeNonblank with
      | some '~' =>
        let step ← takeNumber (← takeNonblank)
        return some (if step = 0 then .line number else .every number step)
      | c =>
        putBack c
        return some (.line number)
  | none => return none

/-- The name of a file. -/
def takeFile : Parser String := do
  skipWhile isBlank
  let cs ← takeWhileChars (· != '\n')
  let _ ← takeChar
  if cs.isEmpty then fault "missing filename in r/R/w/W commands"
  else return String.ofList cs

/-- The name of a file that is written. -/
def takeOutput : Parser String := do
  let file ← takeFile
  modify fun r => { r with files := if r.files.contains file then r.files else r.files ++ [file] }
  return file

def takeLabel : Parser String := do
  skipWhile isBlank
  let cs ← takeWhileChars fun c => !isSpace c && c != ';' && c != '}'
  return String.ofList cs

/-- The lines of a text up to one that ends without a backslash. What follows a backslash at the end
of a part is in the next one. -/
def takeLines : Nat → List Char → Parser (List Char)
  | 0, found => return found.reverse
  | fuel + 1, found => do
    match ← takeChar with
    | none | some '\n' => return ('\n' :: found).reverse
    | some '\\' =>
      match ← takeChar with
      | some c => takeLines fuel (c :: '\\' :: found)
      | none =>
        if ← nextPart then takeLines fuel ('\n' :: found) else return ('\n' :: found).reverse
    | some c => takeLines fuel (c :: found)

/-- How many characters there are still to come. -/
def remaining : Parser Nat := do
  let r ← get
  return r.later.foldl (fun n part => n + part.text.length + 2) (r.rest.length + 2)

/-- The text of a command that begins with a character. -/
def takeText (c : Option Char) : Parser ByteArray := do
  let lines : Parser ByteArray := do
    return bytesOf (plainText (normalized .lines (← takeLines (← remaining) [])))
  match c with
  | none => fault "expected \\ after `a', `c' or `i'"
  | some '\\' =>
    match ← takeChar with
    | some '\n' => lines
    | none => if ← nextPart then lines else return .empty
    | c =>
      putBack c
      lines
  | c =>
    putBack c
    lines

/-! ## Substitutions -/

/-- The case that a letter after a backslash stands for, and whether it is for one letter only. -/
def caseOf? : Char → Option (Option LetterCase × Bool)
  | 'L' => some (some .lower, false)
  | 'U' => some (some .upper, false)
  | 'E' => some (none, false)
  | 'l' => some (some .lower, true)
  | 'u' => some (some .upper, true)
  | _ => none

/-- The pieces of a replacement. `text` is the text of the piece so far, in reverse, `first` and
`others` are its cases. -/
def piecesOf (first others : Option LetterCase) : List Char → List Char → List Piece
  | text, [] => if text.isEmpty then [] else [⟨bytesOf text.reverse, none, first, others⟩]
  | text, '\\' :: c :: rest =>
    if c.isDigit then
      ⟨bytesOf text.reverse, some (c.toNat - 48), first, others⟩ :: piecesOf none others [] rest
    else
      match caseOf? c with
      | some (letters, single) =>
        let here : List Piece :=
          if text.isEmpty then [] else [⟨bytesOf text.reverse, none, first, others⟩]
        here ++ (if single then piecesOf letters others [] rest else piecesOf none letters [] rest)
      | none => piecesOf first others (c :: text) rest
  | text, '&' :: rest =>
    ⟨bytesOf text.reverse, some 0, first, others⟩ :: piecesOf none others [] rest
  | text, c :: rest => piecesOf first others (c :: text) rest

/-- The largest group that pieces ask for. -/
def largestGroup (pieces : List Piece) : Nat :=
  pieces.foldl (fun n piece => max n (piece.group.getD 0)) 0

/-- The flags of a substitution. -/
structure Flags where
  ignoresCase : Bool := false
  hasLines : Bool := false
  isGlobal : Bool := false
  prints : Bool := false
  runs : Bool := false
  number : Option Nat := none
  file : Option String := none

def takeSubstitutionFlags : Nat → Flags → Parser Flags
  | 0, flags => return flags
  | fuel + 1, flags => do
    match ← takeChar with
    | none | some '\n' | some ';' => return flags
    | some c =>
      match c with
      | 'i' | 'I' => takeSubstitutionFlags fuel { flags with ignoresCase := true }
      | 'm' | 'M' => takeSubstitutionFlags fuel { flags with hasLines := true }
      | 'e' => takeSubstitutionFlags fuel { flags with runs := true }
      | 'p' =>
        if flags.prints then fault "multiple `p' options to `s' command"
        else takeSubstitutionFlags fuel { flags with prints := true }
      | 'g' =>
        if flags.isGlobal then fault "multiple `g' options to `s' command"
        else takeSubstitutionFlags fuel { flags with isGlobal := true }
      | 'w' => return { flags with file := some (← takeOutput) }
      | '}' | '#' =>
        putBack (some c)
        return flags
      | c =>
        if isBlank c then takeSubstitutionFlags fuel flags
        else if c.isDigit then
          if flags.number.isSome then fault "multiple number options to `s' command"
          else
            let number ← takeNumber (some c)
            if number = 0 then fault "number option to `s' command may not be zero"
            else takeSubstitutionFlags fuel { flags with number := some number }
        else fault "unknown option to `s'"

def takeSubstitution : Parser Action := do
  let unterminated {α : Type} : Parser α := fault "unterminated `s' command"
  match ← takeChar with
  | none => unterminated
  | some mark =>
    match ← takeMarked mark true with
    | none => unterminated
    | some regex =>
      match ← takeMarked mark false with
      | none => unterminated
      | some replacement =>
        let pieces := piecesOf none none [] (normalized .replacement replacement)
        let flags ← takeSubstitutionFlags (← remaining) {}
        let expression ←
          expressionOf regex flags.ignoresCase flags.hasLines (largestGroup pieces)
        return .substitute
          { expression, pieces, number := flags.number.getD 1, isGlobal := flags.isGlobal
            prints := flags.prints, runs := flags.runs, file := flags.file }

/-- The characters of one side of a table. -/
def tableSide : List Char → List Char
  | '\\' :: c :: rest => c :: tableSide rest
  | c :: rest => c :: tableSide rest
  | [] => []

def takeTable : Parser Action := do
  let unterminated {α : Type} : Parser α := fault "unterminated `y' command"
  match ← takeChar with
  | none => unterminated
  | some mark =>
    match ← takeMarked mark false with
    | none => unterminated
    | some source =>
      match ← takeMarked mark false with
      | none => unterminated
      | some target =>
        let source := tableSide (normalized .table source)
        let target := tableSide (normalized .table target)
        if source.length != target.length then
          fault "strings for `y' command are different lengths"
        else
          let identity := ((List.range 256).map UInt8.ofNat).toByteArray
          let table := (source.zip target).foldl (fun (table : ByteArray) (a, b) =>
            table.set! a.toNat (UInt8.ofNat b.toNat)) identity
          endCommand
          return .translate table

/-! ## Commands -/

/-- The status after a command that ends the script, or the width of a listing. -/
def takeArgument : Parser (Option Nat) := do
  let c ← takeNonblank
  if c.any Char.isDigit then
    let number ← takeNumber c
    endCommand
    return some number
  else
    putBack c
    endCommand
    return none

/-- A command that is no more than a letter. -/
def simpleAction? : Char → Option Action
  | '=' => some .number
  | 'd' => some .delete
  | 'D' => some .deleteFirst
  | 'F' => some .name
  | 'g' => some .take
  | 'G' => some .takeMore
  | 'h' => some .hold
  | 'H' => some .holdMore
  | 'n' => some .next
  | 'N' => some .nextMore
  | 'p' => some .print
  | 'P' => some .printFirst
  | 'x' => some .exchange
  | 'z' => some .empty
  | _ => none

/-- The numbers of a version, which its dots separate. -/
def versionOf? (text : String) : Option (List Nat) := (text.splitOn ".").mapM String.toNat?

/-- Whether numbers come later than others, the first ones counting most. -/
def isLater : List Nat → List Nat → Bool
  | a :: as, b :: bs => b < a || (a = b && isLater as bs)
  | _ :: _, [] => true
  | [], _ => false

/-- The action of a letter, for lines that addresses limit, unless it is none. -/
def takeAction (first second : Option Address) (c : Char) : Parser (Option Action) := do
  match simpleAction? c with
  | some action =>
    endCommand
    return some action
  | none =>
    match c with
    | '#' =>
      if first.isSome then fault "comments don't accept any addresses"
      skipWhile (· != '\n')
      return none
    | 'v' =>
      let text ← takeLabel
      let isNewer := match versionOf? text with
        | some version => isLater version [4, 9]
        | none => !text.isEmpty
      if isNewer then fault "expected newer version of sed"
      return none
    | '{' =>
      modify fun r => { r with blocks := (r.commands.size, r.spot) :: r.blocks }
      return some (.skip 0)
    | '}' =>
      match (← get).blocks with
      | [] => fault "unexpected `\x7d'"
      | (start, _) :: blocks =>
        if first.isSome then fault "`\x7d' doesn't want any addresses"
        endCommand
        modify fun r =>
          let close (command : Command) : Command :=
            { command with action := .skip r.commands.size }
          { r with blocks, commands := r.commands.modify start close }
        return some .stop
    | 'e' =>
      match ← takeNonblank with
      | none | some '\n' => return some (.run .empty)
      | c => return some (.run (← takeText c))
    | 'a' => return some (.append (← takeText (← takeNonblank)))
    | 'i' => return some (.insert (← takeText (← takeNonblank)))
    | 'c' => return some (.change (← takeText (← takeNonblank)))
    | ':' =>
      if first.isSome then fault ": doesn't want any addresses"
      let label ← takeLabel
      if label.isEmpty then fault "\":\" lacks a label"
      modify fun r => { r with labels := r.labels ++ [(label, r.commands.size)] }
      return none
    | 'b' => return some (.branch .always (← takeLabel))
    | 't' => return some (.branch .afterSubstitution (← takeLabel))
    | 'T' => return some (.branch .withoutSubstitution (← takeLabel))
    | 'q' | 'Q' =>
      if second.isSome then fault "command only uses one address"
      let status := (← takeArgument).getD 0
      return some (if c == 'q' then .quit status else .quitSilently status)
    | 'l' => return some (.list (← takeArgument))
    | 'r' => return some (.read (← takeFile))
    | 'R' => return some (.readLine (← takeFile))
    | 'w' => return some (.write (← takeOutput))
    | 'W' => return some (.writeFirst (← takeOutput))
    | 's' => return some (← takeSubstitution)
    | 'y' => return some (← takeTable)
    | c => fault s!"unknown command: `{c}'"

/-- Whether an address can only end a range. -/
def isRelative : Address → Bool
  | .further _ | .multiple _ => true
  | _ => false

def isExpression : Address → Bool
  | .fits _ => true
  | _ => false

/-- Reads the command that begins with a character. -/
def takeCommand (c : Option Char) : Parser Unit := do
  let first ← takeAddress c
  if first.any isRelative then fault "invalid usage of +N or ~N as first address"
  let c ← if first.isSome then takeNonblank else pure c
  let (second, c) ←
    if first.isSome && c == some ',' then do
      match ← takeAddress (← takeNonblank) with
      | none => fault "unexpected `,'"
      | some second => pure (some second, ← takeNonblank)
    else pure (none, c)
  match first with
  | some (.line 0) =>
    if !second.any isExpression then fault "invalid usage of line address 0"
  | _ => pure ()
  let isNegated := c == some '!'
  let c ← if isNegated then takeNonblank else pure c
  if isNegated && c == some '!' then fault "multiple `!'s"
  match c with
  | none => fault "missing command"
  | some c =>
    match ← takeAction first second c with
    | none => return
    | some action =>
      let isNegated := if c == '{' then !isNegated else isNegated
      modify fun r =>
        { r with commands := r.commands.push { first, second, isNegated, action } }

/-- Reads commands up to the end of the last part. -/
def takeCommands : Nat → Parser Unit
  | 0 => return
  | fuel + 1 => do
    skipWhile fun c => c == ';' || isSpace c
    match ← takeChar with
    | none => if ← nextPart then takeCommands fuel else return
    | some c =>
      takeCommand (some c)
      takeCommands fuel

/-- Whether a part begins with a line that makes the script quiet. -/
def Part.isQuiet (part : Part) : Bool :=
  match part.text with
  | ['#', 'n'] | '#' :: 'n' :: '\n' :: _ => true
  | _ => false

/-- Reads a script. The result holds the files that are written, also those that were found before
something that makes no sense. -/
def Script.read (parts : List Part) : Except String Script × List String :=
  let commands : Parser Unit := do
    let _ ← nextPart
    takeCommands (← remaining)
  let (result, r) := Id.run (commands.run.run { later := parts })
  let script : Except String Script := do
    result
    match r.blocks with
    | (_, spot) :: _ => throw ({ spot with count := 0 }.message "unmatched `\x7b'")
    | [] =>
      return {
        commands := r.commands
        labels := r.labels
        isQuiet := (parts.head?.map Part.isQuiet).getD false
        expressions := r.spot.expression }
  (script, r.files)

/-- The last label to which a script jumps, but which it lacks. -/
def Script.missingLabel? (script : Script) : Option String :=
  script.commands.toList.reverse.findSome? fun command =>
    match command.action with
    | .branch _ label =>
      if label.isEmpty || (script.labels.lookup label).isSome then none else some label
    | _ => none

end Bindery.Utility.Sed
