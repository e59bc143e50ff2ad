import Bindery.Shell.Source

/-!
# Reading scripts

`Script.next` reads the next statements of a script, up to the end of a line on which they are
complete; what follows the line is not looked at, so that a script runs up to the place where it
stops being one. The grammar is the common one of shells: simple commands, lists, pipelines,
groups, conditions, loops, cases and functions.

The functions are bounded by the length of the script, since each of them goes past a character
before it starts over.
-/

namespace Bindery.Shell.Reader

/-! ## Characters of words -/

/-- Where the characters stand that are read as pieces of a word. -/
inductive Mode where
  /-- In a word of a command. -/
  | bare
  /-- Between double quotes. -/
  | double
  /-- In a text that follows a command. -/
  | here
  /-- Between the braces of a parameter, which may be quoted; `inner` tells of quotes inside. -/
  | braces (quoted inner : Bool)
  /-- In an arithmetic expression, so many parentheses deep. -/
  | arithmetic (depth : Nat)

/-- Whether characters stand for themselves and keep their blanks. -/
def Mode.quotes : Mode → Bool
  | bare => false
  | braces quoted inner => quoted || inner
  | _ => true

/-- The characters that end a word of a command. -/
def endsWord (c : Char) : Bool :=
  [' ', '\t', '\n', '&', '|', ';', '<', '>', '(', ')'].contains c

def isSpecial (c : Char) : Bool :=
  ['@', '*', '#', '?', '-', '$', '!'].contains c || c.isDigit

def reservedWords : List String :=
  ["!", "case", "do", "done", "elif", "else", "esac", "fi", "for", "if", "in", "then", "until",
    "while", "\x7b", "\x7d"]

/-- The builtin commands after which no function can be named. -/
def specialBuiltins : List String :=
  [".", ":", "break", "continue", "eval", "exec", "exit", "export", "readonly", "return", "set",
    "shift", "times", "trap", "unset"]

def charText (c : Char) (quoted : Bool) : Piece := .text (String.singleton c) quoted

/-- Joins texts that stand next to each other and are quoted alike. -/
def joinTexts (word : Word) : Word :=
  let (run, joined) := word.foldr (fun piece (run, joined) =>
    match piece, run with
    | .text content quoted, some (cs, other) =>
      if quoted == other then (some (content.toList ++ cs, other), joined)
      else (some (content.toList, quoted), .text (String.ofList cs) other :: joined)
    | .text content quoted, none => (some (content.toList, quoted), joined)
    | piece, some (cs, other) => (none, piece :: .text (String.ofList cs) other :: joined)
    | piece, none => (none, piece :: joined)) ((none : Option (List Char × Bool)), ([] : Word))
  match run with
  | some (cs, quoted) => .text (String.ofList cs) quoted :: joined
  | none => joined

/-- The text between single quotes. -/
def takeSingle : List Char → Option (List Char × List Char)
  | [] => none
  | '\'' :: rest => some ([], rest)
  | c :: rest => (takeSingle rest).map fun (text, rest) => (c :: text, rest)

/-- The text between backquotes, in which a backslash before a backslash, a backquote or a dollar
sign is dropped. -/
def takeBackquoted (quoted : Bool) : List Char → Option (List Char × List Char)
  | [] => none
  | '\x60' :: rest => some ([], rest)
  | '\\' :: c :: rest =>
    (takeBackquoted quoted rest).map fun (text, rest) =>
      if c == '\n' then (text, rest)
      else if ['\\', '\x60', '$'].contains c || (quoted && c == '"') then (c :: text, rest)
      else ('\\' :: c :: text, rest)
  | c :: rest => (takeBackquoted quoted rest).map fun (text, rest) => (c :: text, rest)

def countLines (cs : List Char) : Nat := (cs.filter (· == '\n')).length

/-- Goes to what is left of the script, past a part that was taken from it. -/
def skipTo (rest : List Char) : Reader Unit :=
  modify fun s =>
    { s with rest, line := s.line + countLines (s.rest.take (s.rest.length - rest.length)) }

/-- What a backslash stands for; the backslash has been passed. -/
def escaped (mode : Mode) : Reader Piece := do
  match ← peekRaw with
  | none => return charText '\\' true
  | some c =>
    advance
    let drops := ['\\', '\x60', '$'].contains c || match mode with
      | .double => c == '"'
      | .braces _ _ => c == '"' || c == '\x7d'
      | .here => false
      | .arithmetic _ => c == '"'
      | _ => true
    if !mode.quotes || drops then return charText c true
    else return .text (String.ofList ['\\', c]) true

/-- The operator between the braces of a parameter, if there is one that takes a word. -/
def fallbackOf? : Char → Option Fallback
  | '-' => some .standIn
  | '=' => some .assignment
  | '?' => some .complaint
  | '+' => some .alternative
  | _ => none

/-- The lines up to a mark, joined, and what follows them. -/
def linesUpTo (mark : String) (dropTabs : Bool) : Nat → List Char → List Char × List Char
  | 0, cs => ([], cs)
  | _ + 1, [] => ([], [])
  | fuel + 1, cs =>
    let line := cs.takeWhile (· != '\n')
    let rest := cs.dropWhile (· != '\n')
    let line := if dropTabs then line.dropWhile (· == '\t') else line
    if line == mark.toList then ([], rest.drop 1)
    else
      let (lines, after) := linesUpTo mark dropTabs fuel (rest.drop 1)
      (line ++ rest.take 1 ++ lines, after)

/-- The mark that a word gives, and whether none of it is quoted. -/
def markOf (word : Word) : String × Bool :=
  word.foldl (fun (text, bare) piece =>
    match piece with
    | .text content quoted => (text ++ content, bare && !quoted)
    | .quotes pieces =>
      (text ++ String.join (pieces.map fun
        | .text content _ => content
        | _ => ""), false)
    | _ => (text, bare)) ("", true)

def complain {α : Type} (found : Token) (wanted : Option String) : Reader α :=
  fail (s!"{found.name} unexpected" ++ match wanted with
    | some w => s!" (expecting {w})"
    | none => "")

/-- Which list of statements is read. -/
inductive ListKind where
  /-- In a compound command: at least one statement. -/
  | inner
  /-- Up to the end of a line. -/
  | line
  /-- Where there may be none. -/
  | free
  deriving DecidableEq

/-- The operator of a redirection, which comes next. -/
def redirection (stream : Option Nat) : Reader Token := do
  let first ← peek
  advance
  let second ← peek
  if first == some '>' then
    let stream := stream.getD 1
    match second with
    | some '>' => advance; return .redirection stream .append
    | some '|' => advance; return .redirection stream .clobber
    | some '&' => advance; return .redirection stream .duplicate
    | _ => return .redirection stream .output
  else
    let stream := stream.getD 0
    match second with
    | some '<' =>
      advance
      if (← peek) == some '-' then
        advance
        return .here stream true
      else return .here stream false
    | some '&' => advance; return .redirection stream .duplicate
    | some '>' => advance; return .redirection stream .both
    | _ => return .redirection stream .input

mutual

/-- The pieces of a word up to where their mode ends. -/
def pieces : Nat → Mode → Reader (List Piece)
  | 0, _ => fail "word too long"
  | fuel + 1, mode => do
    match ← peek, mode with
    | none, .bare | none, .here => return []
    | none, .double | none, .braces true _ => fail "Unterminated quoted string"
    | none, .braces false _ => fail "Missing '\x7d'"
    | none, .arithmetic _ => fail "Missing '))'"
    | some c, mode =>
      if c == '\\' then
        advance
        return (← escaped mode) :: (← pieces fuel mode)
      else if c == '$' then
        advance
        return (← dollar fuel mode) :: (← pieces fuel mode)
      else if c == '\x60' then
        advance
        let piece ← backquoted fuel mode.quotes
        return piece :: (← pieces fuel mode)
      else
        match mode with
        | .bare =>
          if endsWord c then return []
          else if c == '"' || c == '\'' then
            return (← quoted fuel c) :: (← pieces fuel mode)
          else
            advance
            return charText c false :: (← pieces fuel mode)
        | .double =>
          advance
          if c == '"' then return [] else return charText c true :: (← pieces fuel mode)
        | .here =>
          advance
          return charText c true :: (← pieces fuel mode)
        | .braces outer inner =>
          if c == '\x7d' && !inner then
            advance
            return []
          else if outer && c == '"' then
            advance
            pieces fuel (.braces outer !inner)
          else if !outer && (c == '"' || c == '\'') then
            return (← quoted fuel c) :: (← pieces fuel mode)
          else
            advance
            return charText c outer :: (← pieces fuel mode)
        | .arithmetic depth =>
          advance
          if c == '(' then
            return charText c true :: (← pieces fuel (.arithmetic (depth + 1)))
          else if c == ')' then
            match depth with
            | depth + 1 => return charText c true :: (← pieces fuel (.arithmetic depth))
            | 0 =>
              if (← peek) == some ')' then
                advance
                return []
              else return charText c true :: (← pieces fuel mode)
          else return charText c true :: (← pieces fuel mode)

/-- A quoted part of a word; the quote comes next. -/
def quoted : Nat → Char → Reader Piece
  | 0, _ => fail "word too long"
  | fuel + 1, quote => do
    advance
    if quote == '"' then return .quotes (joinTexts (← pieces fuel .double))
    else
      match takeSingle (← get).rest with
      | some (text, rest) =>
        skipTo rest
        return .text (String.ofList text) true
      | none =>
        skipTo []
        fail "Unterminated quoted string"

/-- The statements between backquotes; the first one has been passed. Their lines are counted from
one again. -/
def backquoted : Nat → Bool → Reader Piece
  | 0, _ => fail "word too long"
  | fuel + 1, quotes => do
    match takeBackquoted quotes (← get).rest with
    | none =>
      skipTo []
      fail "EOF in backquote substitution"
    | some (text, rest) =>
      let outer ← get
      set { outer with rest := text, line := 1, awaited := [] }
      let body ← list fuel .free none
      modify fun s =>
        { s with
          rest := outer.rest, line := outer.line, awaited := outer.awaited, putBack := none }
      skipTo rest
      return .output body

/-- What a dollar sign starts; it has been passed. -/
def dollar : Nat → Mode → Reader Piece
  | 0, _ => fail "word too long"
  | fuel + 1, mode => do
    match ← peek with
    | some '(' =>
      advance
      if (← peek) == some '(' then
        advance
        return .arithmetic (joinTexts (← pieces fuel (.arithmetic 0)))
      else
        let awaited := (← get).awaited
        modify fun s => { s with awaited := [] }
        let body ← list fuel .free none
        let found ← token fuel false false false
        match found with
        | .operator ")" => modify fun s => { s with awaited }
        | found => complain found (some "\")\"")
        return .output body
    | some '\x7b' =>
      advance
      inBraces fuel mode.quotes
    | some c =>
      if isNameStart c then
        return .parameter (String.ofList (← takeWhile isNameChar fuel)) .value
      else if isSpecial c then
        advance
        return .parameter (String.singleton c) .value
      else return charText '$' mode.quotes
    | none => return charText '$' mode.quotes

/-- What stands between braces after a dollar sign; the first one has been passed. -/
def inBraces : Nat → Bool → Reader Piece
  | 0, _ => fail "word too long"
  | fuel + 1, quotes => do
    match ← peek with
    | none => fail "Missing '\x7d'"
    | some c =>
      if isNameStart c then
        use fuel quotes (String.ofList (← takeWhile isNameChar fuel))
      else if c.isDigit then
        use fuel quotes (String.ofList (← takeWhile Char.isDigit fuel))
      else if c == '#' then
        advance
        lengthOrUse fuel quotes
      else if isSpecial c then
        advance
        use fuel quotes (String.singleton c)
      else misuse fuel quotes ""

/-- What follows a number sign after the brace: the name of which the length is taken, or an
operator on the number of parameters. -/
def lengthOrUse : Nat → Bool → Reader Piece
  | 0, _ => fail "word too long"
  | fuel + 1, quotes => do
    match ← peek with
    | none => fail "Missing '\x7d'"
    | some c =>
      if isNameChar c then
        let name ← takeWhile (if c.isDigit then Char.isDigit else isNameChar) fuel
        if (← peek) == some '\x7d' then
          advance
          return .parameter (String.ofList name) .length
        else misuse fuel quotes (String.ofList name)
      else
        let before ← get
        advance
        if c != '\x7d' && isSpecial c && (← peek) == some '\x7d' then
          advance
          return .parameter (String.singleton c) .length
        else
          set before
          let lacksWord := ['+', '=', '%', ':'].contains c && before.rest[1]? == some '\x7d'
          if lacksWord then misuse fuel quotes "#" else use fuel quotes "#"

/-- What is taken from a parameter whose name has been passed. -/
def use : Nat → Bool → String → Reader Piece
  | 0, _, _ => fail "word too long"
  | fuel + 1, quotes, name => do
    match ← peek with
    | none => fail "Missing '\x7d'"
    | some c =>
      advance
      if c == '\x7d' then return .parameter name .value
      else if c == '%' || c == '#' then
        let longest ← (do
          if (← peek) == some c then
            advance
            return true
          else return false : Reader Bool)
        let pattern := joinTexts (← pieces fuel (.braces false false))
        return .parameter name (.trim (c == '%') longest pattern)
      else
        let orEmpty := c == ':'
        let operator ← if orEmpty then peek else pure (some c)
        match operator.bind fallbackOf? with
        | some kind =>
          if orEmpty then advance
          let word := joinTexts (← pieces fuel (.braces quotes false))
          return .parameter name (.fallback kind orEmpty word)
        | none =>
          if orEmpty then advance
          misuse fuel quotes name

/-- Braces that hold nothing that is understood. -/
def misuse : Nat → Bool → String → Reader Piece
  | 0, _, _ => fail "word too long"
  | fuel + 1, quotes, name => do
    let _ ← pieces fuel (.braces quotes false)
    return .parameter name .misuse

/-- Reads the texts that redirections wait for. -/
def readAwaited : Nat → List Awaited → Reader Unit
  | 0, _ => fail "script too long"
  | _ + 1, [] => modify fun s => { s with awaited := [] }
  | fuel + 1, a :: later => do
    let s ← get
    let (text, rest) := linesUpTo a.mark a.dropTabs (s.rest.length + 1) s.rest
    skipTo rest
    let after ← get
    let body ← (do
      if a.expands then
        set { after with rest := text, line := s.line }
        return joinTexts (← pieces fuel .here)
      else return [.text (String.ofList text) true] : Reader Word)
    modify fun s =>
      { s with rest := after.rest, line := after.line, texts := (a.key, body) :: s.texts }
    readAwaited fuel later

/-- The next token, not counting those that were put back. -/
def scan : Nat → Reader Token
  | 0 => fail "script too long"
  | fuel + 1 => do
    match ← peek with
    | none =>
      readAwaited fuel (← get).awaited
      return .ended
    | some c =>
      if c == ' ' || c == '\t' then
        advance
        scan fuel
      else if c == '#' then
        skipLine
        scan fuel
      else if c == '\n' then
        advance
        readAwaited fuel (← get).awaited
        return .newline
      else if c == '&' || c == '|' || c == ';' then
        advance
        if (← peek) == some c then
          advance
          return .operator (String.ofList [c, c])
        else return .operator (String.singleton c)
      else if c == '(' || c == ')' then
        advance
        return .operator (String.singleton c)
      else
        beginWord
        let word := joinTexts (← pieces fuel .bare)
        match ← peek, word with
        | some '>', [] | some '<', [] => redirection none
        | some '>', [.text digit false] | some '<', [.text digit false] =>
          match digit.toList with
          | [d] => if d.isDigit then redirection (some (d.toNat - 48)) else return .word word
          | _ => return .word word
        | _, _ => return .word word

/-- The next token. With `lines`, line ends are passed over; with `words`, a word may be one that
has a meaning in the grammar; with `starts`, it may be an alias. -/
def token : Nat → Bool → Bool → Bool → Reader Token
  | 0, _, _, _ => fail "script too long"
  | fuel + 1, lines, words, starts => do
    let waiting := (← get).putBack
    let found ← match waiting with
      | some found =>
        modify fun s => { s with putBack := none }
        pure found
      | none => scan fuel
    match found with
    | .newline => if lines then token fuel lines words starts else return found
    | .word pieces =>
      match plainText? pieces with
      | some text =>
        if words && reservedWords.contains text then return .reserved text
        else if waiting.isSome || (← get).aliases.isEmpty then return found
        else
          let chained ← leaveAliases
          if (starts || chained) && (← takeAlias text) then token fuel lines words starts
          else return found
      | none => return found
    | found => return found

/-- Reads statements, adding them to those that came before. -/
def list : Nat → ListKind → Option Statement → Reader (Option Statement)
  | 0, _, _ => fail "script too long"
  | fuel + 1, kind, before => do
    match ← token fuel (kind != .line) true true with
    | .newline => return before
    | .ended =>
      unread .ended
      return before
    | found =>
      unread found
      if found.endsList && (kind = .free || (kind = .inner && before.isSome)) then return before
      let statement ← andOr fuel
      let after ← token fuel false false false
      let statement : Statement := match after with
        | .operator "&" => .background statement
        | _ => statement
      let all : Statement := match before with
        | some first => .sequence first statement
        | none => statement
      match after with
      | .operator "&" | .operator ";" => list fuel kind all
      | .newline =>
        unread .newline
        list fuel kind all
      | .ended =>
        unread .ended
        return all
      | after =>
        if kind = .line then complain after none
        unread after
        return all

/-- Pipelines that are joined by the ways in which they end. -/
def andOr : Nat → Reader Statement
  | 0 => fail "script too long"
  | fuel + 1 => do
    let first ← pipeline fuel false
    laterParts fuel first

/-- What is joined to the pipelines before it. -/
def laterParts : Nat → Statement → Reader Statement
  | 0, _ => fail "script too long"
  | fuel + 1, first => do
    match ← token fuel false false false with
    | .operator "&&" =>
      let second ← pipeline fuel true
      laterParts fuel (.conjunction first second)
    | .operator "||" =>
      let second ← pipeline fuel true
      laterParts fuel (.disjunction first second)
    | found =>
      unread found
      return first

/-- Commands each of which reads what the one before it writes. -/
def pipeline : Nat → Bool → Reader Statement
  | 0, _ => fail "script too long"
  | fuel + 1, lines => do
    match ← token fuel lines true true with
    | .reserved "!" => return .negation (← stages fuel)
    | found =>
      unread found
      stages fuel

/-- The commands of a pipeline. -/
def stages : Nat → Reader Statement
  | 0 => fail "script too long"
  | fuel + 1 => do
    let first ← command fuel false
    let later ← laterStages fuel
    return if later.isEmpty then first else .pipeline (first :: later)

def laterStages : Nat → Reader (List Statement)
  | 0 => fail "script too long"
  | fuel + 1 => do
    match ← token fuel false false false with
    | .operator "|" =>
      let stage ← command fuel true
      return stage :: (← laterStages fuel)
    | found =>
      unread found
      return []

/-- A list of statements that must not be empty. -/
def body : Nat → Reader Statement
  | 0 => fail "script too long"
  | fuel + 1 => return (← list fuel .inner none).getD default

/-- Goes past a word that must come next. -/
def expect : Nat → Bool → String → Reader Unit
  | 0, _, _ => fail "script too long"
  | fuel + 1, lines, text => do
    match ← token fuel lines true true with
    | .reserved found =>
      if found != text then complain (.reserved found) (some ("\"" ++ text ++ "\""))
    | found => complain found (some ("\"" ++ text ++ "\""))

/-- One command. -/
def command : Nat → Bool → Reader Statement
  | 0, _ => fail "script too long"
  | fuel + 1, lines => do
    let found ← token fuel lines true true
    let line := (← get).line
    match found with
    | .reserved "if" =>
      let branch ← condition fuel
      redirected fuel line branch
    | .reserved "while" => redirected fuel line (← loop fuel true)
    | .reserved "until" => redirected fuel line (← loop fuel false)
    | .reserved "for" => redirected fuel line (← each fuel line)
    | .reserved "case" => redirected fuel line (← select fuel line)
    | .reserved "\x7b" =>
      let inner ← body fuel
      expect fuel false "\x7d"
      redirected fuel line inner
    | .operator "(" =>
      let inner ← body fuel
      match ← token fuel false false false with
      | .operator ")" => return .subshell line inner (← redirections fuel)
      | found => complain found (some "\")\"")
    | .word _ | .redirection .. | .here .. =>
      unread found
      simple fuel line [] [] []
    | found => complain found none

/-- The redirections that follow a compound command, applied to it. With a subshell that stands
alone in braces, they take the place of its own. -/
def redirected : Nat → Nat → Statement → Reader Statement
  | 0, _, _ => fail "script too long"
  | fuel + 1, line, inner => do
    let found ← redirections fuel
    if found.isEmpty then return inner
    match inner with
    | .subshell line body _ => return .subshell line body found
    | inner => return .redirected line inner found

/-- What follows the word that begins a condition. -/
def condition : Nat → Reader Statement
  | 0 => fail "script too long"
  | fuel + 1 => do
    let test ← body fuel
    expect fuel false "then"
    let inner ← body fuel
    match ← token fuel false true true with
    | .reserved "elif" => return .branch test inner (some (← condition fuel))
    | .reserved "else" =>
      let otherwise ← body fuel
      expect fuel false "fi"
      return .branch test inner (some otherwise)
    | .reserved "fi" => return .branch test inner none
    | found => complain found (some "\"fi\"")

/-- What follows the word that begins a loop. -/
def loop : Nat → Bool → Reader Statement
  | 0, _ => fail "script too long"
  | fuel + 1, while_ => do
    let test ← body fuel
    expect fuel false "do"
    let inner ← body fuel
    expect fuel false "done"
    return .loop while_ test inner

/-- What follows the word that begins a loop over words. -/
def each : Nat → Nat → Reader Statement
  | 0, _ => fail "script too long"
  | fuel + 1, line => do
    let name ← match ← token fuel false false false with
      | .word pieces =>
        match plainText? pieces with
        | some name => if isName name then pure name else fail "Bad for loop variable"
        | none => fail "Bad for loop variable"
      | _ => fail "Bad for loop variable"
    let found ← token fuel true true true
    let words ← (do
      match found with
      | .reserved "in" => return some (← words fuel)
      | .operator ";" => return none
      | found =>
        unread found
        return none : Reader (Option (List Word)))
    expect fuel true "do"
    let inner ← body fuel
    expect fuel false "done"
    return .each line name words inner

/-- The words of a loop, up to the end of the line or a semicolon. -/
def words : Nat → Reader (List Word)
  | 0 => fail "script too long"
  | fuel + 1 => do
    match ← token fuel false false false with
    | .word pieces => return pieces :: (← words fuel)
    | .newline | .operator ";" => return []
    | found => complain found none

/-- What follows the word that begins a case distinction. -/
def select : Nat → Nat → Reader Statement
  | 0, _ => fail "script too long"
  | fuel + 1, line => do
    match ← token fuel false false false with
    | .word subject =>
      expect fuel true "in"
      return .select line subject (← cases fuel)
    | found => complain found (some "word")

/-- Cases up to the word that ends them. -/
def cases : Nat → Reader (List (List Word × Option Statement))
  | 0 => fail "script too long"
  | fuel + 1 => do
    match ← token fuel true true true with
    | .reserved "esac" => return []
    | found =>
      match found with
      | .operator "(" => pure ()
      | found => unread found
      let patterns ← patterns fuel
      let inner ← list fuel .free none
      match ← token fuel true true true with
      | .reserved "esac" => return [(patterns, inner)]
      | .operator ";;" => return (patterns, inner) :: (← cases fuel)
      | found => complain found (some "\";;\"")

/-- The patterns of a case. -/
def patterns : Nat → Reader (List Word)
  | 0 => fail "script too long"
  | fuel + 1 => do
    let pattern ← match ← token fuel false false false with
      | .word pieces => pure pieces
      | .reserved text => pure [.text text false]
      | found => complain found none
    match ← token fuel false false false with
    | .operator "|" => return pattern :: (← patterns fuel)
    | .operator ")" => return [pattern]
    | found => complain found (some "\")\"")

/-- Redirections that stand one after the other. -/
def redirections : Nat → Reader (List Redirection)
  | 0 => fail "script too long"
  | fuel + 1 => do
    let found ← token fuel false true true
    match found with
    | .redirection .. | .here .. =>
      let first ← target fuel found
      return first :: (← redirections fuel)
    | found =>
      unread found
      return []

/-- A redirection, of which the target comes next. -/
def target : Nat → Token → Reader Redirection
  | 0, _ => fail "script too long"
  | fuel + 1, operator => do
    match ← token fuel false false false, operator with
    | .word pieces, .redirection stream opening => return .file stream opening pieces
    | .word pieces, .here stream dropTabs =>
      let (mark, expands) := markOf pieces
      let key := (← get).nextKey
      modify fun s =>
        { s with
          nextKey := key + 1
          awaited := s.awaited ++ [⟨key, mark, dropTabs, expands⟩] }
      return .here stream key
    | found, _ => complain found none

/-- A simple command, or a function; its parts are given last one first. -/
def simple : Nat → Nat → List (String × Word) → List Word → List Redirection → Reader Statement
  | 0, _, _, _, _ => fail "script too long"
  | fuel + 1, line, assignments, words, redirections => do
    let found ← token fuel false false words.isEmpty
    match found with
    | .word pieces =>
      match splitAssignment? pieces with
      | some assignment =>
        if words.isEmpty then simple fuel line (assignment :: assignments) words redirections
        else simple fuel line assignments (pieces :: words) redirections
      | none => simple fuel line assignments (pieces :: words) redirections
    | .redirection .. | .here .. =>
      let redirection ← target fuel found
      simple fuel line assignments words (redirection :: redirections)
    | .operator "(" =>
      match words, assignments, redirections with
      | [name], [], [] => function fuel name
      | _, _, _ =>
        unread found
        return .simple line assignments.reverse words.reverse redirections.reverse
    | found =>
      unread found
      return .simple line assignments.reverse words.reverse redirections.reverse

/-- The rest of a function, after its name and the first parenthesis. -/
def function : Nat → Word → Reader Statement
  | 0, _ => fail "script too long"
  | fuel + 1, name => do
    match ← token fuel false false false with
    | .operator ")" =>
      match plainText? name with
      | some name =>
        if !isName name || specialBuiltins.contains name then fail "Bad function name"
        return .define name (← command fuel true)
      | none => fail "Bad function name"
    | found => complain found (some "\")\"")

end

end Reader

/-- What reading on in a script comes to. -/
structure Script.Step where
  /-- The statements that were read, unless there are none before the end of a line. -/
  statement : Option Statement
  /-- What is left of the script. -/
  source : Source

namespace Script

/-- A bound on the steps that reading a script takes. -/
def bound (source : Source) : Nat := 12 * source.rest.length + 64

/-- Reads statements up to the end of the line on which they are complete. -/
def next (source : Source) : Except Misreading Step := do
  let (statement, source) ← (Reader.list (bound source) .line none).run source
  return ⟨statement, source⟩

end Script

end Bindery.Shell
