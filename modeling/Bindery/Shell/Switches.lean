import Bindery.Shell.State

/-!
# Options

The letters and names by which the options of the shell are set and cleared, on its command line
and by `set`; and the search of a script for options of its own.

A script looks for its options one by one: `OptionSearch.step` finds the next one among some words,
given the letters that are known. Where it goes on is kept in the state.
-/

namespace Bindery.Shell

/-- What the words before the operands of a shell say. -/
structure Switches where
  /-- The letters of the options that are set. -/
  letters : List Char := []
  /-- The first operand is a script, not the name of a file that holds one. -/
  takesCommand : Bool := false
  /-- The operands. -/
  operands : List String := []
  /-- The operands are given, even if there are none. -/
  ended : Bool := false
  /-- The options are to be listed, as they are or as commands. -/
  listing : Option Bool := none

namespace Switches

def knownLetters : List Char :=
  ['e', 'f', 'I', 'i', 'm', 'n', 's', 'x', 'v', 'V', 'E', 'C', 'a', 'b', 'u', 'p']

/-- The letters of the options that have names. -/
def named : List (String × Char) :=
  [("errexit", 'e'), ("noglob", 'f'), ("ignoreeof", 'I'), ("interactive", 'i'), ("monitor", 'm'),
    ("noexec", 'n'), ("stdin", 's'), ("xtrace", 'x'), ("verbose", 'v'), ("vi", 'V'), ("emacs", 'E'),
    ("noclobber", 'C'), ("allexport", 'a'), ("notify", 'b'), ("nounset", 'u'),
    ("privileged", 'p'), ("nolog", 'L'), ("debug", 'D')]

/-- Sets or clears an option. -/
def change (w : Switches) (letter : Char) (on : Bool) : Switches :=
  let others := w.letters.filter (· != letter)
  { w with letters := if on then others ++ [letter] else others }

/-- Reads letters that are run together; the result tells how many names of options follow. At the
start of a shell, `c` says that a script follows. -/
def readLetters (atStart on : Bool) (w : Switches) : List Char → Except String (Switches × Nat)
  | [] => .ok (w, 0)
  | c :: cs =>
    if c == 'c' && atStart then readLetters atStart on { w with takesCommand := true } cs
    else if c == 'l' && atStart then readLetters atStart on w cs
    else if c == 'o' then (readLetters atStart on w cs).map fun (w, n) => (w, n + 1)
    else if knownLetters.contains c then readLetters atStart on (w.change c on) cs
    else .error s!"Illegal option -{c}"

/-- Reads the words of a command line; `names` is the number of names of options that come next. -/
def read (atStart : Bool) (w : Switches) (names : Nat) (on : Bool) :
    List String → Except String Switches
  | [] => .ok (if 0 < names then { w with listing := some on } else w)
  | word :: rest =>
    match names with
    | names + 1 =>
      match named.lookup word with
      | some letter => read atStart (w.change letter on) names on rest
      | none => .error s!"Illegal option -o {word}"
    | 0 =>
      match word.toList with
      | ['-'] =>
        let w := if atStart then w else (w.change 'x' false).change 'v' false
        .ok { w with operands := rest }
      | ['-', '-'] => .ok { w with operands := rest, ended := true }
      | '-' :: cs => do
        let (w, names) ← readLetters atStart true w cs
        read atStart w names true rest
      | '+' :: cs => do
        let (w, names) ← readLetters atStart false w cs
        read atStart w names false rest
      | _ => .ok { w with operands := word :: rest }

/-- What options are set, for a reader or as commands that set them so. -/
def list (letters : List Char) (forReaders : Bool) : String :=
  let line (name : String) (letter : Char) : String :=
    let on := letters.contains letter
    if forReaders then
      let gap := String.ofList (List.replicate (16 - name.length) ' ')
      name ++ gap ++ (if on then "on" else "off") ++ "\n"
    else "set " ++ (if on then "-o " else "+o ") ++ name ++ "\n"
  (if forReaders then "Current option settings\n" else "") ++
    String.join (named.map fun (name, letter) => line name letter)

end Switches

/-! ## The search for options -/

namespace OptionSearch

/-- Whether a letter is known, and whether a value follows it. -/
def known? : List Char → Char → Option Bool
  | [], _ => none
  | d :: ':' :: rest, c => if c == d then some true else known? rest c
  | d :: rest, c => if c == d then some false else known? rest c

/-- What a step of the search finds. -/
structure Found where
  /-- The letter of the option, a question mark, or a colon. -/
  letter : Char := '?'
  /-- The value of the option; absent to take it away. -/
  value : Option (Option String) := none
  /-- What is wrong. -/
  message : String := ""
  /-- The word in which to go on, counted from one, and where in the word before it. -/
  index : Nat
  offset : Option Nat := none
  /-- There are no more options. -/
  ended : Bool := false

/-- Looks at an option; `rest` follows it in its word, of which it is the character before
`offset`. -/
def option (letters : String) (words : List String) (c : Char) (rest : List Char)
    (index offset : Nat) : Found :=
  let silent := letters.startsWith ":"
  let going : Option Nat := if rest.isEmpty then none else some offset
  match known? letters.toList c with
  | none =>
    if silent then { value := some (some (String.singleton c)), index, offset := some offset }
    else
      { value := some none, message := s!"Illegal option -{c}\n", index, offset := some offset }
  | some false => { letter := c, value := some (some ""), index, offset := going }
  | some true =>
    if !rest.isEmpty then { letter := c, value := some (some (String.ofList rest)), index }
    else
      match words[index - 1]? with
      | some word => { letter := c, value := some (some word), index := index + 1 }
      | none =>
        if silent then { letter := ':', value := some (some (String.singleton c)), index }
        else { value := some none, message := s!"No arg for -{c} option\n", index }

/-- Finds the next option from a place on. -/
def step (letters : String) (words : List String) (index : Nat) (offset : Option Nat) : Found :=
  let inside := match offset with
    | some n => if 1 < index then ((words[index - 2]?).getD "").toList.drop n else []
    | none => []
  match inside with
  | c :: rest => option letters words c rest index ((offset.getD 0) + 1)
  | [] =>
    match (words[index - 1]?).map String.toList with
    | some ['-', '-'] => { index := index + 1, ended := true }
    | some ('-' :: c :: rest) => option letters words c rest (index + 1) 2
    | _ => { index, ended := true }

/-- Finds the next option and tells the script of it. -/
def run (s : State) (letters name : String) (words : List String) : Except String State := do
  let tooFar := words.length + 1 < s.optionIndex
  let index := if tooFar then 1 else s.optionIndex
  let found := step letters words index (if tooFar then none else s.optionOffset)
  let s := if found.message.isEmpty then s else s.print 2 found.message
  let put (s : State) (name value : String) : Except String State :=
    match s.assign? name value false with
    | some s => .ok s
    | none => .error s!"{name}: is read only"
  let s ← match found.value with
    | some (some value) => put s "OPTARG" value
    | some none => pure { s with scope := s.scope.filter (·.1 != "OPTARG") }
    | none => pure s
  let s ← put s "OPTIND" (toString found.index)
  let s := { s with optionIndex := found.index, optionOffset := found.offset }
  if !isName name then throw s!"{name}: bad variable name"
  let s ← put s name (String.singleton found.letter)
  return s.withStatus (if found.ended then 1 else 0)

end OptionSearch

end Bindery.Shell
