import Bindery.Utility.Errand

/-!
# Arguments from a text

`xargs` reads words and runs a program with them as its arguments, as many as are allowed at a time.
-/

namespace Bindery.Utility

namespace Arguments

/-- A word of the input, and whether the line ends after it. -/
structure Item where
  text : String
  endsLine : Bool

/-- The words that are read, and what is wrong after them. -/
structure Items where
  /-- The latest one first. -/
  found : List Item := []
  fault : Option String := none

namespace Items

def add (items : Items) (word : List Char) (endsLine : Bool) : Items :=
  { items with found := ⟨String.ofList word.reverse, endsLine⟩ :: items.found }

/-- Notes that the line ends after the last word. -/
def endLine (items : Items) : Items :=
  match items.found with
  | item :: rest => { items with found := { item with endsLine := true } :: rest }
  | [] => items

/-- The message about a quote that is not closed. -/
def unmatched (quote : Char) : String :=
  let name := if quote == '\'' then "single" else "double"
  s!"unmatched {name} quote; by default quotes are special to xargs unless you use the -0 option"

end Items

/-- Reads the words of a text, with quotes and backslashes. `word` is what is read of a word so far,
if there is one, the last character first. With `lines`, whole lines are words. -/
def readWords (lines : Bool) (items : Items) (quote : Option Char) (word : Option (List Char)) :
    List Char → Items
  | [] =>
    match quote, word with
    | some q, _ => { items with fault := some (Items.unmatched q) }
    | none, some word => items.add word true
    | none, none => items
  | c :: rest =>
    let add (c : Char) : Option (List Char) := some (c :: word.getD [])
    let isBlank := c == ' ' || c == '\t'
    match quote with
    | some q =>
      if c == q then readWords lines items none (some (word.getD [])) rest
      else if c == '\n' then { items with fault := some (Items.unmatched q) }
      else readWords lines items quote (add c) rest
    | none =>
      if c == '\n' then
        match word with
        | some word => readWords lines (items.add word true) none none rest
        | none => readWords lines items none none rest
      else if isBlank && (word.isNone || !lines) then
        match word with
        | some word =>
          let closes := (rest.dropWhile fun c => c == ' ' || c == '\t').isEmpty
          readWords lines (items.add word closes) none none rest
        | none => readWords lines items none none rest
      else if c == '\'' || c == '"' then readWords lines items (some c) (some (word.getD [])) rest
      else if c == '\\' then
        match rest with
        | e :: rest => readWords lines items none (add e) rest
        | [] => readWords lines items none word []
      else readWords lines items none (add c) rest

/-- The words of a text that end with a mark. -/
def readMarked (mark : Char) (text : String) : Items :=
  { found := ((linesAt mark text).map fun word => ⟨word, true⟩).reverse }

/-- The character that the value of an option stands for. -/
def markOf? (text : String) : Option Char :=
  match text.toList with
  | [c] => some c
  | ['\\', 'n'] => some '\n'
  | ['\\', 't'] => some '\t'
  | ['\\', '0'] => some '\x00'
  | ['\\', '\\'] => some '\\'
  | ['\\', 'r'] => some '\r'
  | _ => none

/-! ## Portions -/

/-- How many words and lines a program is given at a time. -/
structure Limits where
  words : Option Nat := none
  lines : Option Nat := none
  /-- How long all its arguments are together. -/
  size : Nat := 131072

/-- The words of one run and those that are left. `size` is how long the arguments are so far. -/
def takePortion (limits : Limits) : Nat → Nat → Nat → List Item → List String × List Item
  | _, _, _, [] => ([], [])
  | size, words, lines, item :: rest =>
    let after := size + item.text.length + 1
    if limits.size < after && 0 < words then ([], item :: rest)
    else
      let lines := if item.endsLine then lines + 1 else lines
      let full := limits.words.any (· ≤ words + 1) || limits.lines.any (· ≤ lines)
      if full then ([item.text], rest)
      else
        let (more, left) := takePortion limits after (words + 1) lines rest
        (item.text :: more, left)

/-- The words of each run. -/
def portions (limits : Limits) (size : Nat) : Nat → List Item → List (List String)
  | 0, _ | _, [] => []
  | fuel + 1, items =>
    let (words, rest) := takePortion limits size 0 0 items
    words :: portions limits size fuel rest

/-- A text in which every occurrence of a mark is replaced. -/
def replaceMark (mark value text : String) : String :=
  if mark.isEmpty then text else value.intercalate (text.splitOn mark)

/-! ## Runs -/

/-- Notes how a run ended; whether no more is to be run. -/
def note (c : Call) (name : String) (a : Answer) (outcome : Outcome) : Answer × Bool :=
  let a := { a with tree := outcome.tree, written := #[] }
  let stop (text : String) (status : Nat) : Answer × Bool :=
    (a.fail s!"{c.name}: {name}: {text}" status, true)
  match outcome.ending with
  | .ok (.exited 0) => (a, false)
  | .ok (.exited 255) => stop "exited with status 255; aborting" 124
  | .ok (.exited _) => ({ a with status := 123 }, false)
  | .ok (.signalled n _) => stop s!"terminated by signal {n}" 125
  | .ok _ => (a, false)
  | .error cause => stop cause.reason (if cause = .notFound then 127 else 126)

/-- Runs a program, which reads `input` or else what the utility reads, with the words of each
portion. -/
def runAll (c : Call) (shows : Bool) (input : Option ByteArray) :
    Answer → List (List String) → Work Answer
  | a, [] => .done a
  | a, words :: rest => do
    let line := " ".intercalate (words.map shown) ++ "\n"
    let before := if shows then a.printError line else a
    let outcome ← Work.ask { before, words, input }
    let a := { a with drains := false, taken := 0 }
    let (a, stops) := note c (words.headD "") a outcome
    if stops then return a else runAll c shows input a rest

/-- The options of `xargs`. -/
def optionForm : OptionForm :=
  .of "0a:E:e::i::I:l::L:n:prs:txP:d:" ["null=0", "arg-file=a", "delimiter=d", "eof=e",
    "replace=i", "max-lines=l", "max-args=n", "interactive=p", "no-run-if-empty=r", "max-chars=s",
    "verbose=t", "show-limits", "exit=x", "max-procs=P", "process-slot-var:", "open-tty=o"] true

/-- A number that an option holds, or what is wrong with it. -/
def numberOf (letter text : String) : Except String Nat :=
  match text.toNat? with
  | none => .error s!"invalid number \"{text}\" for -{letter} option"
  | some 0 =>
    if letter == "P" then .ok 0 else .error s!"value 0 for -{letter} option should be >= 1"
  | some n => .ok n

/-- What options say about a run, the later ones over the earlier ones. -/
structure Plan where
  limits : Limits := {}
  /-- The mark in whose place a word is put. -/
  mark : Option String := none
  warnings : List String := []

/-- Takes an option into account. -/
def Plan.take (p : Plan) (name value : String) : Except String Plan := do
  let exclude (p : Plan) (old new : String) : Plan :=
    { p with warnings := p.warnings ++ [s!"warning: options --max-{old} and {new} are mutually " ++
        s!"exclusive, ignoring previous --max-{old} value"] }
  match name with
  | "n" =>
    let n ← numberOf "n" value
    let p := if p.mark.isSome && n != 1 then { p with mark := none } else p
    return { p with limits := { p.limits with words := some n, lines := none } }
  | "L" | "l" =>
    let n ← if value.isEmpty then pure 1 else numberOf name value
    return { p with limits := { p.limits with lines := some n, words := none }, mark := none }
  | "s" => return { p with limits := { p.limits with size := ← numberOf "s" value } }
  | "P" =>
    let _ ← numberOf "P" value
    return p
  | "I" | "i" =>
    let mark := if value.isEmpty then "\x7b\x7d" else value
    let title := "--replace/-I/-i"
    let p := if p.limits.words.isSome then exclude p "args" title
      else if p.limits.lines.isSome then exclude p "lines" title
      else p
    return { p with mark := some mark, limits := { p.limits with words := none, lines := some 1 } }
  | _ => return p

/-- The words that are read from an input. -/
def itemsOf (w : Words) (lines : Bool) (text : String) :
    Except String (List Item × Option String) :=
  let mark : Except String (Option Char) :=
    if w.has ["0"] then .ok (some '\x00')
    else
      match w.value? ["d"] with
      | none => .ok none
      | some text =>
        match markOf? text with
        | some c => .ok (some c)
        | none => .error (s!"Invalid input delimiter specification {text}: the delimiter " ++
            "must be either a single character or an escape sequence starting with \\.")
  do
    let mark ← mark
    let items := match mark with
      | some mark => readMarked mark text
      | none => readWords lines {} none none text.toList
    let found := items.found.reverse
    let found := match mark, w.value? ["E", "e"] with
      | none, some last => if last.isEmpty then found else found.takeWhile (·.text != last)
      | _, _ => found
    return (found, items.fault)

end Arguments

/-- Runs a program with the words of a text as its arguments. -/
def xargs (c : Call) : Work Answer :=
  c.withOptionsDo Arguments.optionForm 1 fun w =>
    let plan := w.options.foldlM (fun (p : Arguments.Plan) (name, value) => p.take name value) {}
    let file := (w.value? ["a"]).getD "-"
    match plan, c.read c.start file with
    | .error text, _ => .done (c.misuse text 1)
    | .ok _, (.error cause, a) =>
      .done (c.fail a s!"Cannot open input file {quoted file}: {cause.reason}")
    | .ok plan, (.ok text, a) =>
      let a := plan.warnings.foldl (fun a text => a.printError s!"{c.name}: {text}\n") a
      match Arguments.itemsOf w plan.mark.isSome text with
      | .error text => .done (c.fail a text)
      | .ok (items, fault) =>
        let command := if w.operands.isEmpty then ["echo"] else w.operands
        let size := (command.map fun word => word.length + 1).foldl (· + ·) 0
        let tooLong := items.any fun item => plan.limits.size < size + item.text.length + 1
        let runs : List (List String) := match plan.mark with
          | some mark =>
            items.map fun item =>
              command.take 1 ++ (command.drop 1).map (Arguments.replaceMark mark item.text)
          | none =>
            if items.isEmpty then (if w.has ["r"] || fault.isSome then [] else [command])
            else (Arguments.portions plan.limits size items.length items).map (command ++ ·)
        if tooLong then .done (c.fail a "argument line too long")
        else do
          let input := if file = "-" then some ByteArray.empty else none
          let a ← Arguments.runAll c (w.has ["t"]) input a runs
          match fault with
          | some text => return c.fail a text
          | none => return a

end Bindery.Utility
