import Bindery.Text.Units
import Bindery.Utility.Basic

/-!
# Programs in other surroundings

Utilities that run a program with other names and values, in another directory, or with a limit, and
end as it does; and utilities that tell what programs are handed on and where they are.
-/

namespace Bindery.Utility

/-- The status for an error of the utility itself. -/
def launchFailure : Nat := 125

/-- The status for a program that cannot be run. -/
def launchStatus (cause : SystemError) : Nat := if cause = .notFound then 127 else 126

/-- How a utility ends that gave way to a program. -/
def Outcome.answer (o : Outcome) (fail : SystemError → Answer) : Answer :=
  match o.ending with
  | .ok (.exited n) => { tree := o.tree, status := n }
  | .ok (.signalled n _) => { tree := o.tree, status := 128 + n, killed := some n }
  | .ok _ => { tree := o.tree }
  | .error cause => { fail cause with tree := o.tree, status := launchStatus cause }

/-- Runs a program and ends as it does; a message tells if it cannot be run. -/
def Call.giveWay (c : Call) (request : Request) (complaint : String → String) : Work Answer := do
  let outcome ← Work.ask request
  return outcome.answer fun cause =>
    let word := quoted (request.words.headD "")
    c.start.fail s!"{c.name}: {complaint word}: {cause.reason}" 0

/-! ## Names and values -/

/-- Gives a name a value: in its place, or as the last one. -/
def setName (environment : List (String × String)) (name value : String) :
    List (String × String) :=
  if environment.any (·.1 == name) then
    environment.map fun entry => if entry.1 == name then (name, value) else entry
  else environment ++ [(name, value)]

/-- The name and the value that a word with an equals sign holds. -/
def assignment? (word : String) : Option (String × String) :=
  let cs := word.toList
  let name := cs.takeWhile (· != '=')
  match cs.drop name.length with
  | _ :: value => some (String.ofList name, String.ofList value)
  | [] => none

/-- Names and values as lines. -/
def environmentText (ending : String) (environment : List (String × String)) : String :=
  String.join (environment.map fun (name, value) => name ++ "=" ++ value ++ ending)

namespace Splitting

/-- The character of a letter after a backslash, outside single quotes. -/
def escape? : Char → Option Char
  | 'f' => some '\x0c'
  | 'n' => some '\n'
  | 'r' => some '\r'
  | 't' => some '\t'
  | 'v' => some '\x0b'
  | '#' => some '#'
  | '$' => some '$'
  | '\\' => some '\\'
  | '"' => some '"'
  | '\'' => some '\''
  | _ => none

/-- The words of a text: `word` is what the word at hand holds so far, if there is one, and `quote`
the mark that is open. -/
def words (environment : List (String × String)) :
    Nat → Option Char → Option (List Char) → List Char → Except String (List String)
  | 0, _, _, _ => .ok []
  | fuel + 1, quote, word, cs =>
    let finish : List String := (word.map fun w => String.ofList w.reverse).toList
    let add (c : Char) (rest : List Char) : Except String (List String) :=
      words environment fuel quote (some (c :: word.getD [])) rest
    match quote, cs with
    | none, [] => .ok finish
    | some _, [] => .error "no terminating quote in -S string"
    | some '\'', '\'' :: rest => words environment fuel none (some (word.getD [])) rest
    | some '\'', '\\' :: '\\' :: rest => add '\\' rest
    | some '\'', '\\' :: '\'' :: rest => add '\'' rest
    | some '\'', c :: rest => add c rest
    | some '"', '"' :: rest => words environment fuel none (some (word.getD [])) rest
    | none, '"' :: rest => words environment fuel (some '"') (some (word.getD [])) rest
    | none, '\'' :: rest => words environment fuel (some '\'') (some (word.getD [])) rest
    | quote, '\\' :: '_' :: rest =>
      if quote.isSome then add ' ' rest
      else do return finish ++ (← words environment fuel none none rest)
    | none, '\\' :: 'c' :: _ => .ok finish
    | some _, '\\' :: 'c' :: _ =>
      .error "'\\c' must not appear in double-quoted -S string"
    | _, '\\' :: c :: rest =>
      match escape? c with
      | some e => add e rest
      | none => .error ("invalid sequence '\\" ++ String.singleton c ++ "' in -S")
    | _, ['\\'] => .error "invalid backslash at end of string in -S"
    | _, '$' :: '\x7b' :: rest =>
      let name := rest.takeWhile (· != '\x7d')
      let value := (environment.lookup (String.ofList name)).getD ""
      let word := if value.isEmpty then word else some (value.toList.reverse ++ word.getD [])
      words environment fuel quote word (rest.drop (name.length + 1))
    | _, '$' :: _ => .error "only $\x7bVARNAME\x7d expansion is supported, error at: $"
    | none, c :: rest =>
      if c == ' ' || ('\t' ≤ c && c ≤ '\r') then
        do return finish ++ (← words environment fuel none none rest)
      else if c == '#' && word.isNone then .ok finish
      else add c rest
    | some _, c :: rest => add c rest

/-- The words of a text that holds a whole command line. -/
def read (environment : List (String × String)) (text : String) : Except String (List String) :=
  words environment (text.length + 1) none none text.toList

end Splitting

/-- The options that `env` knows. -/
def envForm : OptionForm :=
  .of "+C:iS:u:v0" ["ignore-environment=i", "null=0", "unset=u", "chdir=C", "split-string=S",
    "debug=v", "ignore-signal::", "default-signal::", "block-signal::"] true

/-- Puts the words of a text in the place of the option that holds it. -/
def splitOption (c : Call) : Except String (List String) :=
  match c.args with
  | "-S" :: text :: rest => return (← Splitting.read c.environment text) ++ rest
  | "-vS" :: text :: rest => return "-v" :: (← Splitting.read c.environment text) ++ rest
  | first :: rest =>
    match first.toList with
    | '-' :: 'S' :: text =>
      return (← Splitting.read c.environment (String.ofList text)) ++ rest
    | '-' :: 'v' :: 'S' :: text =>
      return "-v" :: (← Splitting.read c.environment (String.ofList text)) ++ rest
    | _ => .ok c.args
  | [] => .ok []

/-- Runs a program that is handed on other names and values, or lists them. -/
def env (c : Call) : Work Answer :=
  match splitOption c with
  | .error text => .done (c.start.fail s!"{c.name}: {text}" launchFailure)
  | .ok args =>
    let c : Call := { c with args }
    c.withOptionsDo envForm launchFailure fun w =>
      let clears := w.has ["i"] || w.operands.head? = some "-"
      let operands := if w.operands.head? = some "-" then w.operands.drop 1 else w.operands
      let dropped := (w.options.filter (·.1 == "u")).map (·.2)
      let isOdd (name : String) : Bool := name.isEmpty || name.toList.contains '='
      let fail (text : String) : Work Answer :=
        .done (c.start.fail s!"{c.name}: {text}" launchFailure)
      match if clears then none else dropped.find? isOdd with
      | some name => fail s!"cannot unset {quoted name}: Invalid argument"
      | none =>
        let start := if clears then []
          else c.environment.filter fun entry => !dropped.contains entry.1
        let settings := operands.takeWhile fun word => (assignment? word).isSome
        let environment := (settings.filterMap assignment?).foldl
          (fun environment (name, value) => setName environment name value) start
        let words := operands.drop settings.length
        let directory := w.value? ["C"]
        if w.has ["0"] && !words.isEmpty then
          .done (c.misuse "cannot specify --null (-0) with command" launchFailure)
        else if words.isEmpty && directory.isSome then
          .done (c.misuse "must specify command with --chdir (-C)" launchFailure)
        else if words.isEmpty then
          let ending := if w.has ["0"] then "\x00" else "\n"
          .done (c.start.print (environmentText ending environment))
        else
          match directory.mapM fun path => (directoryAt c.tree path).mapError (path, ·) with
          | .error (path, cause) =>
            fail s!"cannot change directory to {quoted path}: {cause.reason}"
          | .ok directory => run c w environment directory words
where
  directoryAt (tree : FileTree) (path : String) : Except SystemError Location := do
    match ← tree.seek (pathOf path) with
    | .directory => tree.seekLocation (pathOf path)
    | _ => throw .notDirectory
  run (c : Call) (w : Words) (environment : List (String × String)) (directory : Option Location)
      (words : List String) : Work Answer := do
    let lines := words.zipIdx.map fun (word, i) => s!"   arg[{i}]= {quoted word}\n"
    let word := words.headD ""
    let start := c.start
    let before := if w.has ["v"] then
        start.printError (s!"executing: {word}\n" ++ String.join lines)
      else start
    let outcome ← Work.ask { before, words, environment, directory }
    return outcome.answer fun cause =>
      let a := c.start.fail s!"{c.name}: {quoted word}: {cause.reason}" 0
      let isTorn := cause = .notFound && word.toList.any fun ch => ch == ' ' || ch == '\t'
      if isTorn then a.printError s!"{c.name}: use -[v]S to pass options in shebang lines\n"
      else a

/-- Prints values, or names with values. -/
def printenv (c : Call) : Answer :=
  c.withOptions (.of "0" ["null=0"] true) 2 fun w =>
    let ending := if w.has ["0"] then "\x00" else "\n"
    if w.operands.isEmpty then c.start.print (environmentText ending c.environment)
    else
      w.operands.foldl (fun a name =>
        match c.environment.lookup name with
        | some value => a.print (value ++ ending)
        | none => { a with status := 1 }) c.start

/-! ## Limits -/

/-- Runs a program that does not end when its terminal goes. -/
def nohup (c : Call) : Work Answer :=
  c.withOptionsDo (.of "" [] true) launchFailure fun w =>
    match w.operands with
    | [] => .done (c.misuse "missing operand" launchFailure)
    | words => c.giveWay { before := c.start, words } ("failed to run command " ++ ·)

/-- An option that is a number and a dash is an adjustment. -/
def niceArguments : List String → List String
  | word :: rest =>
    match word.toList with
    | '-' :: d :: cs =>
      let digits := if d == '-' || d == '+' then cs else d :: cs
      if !digits.isEmpty && digits.all Char.isDigit then
        "-n" :: String.ofList (d :: cs) :: niceArguments rest
      else if word = "-n" then word :: rest.take 1 ++ niceArguments (rest.drop 1)
      else word :: rest
    | _ => word :: rest
  | [] => []
termination_by words => words.length

/-- Runs a program with less of a claim to the processor. -/
def nice (c : Call) : Work Answer :=
  let c : Call := { c with args := niceArguments c.args }
  c.withOptionsDo (.of "n:" ["adjustment=n"] true) launchFailure fun w =>
    let adjustment := w.value? ["n"]
    let isNumber (text : String) : Bool :=
      let cs := text.toList
      let digits := if cs.head? == some '-' || cs.head? == some '+' then cs.drop 1 else cs
      !digits.isEmpty && digits.all Char.isDigit
    match adjustment.filter (!isNumber ·), w.operands with
    | some text, _ =>
      .done (c.start.fail s!"{c.name}: invalid adjustment {quoted text}" launchFailure)
    | none, [] =>
      if adjustment.isSome then
        .done (c.misuse "a command must be given with an adjustment" launchFailure)
      else .done (c.start.print "0\n")
    | none, words => c.giveWay { before := c.start, words } id

/-- Runs a program with its output cut into other portions. -/
def stdbuf (c : Call) : Work Answer :=
  c.withOptionsDo (.of "i:o:e:" ["input=i", "output=o", "error=e"] true) launchFailure fun w =>
    match w.operands with
    | [] => .done (c.misuse "missing operand" launchFailure)
    | words =>
      if w.options.isEmpty then
        .done (c.misuse "you must specify a buffering mode option" launchFailure)
      else c.giveWay { before := c.start, words } ("failed to run command " ++ ·)

/-- Runs a program in a session of its own. -/
def setsid (c : Call) : Work Answer :=
  c.withOptionsDo (.of "cfw" ["ctty=c", "fork=f", "wait=w"] true) 1 fun w =>
    match w.operands with
    | [] => .done (c.misuse "no command specified" 1)
    | word :: args => do
      let outcome ← Work.ask { before := c.start, words := word :: args }
      return outcome.answer fun cause =>
        c.start.fail s!"{c.name}: failed to execute {word}: {cause.reason}" 0

/-- Runs a program that is not to take longer than so long. -/
def timeout (c : Call) : Work Answer :=
  let form : OptionForm := .of "fk:s:v"
    ["foreground=f", "kill-after=k", "preserve-status=p", "signal=s", "verbose=v"] true
  c.withOptionsDo form launchFailure fun w =>
    match w.operands with
    | [] | [_] =>
      .done (c.start.fail s!"Try '{c.name} --help' for more information." launchFailure)
    | duration :: words =>
      match Text.Duration.milliseconds? duration with
      | none => .done (c.misuse s!"invalid time interval {quoted duration}" launchFailure)
      | some limit => do
        let outcome ← Work.ask { before := c.start, words }
        let a := outcome.answer fun cause =>
          let word := quoted (words.headD "")
          c.start.fail s!"{c.name}: failed to run command {word}: {cause.reason}" 0
        let signal := (w.value? ["s"]).getD "TERM"
        if limit = 0 || outcome.elapsed < limit then return a
        else if signal == "KILL" || signal == "9" then
          return { a with status := 137, killed := some 9 }
        else return { a with status := if w.has ["p"] then 143 else 124 }

/-! ## Paths -/

/-- Prints the paths of programs. -/
def which (c : Call) : Answer :=
  let letters (word : String) : List Char := word.toList.drop 1
  let isOption (word : String) : Bool :=
    word.toList.head? == some '-' && word.length > 1 && word != "--"
  let options := (c.args.takeWhile isOption).flatMap letters
  let words := (c.args.dropWhile isOption).dropWhile (· == "--")
  match options.find? fun o => o != 'a' && o != 's' with
  | some o =>
    let a := { c.start with status := 2 }
    (a.printError s!"Illegal option -{o}\n").print "Usage: /usr/bin/which [-as] args\n"
  | none =>
    if words.isEmpty then { c.start with status := 1 }
    else
      let dirs := ((c.environment.lookup "PATH").getD "").splitOn ":"
      let isProgram (path : String) : Bool :=
        match c.tree.seek (pathOf path), c.tree.seekLocation (pathOf path) with
        | .ok .directory, _ | .error _, _ | _, .error _ => false
        | .ok _, .ok place => c.tree.mayRun place
      words.foldl (fun a word =>
        let candidates := if word.toList.contains '/' then [word]
          else dirs.map fun dir => (if dir.isEmpty then "." else dir) ++ "/" ++ word
        let found := candidates.filter isProgram
        let found := if options.contains 'a' then found else found.take 1
        let a := if found.isEmpty then { a with status := 1 } else a
        if options.contains 's' then a else a.print (String.join (found.map (· ++ "\n"))))
        c.start

/-! ## Repeating -/

/-- Writes a line again and again, until nobody reads it any more. -/
def yes (c : Call) : Answer :=
  let line := (if c.args.isEmpty then "y" else " ".intercalate c.args) ++ "\n"
  let block := String.join (List.replicate (65536 / line.length + 1) line)
  let a := (List.range 40).foldl (fun a _ => a.print block) c.start
  { a with killed := some 13 }

end Bindery.Utility
