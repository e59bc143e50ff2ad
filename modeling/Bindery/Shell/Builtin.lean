import Bindery.File.Mode
import Bindery.Shell.Condition
import Bindery.Shell.Escape
import Bindery.Shell.Field
import Bindery.Shell.Switches
import Bindery.Shell.Signal

/-!
# Builtin commands

The commands that the shell does itself without running statements, as functions on its state. A
command that is misused fails with a message; the special ones among them then end the script.
-/

namespace Bindery.Shell.Builtin

/-- What a builtin command does with its arguments. -/
abbrev Action := State → List String → Except String State

def ok (s : State) : Except String State := .ok (s.withStatus 0)

/-- A number that is not negative. -/
def count (word : String) : Except String Nat := do
  let n ← Condition.integer word
  if 0 ≤ n && n ≤ 2147483647 then return n.toNat else throw s!"Illegal number: {word}"

/-- Reads options that are run together; the last one may lack its value. -/
def readLetters (known : List (Char × Bool)) :
    List Char → Except String (List (Char × String) × Option Char)
  | [] => .ok ([], none)
  | c :: cs =>
    match known.lookup c with
    | none => .error s!"Illegal option -{c}"
    | some false => do
      let (found, open_) ← readLetters known cs
      return ((c, "") :: found, open_)
    | some true =>
      .ok (if cs.isEmpty then ([], some c) else ([(c, String.ofList cs)], none))

/-- The options at the front of arguments, each with its value, and the operands after them. The
flag of a letter that is known says that a value follows. -/
def options (known : List (Char × Bool)) :
    List String → Except String (List (Char × String) × List String)
  | [] => .ok ([], [])
  | word :: rest =>
    match word.toList with
    | ['-', '-'] => .ok ([], rest)
    | '-' :: c :: cs => do
      match ← readLetters known (c :: cs), rest with
      | (found, none), rest =>
        let (later, operands) ← options known rest
        return (found ++ later, operands)
      | (_, some letter), [] => throw s!"No arg for -{letter} option"
      | (found, some letter), value :: rest =>
        let (later, operands) ← options known rest
        return (found ++ (letter, value) :: later, operands)
    | _ => .ok ([], word :: rest)

/-- The arguments of a command that has no options. -/
def operands (args : List String) : Except String (List String) :=
  (options [] args).map (·.2)

/-- Writes to the standard output, and fails if that is not possible. -/
def output (s : State) (name text : String) (status : Nat) : State :=
  match s.streams.write 1 text with
  | .ok streams => { s with streams, status }
  | .error (.os 32) => s.breakPipe
  | .error _ =>
    if text.isEmpty then s.withStatus status
    else (s.complain name s!"{name}: I/O error").withStatus (status ||| 1)

/-! ## Flow -/

/-- Leaves loops, or goes on with their next turn. -/
def leave (goesOn : Bool) : Action := fun s args => do
  let n ← match args with
    | [] => pure 1
    | word :: _ => do
      let n ← count word
      if n = 0 then throw s!"Illegal number: {word}" else pure n
  let n := min n s.loops
  if n = 0 then ok s
  else return { s with status := 0, flow := if goesOn then .continuing n else .breaking n }

def exit : Action := fun s args => do
  match args with
  | [] => return s.finish s.status
  | word :: _ => return s.finish (← count word)

def return_ : Action := fun s args => do
  match args with
  | [] => return { s with flow := .returning }
  | word :: _ => return { s with status := ← count word, flow := .returning }

def shift : Action := fun s args => do
  let n ← match args with
    | [] => pure 1
    | word :: _ => count word
  if s.parameters.length < n then throw "can't shift that many"
  else ok (s.withParameters (s.parameters.drop n))

def set : Action := fun s args => do
  if args.isEmpty then return output s "set" (listVariables s "" (·.value.isSome)) 0
  else
    let w ← Switches.read false { letters := s.options } 0 true args
    let s := { s with options := w.letters }
    match w.listing with
    | some forReaders => return output s "set" (Switches.list s.options forReaders) 0
    | none =>
      if w.operands.isEmpty && !w.ended then ok s else ok (s.withParameters w.operands)

/-! ## Variables -/

/-- The name and the value of an assignment, as far as a word is one. -/
def splitEquals (word : String) : String × Option String :=
  let cs := word.toList
  match cs.dropWhile (· != '=') with
  | _ :: value => (String.ofList (cs.takeWhile (· != '=')), some (String.ofList value))
  | [] => (word, none)

/-- Marks variables, and sets those that are given a value. Without variables, those that are
marked are listed. -/
def mark (label : String) (isMarked : Variable → Bool) (change : Variable → Variable) : Action :=
  fun s args => do
    let (found, words) ← options [('p', false)] args
    if words.isEmpty || !found.isEmpty then
      return output s label (listVariables s (label ++ " ") isMarked) 0
    else
      let s ← words.foldlM (fun (s : State) word => do
        let (name, value) := splitEquals word
        if !isName name then throw s!"{name}: bad variable name"
        let old := (s.scope.lookup name).getD ⟨none, false, false⟩
        match value with
        | none => return s.putVariable name (change old)
        | some value =>
          if old.readOnly then throw s!"{name}: is read only"
          else return s.putVariable name (change { old with value })) s
      ok s

def export_ : Action := mark "export" (·.exported) fun v => { v with exported := true }

def readonly : Action := mark "readonly" (·.readOnly) fun v => { v with readOnly := true }

def local_ : Action := fun s args => do
  match s.hidden with
  | [] => throw "not in a function"
  | frame :: frames =>
    let keepsOptions := args.contains "-" && !frame.any (·.1 == "-")
    let args := args.filter (· != "-")
    let names := args.map fun word => (splitEquals word).1
    match names.find? (!isName ·) with
    | some name => throw s!"{name}: bad variable name"
    | none =>
      let frame :=
        if keepsOptions then frame ++ [("-", some ⟨String.ofList s.options, false, false⟩)]
        else frame
      let known := frame.map (·.1)
      let fresh := s.snapshot (names.filter (!known.contains ·))
      let s := { s with hidden := (frame ++ fresh) :: frames }
      let s ← args.foldlM (fun (s : State) word => do
        match splitEquals word with
        | (name, some value) =>
          match s.assign? name value false with
          | some s => return s
          | none => throw s!"{name}: is read only"
        | (_, none) => return s) s
      ok s

def unset : Action := fun s args => do
  let (found, names) ← options [('v', false), ('f', false)] args
  let functions := found.getLast?.any (·.1 == 'f')
  let s ← names.foldlM (fun (s : State) name => do
    if functions then return { s with functions := s.functions.filter (·.1 != name) }
    else if !isName name then throw s!"{name}: bad variable name"
    else
      match s.scope.lookup name with
      | some v =>
        if v.readOnly then throw s!"{name}: is read only"
        else return { s with scope := s.scope.filter (·.1 != name) }
      | none => return s) s
  ok s

/-- Splits a line into fields for so many names; the last name takes all that is left, without the
blanks around it. -/
def distribute (separators : List Char) : Nat → List Item → List String
  | 0, _ => []
  | n + 1, items =>
    let isSeparator (item : Item) : Bool :=
      match item with
      | .char c _ splits => splits && separators.contains c
      | _ => false
    let isBlank (item : Item) : Bool :=
      match item with
      | .char c _ _ => isSeparator item && isBlankSeparator c
      | _ => false
    let items := items.dropWhile isBlank
    if n = 0 then
      let trimmed := (items.reverse.dropWhile isBlank).reverse
      let fields := fieldsOf separators trimmed
      if fields.length ≤ 1 then [(fields.map plainText).headD ""] else [textOf trimmed]
    else
      let field := items.takeWhile (!isSeparator ·)
      let rest := (items.dropWhile (!isSeparator ·)).dropWhile isBlank
      let closes := (items.dropWhile (!isSeparator ·)).head?.any (!isBlank ·)
      let rest := if closes || rest.head?.any isSeparator then rest.drop 1 else rest
      textOf field :: distribute separators n rest

/-- The line of bytes that starts at an index: its characters, the index after it, and whether a
line end closes it. Unless it is raw, a backslash quotes the next character or joins the next
line. -/
def takeLine (raw : Bool) (bytes : ByteArray) : Nat → Nat → List Item × Nat × Bool
  | 0, i => ([], i, false)
  | fuel + 1, i =>
    match bytes[i]? with
    | none => ([], i, false)
    | some 10 => ([], i + 1, true)
    | some b =>
      if b == 92 && !raw then
        match bytes[i + 1]? with
        | none => ([], i + 1, false)
        | some d =>
          let (items, after, closed) := takeLine raw bytes fuel (i + 2)
          (if d == 10 then items else .char (Char.ofNat d.toNat) true false :: items, after, closed)
      else
        let (items, after, closed) := takeLine raw bytes fuel (i + 1)
        (if b == 0 then items else .char (Char.ofNat b.toNat) false true :: items, after, closed)

def read : Action := fun s args => do
  let (found, names) ← options [('p', true), ('r', false)] args
  let raw := found.any (·.1 == 'r')
  if names.isEmpty then throw "arg count"
  match names.find? (!isName ·) with
  | some name => throw s!"{name}: bad variable name"
  | none =>
    let bytes := (s.streams.unread 0).toOption.getD .empty
    let (items, length, closed) := takeLine raw bytes (bytes.size + 1) 0
    let s := { s with streams := s.streams.skip 0 length }
    let values := distribute s.separators names.length items
    let s ← (names.zip values).foldlM (fun (s : State) (name, value) =>
      match s.assign? name value false with
      | some s => .ok s
      | none => .error s!"{name}: is read only") s
    return s.withStatus (if closed then 0 else 1)

/-! ## Directories -/

/-- A path from the root without dots, given where it starts; two dots take a name away. -/
def plainPath (here path : String) : String :=
  let steps (text : String) := (text.splitOn "/").filter fun part => part != "" && part != "."
  let start := if path.startsWith "/" then [] else steps here
  let names := (steps path).foldl (fun (names : List String) part =>
    if part == ".." then names.dropLast else names ++ [part]) start
  "/" ++ "/".intercalate names

/-- Goes to a directory; `physical` takes the path as the files are, not as it is written. -/
def enter (s : State) (physical : Bool) (target : String) : Option State :=
  let path := if physical then target else plainPath s.here target
  let plain := Text.Octets.decode path
  match s.tree.isDirectory plain, s.tree.seekLocation plain with
  | true, .ok place =>
    let old := s.here
    let here :=
      if physical then Text.Octets.encode ("/" ++ "/".intercalate place) else path
    some { s.withTree { s.tree with cwd := place } with here }
      |>.map fun s =>
        (s.putVariable "OLDPWD" ⟨some old, true, false⟩).putVariable "PWD" ⟨some here, true, false⟩
  | _, _ => none

def cd : Action := fun s args => do
  let (found, words) ← options [('L', false), ('P', false)] args
  let physical := found.getLast?.any (·.1 == 'P')
  let word := words.head?
  let back := word = some "-"
  let target := if back then s.value? "OLDPWD" else word.orElse fun _ => s.value? "HOME"
  let target := target.getD ""
  let isDirect := match target.toList with
    | '/' :: _ | ['.'] | '.' :: '/' :: _ | ['.', '.'] | '.' :: '.' :: '/' :: _ => true
    | _ => false
  let start := if target.isEmpty then "." else target
  let places := if isDirect then [("", start)] else
    ((s.value? "CDPATH").getD "").splitOn ":" |>.map fun dir =>
      if dir.isEmpty then ("", start)
      else (dir, if dir.endsWith "/" then dir ++ start else dir ++ "/" ++ start)
  let isThere (place : String × String) : Bool :=
    s.tree.isDirectory (Text.Octets.decode place.2)
  let (dir, path) := if isDirect then ("", start) else (places.find? isThere).getD ("", start)
  let readOnly (name : String) : Bool := (s.scope.lookup name).any (·.readOnly)
  match enter s physical path with
  | none => throw s!"can't cd to {target}"
  | some after =>
    if readOnly "OLDPWD" then throw "OLDPWD: is read only"
    if readOnly "PWD" then throw "PWD: is read only"
    if back || !dir.isEmpty then return output after "cd" (after.here ++ "\n") 0
    else ok after

def pwd : Action := fun s args => do
  let (found, _) ← options [('L', false), ('P', false)] args
  let physical := found.getLast?.any (·.1 == 'P')
  let path := if physical then Text.Octets.encode ("/" ++ "/".intercalate s.tree.cwd) else s.here
  return output s "pwd" (path ++ "\n") 0

def umask : Action := fun s args => do
  let (found, words) ← options [('S', false)] args
  match words with
  | [] =>
    let text := if found.isEmpty then octalDigits 4 s.mask else
      ",".intercalate ((["u=", "g=", "o="].zip (letterModes (0o777 - s.mask))).map fun (a, b) =>
        a ++ b)
    return output s "umask" (text ++ "\n") 0
  | word :: _ =>
    if word.toList.head?.any Char.isDigit then
      match octal? word with
      | some n => ok { s with mask := n &&& 0o777 }
      | none => throw s!"Illegal number: {word}"
    else
      match ModeChange.parse? word with
      | some changes =>
        let mode := changes.foldl (ModeChange.apply false 0) (0o777 - s.mask)
        ok { s with mask := 0o777 - (mode &&& 0o777) }
      | none => throw s!"Illegal mode: {word}"

/-! ## Aliases -/

def alias_ : Action := fun s args =>
  if args.isEmpty then .ok (output s "alias" (listAliases s) 0)
  else
    let done := args.foldl (fun (s : State) word =>
      match splitEquals word with
      | (name, some value) =>
        { s with aliases := (name, value) :: s.aliases.filter (·.1 != name) }
      | (name, none) =>
        match s.aliases.lookup name with
        | some value => (output s "alias" (aliasLine name value) 0).withStatus s.status
        | none => (s.print 2 s!"alias: {name} not found\n").withStatus 1) (s.withStatus 0)
    .ok done

def unalias : Action := fun s args => do
  let (found, names) ← options [('a', false)] args
  if !found.isEmpty then ok { s with aliases := [] }
  else
    return names.foldl (fun (s : State) name =>
      if (s.aliases.lookup name).isSome then
        { s with aliases := s.aliases.filter (·.1 != name) }
      else (s.print 2 s!"unalias: {name} not found\n").withStatus 1) (s.withStatus 0)

/-! ## Signals -/

def killUsage : String :=
  "Usage: kill [-s sigspec | -signum | -sigspec] [pid | job]... or\nkill -l [exitstatus]"

/-- Sends a signal to processes, of which the shell itself and its parts in the background are
known. -/
def sendTo (s : State) (signal : Nat) (targets : List String) : Except String State :=
  if targets.isEmpty then .error killUsage
  else
    targets.foldlM (fun (s : State) target => do
      let job := if target.startsWith "%" then s.jobs.getLast? else none
      let n ← match job with
        | some job => pure job.process
        | none =>
          if target.startsWith "%" then throw s!"No such job: {target}" else count target
      if n = s.process then return Signal.toItself s signal
      else if s.jobs.any (·.process = n) then return Signal.toJob s n signal
      else return (s.complain "kill" "No such process\n").withStatus 1) (s.withStatus 0)

/-- Names signals. -/
def nameSignals (s : State) (args : List String) : Except String State := do
  match args with
  | [] => return output s "kill" (String.join (("0" :: Signal.names.drop 1).map (· ++ "\n"))) 0
  | word :: _ =>
    let n ← count word
    let signal := if 128 < n then n - 128 else n
    match Signal.names[signal]? with
    | some name =>
      if signal = 0 then throw s!"invalid signal number or exit status: {word}"
      else return output s "kill" (name ++ "\n") 0
    | none => throw s!"invalid signal number or exit status: {word}"

def kill : Action := fun s args => do
  match args with
  | [] => throw killUsage
  | first :: rest =>
    match first.toList with
    | '-' :: cs =>
      match Signal.ofWord? 1 (String.ofList cs) with
      | some signal => sendTo s signal rest
      | none =>
        let (found, targets) ← options [('l', false), ('s', true)] args
        let signal ← match found.reverse.lookup 's' with
          | none => pure 15
          | some name =>
            match Signal.ofWord? 1 name with
            | some signal => pure signal
            | none => throw s!"invalid signal number or name: {name}"
        if found.any (·.1 == 'l') then nameSignals s targets else sendTo s signal targets
    | _ => sendTo s 15 args

def trap : Action := fun s args => do
  match ← operands args with
  | [] => return output s "trap" (Signal.listTraps s) 0
  | first :: rest =>
    let isNumber := !first.isEmpty && first.toList.all Char.isDigit
    if rest.isEmpty || (isNumber && (Signal.ofWord? 0 first).isSome) then
      return Signal.setTraps s none (first :: rest)
    else return Signal.setTraps s (if first = "-" then none else some first) rest

def getopts : Action := fun s args => do
  match ← operands args with
  | letters :: name :: words =>
    OptionSearch.run s letters name (if words.isEmpty then s.parameters else words)
  | _ => throw "Usage: getopts optstring var [arg...]"

/-! ## Texts -/

def printf : Action := fun s args => do
  match ← operands args with
  | [] => throw "usage: printf format [arg ...]"
  | format :: args =>
    let filling := formatText format args
    let messages := filling.warnings ++ filling.fault.toList
    let s := messages.foldl (fun s text => s.complain "printf" text) s
    let status := if filling.fault.isSome then 2 else if messages.isEmpty then 0 else 1
    return output s "printf" filling.text status

def test (words : List String) : Action := fun s _ => do
  return s.withStatus (if ← Condition.eval s.tree words then 0 else 1)

def bracket : Action := fun s args =>
  if args.getLast? = some "]" then test args.dropLast s args else .error "missing ]"

/-! ## Look-up -/

/-- The builtin commands that misused end a script, and whose assignments stay. -/
def special : List String :=
  [".", ":", "break", "continue", "eval", "exec", "exit", "export", "local", "readonly", "return",
    "set", "shift", "times", "trap", "unset"]

/-- The commands before whose arguments assignments are not split. -/
def takesAssignments : List String := ["export", "readonly", "local"]

/-- The builtin commands that run statements or other commands. -/
def runsOthers : List String := [".", "command", "eval", "exec", "hash", "jobs", "type", "wait"]

/-- Goes on with a job; there are none that wait for it. -/
def resume : Action := fun _ args =>
  match args with
  | [] => .error "No current job"
  | job :: _ => .error s!"No such job: {job}"

/-- The limits of resources, of which one is bounded. -/
def ulimit : Action := fun s args =>
  let letters := (args.filter (·.startsWith "-")).flatMap (·.toList.drop 1)
  match letters.find? (!"HSatfdsmcnlpvwr".toList.contains ·) with
  | some c =>
    let shown := String.singleton c
    .error s!"Illegal option -{shown}"
  | none =>
    if args.any fun word => !word.startsWith "-" then ok s
    else .ok (output s "ulimit" (if letters.contains 'n' then "1048576\n" else "unlimited\n") 0)

/-- The action of a builtin command. -/
def action? (name : String) : Option Action :=
  match name with
  | ":" | "true" => some fun s _ => ok s
  | "fg" | "bg" => some resume
  | "times" =>
    some fun s _ => .ok (output s "times" "0m0.000000s 0m0.000000s\n0m0.000000s 0m0.000000s\n" 0)
  | "ulimit" => some ulimit
  | "alias" => some alias_
  | "unalias" => some unalias
  | "getopts" => some getopts
  | "false" => some fun s _ => .ok (s.withStatus 1)
  | "break" => some (leave false)
  | "continue" => some (leave true)
  | "exit" => some exit
  | "return" => some return_
  | "shift" => some shift
  | "set" => some set
  | "export" => some export_
  | "readonly" => some readonly
  | "local" => some local_
  | "unset" => some unset
  | "read" => some read
  | "cd" | "chdir" => some cd
  | "pwd" => some pwd
  | "kill" => some kill
  | "trap" => some trap
  | "umask" => some umask
  | "echo" => some fun s args => .ok (output s "echo" (echoText args) 0)
  | "printf" => some printf
  | "test" => some fun s args => test args s args
  | "[" => some bracket
  | _ => none

/-- Whether a command is builtin. -/
def isBuiltin (name : String) : Bool := (action? name).isSome || runsOthers.contains name

end Bindery.Shell.Builtin
