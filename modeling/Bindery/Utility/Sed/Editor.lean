import Bindery.File.Mode
import Bindery.Utility.Sed.Script

/-!
# Editing

An `Editor` holds the line that is being edited, what was set aside, and what is still to be read
and printed. `step` does one command; the place in the script is a part of the editor. `sed` runs an
editing script on the lines of files, and prints them, or puts them in the place of the files.
-/

namespace Bindery.Utility.Sed

/-- How a script is to be run. -/
structure Settings where
  isQuiet : Bool := false
  /-- Every file has lines of its own. -/
  separate : Bool := false
  /-- The files are replaced; what the names of the old ones are like, if they are kept. -/
  inPlace : Option String := none
  /-- The byte at which lines end. -/
  mark : UInt8 := 10
  /-- The width of listings. -/
  width : Nat := 70

/-- A line. The last one of a file may lack its end. -/
structure Line where
  bytes : ByteArray := .empty
  hasEnd : Bool := true

/-- A file that is being read. -/
structure Input where
  name : String
  bytes : ByteArray
  position : Nat := 0

/-- How far a range has come. -/
inductive Range where
  | before
  /-- In the range, up to a line, if it is known. -/
  | inside (last : Option Nat)
  | after
  deriving DecidableEq

/-- What is to be printed before the next line is read. -/
inductive Pending where
  | text (bytes : ByteArray)
  | file (name : String)

structure Editor where
  script : Script
  settings : Settings
  call : Call
  answer : Answer
  /-- What has been printed. -/
  printed : ByteArray := .empty
  /-- What is to stand in the file that is being replaced. -/
  copy : Option ByteArray := none
  /-- The last line that was printed lacks its end. -/
  lacksEnd : Bool := false
  /-- The files that are written, and whether their last lines lack their ends. -/
  outputs : List (String × Location × Bool) := []
  /-- The files that are read line by line, and how much of them has been read. -/
  readers : List (String × Nat) := []
  words : List String
  input : Option Input := none
  /-- The file that was opened last. -/
  name : String := "-"
  /-- The next file begins with its first line. -/
  startsOver : Bool := false
  lineNumber : Nat := 0
  line : Line := {}
  held : Line := {}
  /-- There was a substitution on this line. -/
  substituted : Bool := false
  pending : List Pending := []
  ranges : Array Range
  expression : Option Expression := none
  /-- The place in the script, unless a line is to be read. -/
  place : Option Nat := none
  /-- The script begins again with what is left of the line. -/
  keepsLine : Bool := false

/-- What a step leads to. -/
inductive Step where
  | more (editor : Editor)
  | finished (editor : Editor)
  /-- A command is to be run, whose output is waited for. -/
  | ask (editor : Editor) (command : ByteArray) (next : Editor → ByteArray → Editor)

namespace Editor

/-! ## Printing -/

def lineEnd (e : Editor) : ByteArray := .empty |>.push e.settings.mark

/-- Prints bytes as they are. -/
def add (e : Editor) (bytes : ByteArray) : Editor :=
  match e.copy with
  | some text => { e with copy := some (text ++ bytes) }
  | none => { e with printed := e.printed ++ bytes }

/-- Prints bytes after a line with its end. -/
def emit (e : Editor) (bytes : ByteArray) : Editor :=
  let e := if e.lacksEnd then { (e.add e.lineEnd) with lacksEnd := false } else e
  e.add bytes

/-- Prints a line. -/
def emitLine (e : Editor) (line : Line) : Editor :=
  let e := e.emit line.bytes
  if line.hasEnd then e.add e.lineEnd else { e with lacksEnd := true }

def isStandard (file : String) : Bool := file == "/dev/stdout" || file == "/dev/stderr"

/-- Writes a line to a file. -/
def writeLine (e : Editor) (file : String) (line : Line) : Editor :=
  match e.outputs.lookup file with
  | none => e
  | some (place, lacksEnd) =>
    let bytes := (if lacksEnd then e.lineEnd else .empty) ++ line.bytes ++
      (if line.hasEnd then e.lineEnd else .empty)
    let outputs := e.outputs.map fun entry =>
      if entry.1 = file then (file, place, !line.hasEnd) else entry
    let e := { e with outputs }
    if file == "/dev/stdout" then { e with printed := e.printed ++ bytes }
    else if file == "/dev/stderr" then
      { e with answer := e.answer.printError (Text.Octets.ofBytes bytes) }
    else
      match e.answer.tree.node? place with
      | some (.file content) =>
        { e with answer := { e.answer with tree := e.answer.tree.fill place (content ++ bytes) } }
      | _ => e

def complain (e : Editor) (text : String) (status : Nat) : Editor :=
  { e with answer := e.answer.fail s!"{e.call.name}: {text}" status }

/-- The content of a file, and the editor after it was read. -/
def contentOf (e : Editor) (file : String) : Except SystemError ByteArray × Editor :=
  let (result, answer) := e.call.read e.answer file
  (result.map Text.Octets.toBytes, { e with answer })

/-- Prints what is to be printed at the end of a line; the result tells of a file that cannot be
read. -/
def flush (e : Editor) : Editor × Bool :=
  e.pending.foldl (fun (e, failed) item =>
    if failed then (e, true)
    else
      match item with
      | .text bytes => (e.emit bytes, false)
      | .file name =>
        match e.contentOf name with
        | (.ok bytes, e) => (e.emit bytes, false)
        | (.error cause, e) =>
          if cause = .isDirectory then
            (e.complain s!"read error on {name}: {cause.reason}" 4, true)
          else (e.emit .empty, false)) ({ e with pending := [] }, false)

/-! ## Reading -/

/-- The name for the old file when one is replaced. -/
def backupName (form name : String) : String :=
  let parts := name.splitOn "/"
  let base := parts.getLastD name
  let backup :=
    if form.toList.contains '*' then base.intercalate (form.splitOn "*") else base ++ form
  if backup.toList.contains '/' then backup else "/".intercalate (parts.dropLast ++ [backup])

/-- Puts the new file in the place of the one that has been read. -/
def replace (e : Editor) : Editor :=
  match e.copy with
  | none => e
  | some bytes =>
    let path := pathOf e.name
    let tree := e.answer.tree
    let e := { e with copy := none, lacksEnd := false }
    match tree.nameLocation path with
    | .error _ => e
    | .ok place =>
      let mode := tree.mode ((tree.seekLocation path).toOption.getD place)
      let form := e.settings.inPlace.getD ""
      let tree :=
        if form.isEmpty || form == "*" then tree
        else (tree.move path (pathOf (backupName form e.name))).toOption.getD tree
      let tree := (tree.remove place).put place (.file bytes)
      let tree := if tree.mode place = mode then tree else tree.withMode place mode
      { e with answer := { e.answer with tree } }

/-- Ends the reading of a file. -/
def close (e : Editor) : Editor :=
  match e.input with
  | none => e
  | some _ => { e.replace with input := none, startsOver := e.settings.separate }

/-- Opens the first of some files that can be opened. -/
def openFirst (e : Editor) : List String → Editor
  | [] => { e with words := [] }
  | word :: rest =>
    let e := { e with words := rest }
    if e.settings.inPlace.isSome then
      match e.answer.tree.seek (pathOf word) with
      | .error cause => openFirst (e.complain s!"can't read {word}: {cause.reason}" 2) rest
      | .ok (.file bytes) =>
        { e with input := some ⟨word, bytes, 0⟩, name := word, copy := some .empty }
      | .ok _ => openFirst (e.complain s!"couldn't edit {word}: not a regular file" 4) rest
    else
      match e.contentOf word with
      | (.ok bytes, e) => { e with input := some ⟨word, bytes, 0⟩, name := word }
      | (.error cause, e) =>
        if cause = .isDirectory then
          { e with name := word }.complain s!"read error on {word}: {cause.reason}" 4
        else openFirst (e.complain s!"can't read {word}: {cause.reason}" 2) rest

/-- Whether a file could not be read in a way that ends everything. -/
def isBroken (e : Editor) : Bool := e.answer.status == 4 && e.settings.inPlace.isNone

/-- Goes on to the first file that has something left to read. -/
def seekData : Nat → Editor → Editor
  | 0, e => e
  | fuel + 1, e =>
    match e.input with
    | some input => if input.position < input.bytes.size then e else seekData fuel e.close
    | none =>
      if e.words.isEmpty || e.isBroken then e
      else
        let e := if e.startsOver then
            { e with
              lineNumber := 0, startsOver := false, readers := []
              held := { e.held with bytes := .empty }
              ranges := e.ranges.map fun _ => .before }
          else e
        seekData fuel (e.openFirst e.words)

/-- Whether the line is the last one. -/
def isLast (e : Editor) : Bool × Editor :=
  let exhausted := match e.input with
    | some input => input.bytes.size ≤ input.position
    | none => true
  if !exhausted then (false, e)
  else if e.settings.separate then (true, e)
  else
    let e := e.seekData (2 * e.words.length + 2)
    (e.input.isNone, e)

/-- Reads a line, and puts it in the place of the line, or after it. -/
def readLine (e : Editor) (appends : Bool) : Option Editor × Editor :=
  let (e, failed) := e.flush
  if failed then (none, e)
  else
    let e := { e with substituted := false }.seekData (2 * e.words.length + 2)
    match e.input with
    | none => (none, e)
    | some input =>
      let stop := input.bytes.findIdx? (· == e.settings.mark) input.position
      let bytes := input.bytes.extract input.position (stop.getD input.bytes.size)
      let position := match stop with
        | some stop => stop + 1
        | none => input.bytes.size
      let start := if appends then e.line.bytes else .empty
      let e := { e with
        input := some { input with position }
        lineNumber := e.lineNumber + 1
        line := ⟨start ++ bytes, stop.isSome⟩ }
      (some e, e)

/-! ## Addresses -/

/-- The match of an expression in the line from a place on, if there is one. -/
def search (e : Editor) (expression : Option Expression) (start : Nat) :
    Except Unit (Option Match × Editor) :=
  match expression.orElse fun _ => e.expression with
  | none => .error ()
  | some x =>
    let subject : Subject :=
      { bytes := e.line.bytes, hasLines := x.hasLines, mark := e.settings.mark }
    .ok (x.pattern.find? subject start, { e with expression := some x })

/-- Whether the line is meant by an address. -/
def meets (e : Editor) : Address → Except Unit (Bool × Editor)
  | .line number => .ok (e.lineNumber = number, e)
  | .every first step =>
    .ok (first ≤ e.lineNumber && (e.lineNumber - first) % step = 0, e)
  | .last => .ok e.isLast
  | .fits expression => do
    let (found, e) ← e.search expression 0
    return (found.isSome, e)
  | .further _ | .multiple _ => .ok (false, e)

def setRange (e : Editor) (place : Nat) (range : Range) : Editor :=
  { e with ranges := e.ranges.set! place range }

/-- The line with which a range ends that begins with this one, if that is known; none if there is
no further line in it. -/
def rangeEnd (e : Editor) : Address → Option (Option Nat)
  | .line number => if number ≤ e.lineNumber then none else some (some number)
  | .further count => if count = 0 then none else some (some (e.lineNumber + count))
  | .multiple factor =>
    if factor = 0 then none
    else some (some (e.lineNumber - e.lineNumber % factor + factor))
  | .every first step =>
    if first ≤ e.lineNumber && (e.lineNumber - first) % step = 0 then none else some none
  | _ => some none

def isLine : Address → Bool
  | .line _ => true
  | _ => false

/-- Whether the line is in the range of a command. A line past the end of the range is in it if the
end was not given as the number of a line. -/
def inRange (e : Editor) (place : Nat) (first second : Address) : Except Unit (Bool × Editor) :=
  let range : Range := match first, e.ranges[place]?.getD .before with
    | .line 0, .before => .inside none
    | _, range => range
  let start (e : Editor) : Bool × Editor :=
    match e.rangeEnd second with
    | some last => (true, e.setRange place (.inside last))
    | none => (true, e.setRange place .after)
  match range with
  | .inside (some last) =>
    let after := if last ≤ e.lineNumber then e.setRange place .after else e
    .ok (e.lineNumber ≤ last || !isLine second, after)
  | .inside none => do
    let (ends, e) ← e.meets second
    return (true, if ends then e.setRange place .after else e.setRange place (.inside none))
  | range =>
    match first with
    | .line number =>
      if range = .after || e.lineNumber < number then .ok (false, e)
      else
        match second with
        | .line last =>
          if last ≤ e.lineNumber then
            .ok (e.lineNumber ≤ last || e.lineNumber = number, e.setRange place .after)
          else .ok (start e)
        | _ => .ok (start e)
    | first => do
      let (starts, e) ← e.meets first
      return if starts then start e else (false, e)

/-- Whether the line is meant by the addresses of a command. -/
def selects (e : Editor) (place : Nat) (c : Command) : Except Unit (Bool × Editor) :=
  match c.first, c.second with
  | none, _ => .ok (true, e)
  | some first, none => e.meets first
  | some first, some second => e.inRange place first second

/-! ## Substitutions -/

/-- A byte in some case. -/
def inCase (letters : Option LetterCase) (b : UInt8) : UInt8 :=
  match letters with
  | some .upper => if 97 ≤ b && b ≤ 122 then b - 32 else b
  | some .lower => if 65 ≤ b && b ≤ 90 then b + 32 else b
  | none => b

/-- A text whose first letter is in one case, and whose other ones are in another one. -/
def withCase (first others : Option LetterCase) (bytes : ByteArray) : ByteArray :=
  if first.isNone && others.isNone then bytes
  else
    let letters := bytes.toList
    match letters with
    | [] => .empty
    | b :: rest =>
      (inCase (first.orElse fun _ => others) b :: rest.map (inCase others)).toByteArray

/-- What is put in the place of a match. A case for one letter waits for a text that is not
empty. -/
def filled (line : ByteArray) (found : Match) (pieces : List Piece) : ByteArray :=
  (pieces.foldl (fun (text, waiting) piece =>
    let first := piece.first.orElse fun _ => waiting
    let text := text ++ withCase first piece.others piece.text
    let left := if piece.text.isEmpty then first else none
    match piece.group with
    | none => (text, none)
    | some group =>
      match found.group? group with
      | some (start, stop) =>
        if start = stop then (text, if piece.first.isSome then left else none)
        else (text ++ withCase left piece.others (line.extract start stop), none)
      | none => (text, if piece.first.isSome then left else none))
    ((.empty : ByteArray), (none : Option LetterCase))).1

/-- Replaces matches from a place on. `count` is the number of matches so far, `last` where the one
before ended, and `text` what stands in the place of the line up to here. -/
def replaceFrom (e : Editor) (s : Substitution) :
    Nat → Nat → Nat → Option Nat → ByteArray → Except Unit (ByteArray × Bool × Editor)
  | 0, start, _, _, text => .ok (text ++ e.line.bytes.extract start e.line.bytes.size, false, e)
  | fuel + 1, start, count, last, text => do
    let line := e.line.bytes
    let rest : ByteArray := line.extract start line.size
    let (found, e) ← e.search s.expression start
    match found with
    | none => return (text ++ rest, false, e)
    | some m =>
      let before := text ++ line.extract start m.start
      let isEmpty := m.start = m.stop
      if isEmpty && last == some m.start then
        if line.size ≤ m.start then return (before, false, e)
        else
          replaceFrom e s fuel (m.start + 1) count none
            (before ++ line.extract m.start (m.start + 1))
      else
        let count := count + 1
        let replaces := s.number ≤ count
        let after := before ++
          if replaces then filled line m s.pieces else line.extract m.start m.stop
        if replaces && !s.isGlobal then
          return (after ++ line.extract m.stop line.size, true, e)
        else if line.size ≤ m.stop && isEmpty then return (after, replaces, e)
        else
          let (next, after) :=
            if isEmpty then (m.stop + 1, after ++ line.extract m.stop (m.stop + 1))
            else (m.stop, after)
          let (text, changed, e) ← replaceFrom e s fuel next count (some m.stop) after
          return (text, replaces || changed, e)

/-- What a substitution does after the line was changed. -/
def afterSubstitution (e : Editor) (s : Substitution) : Editor :=
  let e := if s.prints then e.emitLine e.line else e
  match s.file with
  | some file => e.writeLine file e.line
  | none => e

/-! ## Listings -/

/-- A byte as a listing shows it. -/
def listed (b : UInt8) : String :=
  match b.toNat with
  | 92 => "\\\\"
  | 7 => "\\a"
  | 8 => "\\b"
  | 12 => "\\f"
  | 10 => "\\n"
  | 13 => "\\r"
  | 9 => "\\t"
  | 11 => "\\v"
  | n =>
    if 32 ≤ n && n < 127 then String.singleton (Char.ofNat n) else "\\" ++ octalDigits 3 n

/-- A line in which all bytes can be seen, in rows of a width. -/
def listing (e : Editor) (width : Nat) (bytes : ByteArray) : ByteArray :=
  (bytes.foldl (fun (text, column) b =>
    let shown := listed b
    if width != 0 && width - 1 < column + shown.length then
      (text ++ "\\".toUTF8 ++ e.lineEnd ++ shown.toUTF8, shown.length)
    else (text ++ shown.toUTF8, column + shown.length)) ((.empty : ByteArray), 0)).1 ++
  "$".toUTF8 ++ e.lineEnd

/-- A text of a script with the end that lines have. -/
def withMark (e : Editor) (text : ByteArray) : ByteArray :=
  if text.isEmpty then text else text.extract 0 (text.size - 1) ++ e.lineEnd

/-! ## Commands -/

/-- The end of the script for a line. -/
def endLine (e : Editor) : Step :=
  let e := if e.settings.isQuiet then e else e.emitLine e.line
  let (e, failed) := { e with place := none }.flush
  if failed then .finished e else .more e

/-- Ends the script for a line that is not printed. -/
def dropLine (e : Editor) : Step :=
  let (e, failed) := { e with place := none }.flush
  if failed then .finished e else .more e

/-- A command without a command that must come before it. -/
def noExpression (e : Editor) : Step :=
  let number := e.script.expressions
  .finished (e.complain s!"-e expression #{number}, char 0: no previous regular expression" 1)

/-- The first line of the text that is edited. -/
def firstLine (e : Editor) : Line :=
  match e.line.bytes.findIdx? (· == e.settings.mark) with
  | some stop => ⟨e.line.bytes.extract 0 stop, true⟩
  | none => e.line

/-- The end of everything, with the files in their places. -/
def quit (e : Editor) (status : Nat) : Step :=
  let e := e.close
  let status := if e.answer.status = 0 then status else e.answer.status
  .finished { e with answer := { e.answer with status } }

/-- An output without the end of its last line. -/
def withoutLastEnd (e : Editor) (bytes : ByteArray) : ByteArray :=
  if bytes.size != 0 && bytes[bytes.size - 1]? == some e.settings.mark then
    bytes.extract 0 (bytes.size - 1)
  else bytes

/-- Reads a line of a file that is read line by line. -/
def readFromFile (e : Editor) (file : String) : Editor :=
  match e.contentOf file with
  | (.error _, e) => e
  | (.ok bytes, e) =>
    let position := (e.readers.lookup file).getD 0
    if bytes.size ≤ position then e
    else
      let stop := match bytes.findIdx? (· == e.settings.mark) position with
        | some stop => stop + 1
        | none => bytes.size
      { e with
        readers := (file, stop) :: e.readers.filter (·.1 != file)
        pending := e.pending ++ [.text (bytes.extract position stop)] }

/-- Does a command on a line that it is meant for, and goes on at a place. -/
def perform (e : Editor) (place : Nat) (action : Action) : Step :=
  let go (e : Editor) : Step := .more { e with place := some (place + 1) }
  match action with
  | .skip stop => .more { e with place := some stop }
  | .stop => go e
  | .append text => go { e with pending := e.pending ++ [.text text] }
  | .insert text => go (e.emit (e.withMark text))
  | .change text =>
    let inside := match e.ranges[place]? with
      | some (.inside _) => true
      | _ => false
    dropLine (if inside then e else e.emit (e.withMark text))
  | .branch kind label =>
    let taken := match kind with
      | .always => true
      | .afterSubstitution => e.substituted
      | .withoutSubstitution => !e.substituted
    let e := if kind = .always then e else { e with substituted := false }
    if !taken then go e
    else
      let stop := e.script.commands.size
      .more { e with place := some ((e.script.labels.lookup label).getD stop) }
  | .number => go (e.emit ((toString e.lineNumber).toUTF8 ++ e.lineEnd))
  | .delete => dropLine e
  | .deleteFirst =>
    match e.line.bytes.findIdx? (· == e.settings.mark) with
    | none => dropLine e
    | some stop =>
      let bytes := e.line.bytes.extract (stop + 1) e.line.bytes.size
      dropLine { e with line := { e.line with bytes }, keepsLine := true }
  | .run command =>
    if command.isEmpty then
      .ask e e.line.bytes fun e output =>
        { e with
          line := { e.line with bytes := e.withoutLastEnd output }, place := some (place + 1) }
    else
      .ask e (command.extract 0 (command.size - 1)) fun e output =>
        { (e.emit output) with place := some (place + 1) }
  | .name => go (e.emit (Text.Octets.toBytes e.name ++ e.lineEnd))
  | .take => go { e with line := e.held }
  | .takeMore =>
    let bytes := e.line.bytes ++ e.lineEnd ++ e.held.bytes
    go { e with line := { e.held with bytes } }
  | .hold => go { e with held := e.line }
  | .holdMore =>
    let bytes := e.held.bytes ++ e.lineEnd ++ e.line.bytes
    go { e with held := { e.line with bytes } }
  | .list width =>
    let text := e.listing (width.getD e.settings.width) e.line.bytes
    go (e.emit text)
  | .next =>
    match e.isLast with
    | (true, e) => endLine e
    | (false, e) =>
      let e := if e.settings.isQuiet then e else e.emitLine e.line
      match e.readLine false with
      | (some e, _) => go e
      | (none, e) => .finished e
  | .nextMore =>
    match e.isLast with
    | (true, e) => endLine e
    | (false, e) =>
      let line := { e.line with bytes := e.line.bytes ++ e.lineEnd }
      match { e with line }.readLine true with
      | (some e, _) => go e
      | (none, e) => .finished e
  | .print => go (e.emitLine e.line)
  | .printFirst => go (e.emitLine e.firstLine)
  | .quit status =>
    let e := if e.settings.isQuiet then e else e.emitLine e.line
    let (e, failed) := (e.emit .empty).flush
    if failed then .finished e else e.quit status
  | .quitSilently status => e.quit status
  | .read file => go { e with pending := e.pending ++ [.file file] }
  | .readLine file => go (e.readFromFile file)
  | .substitute s =>
    match e.replaceFrom s (2 * e.line.bytes.size + 4) 0 0 none .empty with
    | .error () => noExpression e
    | .ok (_, false, e) => go e
    | .ok (bytes, true, e) =>
      let e := { e with line := { e.line with bytes }, substituted := true }
      if s.runs then
        .ask e e.line.bytes fun e output =>
          let line := { e.line with bytes := e.withoutLastEnd output }
          { ({ e with line }.afterSubstitution s) with place := some (place + 1) }
      else go (e.afterSubstitution s)
  | .write file => go (e.writeLine file e.line)
  | .writeFirst file => go (e.writeLine file e.firstLine)
  | .exchange => go { e with line := e.held, held := e.line }
  | .translate table =>
    let bytes := e.line.bytes.foldl (fun (bytes : ByteArray) b =>
      bytes.push ((table[b.toNat]?).getD b)) .empty
    go { e with line := { e.line with bytes } }
  | .empty => go { e with line := { e.line with bytes := .empty } }

/-- One step: a line is read, or a command is looked at. -/
def step (e : Editor) : Step :=
  match e.place with
  | none =>
    if e.keepsLine then .more { e with place := some 0, keepsLine := false }
    else
      match e.readLine false with
      | (some e, _) => .more { e with place := some 0 }
      | (none, e) => .finished e.close
  | some place =>
    match e.script.commands[place]? with
    | none => endLine e
    | some c =>
      match e.selects place c with
      | .error () => noExpression e
      | .ok (meant, e) =>
        if meant != c.isNegated then e.perform place c.action
        else .more { e with place := some (place + 1) }

/-- What an editor has done, its output with it. -/
def result (e : Editor) : Answer :=
  if e.printed.isEmpty then e.answer else e.answer.print (Text.Octets.ofBytes e.printed)

/-- Takes steps until the work is done, so many at most. -/
def work : Nat → Editor → Work Answer
  | 0, e => .done e.result
  | fuel + 1, e =>
    match e.step with
    | .more e => work fuel e
    | .finished e => .done e.result
    | .ask e command next =>
      let words := ["sh", "-c", Text.Octets.ofBytes command]
      .run { before := e.answer, words, captures := true } fun outcome =>
        let answer := { e.answer with tree := outcome.tree, written := #[] }
        work fuel (next { e with answer } (Text.Octets.toBytes outcome.output))

end Editor

end Bindery.Utility.Sed

/-! ## The utility -/

namespace Bindery.Utility

namespace Sed

def optionForm : OptionForm :=
  .of "bsnrzuEe:f:l:i::" ["binary=b", "regexp-extended=r", "debug", "in-place=i", "expression=e",
    "file=f", "line-length=l", "null-data=z", "zero-terminated=z", "quiet=n", "posix", "silent=n",
    "sandbox", "separate=s", "unbuffered=u", "follow-symlinks"]

/-- The number of steps that an editor takes at most. -/
def stepLimit : Nat := 1000000000

/-- What options say about a script: whether expressions are extended, and its parts. -/
structure Given where
  answer : Answer
  extended : Bool := false
  parts : List Part := []

/-- Reads an option that says something about the script. -/
def Given.take (c : Call) (g : Given) : String × String → Except Answer Given
  | ("E", _) | ("r", _) => .ok { g with extended := true }
  | ("e", text) => .ok { g with parts := g.parts ++ [⟨text.toList, none, g.extended⟩] }
  | ("f", file) =>
    match c.read g.answer file with
    | (.ok text, answer) =>
      .ok { g with answer, parts := g.parts ++ [⟨text.toList, some file, g.extended⟩] }
    | (.error e, answer) =>
      .error (answer.fail s!"{c.name}: couldn't open file {file}: {e.reason}" 1)
  | _ => .ok g

/-- Makes the files empty to which a script writes. -/
def openOutputs (c : Call) (a : Answer) (files : List String) :
    Except Answer (Answer × List (String × Location × Bool)) :=
  files.foldlM (fun (a, outputs) file =>
    if Editor.isStandard file then .ok (a, outputs ++ [(file, [], false)])
    else
      match (do
        let tree ← c.write a.tree file ""
        return (tree, ← tree.seekLocation (pathOf file)) : Except SystemError _) with
      | .ok (tree, place) => .ok ({ a with tree }, outputs ++ [(file, place, false)])
      | .error e => .error (a.fail s!"{c.name}: couldn't open file {file}: {e.reason}" 4))
    (a, [])

/-- The settings that options say. -/
def settingsOf (w : Words) (isQuiet : Bool) : Settings where
  isQuiet := isQuiet || w.has ["n"]
  separate := w.has ["s", "i"]
  inPlace := w.value? ["i"]
  mark := if w.has ["z"] then 0 else 10
  width := ((w.value? ["l"]).bind String.toNat?).getD 70

/-- The editor that begins to run a script on some files. -/
def editorOf (c : Call) (w : Words) (g : Given) (files : List String) : Except Answer Editor := do
  let (script, outputs) := Script.read g.parts
  let (answer, outputs) ← openOutputs c g.answer outputs
  let fail {α : Type} (text : String) (status : Nat) : Except Answer α :=
    .error (answer.fail s!"{c.name}: {text}" status)
  match script with
  | .error text => fail text 1
  | .ok script =>
    match script.missingLabel? with
    | some label => fail s!"can't find label for jump to \x60{label}'" 4
    | none =>
      return {
        script
        settings := settingsOf w script.isQuiet
        call := c
        answer
        outputs
        words := if files.isEmpty then ["-"] else files
        ranges := script.commands.map fun _ => .before }

end Sed

def sed (c : Call) : Work Answer :=
  c.withOptionsDo Sed.optionForm 1 fun w =>
    match w.options.foldlM (Sed.Given.take c) { answer := c.start } with
    | .error a => .done a
    | .ok g =>
      let usage := s!"Usage: {c.name} [OPTION]... " ++
        "\x7bscript-only-if-no-other-script\x7d [input-file]..."
      match g.parts, w.operands with
      | [], [] => .done (c.start.fail usage 1)
      | [], text :: files =>
        start w { g with parts := [⟨text.toList, none, g.extended⟩] } files
      | _, files => start w g files
where
  start (w : Words) (g : Sed.Given) (files : List String) : Work Answer :=
    match Sed.editorOf c w g files with
    | .error a => .done a
    | .ok editor => editor.work Sed.stepLimit

end Bindery.Utility
