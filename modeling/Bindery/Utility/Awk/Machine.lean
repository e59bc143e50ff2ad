import Bindery.Utility.Awk.Value
import Bindery.Utility.Awk.Lexer
import Bindery.Utility.Awk.Script
import Bindery.Utility.Basic

/-!
# Running scripts for records

A `Machine` is all that a running script knows: its variables and tables, the record at hand and its
fields, what it reads, and what it has written. This module says how these change; how expressions
and actions change them is said elsewhere.
-/

namespace Bindery.Utility.Awk

/-- A file or command from which lines are read. -/
structure Inlet where
  name : String
  isCommand : Bool := false
  bytes : ByteArray
  /-- How many bytes were read. -/
  offset : Nat := 0
  /-- How the command ended. -/
  status : Nat := 0

/-- A file or command to which something is printed. -/
structure Outlet where
  name : String
  isCommand : Bool := false
  /-- Where the file is. -/
  place : Location := []
  /-- What was printed and is not written yet. -/
  waiting : Array String := #[]

/-- What a variable of a function holds. -/
inductive Slot where
  | value (v : Value)
  | table (index : Nat)
  deriving Inhabited

structure Machine where
  call : Call
  answer : Answer
  script : Script
  /-- What was printed and is not written yet. -/
  waiting : Array String := #[]
  globals : Std.HashMap String Value := {}
  tables : Array Table := #[]
  /-- The tables of the script by their names. -/
  places : Std.HashMap String Nat := {}
  /-- The variables of the function that is being called. -/
  frame : Array Slot := #[]
  record : Value := .absent
  fields : Array Value := #[]
  /-- The fields are those of the record. -/
  isSplit : Bool := true
  /-- The record is made of the fields. -/
  isJoined : Bool := true
  /-- Where records are read. -/
  source : Option Inlet := none
  /-- The number of the argument that is looked at next. -/
  argument : Nat := 1
  /-- A file was among the arguments. -/
  hadFile : Bool := false
  /-- There are no more records. -/
  ended : Bool := false
  inlets : List Inlet := []
  /-- The last one that was used comes first. -/
  outlets : List Outlet := []
  /-- Which of the rules for ranges are within one. -/
  within : Array Bool := #[]
  /-- Expressions that were read from texts. -/
  patterns : Std.HashMap String Pattern := {}
  seed : Float := 0.0
  random : UInt64 := 88172645463325252
  status : Nat := 0

/-- Why a script stops. -/
inductive Halt where
  | exit
  | failed (text : String)

/-- What is done by a running script, which may stop, or ask for programs to be run. -/
abbrev Run := ExceptT Halt (StateT Machine Work)

namespace Machine

/-! ## Variables -/

/-- A variable of the script, as it was set. -/
def valueOf (m : Machine) (name : String) : Value := (m.globals[name]?).getD .absent

/-- How numbers are turned into texts. -/
def conversion (m : Machine) : Float → String :=
  match m.globals["CONVFMT"]? with
  | some v => numberBy (v.toText shortText)
  | none => shortText

def textOf (m : Machine) (v : Value) : String :=
  match v with
  | .absent => ""
  | .text s | .input s => s
  | .number x => numberText m.conversion x

/-- The text of a variable of the script. -/
def textVariable (m : Machine) (name : String) : String := m.textOf (m.valueOf name)

/-! ## Records and fields -/

/-- What separates fields. -/
inductive Separator where
  | blanks
  | char (c : Char)
  /-- Every character is a field. -/
  | nothing
  | pattern (p : Pattern)

/-- The words of a text. -/
def words (text : String) : List String :=
  let isBlank (c : Char) : Bool := Awk.isBlank c || c == '\n'
  let (found, word) := text.foldl (fun (found, word) c =>
    if isBlank c then (if word.isEmpty then (found, word) else (word :: found, ""))
    else (found, word.push c)) (([] : List String), "")
  (if word.isEmpty then found else word :: found).reverse

/-- The parts of a text between the matches of a pattern, the last one first. -/
def partsBetween (p : Pattern) (s : Subject) : Nat → Nat → Nat → List String → List String
  | 0, _, _, found => found
  | fuel + 1, start, place, found =>
    let part (stop : Nat) : String := Text.Octets.ofBytes (s.bytes.extract start stop)
    match p.find? s place with
    | some hit =>
      if hit.stop = hit.start then
        if s.bytes.size ≤ place then part s.bytes.size :: found
        else partsBetween p s fuel start (place + 1) found
      else partsBetween p s fuel hit.stop hit.stop (part hit.start :: found)
    | none => part s.bytes.size :: found

def splitBy (separator : Separator) (text : String) : List String :=
  if text.isEmpty then []
  else
    match separator with
    | .blanks => words text
    | .char c => text.splitOn (String.singleton c)
    | .nothing => text.toList.map String.singleton
    | .pattern p =>
      let bytes := Text.Octets.toBytes text
      (partsBetween p { bytes } (bytes.size + 2) 0 0 []).reverse

/-- The separator that a text says, which may be an expression. -/
def separatorOf (text : String) (pattern : String → Except String Pattern) :
    Except String Separator :=
  match text.toList with
  | [] => .ok .nothing
  | [' '] => .ok .blanks
  | [c] => .ok (.char c)
  | _ => (pattern text).map .pattern

/-- The pattern of a text, and the machine that knows it from then on. -/
def patternOf (m : Machine) (text : String) : Except String (Pattern × Machine) :=
  match m.patterns[text]? with
  | some p => .ok (p, m)
  | none =>
    match Awk.patternOf text with
    | .ok p => .ok (p, { m with patterns := m.patterns.insert text p })
    | .error reason => .error reason

/-- Splits the record if that was not done. -/
def split (m : Machine) : Machine :=
  if m.isSplit then m
  else
    let separator := separatorOf (m.textVariable "FS") fun text => (m.patternOf text).map (·.1)
    let parts := match separator with
      | .ok separator => splitBy separator (m.textOf m.record)
      | .error _ => []
    { m with fields := (parts.map Value.input).toArray, isSplit := true }

/-- Makes the record of the fields if that was not done. -/
def join (m : Machine) : Machine :=
  if m.isJoined then m
  else
    let texts := m.fields.toList.map m.textOf
    { m with record := .input ((m.textVariable "OFS").intercalate texts), isJoined := true }

def setRecord (m : Machine) (v : Value) : Machine :=
  { m with record := v, isSplit := false, isJoined := true }

/-- Makes the fields so many. -/
def setCount (m : Machine) (count : Nat) : Machine :=
  let m := m.split
  let fields := (m.fields.extract 0 count) ++
    Array.replicate (count - m.fields.size) (Value.text "")
  { m with fields, isJoined := false }

def field (m : Machine) (index : Nat) : Value × Machine :=
  if index = 0 then
    let m := m.join
    (m.record, m)
  else
    let m := m.split
    ((m.fields[index - 1]?).getD .absent, m)

def setField (m : Machine) (index : Nat) (v : Value) : Machine :=
  if index = 0 then m.setRecord v
  else
    let m := m.split
    let m := if m.fields.size < index then m.setCount index else m
    let fields := m.fields
    let m := { m with fields := #[] }
    { m with fields := fields.set! (index - 1) v, isJoined := false }

/-- The value of a variable of the script. -/
def shared (m : Machine) (name : String) : Value × Machine :=
  if name == "NF" then
    let m := m.split
    (.ofNat m.fields.size, m)
  else (m.valueOf name, m)

/-- Sets a variable of the script; nothing for a count of fields that is negative. -/
def setShared? (m : Machine) (name : String) (v : Value) : Option Machine :=
  match name with
  | "NF" =>
    let count := wholeOf v.toNumber
    if count < 0 then none else some (m.setCount count.toNat)
  | "FS" =>
    let m := m.split
    some { m with globals := m.globals.insert name v }
  | _ => some { m with globals := m.globals.insert name v }

/-- Counts a variable of the script up. -/
def bump (m : Machine) (name : String) : Machine :=
  let v := m.valueOf name
  { m with globals := m.globals.insert name (.number (v.toNumber + 1.0)) }

/-! ## Tables -/

/-- Adds a table. -/
def addTable (m : Machine) (t : Table) : Nat × Machine :=
  (m.tables.size, { m with tables := m.tables.push t })

/-- The table that a name stands for. -/
def tableOf (m : Machine) : Name → Nat × Machine
  | .shared name =>
    match m.places[name]? with
    | some index => (index, m)
    | none =>
      let (index, m) := m.addTable {}
      (index, { m with places := m.places.insert name index })
  | .own i =>
    match m.frame[i]? with
    | some (.table index) => (index, m)
    | _ =>
      let (index, m) := m.addTable {}
      (index, { m with frame := m.frame.set! i (.table index) })

/-- Does something with a table. -/
def withTable {α : Type} (m : Machine) (index : Nat) (act : Table → α × Table) : α × Machine :=
  let tables := m.tables
  let m := { m with tables := #[] }
  let t := (tables[index]?).getD {}
  let tables := tables.set! index {}
  let (value, t) := act t
  (value, { m with tables := tables.set! index t })

def changeTable (m : Machine) (index : Nat) (act : Table → Table) : Machine :=
  (m.withTable index fun t => ((), act t)).2

/-! ## Writing -/

/-- Writes what waits to be written to a file. -/
def flushOutlet (m : Machine) (o : Outlet) : Machine × Outlet :=
  if o.isCommand || o.waiting.isEmpty then (m, o)
  else
    let old := ((m.answer.tree.node? o.place).bind fun node => node.read.toOption).getD .empty
    let text := String.join o.waiting.toList
    let tree := m.answer.tree.fill o.place (old ++ Text.Octets.toBytes text)
    ({ m with answer := { m.answer with tree } }, { o with waiting := #[] })

/-- Writes what waits to be written to the output. -/
def flushOutput (m : Machine) : Machine :=
  let waiting := m.waiting
  let m := { m with waiting := #[] }
  if waiting.isEmpty then m
  else { m with answer := m.answer.print (String.join waiting.toList) }

/-- Writes all that waits to be written, but for commands. -/
def flush (m : Machine) : Machine :=
  let outlets := m.outlets
  let (m, outlets) := outlets.foldl (fun (m, done) o =>
    let (m, o) := m.flushOutlet o
    (m, o :: done)) (m, [])
  { m.flushOutput with outlets := outlets.reverse }

/-- Prints to the output. -/
def put (m : Machine) (text : String) : Machine := { m with waiting := m.waiting.push text }

/-- Opens a file for printing. -/
def openFile (m : Machine) (name : String) (appends : Bool) :
    Except SystemError (Outlet × Machine) :=
  do
    let tree := m.answer.tree
    let isNew := (tree.seek (pathOf name)).toOption.isNone
    let content ← if appends && !isNew then tree.read (pathOf name) else pure .empty
    let tree ← m.call.write tree name (Text.Octets.ofBytes content)
    let place ← tree.seekLocation (pathOf name)
    return ({ name, place }, { m with answer := { m.answer with tree } })

/-- Prints to a file or a command; an error if the file cannot be opened. -/
def putTo (m : Machine) (isCommand appends : Bool) (name text : String) : Except String Machine :=
  if !isCommand && name == "/dev/stdout" then .ok (m.put text)
  else if !isCommand && name == "/dev/stderr" then
    .ok { m with answer := m.answer.printError text }
  else
    let isIt (o : Outlet) : Bool := o.name == name && o.isCommand == isCommand
    match m.outlets.find? isIt with
    | some o =>
      let others := m.outlets.filter (!isIt ·)
      .ok { m with outlets := { o with waiting := o.waiting.push text } :: others }
    | none =>
      if isCommand then
        .ok { m with outlets := { name, isCommand, waiting := #[text] } :: m.outlets }
      else
        match m.openFile name appends with
        | .ok (o, m) => .ok { m with outlets := { o with waiting := #[text] } :: m.outlets }
        | .error cause => .error s!"cannot open \"{name}\" for output ({cause.reason})"

/-! ## Reading -/

/-- Where a byte is, from a place on. -/
def placeOfByte (bytes : ByteArray) (b : UInt8) : Nat → Nat → Option Nat
  | 0, _ => none
  | fuel + 1, i =>
    if h : i < bytes.size then if bytes[i] == b then some i else placeOfByte bytes b fuel (i + 1)
    else none

/-- How many line ends there are from a place on. -/
def lineEnds (bytes : ByteArray) : Nat → Nat → Nat
  | 0, _ => 0
  | fuel + 1, i => if bytes[i]? == some 10 then lineEnds bytes fuel (i + 1) + 1 else 0

/-- The place of the first empty line from a place on. -/
def emptyLine (bytes : ByteArray) : Nat → Nat → Option Nat
  | 0, _ => none
  | fuel + 1, i =>
    match placeOfByte bytes 10 (bytes.size + 1) i with
    | none => none
    | some k => if bytes[k + 1]? == some 10 then some k else emptyLine bytes fuel (k + 1)

/-- The next record and where the one after it begins, if there is one. -/
def nextRecord (m : Machine) (bytes : ByteArray) (start : Nat) :
    Except String (Option (String × Nat) × Machine) :=
  let text (a b : Nat) : String := Text.Octets.ofBytes (bytes.extract a b)
  let size := bytes.size
  match (m.textVariable "RS").toList with
  | [] =>
    let start := start + lineEnds bytes (size + 1) start
    if size ≤ start then .ok (none, m)
    else
      match emptyLine bytes (size + 1) start with
      | some k => .ok (some (text start k, k + lineEnds bytes (size + 1) k), m)
      | none =>
        let stop := if bytes[size - 1]? == some 10 then size - 1 else size
        .ok (some (text start stop, size), m)
  | [c] =>
    if size ≤ start then .ok (none, m)
    else
      match placeOfByte bytes (UInt8.ofNat c.toNat) (size + 1) start with
      | some k => .ok (some (text start k, k + 1), m)
      | none => .ok (some (text start size, size), m)
  | cs =>
    if size ≤ start then .ok (none, m)
    else
      match m.patternOf (String.ofList cs) with
      | .error reason => .error reason
      | .ok (p, m) =>
        match p.find? { bytes, continues := true } start with
        | some hit =>
          if hit.start = hit.stop then .ok (some (text start size, size), m)
          else .ok (some (text start hit.start, hit.stop), m)
        | none => .ok (some (text start size, size), m)

/-- The next line of an inlet. -/
def readInlet (m : Machine) (i : Inlet) : Except String (Option String × Inlet × Machine) :=
  (m.nextRecord i.bytes i.offset).map fun (found, m) =>
    match found with
    | some (text, offset) => (some text, { i with offset }, m)
    | none => (none, i, m)

/-- Sets a variable as an argument with an equals sign says. -/
def assign (m : Machine) (name value : String) : Machine :=
  let v := Value.input (Awk.textOf value.toList)
  (m.setShared? name v).getD m

/-- The name and the text of an argument that sets a variable. -/
def assignment? (word : String) : Option (String × String) :=
  let cs := word.toList
  let name := cs.takeWhile isNamePart
  match cs.drop name.length, name with
  | '=' :: value, c :: _ =>
    if isNameStart c then some (String.ofList name, String.ofList value) else none
  | _, _ => none

/-- The standard input, which is used up then. -/
def standardInput (m : Machine) : Except String (ByteArray × Machine) :=
  let fresh := !m.answer.drains
  let m := { m with answer := { m.answer with drains := true } }
  match m.call.input with
  | .ok bytes => .ok (if fresh then bytes else .empty, m)
  | .error cause => .error s!"read error ({cause.reason})"

/-- Opens a file for reading. -/
def load (m : Machine) (name : String) : Except SystemError ByteArray :=
  m.answer.tree.read (pathOf name)

/-- Begins a file. -/
def beginFile (m : Machine) (name : String) (inlet : Inlet) : Machine :=
  { m with
    source := some inlet
    hadFile := true
    globals := (m.globals.insert "FNR" (.number 0.0)).insert "FILENAME" (.text name) }

/-- Goes on to the next file among the arguments; there may be none. -/
def openNext (m : Machine) : Nat → Except String Machine
  | 0 => .ok { m with ended := true }
  | fuel + 1 =>
    let count := wholeOf (m.valueOf "ARGC").toNumber
    if count ≤ m.argument then
      if m.hadFile then .ok { m with ended := true, source := none }
      else do
        let (bytes, m) ← m.standardInput
        return m.beginFile "" { name := "-", bytes }
    else
      let (index, m) := m.tableOf (.shared "ARGV")
      let key := toString m.argument
      let word := m.textOf ((((m.tables[index]?).getD {}).values[key]?).getD .absent)
      let m := { m with argument := m.argument + 1 }
      match word, assignment? word with
      | "", _ => openNext m fuel
      | "-", _ => do
        let (bytes, m) ← m.standardInput
        return m.beginFile "" { name := "-", bytes }
      | _, some (name, value) => openNext (m.assign name value) fuel
      | word, none =>
        match m.load word with
        | .ok bytes => .ok (m.beginFile word { name := word, bytes })
        | .error .isDirectory => .error "read error (Is a directory)"
        | .error cause => .error s!"cannot open \"{word}\" ({cause.reason})"

/-- The next record of the files among the arguments. -/
def readMain (m : Machine) : Nat → Except String (Option String × Machine)
  | 0 => .ok (none, m)
  | fuel + 1 =>
    if m.ended then .ok (none, m)
    else
      match m.source with
      | none => do readMain (← m.openNext (fuel + 2)) fuel
      | some inlet => do
        let m := { m with source := none }
        let (found, inlet, m) ← m.readInlet inlet
        match found with
        | some text =>
          return (some text, ({ m with source := some inlet }.bump "NR").bump "FNR")
        | none => readMain (← m.openNext (fuel + 2)) fuel

/-- How many files are tried one after the other. -/
def fileLimit : Nat := 1000000

end Machine

end Bindery.Utility.Awk
