import Bindery.Utility.Awk.Machine

/-!
# Expressions and actions

`eval` gives the value of an expression, `perform` does what an action says. The functions are
bounded by a number that goes down with each call inside another, among them the turns of a loop.
-/

namespace Bindery.Utility.Awk

/-- How a script goes on after an action. -/
inductive Flow where
  | on
  | break_
  | continue_
  | next
  | nextFile
  | return_ (value : Value)

/-- Where a value is kept. -/
inductive Place where
  | var (name : Name)
  | element (table : Nat) (key : Key)
  | field (index : Nat)

namespace Run

def fail {α : Type} (text : String) : Run α := throw (.failed text)

/-- Fails while the script runs, and tells where it was. -/
def fault {α : Type} (text : String) : Run α := do
  let m ← get
  let file := m.textVariable "FILENAME"
  let line := m.textVariable "FNR"
  let record := m.textVariable "NR"
  fail s!"run time error: {text}\n\tFILENAME=\"{file}\" FNR={line} NR={record}"

/-- Takes the result of something that may fail. -/
def ofExcept {α : Type} (result : Except String α) : Run α :=
  match result with
  | .ok value => pure value
  | .error text => fail text

/-- Changes the machine and takes a value from it. -/
def change {α : Type} (act : Machine → α × Machine) : Run α := modifyGet act

/-- Asks for a program to be run. -/
def ask (words : List String) (input : Option ByteArray) (captures : Bool) : Run Outcome := do
  let m ← get
  let outcome ← (Work.ask { before := m.answer, words, input, captures } : Work Outcome)
  modify fun m => { m with answer := { tree := outcome.tree, status := 0 } }
  return outcome

/-- Runs a text by the shell. -/
def shell (command : String) (input : Option ByteArray) (captures : Bool) : Run Outcome :=
  ask ["/bin/sh", "-c", command] input captures

/-- The status that a command gives. -/
def statusOf (o : Outcome) : Nat :=
  match o.ending with
  | .ok (.exited n) => n
  | .ok (.signalled n _) => 256 + n
  | .ok _ => 0
  | .error _ => 127

/-! ## Variables -/

/-- The value of a variable. -/
def load (name : Name) : Run Value := do
  match name with
  | .shared name => change fun m => m.shared name
  | .own i =>
    match (← get).frame[i]? with
    | some (.value v) => return v
    | _ => return .absent

/-- Sets a variable. -/
def store (name : Name) (v : Value) : Run Unit := do
  match name with
  | .own i => modify fun m => { m with frame := m.frame.set! i (.value v) }
  | .shared name =>
    match (← get).setShared? name v with
    | some m => set m
    | none => fault "negative value assigned to NF"

/-- The value at a place. -/
def loadAt : Place → Run Value
  | .var name => load name
  | .element table key => change fun m => m.withTable table fun t => t.get key
  | .field index => change fun m => m.field index

/-- Puts a value at a place. -/
def storeAt (place : Place) (v : Value) : Run Unit :=
  match place with
  | .var name => store name v
  | .element table key => modify fun m => m.changeTable table fun t => t.set key v
  | .field index => modify fun m => m.setField index v

/-- The key that a value stands for. -/
def keyOf (v : Value) : Run Key := do
  match v with
  | .number x =>
    if x == x.floor && x.abs < 2147483647.0 then return .number x.toInt64.toInt
    else return .text ((← get).textOf v)
  | v => return .text ((← get).textOf v)

/-- The number of the field that a value stands for. -/
def fieldOf (v : Value) : Run Nat := do
  let n := wholeOf v.toNumber
  if n < 0 then fault s!"negative field index ${n}" else return n.toNat

/-- The pattern of the text of a value. -/
def patternOf (v : Value) : Run Pattern := do
  let m ← get
  match m.patternOf (m.textOf v) with
  | .ok (p, m) =>
    set m
    return p
  | .error reason => fail s!"line 1: {reason}"

/-- Whether a name stands for a table. -/
def isTable (m : Machine) : Name → Bool
  | .shared name => m.places.contains name
  | .own i =>
    match m.frame[i]? with
    | some (.table _) => true
    | _ => false

/-! ## Numbers -/

def compute (operation : Operation) (x y : Float) : Float :=
  match operation with
  | .add => x + y
  | .subtract => x - y
  | .multiply => x * y
  | .divide => x / y
  | .modulo => Decimal.remainder x y
  | .power => Float.pow x y

def holds (relation : Relation) (order : Option Ordering) : Bool :=
  match relation, order with
  | .less, some .lt | .lessEqual, some .lt | .lessEqual, some .eq | .equal, some .eq
  | .greaterEqual, some .gt | .greaterEqual, some .eq | .greater, some .gt => true
  | .unequal, order => order != some .eq
  | _, _ => false

/-- The next number of a sequence that looks like chance. -/
def nextRandom (x : UInt64) : UInt64 :=
  let x := x ^^^ (x <<< 13)
  let x := x ^^^ (x >>> 7)
  x ^^^ (x <<< 17)

/-! ## Texts -/

/-- A part of a text: `start` counts from one. -/
def part (text : String) (start : Float) (length : Option Float) : String :=
  let limit : Int := 2147483647
  let first := Decimal.truncated start
  match length with
  | none => (text.drop (first - 1).toNat).toString
  | some length =>
    let count := Decimal.truncated length
    let count := if first ≤ 0 then count - first else count
    if length != length || limit < Decimal.truncated length || limit < count then ""
    else ((text.drop (first - 1).toNat).take count.toNat).toString

/-- Where a text first occurs in another one, counted from one; zero if it does not. -/
def indexOf (text part : String) : Nat :=
  if text.isEmpty then 0
  else if part.isEmpty then 1
  else
    match text.splitOn part with
    | first :: _ :: _ => first.length + 1
    | _ => 0

/-- A piece of a replacement: a text, or the match. -/
inductive Piece where
  | text (bytes : ByteArray)
  | hit

/-- The pieces of a replacement. Half of the backslashes before an ampersand stand for themselves,
and one that is left over takes the meaning from it. -/
def piecesOf : Nat → List Char → List Piece
  | 0, _ | _, [] => []
  | fuel + 1, c :: rest =>
    let cs := c :: rest
    if c == '&' then .hit :: piecesOf fuel rest
    else if c == '\\' then
      let slashes := (cs.takeWhile (· == '\\')).length
      let after := cs.drop slashes
      let text (count : Nat) (more : List Char) : Piece :=
        .text (Text.Octets.toBytes (String.ofList (List.replicate count '\\' ++ more)))
      match after with
      | '&' :: more =>
        if slashes % 2 = 0 then text (slashes / 2) [] :: .hit :: piecesOf fuel more
        else text (slashes / 2) ['&'] :: piecesOf fuel more
      | after => text slashes [] :: piecesOf fuel after
    else
      let plain := cs.takeWhile fun c => c != '&' && c != '\\'
      .text (Text.Octets.toBytes (String.ofList plain)) :: piecesOf fuel (cs.drop plain.length)

/-- Puts pieces in the place of matches. `last` is where the last match ended, if it was not
empty. -/
def replaceIn (p : Pattern) (pieces : List Piece) (all : Bool) (bytes : ByteArray) :
    Nat → Nat → Option Nat → Nat → ByteArray → Nat × ByteArray
  | 0, _, _, count, done => (count, done)
  | fuel + 1, i, last, count, done =>
    let size := bytes.size
    match if size < i then none else p.find? { bytes } i with
    | none => (count, done ++ bytes.extract i size)
    | some hit =>
      let before := done ++ bytes.extract i hit.start
      let next := bytes.extract hit.start (hit.start + 1)
      if hit.start = hit.stop && last == some hit.start then
        replaceIn p pieces all bytes fuel (hit.start + 1) none count (before ++ next)
      else
        let done := pieces.foldl (fun done piece =>
          match piece with
          | .text t => done ++ t
          | .hit => done ++ bytes.extract hit.start hit.stop) before
        if !all then (count + 1, done ++ bytes.extract hit.stop size)
        else if hit.start = hit.stop then
          replaceIn p pieces all bytes fuel (hit.start + 1) none (count + 1) (done ++ next)
        else replaceIn p pieces all bytes fuel hit.stop (some hit.stop) (count + 1) done

/-! ## Files and commands -/

/-- Ends an outlet: writes what waits, or runs the command. -/
def closeOutlet (o : Outlet) : Run Nat := do
  if o.isCommand then
    let outcome ← shell o.name (some (Text.Octets.toBytes (String.join o.waiting.toList))) false
    return statusOf outcome
  else
    modify fun m => (m.flushOutlet o).1
    return 0

/-- Closes what has a name; the status of a command, or minus one if nothing has the name. -/
def close (name : String) : Run Value := do
  let m ← get
  match m.outlets.find? (·.name == name), m.inlets.find? (·.name == name) with
  | some o, _ =>
    set { m with outlets := m.outlets.filter (·.name != name) }
    return .ofNat (← closeOutlet o)
  | none, some i =>
    set { m with inlets := m.inlets.filter (·.name != name) }
    return .ofNat i.status
  | none, none => return .number (-1.0)

/-- Runs the commands to which something was printed, the last one that was used first. -/
def closeCommands : Nat → Run Unit
  | 0 => return ()
  | fuel + 1 => do
    let m ← get
    match m.outlets.find? (·.isCommand) with
    | none => return ()
    | some o =>
      let others := m.outlets.filter fun other => !(other.isCommand && other.name == o.name)
      set { m with outlets := others }
      let _ ← closeOutlet o
      closeCommands fuel

/-- The next line of an inlet, which is opened if need be; nothing if that fails. -/
def readFrom (name : String) (isCommand : Bool) : Run (Option (Option String)) := do
  let m ← get
  let isIt (i : Inlet) : Bool := i.name == name && i.isCommand == isCommand
  let inlet? : Option Inlet ← match m.inlets.find? isIt with
    | some i => pure (some i)
    | none =>
      if isCommand then
        let outcome ← shell name none true
        let bytes := Text.Octets.toBytes outcome.output
        pure (some { name, isCommand, bytes, status := statusOf outcome })
      else if name == "-" || name == "/dev/stdin" then
        let (bytes, m) ← ofExcept m.standardInput
        set m
        pure (some { name, bytes })
      else
        match m.load name with
        | .ok bytes => pure (some { name, bytes })
        | .error .isDirectory => fail "read error (Is a directory)"
        | .error _ => pure none
  match inlet? with
  | none => return none
  | some i =>
    let m ← get
    let (found, i, m) ← ofExcept (m.readInlet i)
    set { m with inlets := i :: m.inlets.filter (!isIt ·) }
    return some found

/-- Prints a text to a target that was evaluated. -/
def emit (isCommand appends : Bool) (name text : String) : Run Unit := do
  let m ← get
  let m ← ofExcept (m.putTo isCommand appends name text)
  set m

/-- A format filled with values. -/
def filled (utility : String) (args : List Value) : Run String := do
  let m ← get
  match args with
  | [] => return ""
  | format :: args =>
    let format := m.textOf format
    match formatted m.conversion format args with
    | .ok text => return text
    | .error (fault, state) =>
      if utility == "printf" then modify fun m => m.put state.text
      match fault with
      | .missing => Run.fault s!"not enough arguments passed to {utility}(\"{format}\")"
      | .improper n =>
        Run.fault s!"improper conversion(number {n}) in {utility}(\"{format}\")"

/-! ## Functions that take values -/

def callPlain (name : String) (args : List Value) : Run Value := do
  let m ← get
  let number (i : Nat) : Float := ((args[i]?).getD .absent).toNumber
  let text (i : Nat) : String := m.textOf ((args[i]?).getD .absent)
  match name with
  | "substr" => return .text (part (text 0) (number 1) (args[2]?.map (·.toNumber)))
  | "index" => return .ofNat (indexOf (text 0) (text 1))
  | "tolower" => return .text ((text 0).map Char.toLower)
  | "toupper" => return .text ((text 0).map Char.toUpper)
  | "sprintf" => return .text (← filled "sprintf" args)
  | "sin" => return .number (Float.sin (number 0))
  | "cos" => return .number (Float.cos (number 0))
  | "atan2" => return .number (Float.atan2 (number 0) (number 1))
  | "exp" => return .number (Float.exp (number 0))
  | "log" => return .number (Float.log (number 0))
  | "sqrt" => return .number (Float.sqrt (number 0))
  | "int" =>
    let x := number 0
    return .number (if x < 0.0 then x.ceil else x.floor)
  | "rand" =>
    let x := nextRandom m.random
    set { m with random := x }
    return .number ((x >>> 11).toFloat / 9007199254740992.0)
  | "srand" =>
    let old := m.seed
    let seed := if args.isEmpty then 1.0 else number 0
    set { m with seed, random := nextRandom (seed.toBits ||| 1) }
    return .number old
  | "system" =>
    modify Machine.flush
    return .ofNat (statusOf (← shell (text 0) none false))
  | "close" => close (text 0)
  | "fflush" =>
    let isOpen := args.isEmpty || m.outlets.any (·.name == text 0) || text 0 == "/dev/stdout"
    modify Machine.flush
    return .number (if isOpen then 0.0 else -1.0)
  | "systime" => return .number 1700000000.0
  | "mktime" => return .number (-1.0)
  | "strftime" => return .text (text 0)
  | _ => return .absent

/-- The separator that a value says. -/
def separatorFor (v : Value) : Run Machine.Separator := do
  let m ← get
  ofExcept (Machine.separatorOf (m.textOf v) fun text => (m.patternOf text).map (·.1))

/-! ## Expressions and actions -/

mutual

/-- The value of an expression. -/
def eval : Nat → Expr → Run Value
  | 0, _ => fail "too deep"
  | fuel + 1, e =>
    match e with
    | .number x => return .number x
    | .text s => return .text s
    | .regex p => do
      let m ← change fun m => ((), m.join)
      let _ := m
      let m ← get
      return .ofBool (p.isIn (Text.Octets.toBytes (m.textOf m.record)))
    | .var name => load name
    | .element table keys => do
      let place ← elementOf fuel table keys
      loadAt place
    | .field index => do
      let index ← fieldOf (← eval fuel index)
      change fun m => m.field index
    | .assign target value => do
      let place ← placeOf fuel target
      let v ← eval fuel value
      storeAt place v
      return v
    | .update operation target value => do
      let place ← placeOf fuel target
      let v ← eval fuel value
      let old ← loadAt place
      let result := Value.number (compute operation old.toNumber v.toNumber)
      storeAt place result
      return result
    | .step operation before target => do
      let place ← placeOf fuel target
      let old := (← loadAt place).toNumber
      let new := compute operation old 1.0
      storeAt place (.number new)
      return .number (if before then new else old)
    | .arithmetic operation first second => do
      let x ← eval fuel first
      let y ← eval fuel second
      return .number (compute operation x.toNumber y.toNumber)
    | .minus body => return .number (-(← eval fuel body).toNumber)
    | .plus body => return .number (← eval fuel body).toNumber
    | .negation body => return .ofBool (!(← eval fuel body).isTrue)
    | .relation relation first second => do
      let x ← eval fuel first
      let y ← eval fuel second
      let m ← get
      return .ofBool (holds relation (x.compare m.conversion y))
    | .fits negated subject pattern => do
      let v ← eval fuel subject
      let p ← patternFor fuel pattern
      let m ← get
      return .ofBool (p.isIn (Text.Octets.toBytes (m.textOf v)) != negated)
    | .isIn keys table => do
      let key ← keyFrom fuel keys
      let index ← change fun m => m.tableOf table
      return .ofBool (← change fun m => m.withTable index fun t => t.has key)
    | .both first second => do
      if (← eval fuel first).isTrue then return .ofBool (← eval fuel second).isTrue
      else return .ofBool false
    | .either first second => do
      if (← eval fuel first).isTrue then return .ofBool true
      else return .ofBool (← eval fuel second).isTrue
    | .conditional condition first second => do
      if (← eval fuel condition).isTrue then eval fuel first else eval fuel second
    | .join first second => do
      let x ← eval fuel first
      let y ← eval fuel second
      let m ← get
      return .text (m.textOf x ++ m.textOf y)
    | .group parts =>
      match parts with
      | [e] => eval fuel e
      | parts => do
        let values ← evalAll fuel parts
        let m ← get
        return .text ((m.textVariable "SUBSEP").intercalate (values.map m.textOf))
    | .call function args => call fuel function args
    | .builtin name args => builtin fuel name args
    | .readLine target => do
      let m ← get
      let (found, m) ← ofExcept (m.readMain Machine.fileLimit)
      set m
      match found, target with
      | none, _ => return .number 0.0
      | some line, none =>
        modify fun m => m.setRecord (.input line)
        return .number 1.0
      | some line, some target =>
        storeAt (← placeOf fuel target) (.input line)
        return .number 1.0
    | .readFile target file => do
      let v ← eval fuel file
      readInto fuel target (← get) v false
    | .readCommand target command => do
      let v ← eval fuel command
      readInto fuel target (← get) v true

/-- Reads a line from a file or a command. -/
def readInto : Nat → Option Expr → Machine → Value → Bool → Run Value
  | 0, _, _, _, _ => fail "too deep"
  | fuel + 1, target, m, v, isCommand => do
    match ← readFrom (m.textOf v) isCommand with
    | none => return .number (-1.0)
    | some none => return .number 0.0
    | some (some line) =>
      match target with
      | none => modify fun m => m.setRecord (.input line)
      | some target => storeAt (← placeOf fuel target) (.input line)
      return .number 1.0

def evalAll : Nat → List Expr → Run (List Value)
  | 0, _ => fail "too deep"
  | _ + 1, [] => return []
  | fuel + 1, e :: rest => do
    let v ← eval fuel e
    let values ← evalAll fuel rest
    return v :: values

/-- The key that expressions say. -/
def keyFrom : Nat → List Expr → Run Key
  | 0, _ => fail "too deep"
  | fuel + 1, keys => do
    match keys with
    | [e] =>
      match e with
      | .group [e] => keyOf (← eval fuel e)
      | e => keyOf (← eval fuel e)
    | keys =>
      let values ← evalAll fuel keys
      let m ← get
      return .text ((m.textVariable "SUBSEP").intercalate (values.map m.textOf))

def elementOf : Nat → Name → List Expr → Run Place
  | 0, _, _ => fail "too deep"
  | fuel + 1, table, keys => do
    let key ← keyFrom fuel keys
    let index ← change fun m => m.tableOf table
    return .element index key

/-- The place that an expression names. -/
def placeOf : Nat → Expr → Run Place
  | 0, _ => fail "too deep"
  | fuel + 1, e => do
    match e with
    | .var name => return .var name
    | .element table keys => elementOf fuel table keys
    | .field index => return .field (← fieldOf (← eval fuel index))
    | _ => fail "not a variable"

/-- The pattern that an expression stands for. -/
def patternFor : Nat → Expr → Run Pattern
  | 0, _ => fail "too deep"
  | fuel + 1, e => do
    match e with
    | .regex p => return p
    | e => patternOf (← eval fuel e)

/-- The value of a call of a function of the language. -/
def builtin : Nat → String → List Expr → Run Value
  | 0, _, _ => fail "too deep"
  | fuel + 1, name, args => do
    match name, args with
    | "length", [] =>
      let v ← change fun m => m.field 0
      return .ofNat ((← get).textOf v).length
    | "length", [.var target] =>
      if isTable (← get) target then
        let index ← change fun m => m.tableOf target
        return .ofNat (((← get).tables[index]?).getD {}).size
      else
        let v ← load target
        return .ofNat ((← get).textOf v).length
    | "length", e :: _ =>
      let v ← eval fuel e
      return .ofNat ((← get).textOf v).length
    | "split", text :: .var table :: separator =>
      let v ← eval fuel text
      let text := (← get).textOf v
      let separator ← match separator with
        | [] => separatorFor (Value.text ((← get).textVariable "FS"))
        | .regex p :: _ => pure (.pattern p)
        | e :: _ => separatorFor (← eval fuel e)
      let parts := Machine.splitBy separator text
      let index ← change fun m => m.tableOf table
      modify fun m => m.changeTable index fun _ => Table.ofList (parts.map Value.input)
      return .ofNat parts.length
    | "match", [text, pattern] =>
      let v ← eval fuel text
      let p ← patternFor fuel pattern
      let bytes := Text.Octets.toBytes ((← get).textOf v)
      let (start, length) : Value × Value := match p.find? { bytes } 0 with
        | some hit => (.ofNat (hit.start + 1), .ofNat (hit.stop - hit.start))
        | none => (.number 0.0, .number (-1.0))
      store (.shared "RSTART") start
      store (.shared "RLENGTH") length
      return start
    | "sub", pattern :: by_ :: target => substitute fuel false pattern by_ target
    | "gsub", pattern :: by_ :: target => substitute fuel true pattern by_ target
    | name, args => callPlain name (← evalAll fuel args)

/-- Replaces matches in a variable, or in the record. -/
def substitute : Nat → Bool → Expr → Expr → List Expr → Run Value
  | 0, _, _, _, _ => fail "too deep"
  | fuel + 1, all, pattern, by_, target => do
    let p ← patternFor fuel pattern
    let replacement ← eval fuel by_
    let place : Place ← match target with
      | [] => pure (.field 0)
      | e :: _ =>
        match e with
        | .var name => pure (.var name)
        | .element table keys => elementOf fuel table keys
        | .field index => pure (.field (← fieldOf (← eval fuel index)))
        | _ => fail "line 1: syntax error at or near ,"
    let v ← loadAt place
    let m ← get
    let bytes := Text.Octets.toBytes (m.textOf v)
    let text := m.textOf replacement
    let pieces := piecesOf (text.length + 1) text.toList
    let (count, result) := replaceIn p pieces all bytes (bytes.size + 3) 0 none 0 .empty
    if 0 < count then storeAt place (.text (Text.Octets.ofBytes result))
    return .ofNat count

/-- What the arguments of a function put into its variables. -/
def slots : Nat → List Bool → List Expr → Run (List Slot)
  | 0, _, _ => fail "too deep"
  | _ + 1, _, [] => return []
  | fuel + 1, tables, e :: rest => do
    let slot : Slot ← match e with
      | .var name =>
        if tables.headD false || isTable (← get) name then
          pure (.table (← change fun m => m.tableOf name))
        else pure (.value (← load name))
      | e => pure (.value (← eval fuel e))
    let more ← slots fuel (tables.drop 1) rest
    return slot :: more

/-- Calls a function of the script. -/
def call : Nat → String → List Expr → Run Value
  | 0, _, _ => fail "too deep"
  | fuel + 1, name, args => do
    match (← get).script.function? name with
    | none => fail s!"function {name} never defined"
    | some f =>
      let given ← slots fuel f.tables args
      let m ← get
      let saved := m.frame
      let count := m.tables.size
      let named := m.places.size
      let missing := List.replicate (f.arity - given.length) (Slot.value .absent)
      set { m with frame := (given ++ missing).toArray }
      let flow ← perform fuel f.body
      modify fun m =>
        let tables := if m.places.size = named then m.tables.take count else m.tables
        { m with frame := saved, tables }
      match flow with
      | .return_ v => return v
      | _ => return .absent

/-- Does what an action says. -/
def perform : Nat → Action → Run Flow
  | 0, _ => fail "too deep"
  | fuel + 1, action =>
    match action with
    | .nothing => return .on
    | .block body => performAll fuel body
    | .value e => do
      let _ ← eval fuel e
      return .on
    | .print args target => do
      let text ← match args with
        | [] => do
          let v ← change fun m => m.field 0
          pure ((← get).textOf v)
        | args => do
          let values ← evalAll fuel args
          let m ← get
          let number := match m.globals["OFMT"]? with
            | some v => numberBy (v.toText shortText)
            | none => shortText
          pure ((m.textVariable "OFS").intercalate (values.map (·.toText number)))
      let text := text ++ (← get).textVariable "ORS"
      sendTo fuel target text
    | .format args target => do
      let values ← evalAll fuel args
      let text ← filled "printf" values
      sendTo fuel target text
    | .branch condition first second => do
      if (← eval fuel condition).isTrue then perform fuel first
      else
        match second with
        | some second => perform fuel second
        | none => return .on
    | .loop condition body => fun m => repeatWhile fuel (some condition) body none m
    | .loopAfter body condition => do
      match ← turn fuel none body none with
      | some flow => return flow
      | none => fun m => repeatWhile fuel (some condition) body none m
    | .count start condition step body => do
      match start with
      | some start =>
        let _ ← perform fuel start
      | none => pure ()
      fun m => repeatWhile fuel condition body step m
    | .each name table body => do
      let index ← change fun m => m.tableOf table
      let keys ← change fun m => m.withTable index fun t => t.keys
      fun m => repeatEach fuel name body keys m
    | .break_ => return .break_
    | .continue_ => return .continue_
    | .next => return .next
    | .nextFile => return .nextFile
    | .exit status => do
      match status with
      | some e =>
        let v ← eval fuel e
        modify fun m => { m with status := (wholeOf v.toNumber % 256).toNat }
      | none => pure ()
      throw .exit
    | .return_ value => do
      match value with
      | some e => return .return_ (← eval fuel e)
      | none => return .return_ .absent
    | .delete table keys => do
      let key ← keyFrom fuel keys
      let index ← change fun m => m.tableOf table
      modify fun m => m.changeTable index fun t => t.erase key
      return .on
    | .deleteAll table => do
      let index ← change fun m => m.tableOf table
      modify fun m => m.changeTable index fun _ => {}
      return .on

/-- Prints a text to a target. -/
def sendTo : Nat → Target → String → Run Flow
  | 0, _, _ => fail "too deep"
  | fuel + 1, target, text => do
    let send (isCommand appends : Bool) (v : Value) : Run Flow := do
      emit isCommand appends ((← get).textOf v) text
      return .on
    match target with
    | .output =>
      modify fun m => m.put text
      return .on
    | .file e => send false false (← eval fuel e)
    | .append e => send false true (← eval fuel e)
    | .command e => send true false (← eval fuel e)

def performAll : Nat → List Action → Run Flow
  | 0, _ => fail "too deep"
  | _ + 1, [] => return .on
  | fuel + 1, action :: rest => do
    match ← perform fuel action with
    | .on => performAll fuel rest
    | flow => return flow

/-- One turn of a loop; how it ends, if it does. -/
def turn : Nat → Option Expr → Action → Option Action → Run (Option Flow)
  | 0, _, _, _ => fail "too deep"
  | fuel + 1, condition, body, step => do
    let goesOn ← match condition with
      | some e => pure (← eval fuel e).isTrue
      | none => pure true
    if !goesOn then return some .on
    else
      match ← perform fuel body with
      | .on | .continue_ =>
        match step with
        | some step =>
          let _ ← perform fuel step
          return none
        | none => return none
      | .break_ => return some .on
      | flow => return some flow

/-- Takes the turns of a loop. -/
def repeatWhile : Nat → Option Expr → Action → Option Action → Machine →
    Work (Except Halt Flow × Machine)
  | 0, _, _, _, m => .done (.error (.failed "too deep"), m)
  | fuel + 1, condition, body, step, m =>
    match turn fuel condition body step m with
    | .done (.ok none, m) => repeatWhile fuel condition body step m
    | .done (.ok (some flow), m) => .done (.ok flow, m)
    | .done (.error halt, m) => .done (.error halt, m)
    | .run request next => .run request fun outcome =>
      (next outcome).bind fun result =>
        match result with
        | (.ok none, m) => repeatWhile fuel condition body step m
        | (.ok (some flow), m) => .done (.ok flow, m)
        | (.error halt, m) => .done (.error halt, m)

/-- Takes one turn for each of some keys. -/
def repeatEach : Nat → Name → Action → List String → Machine → Work (Except Halt Flow × Machine)
  | 0, _, _, _, m => .done (.error (.failed "too deep"), m)
  | _ + 1, _, _, [], m => .done (.ok .on, m)
  | fuel + 1, name, body, key :: rest, m =>
    let first : Run Flow := do
      store name (.text key)
      perform fuel body
    match first m with
    | .done (.ok .on, m) | .done (.ok .continue_, m) => repeatEach fuel name body rest m
    | .done (.ok .break_, m) => .done (.ok .on, m)
    | .done (result, m) => .done (result, m)
    | .run request next => .run request fun outcome =>
      (next outcome).bind fun result =>
        match result with
        | (.ok .on, m) | (.ok .continue_, m) => repeatEach fuel name body rest m
        | (.ok .break_, m) => .done (.ok .on, m)
        | (result, m) => .done (result, m)

end

/-! ## Rules -/

/-- How deep calls may go. -/
def depth : Nat := 1000000000

/-- Whether a rule is to be followed for the record. -/
def applies (index : Nat) : Condition → Run Bool
  | .always => return true
  | .when e => return (← eval depth e).isTrue
  | .between first last => do
    let inside := ((← get).within[index]?).getD false
    let starts ← if inside then pure true else pure (← eval depth first).isTrue
    if !starts then return false
    else
      let ends := (← eval depth last).isTrue
      modify fun m => { m with within := m.within.set! index !ends }
      return true

/-- Follows the rules for a record. -/
def followAll : Nat → List Rule → Run Flow
  | _, [] => return .on
  | index, rule :: rest => do
    if ← applies index rule.condition then
      let action := rule.action.getD (.print [] .output)
      match ← perform depth action with
      | .on => followAll (index + 1) rest
      | flow => return flow
    else followAll (index + 1) rest

/-- Reads a record and follows the rules for it; whether there was one. -/
def nextTurn : Run Bool := do
  let m ← get
  let (found, m) ← ofExcept (m.readMain Machine.fileLimit)
  set m
  match found with
  | none => return false
  | some text =>
    modify fun m => m.setRecord (.input text)
    match ← followAll 0 (← get).script.rules with
    | .nextFile => modify fun m => { m with source := none }
    | _ => pure ()
    return true

/-- Goes through the records. -/
def allRecords : Nat → Machine → Work (Except Halt Unit × Machine)
  | 0, m => .done (.ok (), m)
  | fuel + 1, m =>
    match nextTurn m with
    | .done (.ok true, m) => allRecords fuel m
    | .done (.ok false, m) => .done (.ok (), m)
    | .done (.error halt, m) => .done (.error halt, m)
    | .run request next => .run request fun outcome =>
      (next outcome).bind fun result =>
        match result with
        | (.ok true, m) => allRecords fuel m
        | (.ok false, m) => .done (.ok (), m)
        | (.error halt, m) => .done (.error halt, m)

/-- What is done before the records are read, and with them. -/
def beginning : Run Unit := do
  let script := (← get).script
  for action in script.starts do
    let _ ← perform depth action
  if !script.rules.isEmpty || !script.ends.isEmpty then
    fun m => allRecords depth m

/-- What is done after the records. -/
def ending : Run Unit := do
  modify fun m => { m with frame := #[] }
  for action in (← get).script.ends do
    let _ ← perform depth action

/-- Runs a part of a script; whether it failed. -/
def guarded (act : Run Unit) : StateT Machine Work Bool := do
  match ← act.run with
  | .ok () | .error .exit => return false
  | .error (.failed text) =>
    modify fun m =>
      let title := lastPart m.call.name
      { m with status := 2, answer := m.answer.printError s!"{title}: {text}\n" }
    return true
where
  lastPart (path : String) : String :=
    String.ofList ((path.toList.reverse.takeWhile (· != '/')).reverse)

/-- Runs a script to its end. -/
def whole : StateT Machine Work Answer := do
  let failed ← guarded beginning
  if !failed then
    let _ ← guarded ending
  let _ ← guarded (closeCommands (((← get).outlets.length) + 1))
  modify Machine.flush
  let m ← get
  return { m.answer with status := m.status }

end Run

end Bindery.Utility.Awk
