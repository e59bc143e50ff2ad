import Bindery.Shell.Lookup
import Bindery.Shell.Words
import Bindery.Utility.Catalogue

/-!
# Running scripts

`runShell` runs the shell on its arguments. Statements run by functions on the state of the script;
programs run by functions on the same state, which say what the streams and files are after them.

A part in the background runs at once as far as it goes without sleeping; what is left of it waits
for the time at which it goes on, and runs when the script waits or sleeps long enough.

The functions are bounded by a number that goes down with each call inside another, among them the
turns of a loop.
-/

namespace Bindery.Shell

/-- The file that a stream reads or writes, and where in it. -/
def fileOf (s : State) (stream : Nat) : Option (Location × Nat) :=
  match s.streams.file? stream with
  | some file =>
    match file.channel with
    | .file place => some (place, file.offset)
    | _ => none
  | none => none

/-- Writes what a utility wrote, and notes its status. -/
def deliver (s : State) (name : String) (a : Utility.Answer) : State :=
  let s := { s with streams := s.streams.afterWork a.tree }
  let taken := if a.drains then ((s.streams.unread 0).toOption.map ByteArray.size).getD 0
    else a.taken
  let s := if taken = 0 then s else { s with streams := s.streams.skip 0 taken }
  let s := a.written.foldl (fun (s : State) (stream, text) =>
    match s.streams.write stream text with
    | .ok streams => { s with streams }
    | .error e =>
      if e = .brokenPipe then { s with killed := some 13 }
      else if stream = 1 && !text.isEmpty then
        (s.print 2 s!"{name}: write error: {e.reason}\n").withStatus 1
      else s) (s.withStatus a.status)
  match s.killed.orElse fun _ => a.killed with
  | some n => { s with killed := some n, flow := .ended (.signalled n false) }
  | none => s

/-- What a utility is given by a script. -/
def callOf (s : State) (name : String) (args : List String) : Utility.Call :=
  { name := name
    args := args
    input := s.streams.unread 0
    source := fileOf s 0
    tree := s.tree
    output := fileOf s 1
    mute := (s.streams.file? 1).isNone
    environment := s.environment
    mask := s.mask
    process := s.lastProcess + 1 }

/-- The state of a program that a utility wants to be run, and the key of what it writes. -/
def stateFor (s : State) (request : Utility.Request) : State × Nat :=
  let child := s.fork
  let child := match request.environment with
    | some environment => child.withEnvironment environment
    | none => child
  let child := match request.directory with
    | some place => child.withTree { child.tree with cwd := place }
    | none => child
  let child := match request.input with
    | some bytes =>
      let (streams, key) := child.streams.pushText bytes
      { child with streams := streams.assign 0 key }
    | none => child
  if request.captures then
    let (streams, key) := child.streams.push ⟨.memory {}, 0, false⟩
    ({ child with streams := streams.assign 1 key }, key)
  else (child, 0)

/-- The text of a file that holds a script. -/
def scriptOf (node : Node) : List Char :=
  (Text.Octets.ofBytes (node.read.toOption.getD .empty)).toList.filter (· != '\x00')

/-- The process that a word names. -/
def processOf (s : State) (word : String) : Except String (Option (Job State)) := do
  if word.startsWith "%" then
    let number := (word.drop 1).toString
    let found := match number with
      | "" | "%" | "+" => s.jobs.head?
      | "-" => s.jobs[1]?
      | number => number.toNat?.bind fun n => if n = 0 then none else s.jobs.reverse[n - 1]?
    match found with
    | some job => return some job
    | none => throw s!"No such job: {word}"
  else
    let n ← Builtin.count word
    return s.jobs.find? (·.process = n)

/-- A line for a part of a script in the background. -/
def jobLine (s : State) (job : Job State) (index : Nat) : String :=
  let mark :=
    if s.jobs.head?.any (·.process = job.process) then "+"
    else if s.jobs[1]?.any (·.process = job.process) then "-" else " "
  let title := match job.status with
    | none => "Running"
    | some 0 => "Done"
    | some n => if 128 < n then ExitStatus.signalTitle (n - 128) else s!"Done({n})"
  s!"[{index}] {mark} " ++ Utility.padRight 27 title ++ "\n"

/-- How deep calls may go. -/
def depth : Nat := 1000000000

mutual

/-- Runs statements and takes what they write. -/
def captureOutput : Nat → State → Statement → State × String
  | 0, s, _ => (s.die none "too deep", "")
  | fuel + 1, s, body =>
    let (streams, key) := s.streams.push ⟨.memory {}, 0, false⟩
    let child := { s with streams := streams.assign 1 key }.fork
    let child := finishJobs fuel (finishChild fuel (runStatement fuel child false body))
    let text := Text.Octets.ofBytes (child.streams.contentAt key)
    let cs := (text.toList.filter (· != '\x00')).reverse.dropWhile (· == '\n')
    let after := s.join child
    ({ after with status := s.status, outputStatus := child.code }, String.ofList cs.reverse)

/-- Runs a statement. In a tested position, a failure does not end the script. -/
def runStatement : Nat → State → Bool → Statement → State
  | 0, s, _, _ => s.die none "too deep"
  | fuel + 1, s, tested, statement =>
    if s.has 'n' then s
    else
      match statement with
      | .simple line assignments words redirections =>
        let s := runSimple fuel { s with line } tested assignments words redirections
        (runPending fuel s).checkFailure tested
      | .redirected line body redirections =>
        let (planned, plans) := planAll (captureOutput fuel) { s with line } redirections
        if !planned.isRunning then planned
        else
          let (opened, done) := applyPlans true planned plans
          let after := if done then runStatement fuel opened tested body else opened.withStatus 2
          after.restoreStreams s (plans.map Plan.stream)
      | .sequence first second =>
        let s := runStatement fuel s tested first
        if s.isRunning then runStatement fuel s tested second else s
      | .conjunction first second =>
        let s := runStatement fuel s true first
        if s.isRunning && s.status == 0 then runStatement fuel s tested second else s
      | .disjunction first second =>
        let s := runStatement fuel s true first
        if s.isRunning && s.status != 0 then runStatement fuel s tested second else s
      | .negation body =>
        let s := runStatement fuel s true body
        if s.isRunning then s.withStatus (if s.status == 0 then 1 else 0) else s
      | .pipeline stages => (runStages fuel s tested none stages).checkFailure tested
      | .background body => runBackground fuel s body
      | .subshell line body redirections =>
        let (planned, plans) := planAll (captureOutput fuel) { s with line } redirections
        if !planned.isRunning then planned
        else
          let (child, done) := applyPlans false planned.fork plans
          let child := if done then finishChild fuel (runStatement fuel child tested body)
            else child.finish 2
          (advance fuel (s.join child)).checkFailure tested
      | .branch condition body otherwise =>
        let s := runStatement fuel s true condition
        if !s.isRunning then s
        else if s.status == 0 then runStatement fuel s tested body
        else
          match otherwise with
          | some other => runStatement fuel s tested other
          | none => s.withStatus 0
      | .loop while_ condition body =>
        let after := runLoop fuel { s with loops := s.loops + 1 } tested while_ condition body 0
        { after with loops := s.loops }
      | .each line name words body =>
        let (expanded, values) := match words with
          | some words => expandWords (captureOutput fuel) { s with line } words
          | none => (s, s.parameters)
        if !expanded.isRunning then expanded
        else
          let start := { expanded with loops := s.loops + 1 }
          let after := if values.isEmpty then start.withStatus 0
            else runEach fuel start tested name body values
          { after with loops := s.loops }
      | .select line subject cases =>
        let (s, text) := expandText (captureOutput fuel) { s with line } {} subject
        if s.isRunning then runCases fuel s tested text.toList cases else s
      | .define name body =>
        { s with functions := (name, body) :: s.functions.filter (·.1 != name), status := 0 }

/-- Runs the stages of a pipeline, each on what the one before it wrote. -/
def runStages : Nat → State → Bool → Option ByteArray → List Statement → State
  | 0, s, _, _, _ => s.die none "too deep"
  | _ + 1, s, _, _, [] => s
  | fuel + 1, s, tested, input, stage :: rest =>
    let streams := match input with
      | some bytes =>
        let (streams, key) := s.streams.pushText bytes
        streams.assign 0 key
      | none => s.streams
    let (streams, key) :=
      if rest.isEmpty then (streams, 0)
      else
        let (streams, key) := streams.push ⟨.pipe {}, 0, false⟩
        (streams.assign 1 key, key)
    let child := finishChild fuel (runStatement fuel { s with streams }.fork tested stage)
    let child := if rest.isEmpty then child else finishJobs fuel child
    let after := advance fuel (s.join child)
    if rest.isEmpty || !after.isRunning then after
    else runStages fuel after tested (some (child.streams.contentAt key)) rest

/-- Runs the turns of a loop; `status` is how its last body ended. -/
def runLoop : Nat → State → Bool → Bool → Statement → Statement → Nat → State
  | 0, s, _, _, _, _, _ => s.die none "too deep"
  | fuel + 1, s, tested, while_, condition, body, status =>
    let tried := runStatement fuel s true condition
    let (s, goesOn) := tried.afterTurn
    if tried.flow != .running then
      if goesOn then runLoop fuel s tested while_ condition body status else s
    else if (s.status == 0) != while_ then s.withStatus status
    else
      let after := runStatement fuel s tested body
      let (s, goesOn) := after.afterTurn
      if goesOn then runLoop fuel s tested while_ condition body s.status else s

/-- Runs the body of a loop for each of some values. -/
def runEach : Nat → State → Bool → String → Statement → List String → State
  | 0, s, _, _, _, _ => s.die none "too deep"
  | _ + 1, s, _, _, _, [] => s
  | fuel + 1, s, tested, name, body, value :: rest =>
    let s := s.assign name value false
    if !s.isRunning then s
    else
      let (s, goesOn) := (runStatement fuel s tested body).afterTurn
      if goesOn then runEach fuel s tested name body rest else s

/-- Runs the first case of which a pattern fits. -/
def runCases : Nat → State → Bool → List Char → List (List Word × Option Statement) → State
  | 0, s, _, _, _ => s.die none "too deep"
  | _ + 1, s, _, _, [] => s.withStatus 0
  | fuel + 1, s, tested, subject, (patterns, body) :: rest =>
    let (s, fits) := anyFits (captureOutput fuel) s subject patterns
    if !s.isRunning then s
    else if !fits then runCases fuel s tested subject rest
    else
      match body with
      | some body => runStatement fuel s tested body
      | none => s.withStatus 0

/-- Sends a statement to the background. -/
def runBackground : Nat → State → Statement → State
  | 0, s, _ => s.die none "too deep"
  | fuel + 1, s, body =>
    let process := s.lastProcess + 1
    let s := { s with lastProcess := process, lastJob := some process }
    let (streams, key) := s.streams.push ⟨.null, 0, false⟩
    let child := { s with streams := streams.assign 0 key }.fork
    let s := { s with jobs := ⟨process, none, none⟩ :: s.jobs }
    (continueJob fuel s process child body).withStatus 0

/-- Goes on with a part in the background, and notes how far it comes. -/
def continueJob : Nat → State → Nat → State → Statement → State
  | 0, s, _, _, _ => s.die none "too deep"
  | fuel + 1, s, process, child, body =>
    let (child, rest) := runAwake fuel child body
    match rest with
    | some (rest, waking) =>
      let streams :=
        { child.streams with
          tree := { child.tree with cwd := s.tree.cwd }, numbers := s.streams.numbers }
      let s := { s with streams, lastProcess := child.lastProcess }
      s.putJob ⟨process, none, some (child, rest, waking)⟩
    | none =>
      let child := finishChild fuel child
      let clock := s.clock
      let status := s.status
      { (s.join child) with clock, status }.putJob ⟨process, some child.code, none⟩

/-- Runs a statement until it sleeps; the result holds what is left of it then, and when it goes
on. -/
def runAwake : Nat → State → Statement → State × Option (Statement × Nat)
  | 0, s, _ => (s.die none "too deep", none)
  | fuel + 1, s, statement =>
    match statement with
    | .simple line [] words [] =>
      match sleepOf? words with
      | some duration => (s, some (.simple line [] [] [], s.clock + duration))
      | none => (runStatement fuel s false statement, none)
    | .sequence first second =>
      match runAwake fuel s first with
      | (s, some (rest, waking)) => (s, some (.sequence rest second, waking))
      | (s, none) => if s.isRunning then runAwake fuel s second else (s, none)
    | .conjunction first second =>
      match runAwake fuel s first with
      | (s, some (rest, waking)) => (s, some (.conjunction rest second, waking))
      | (s, none) =>
        if s.isRunning && s.status == 0 then runAwake fuel s second else (s, none)
    | .disjunction first second =>
      match runAwake fuel s first with
      | (s, some (rest, waking)) => (s, some (.disjunction rest second, waking))
      | (s, none) =>
        if s.isRunning && s.status != 0 then runAwake fuel s second else (s, none)
    | .subshell line body redirections =>
      let (planned, plans) := planAll (captureOutput fuel) { s with line } redirections
      if !planned.isRunning then (planned, none)
      else
        let (child, done) := applyPlans false planned plans
        if done then runAwake fuel child body else (child.finish 2, none)
    | .redirected line body redirections =>
      let (planned, plans) := planAll (captureOutput fuel) { s with line } redirections
      if !planned.isRunning then (planned, none)
      else
        let (child, done) := applyPlans false planned plans
        if done then runAwake fuel child body else (child.withStatus 2, none)
    | statement => (runStatement fuel s false statement, none)

/-- Goes on with the parts in the background whose time has come. -/
def advance : Nat → State → State
  | 0, s => s.die none "too deep"
  | fuel + 1, s =>
    match s.nextWaking with
    | some (waking, process) =>
      if s.clock < waking then s else advance fuel (wake fuel s process)
    | none => s

/-- Goes on with a part in the background that sleeps. -/
def wake : Nat → State → Nat → State
  | 0, s, _ => s.die none "too deep"
  | fuel + 1, s, process =>
    match s.jobs.find? (·.process = process) with
    | some ⟨_, _, some (child, rest, waking)⟩ =>
      let streams :=
        { s.streams with
          tree := { s.tree with cwd := child.tree.cwd }, numbers := child.streams.numbers }
      let child := { child with streams, clock := waking, lastProcess := s.lastProcess }
      let after := continueJob fuel s process child rest
      { after with clock := max s.clock waking }
    | _ => s

/-- Waits for all parts in the background. -/
def finishJobs : Nat → State → State
  | 0, s => s.die none "too deep"
  | fuel + 1, s =>
    match s.nextWaking with
    | some (_, process) => finishJobs fuel (wake fuel s process)
    | none => s

/-- Waits for a part in the background. -/
def waitFor : Nat → State → Nat → State
  | 0, s, _ => s.die none "too deep"
  | fuel + 1, s, process =>
    match s.jobs.find? (·.process = process), s.nextWaking with
    | some ⟨_, none, _⟩, some (_, first) => waitFor fuel (wake fuel s first) process
    | some ⟨_, some status, _⟩, _ => s.withStatus status
    | _, _ => s.withStatus 127

/-- Waits for the parts in the background that words name. -/
def waitForAll : Nat → State → List String → State
  | 0, s, _ => s.die none "too deep"
  | _ + 1, s, [] => s
  | fuel + 1, s, word :: rest =>
    match processOf s word with
    | .error text => (s.complain "wait" text).withStatus 2
    | .ok none => waitForAll fuel (s.withStatus 127) rest
    | .ok (some job) => waitForAll fuel (waitFor fuel s job.process) rest

/-- Runs a simple command. -/
def runSimple : Nat → State → Bool → List (String × Word) → List Word → List Redirection → State
  | 0, s, _, _, _, _ => s.die none "too deep"
  | fuel + 1, start, tested, assignments, words, redirections =>
    let capture := captureOutput fuel
    let (s, texts) := expandWords capture { start with outputStatus := 0 } words
    if !s.isRunning then s
    else
      let command := texts.dropWhile (· == "command")
      let isSpecial := texts.head?.any Builtin.special.contains
      let stays := texts.isEmpty || isSpecial
      let (s, plans) := planAll capture s redirections
      if !s.isRunning then s
      else
        let before := s
        let changed := plans.map Plan.stream
        let (s, done) := applyPlans true s plans
        if !done then
          let s := (s.withStatus 2).restoreStreams before changed
          if isSpecial then s.finish 2 else s
        else
          let names := assignments.map (·.1)
          let saved := s.snapshot names
          let exported := !stays || (command.head? = some "exec" && 1 < command.length)
          let (s, values) := assignAll capture s exported assignments
          if !s.isRunning then s.restoreStreams before changed
          else
            let s := trace s before values texts
            let keepsStreams := texts = ["exec"]
            let s := if texts.isEmpty then s.withStatus s.outputStatus
              else runCommand fuel s tested texts
            let s := if stays then s else saved.foldl State.restore s
            if keepsStreams then s else s.restoreStreams before changed

/-- Runs a command, given its name and arguments. -/
def runCommand : Nat → State → Bool → List String → State
  | 0, s, _, _ => s.die none "too deep"
  | _ + 1, s, _, [] => s
  | fuel + 1, s, tested, name :: args =>
    if Builtin.special.contains name then runBuiltin fuel s tested name args
    else
      match s.functions.lookup name with
      | some body => runFunction fuel s tested body args
      | none =>
        if Builtin.isBuiltin name then runBuiltin fuel s tested name args
        else runProgram fuel s name name args

/-- Calls a function. -/
def runFunction : Nat → State → Bool → Statement → List String → State
  | 0, s, _, _, _ => s.die none "too deep"
  | fuel + 1, s, tested, body, args =>
    if callLimit ≤ s.calls then
      s.die none s!"Maximum function recursion depth ({callLimit}) reached"
    else
      let called :=
        { s.findOptionsAt 1 with
          parameters := args, hidden := [] :: s.hidden, loops := 0, calls := s.calls + 1 }
      let after := runStatement fuel called tested body
      let after := ((after.hidden.head?).getD []).foldl State.restore after
      { after with
        parameters := s.parameters
        optionIndex := s.optionIndex
        optionOffset := s.optionOffset
        hidden := s.hidden
        loops := s.loops
        calls := s.calls
        flow := if after.flow == .returning then .running else after.flow }

/-- Runs a builtin command. -/
def runBuiltin : Nat → State → Bool → String → List String → State
  | 0, s, _, _, _ => s.die none "too deep"
  | fuel + 1, s, tested, name, args =>
    let fail (text : String) : State :=
      let s := (s.complain name text).withStatus 2
      if Builtin.special.contains name then s.finish 2 else s
    match name with
    | "eval" =>
      let text := " ".intercalate (args.dropWhile (· == "--"))
      let inside := { (s.withStatus 0).nested with context := some name }
      if !inside.isRunning then inside
      else
        let after := runText fuel inside tested { rest := text.toList } s.status 0
        { after with context := s.context, nesting := s.nesting }
    | "." => runFile fuel s (args.dropWhile (· == "--"))
    | "exec" =>
      match args.dropWhile (· == "--") with
      | [] => s.withStatus 0
      | program :: args =>
        let s := runProgram fuel s "exec" program args
        if s.isRunning then { s with traps := [] }.finish s.status else s
    | "command" =>
      match Builtin.options [('p', false), ('v', false), ('V', false)] args with
      | .error text => fail text
      | .ok (found, words) => runPlain fuel s tested (found.map (·.1)) words
    | "type" =>
      let (s, text, missing) := args.foldl (fun (s, text, missing) word =>
        match describeCommand s word true with
        | (s, some line) => (s, text ++ line ++ "\n", missing)
        | (s, none) => (s, text ++ word ++ ": not found\n", true))
        (s, "", false)
      Builtin.output s "type" text (if missing then 127 else 0)
    | "hash" =>
      match Builtin.options [('r', false)] args with
      | .error text => fail text
      | .ok (_ :: _, _) => { s with tracked := [], status := 0 }
      | .ok ([], []) =>
        Builtin.output s "hash" (String.join ((inChains 31 s.tracked).map (·.2 ++ "\n"))) 0
      | .ok ([], words) =>
        words.foldl (fun (s : State) word =>
          match describeCommand s word false with
          | (s, some _) => s
          | (s, none) => (s.complain "hash" s!"{word}: not found").withStatus 1) (s.withStatus 0)
    | "jobs" =>
      let jobs := s.jobs.reverse.zipIdx
      let text := String.join (jobs.map fun (job, i) => jobLine s job (i + 1))
      Builtin.output { s with jobs := s.jobs.filter (·.status.isNone) } "jobs" text 0
    | "wait" =>
      match Builtin.operands args with
      | .error text => fail text
      | .ok [] => (finishJobs fuel s).withStatus 0
      | .ok words => waitForAll fuel s words
    | name =>
      match Builtin.action? name with
      | none => s.withStatus 127
      | some action =>
        match action s args with
        | .ok s => s
        | .error text => fail text

/-- Runs a command that is no function, or tells what it is. -/
def runPlain : Nat → State → Bool → List Char → List String → State
  | 0, s, _, _, _ => s.die none "too deep"
  | _ + 1, s, _, _, [] => s.withStatus 0
  | fuel + 1, s, tested, options, name :: args =>
    if options.contains 'v' || options.contains 'V' then
      let long := options.contains 'V'
      match describeCommand s name long with
      | (s, some line) => Builtin.output s "command" (line ++ "\n") 0
      | (s, none) =>
        if long then Builtin.output s "command" (name ++ ": not found\n") 127
        else s.withStatus 127
    else if Builtin.isBuiltin name then
      let after := runBuiltin fuel s tested name args
      let failed := after.status == 2 && after.flow == .ended (.exited 2)
      if failed && name != "exit" && name != "eval" && name != "." && name != "exec" then
        { after with flow := .running }
      else after
    else runProgram fuel s name name args

/-- Runs a program; `command` is what messages call the command. -/
def runProgram : Nat → State → String → String → List String → State
  | 0, s, _, _, _ => s.die none "too deep"
  | fuel + 1, s, command, name, args =>
    match findProgram s name with
    | (_, .failed cause) =>
      let text := s!"{name}: {Found.reason cause}"
      let text := if command = name then text else s!"{command}: {text}"
      -- a name that is looked for counts as unknown if nothing by it can be run
      let isSearched := command = name && !name.toList.contains '/'
      (s.complain none text).withStatus (if isSearched then 127 else Found.status cause)
    | (path, .program program front title) =>
      let s := s.track name path
      let title := title.getD name
      (advance fuel (execute fuel s program title (front ++ args))).afterProgram

/-- Runs a program that has been found, under a name. -/
def execute : Nat → State → String → String → List String → State
  | 0, s, _, _, _ => s.die none "too deep"
  | fuel + 1, s, program, name, args =>
    match program with
    | "sh" => s.join (startShell fuel (s.spawn name) args)
    | "sleep" =>
      let after := runWork fuel s name (Utility.work program (callOf s name args))
      let time := args.filterMap Text.Duration.milliseconds?
      if after.status = 0 then { after with clock := after.clock + time.foldl (· + ·) 0 }
      else after
    | program => runWork fuel s name (Utility.work program (callOf s name args))

/-- Does the work of a utility. -/
def runWork : Nat → State → String → Utility.Work Utility.Answer → State
  | 0, s, _, _ => s.die none "too deep"
  | fuel + 1, s, name, work =>
    match work with
    | .done answer => deliver s name answer
    | .run request next =>
      let s := deliver s name request.before
      if !s.isRunning then s
      else
        let (child, key) := stateFor s request
        let word := request.words.headD ""
        match findProgram child word with
        | (_, .failed cause) =>
          runWork fuel s name (next { tree := s.tree, ending := .error cause })
        | (_, .program program front title) =>
          let args := front ++ request.words.drop 1
          let child := execute fuel child program (title.getD word) args
          let ending : ExitStatus := match child.killed with
            | some n => .signalled n false
            | none => .exited child.code
          let output :=
            if request.captures then Text.Octets.ofBytes (child.streams.contentAt key) else ""
          let elapsed := child.clock - s.clock
          let s := s.join { child with killed := none, flow := .running }
          runWork fuel s name (next { tree := s.tree, ending := .ok ending, output, elapsed })

/-- Runs the statements of a file in this shell. -/
def runFile : Nat → State → List String → State
  | 0, s, _ => s.die none "too deep"
  | fuel + 1, s, args =>
    match args with
    | [] => s.withStatus 0
    | file :: _ =>
      let hasSlash := file.toList.contains '/'
      let paths := if hasSlash then [file] else searchPaths s file
      let isThere (path : String) : Bool :=
        hasSlash || s.tree.isFile (Text.Octets.decode path)
      match paths.find? isThere with
      | none => s.die (some ".") s!"{file}: not found"
      | some path =>
        match s.tree.seek (Text.Octets.decode path) with
        | .error e => s.die (some ".") (cannotOpen path e)
        | .ok node =>
          let inside := { (s.withStatus 0).nested with context := some path }
          if !inside.isRunning then inside
          else
            let after := runText fuel inside false { rest := scriptOf node } s.status 0
            { after with
              context := s.context
              nesting := s.nesting
              flow := if after.flow == .returning then .running else after.flow }

/-- Runs a text, line by line; `last` is the status that the first command finds, and `status` how
the last one ended. -/
def runText : Nat → State → Bool → Source → Nat → Nat → State
  | 0, s, _, _, _, _ => s.die none "too deep"
  | fuel + 1, s, tested, source, last, status =>
    let source := { source with nextKey := s.texts.length, texts := [], aliases := s.aliases }
    match Script.next source with
    | .error fault => ({ s with line := fault.line }.die none fault.reason)
    | .ok step =>
      let source := step.source
      let s := { s with texts := source.texts ++ s.texts }
      match step.statement with
      | none =>
        if source.rest.isEmpty then s.withStatus status
        else runText fuel s tested { source with putBack := none } last status
      | some statement =>
        let s := runStatement fuel (s.withStatus last) tested statement
        if !s.isRunning then s
        else if source.rest.isEmpty then s
        else runText fuel s tested { source with putBack := none } s.status s.status

/-- Does what is to be done on the signals that have come. -/
def runPending : Nat → State → State
  | 0, s => s.die none "too deep"
  | fuel + 1, s =>
    match s.pending with
    | [] => s
    | signal :: rest =>
      let action := (s.traps.lookup (toString signal)).getD ""
      let status := s.status
      let s := runText fuel { s with pending := rest } false { rest := action.toList } status 0
      if s.isRunning then runPending fuel (s.withStatus status) else s

/-- The end of a script or of a part of it: what was to be done at the end is done. -/
def finishChild : Nat → State → State
  | 0, s => s
  | fuel + 1, s =>
    let signalled := match s.flow with
      | .ended (.signalled ..) => true
      | _ => false
    match signalled, s.traps.lookup "0" with
    | false, some action =>
      let code := s.code
      let traps := s.traps.filter (·.1 != "0")
      let s := { s with traps, flow := .running, status := code }
      let after := runText fuel s false { rest := action.toList } code 0
      if after.isRunning then after.finish code else after
    | _, _ => s

/-- Runs a shell of its own on its arguments. -/
def startShell : Nat → State → List String → State
  | 0, s, _ => s.die none "too deep"
  | fuel + 1, s, args =>
    let s := s.nested
    match Switches.read true {} 0 true args with
    | .error text => s.die none text
    | .ok w =>
      let s := { s with options := w.letters }
      if !s.isRunning then s
      else if w.takesCommand then
        match w.operands with
        | [] => s.die none "-c requires an argument"
        | script :: rest =>
          let s := { s with name := rest.headD s.name, parameters := rest.drop 1, line := 1 }
          finishChild fuel (runText fuel s false { rest := script.toList } 0 0)
      else if w.letters.contains 's' || w.operands.isEmpty then
        let bytes := (s.streams.unread 0).toOption.getD .empty
        let s :=
          { s with
            parameters := w.operands, line := 1, streams := s.streams.skip 0 bytes.size }
        let cs := (Text.Octets.ofBytes bytes).toList
        finishChild fuel (runText fuel s false { rest := cs } 0 0)
      else
        let file := w.operands.headD ""
        match s.tree.seek (Text.Octets.decode file) with
        | .error e => s.die none (cannotOpen file e)
        | .ok node =>
          let s := { s with name := file, parameters := w.operands.drop 1, line := 1 }
          finishChild fuel (runText fuel s false { rest := scriptOf node } 0 0)

end

/-- How the state of a program that has ended tells how it ended, and the files it leaves; the
directory of whoever started it is as it was. -/
def State.ending (s : State) (tree : FileTree) : ExitStatus × FileTree :=
  let status := match s.flow with
    | .ended status => status
    | _ => .exited (s.status % 256)
  (status, { s.tree with cwd := tree.cwd })

/-- The state of a host that runs a program with nothing to read, its output dropped and its errors
shown. -/
def State.host (tree : FileTree) (name : String) : State :=
  { streams := .standard tree, name, scope := hostVariables }

/-- Runs the shell, called by a path, on its arguments: how it ends, and the files it leaves. -/
def runShell (tree : FileTree) (path : String) (args : List String) : ExitStatus × FileTree :=
  let words := args.map Text.Octets.encode
  let name := Text.Octets.encode path
  (startShell depth ((State.host tree name).spawn name) words).ending tree

/-- Runs a utility, called by a path, on its arguments, in the same way. -/
def runUtility (tree : FileTree) (utility path : String) (args : List String) :
    ExitStatus × FileTree :=
  let words := args.map Text.Octets.encode
  let name := Text.Octets.encode path
  (execute depth (State.host tree name) utility name words).ending tree

end Bindery.Shell
