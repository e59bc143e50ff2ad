import Bindery.Shell.State
import Bindery.Text.Units

/-!
# Parts that run by themselves

A part of a script that runs by itself, such as a stage of a pipeline, works on a copy of the state,
of which only the files and the status come back.
-/

namespace Bindery.Shell

/-- How deep functions may call each other. -/
def callLimit : Nat := 1000

/-- How deep texts may be run inside each other before the shell runs out of memory. -/
def nestingLimit : Nat := 3000

namespace State

/-- The state in which a part of a script starts that runs by itself: what is ignored stays ignored,
but nothing else is done on signals. -/
def fork (s : State) : State :=
  { s with traps := s.traps.filter (·.2.isEmpty), pending := [], jobs := [] }

/-- How the part ended that ran by itself. -/
def code (s : State) : Nat :=
  match s.flow with
  | .ended (.exited n) => n
  | .ended (.signalled n _) => 128 + n
  | _ => s.status % 256

/-- Forgets the files that were opened since there were so many of them. -/
def release (s : State) (size : Nat) : State :=
  if s.jobs.any (·.rest.isSome) then s else { s with streams := s.streams.release size }

/-- The state after a part that ran by itself: its files stay, and how it ended. -/
def join (s child : State) : State :=
  let tree := { child.tree with cwd := s.tree.cwd }
  let size := s.streams.opened.size
  let s :=
    { s with
      streams := { child.streams with tree, numbers := s.streams.numbers }
      lastProcess := child.lastProcess
      clock := child.clock
      status := child.code
      killed := child.killed }
  let s := s.release size
  match child.killed with
  | some n => { s with flow := .ended (.signalled n false) }
  | none => s

/-- The state after a program that ran as a process of its own. A signal that ended it ends only the
program, and is told of. -/
def afterProgram (s : State) : State :=
  match s.killed with
  | none => s
  | some n =>
    let s := { s with killed := none, flow := .running }
    let silent := n = 2 || n = 13
    if silent then s else s.print 2 (ExitStatus.signalTitle n ++ "\n")

/-- Ends the script if a failure is to end it. -/
def checkFailure (s : State) (tested : Bool) : State :=
  if s.has 'e' && !tested && s.status != 0 && s.isRunning then s.finish s.status else s

/-- The state after a turn of a loop, and whether the loop goes on. -/
def afterTurn (s : State) : State × Bool :=
  match s.flow with
  | .running => (s, true)
  | .breaking n => ({ s with flow := if n ≤ 1 then .running else .breaking (n - 1) }, false)
  | .continuing n =>
    if n ≤ 1 then ({ s with flow := .running }, true)
    else ({ s with flow := .continuing (n - 1) }, false)
  | _ => (s, false)

/-- The state with a text from a file or an argument being run inside the others. -/
def nested (s : State) : State :=
  let s := { s with nesting := s.nesting + 1 }
  if s.nesting ≤ nestingLimit then s
  else { s with killed := some 11, flow := .ended (.signalled 11 false) }

/-- What the script hands on to programs, in the order in which they find it. -/
def environment (s : State) : List (String × String) :=
  s.handed.getD (inChains 39 (s.scope.reverse.filterMap fun (name, v) =>
    if v.exported then v.value.map (name, ·) else none))

/-- The state of a program that is handed on other names and values. -/
def withEnvironment (s : State) (environment : List (String × String)) : State :=
  { s with
    handed := some environment
    scope := (environment.map fun (name, value) => (name, ⟨some value, true, false⟩)).reverse }

/-- The state in which a shell starts that is a process of its own. -/
def spawn (s : State) (name : String) : State :=
  let exported := s.scope.filter fun entry => entry.2.exported && entry.1 != "PWD"
  let known := exported.map (·.1)
  let own := standardVariables.filter fun entry => !known.contains entry.1
  let here := Text.Octets.encode ("/" ++ "/".intercalate s.tree.cwd)
  let process := s.lastProcess + 1
  { streams := s.streams
    name := name
    process := process
    lastProcess := process
    clock := s.clock
    mask := s.mask
    here := here
    nesting := s.nesting
    traps := s.traps.filter (·.2.isEmpty)
    line := 0
    scope := ("PPID", ⟨some (toString s.process), false, false⟩) ::
      ("PWD", ⟨some here, true, false⟩) :: exported ++ own }

end State

/-! ## Background -/

/-- How long a command sleeps, in thousandths of a second, if it is written out in the script. -/
def sleepOf? (words : List Word) : Option Nat :=
  match words.mapM plainText? with
  | some ["sleep", duration] => (Text.Duration.milliseconds? duration).filter (0 < ·)
  | _ => none

namespace State

/-- When the next sleeping part of the script goes on, and its process. -/
def nextWaking (s : State) : Option (Nat × Nat) :=
  (s.jobs.filterMap fun job => job.rest.map fun rest => (rest.2.2, job.process)).foldr
    (fun found best =>
      match best with
      | some other => if other.1 < found.1 then some other else some found
      | none => some found) none

/-- Notes how far a part of the script has come that runs in the background. -/
def putJob (s : State) (job : Job State) : State :=
  { s with jobs := s.jobs.map fun other => if other.process = job.process then job else other }

end State

end Bindery.Shell
