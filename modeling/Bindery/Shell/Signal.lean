import Bindery.Shell.State

/-!
# Signals

The names of signals, what a script does on them, and how it sends them to its own processes.
-/

namespace Bindery.Shell.Signal

/-- The names of the signals; the first stands for the end of the script. -/
def names : List String :=
  ["EXIT", "HUP", "INT", "QUIT", "ILL", "TRAP", "ABRT", "BUS", "FPE", "KILL", "USR1", "SEGV",
    "USR2", "PIPE", "ALRM", "TERM", "16", "CHLD", "CONT", "STOP", "TSTP", "TTIN", "TTOU", "URG",
    "XCPU", "XFSZ", "VTALRM", "PROF", "WINCH", "IO", "PWR", "SYS", "32", "33", "RTMIN"] ++
  (List.range 15).map (fun i => s!"RTMIN+{i + 1}") ++
  (List.range 14).map (fun i => s!"RTMAX-{14 - i}") ++ ["RTMAX"]

/-- The number of a signal, given as a number or by its name, from `least` on. -/
def ofWord? (least : Nat) (word : String) : Option Nat :=
  if !word.isEmpty && word.toList.all Char.isDigit then
    word.toNat?.filter fun n => n < 65
  else (names.findIdx? fun name => name == word.toUpper).filter (least ≤ ·)

/-- The signals that do nothing to a program that does not wait for them, or only stop it. -/
def harmless : List Nat := [0, 17, 18, 19, 20, 21, 22, 23, 28]

/-- Sends a signal to the shell itself. -/
def toItself (s : State) (signal : Nat) : State :=
  match s.traps.lookup (toString signal) with
  | some "" => s
  | some _ => { s with pending := s.pending ++ [signal] }
  | none =>
    if harmless.contains signal then s
    else { s with killed := some signal, flow := .ended (.signalled signal false) }

/-- Sends a signal to a part of the script that runs in the background. -/
def toJob (s : State) (process signal : Nat) : State :=
  let hit (job : Job State) : Job State :=
    if job.process = process && job.rest.isSome && !harmless.contains signal then
      { job with status := some (128 + signal), rest := none }
    else job
  { s with jobs := s.jobs.map hit }

/-- Lines for what is done on signals, in the order of their numbers. -/
def listTraps (s : State) : String :=
  String.join (names.zipIdx.map fun (name, n) =>
    match s.traps.lookup (toString n) with
    | some action => s!"trap -- {singleQuoted action} {name}\n"
    | none => "")

/-- Says what to do on signals, up to the first word that names none. -/
def setTraps (s : State) (action : Option String) : List String → State
  | [] => s.withStatus 0
  | name :: rest =>
    match ofWord? 0 name with
    | none => (s.print 2 s!"trap: {name}: bad trap\n").withStatus 1
    | some signal =>
      let others := s.traps.filter fun entry => entry.1 != toString signal
      let added := match action with
        | some action => [(toString signal, action)]
        | none => []
      setTraps { s with traps := added ++ others } action rest

end Bindery.Shell.Signal
