import Bindery.Session.Dispatcher

/-!
# Calls at the same time

A world is a dispatcher with the calls that are being made on it. Each call is a list of tasks to
run in order; calls made from inside a task come before what is left of the call around them. Any
call may go on at any moment, and new ones may begin: `World.Step` is one such move, and
`World.Reachable` what any number of them leads to. The history tells which tasks have run.
-/

namespace Bindery.Session

/-- A call on a dispatcher. -/
inductive Call where
  | submit (command : Command)
  | receive (text : String)
  | listen (sink : Sink)
  | cancel (key : Nat)
  | close
  deriving DecidableEq, Repr

/-- The first task of a call. A submission takes the given ticket. -/
def Call.task (ticket : Nat) : Call → Task
  | .submit command => .submit ⟨ticket, command⟩
  | .receive text => .receive text
  | .listen sink => .listen sink
  | .cancel key => .cancel key
  | .close => .close

/-- A task that has run: what it learned, what it found and what it did. -/
structure Occurrence where
  task : Task
  answer : Answer
  before : Dispatcher
  effect : Effect

/-- A dispatcher and the calls in progress. -/
structure World where
  dispatcher : Dispatcher
  /-- The tasks of each call in progress. -/
  calls : List (List Task) := []
  /-- The ticket of the next submission. -/
  nextTicket : Nat := 0
  /-- What has happened, from the beginning. -/
  history : List Occurrence := []

namespace World

/-- The first tasks of calls that are made one after the other, from the given ticket on; no two
calls share a ticket. -/
def tasksOf (ticket : Nat) : List Call → List Task
  | [] => []
  | call :: rest => call.task ticket :: tasksOf (ticket + 1) rest

/-- A call begins. -/
def start (w : World) (call : Call) : World :=
  { w with
    calls := w.calls ++ [[call.task w.nextTicket]]
    nextTicket := w.nextTicket + 1 }

/-- The first task of the call at position `i` runs, with calls made from inside it. -/
def advance (w : World) (i : Nat) (answer : Answer) (nested : List Call) : Option World :=
  match w.calls[i]? with
  | some (task :: rest) =>
    let effect := w.dispatcher.step answer task
    let inner := if task.callsOut then tasksOf w.nextTicket nested else []
    some {
      dispatcher := effect.dispatcher
      calls := w.calls.set i (inner ++ effect.next ++ rest)
      nextTicket := w.nextTicket + inner.length
      history := w.history ++ [⟨task, answer, w.dispatcher, effect⟩] }
  | _ => none

/-- The same world with the pending submissions in another order. -/
def withPending (w : World) (table : PendingTable) : World :=
  { w with dispatcher := { w.dispatcher with pending := table } }

/-- One move: a call begins, or a call in progress runs its next task. The table of pending
submissions is looked up by id and has no order that a caller could rely on, so its entries may
come in another one at any time. -/
inductive Step : World → World → Prop where
  | start (w : World) (call : Call) : Step w (w.start call)
  | advance {w w' : World} (i : Nat) (answer : Answer) (nested : List Call)
      (h : w.advance i answer nested = some w') : Step w w'
  | reorder (w : World) (table : PendingTable) (h : List.Perm table w.dispatcher.pending) :
      Step w (w.withPending table)

/-- What some number of moves leads to. -/
inductive Run (w : World) : World → Prop where
  | refl : Run w w
  | step {v v' : World} (run : Run w v) (move : Step v v') : Run w v'

/-- The worlds that begin with a fresh dispatcher. -/
def Reachable (w : World) : Prop :=
  ∃ maxPending : Nat, Run ⟨{ maxPending }, [], 0, []⟩ w

/-- No call is in progress. -/
def Quiet (w : World) : Prop := ∀ call ∈ w.calls, call = []

/-- The outcomes with which a submission has been completed, in order. -/
def outcomesOf (w : World) (s : Submission) : List Outcome :=
  w.history.filterMap fun o =>
    match o.task with
    | .done s' outcome => if s' = s then some outcome else none
    | _ => none

end World

end Bindery.Session
