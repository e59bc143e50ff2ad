import Bindery.Session.Frame
import Bindery.Error

/-!
# Dispatchers

A dispatcher matches responses with the commands that await them, and events with the sinks that
listen for them. It owns no connection: frames go out through a writer, and come in from whoever
reads the connection.

A call on a dispatcher is a chain of tasks. A task either changes the dispatcher in one indivisible
step, or calls out: it asks a command for its parameters, hands a frame to the writer, completes a
command, or tells a sink of an event. `Dispatcher.step` says what a task does and which tasks
follow it; between two tasks of a call anything may happen, other calls included.

A command is known by its key, so that one submitted twice is one command under two ids. Each
submission has a ticket of its own.
-/

namespace Bindery.Session

open Bindery.Json

/-- A command as the dispatcher sees it: what tells it apart, and the method that it calls. -/
structure Command where
  key : Nat
  method : String
  deriving DecidableEq, Repr

/-- One submission of a command. -/
structure Submission where
  ticket : Nat
  command : Command
  deriving DecidableEq, Repr

/-- A listener for the events of one name. -/
structure Sink where
  event : String
  key : Nat
  deriving DecidableEq, Repr

/-! ## The table of pending submissions -/

/-- The submissions that await a response, each under the id of its request, the oldest first. -/
abbrev PendingTable := List (UInt64 × Submission)

namespace PendingTable

/-- The submission that awaits the response of an id. -/
def find? (table : PendingTable) (id : UInt64) : Option Submission :=
  (List.find? (·.1 == id) table).map (·.2)

/-- Takes the submission of an id out of the table. -/
def remove (table : PendingTable) (id : UInt64) : PendingTable :=
  table.filter (·.1 != id)

/-- Enters a submission under an id, in place of another one under the same id. -/
def insert (table : PendingTable) (id : UInt64) (s : Submission) : PendingTable :=
  table.remove id ++ [(id, s)]

/-- The id under which a command is pending, the oldest if there are several. -/
def idOf? (table : PendingTable) (key : Nat) : Option UInt64 :=
  (List.find? (·.2.command.key == key) table).map (·.1)

end PendingTable

/-! ## State -/

/-- A dispatcher between two tasks. -/
structure Dispatcher where
  /-- The id of the next request. -/
  nextId : UInt64 := 1
  closed : Bool := false
  pending : PendingTable := []
  /-- The sinks, in the order in which they were added. -/
  sinks : List Sink := []
  /-- How many submissions may await a response at once. -/
  maxPending : Nat := 1024
  deriving DecidableEq, Repr

namespace Dispatcher

/-- The sinks that listen for an event. -/
def sinksFor (d : Dispatcher) (event : String) : List Sink :=
  d.sinks.filter (·.event == event)

/-- A dispatcher as a log shows it. -/
def describe (d : Dispatcher) : String :=
  "Dispatcher \x7b pending: " ++ toString d.pending.length ++ ", closed: " ++ toString d.closed ++
    ", max_pending: " ++ toString d.maxPending ++ ", .. \x7d"

end Dispatcher

/-! ## Tasks -/

/-- A step of a call on a dispatcher. -/
inductive Task where
  /-- A submission begins; a closed dispatcher refuses it. -/
  | submit (s : Submission)
  /-- The command is asked for its parameters. -/
  | askParams (s : Submission)
  /-- The request gets its id, and is written as a frame. No encoding error can come up here: a
  request consists of a number, a text, and parameters that are JSON already, and each of these has
  a text in JSON. -/
  | number (s : Submission) (params : Option RawText)
  /-- The submission is entered into the table, unless the dispatcher has been closed meanwhile or
  the table is full. -/
  | enter (s : Submission) (request : Request)
  /-- The frame is handed to the writer. -/
  | write (s : Submission) (request : Request)
  /-- The writer failed: whoever still awaits the response gets the failure instead. -/
  | withdraw (id : UInt64) (cause : ProtocolError)
  /-- A command is completed. -/
  | done (s : Submission) (outcome : Outcome)
  /-- A frame arrives. -/
  | receive (text : String)
  /-- A response arrives. -/
  | respond (id : UInt64) (outcome : Outcome)
  /-- An event arrives. -/
  | announce (event : String) (params : RawText)
  /-- A sink is told of an event. -/
  | notify (sink : Sink) (params : RawText)
  /-- A sink is added. -/
  | listen (sink : Sink)
  /-- The command of a key is forgotten, if it is pending. -/
  | cancel (key : Nat)
  /-- The dispatcher is closed, and every pending command fails. -/
  | close

/-- The task calls out, so that calls may be made from inside it. -/
def Task.callsOut : Task → Bool
  | .askParams _ | .write .. | .done .. | .notify .. => true
  | _ => false

/-- What a task that calls out learns: the parameters of a command, or whether a frame was written.
Each task looks at its own part only. -/
structure Answer where
  params : Except ProtocolError (Option RawText) := .ok none
  written : Except ProtocolError Unit := .ok ()

/-- What a task does. -/
structure Effect where
  dispatcher : Dispatcher
  /-- The tasks that follow in the same call. -/
  next : List Task := []
  warnings : List Warning := []
  /-- A cancellation found its command. -/
  cancelled : Bool := false

namespace Dispatcher

/-- Enters a submission into the table and goes on to write its frame, or refuses it. -/
def enter (d : Dispatcher) (s : Submission) (request : Request) : Effect :=
  let pending := d.pending.length
  if d.closed then { dispatcher := d, next := [.done s (.error .connectionClosed)] }
  else if d.maxPending ≤ pending then
    { dispatcher := d
      next := [.done s (.error (.tooManyPending pending d.maxPending))]
      warnings := [⟨"Too many pending commands",
        [("pending", .count pending), ("max", .count d.maxPending)]⟩] }
  else
    { dispatcher := { d with pending := d.pending.insert request.id s }
      next := [.write s request] }

/-- Takes the submission of an id out of the table and completes it. -/
def complete (d : Dispatcher) (id : UInt64) (outcome : Outcome) (missing : List Warning) : Effect :=
  match d.pending.find? id with
  | some s =>
    { dispatcher := { d with pending := d.pending.remove id }, next := [.done s outcome] }
  | none => { dispatcher := d, warnings := missing }

/-- Reads a frame and goes on with what it says. -/
def receive (d : Dispatcher) (text : String) : Effect :=
  match Incoming.parse text with
  | .error e =>
    { dispatcher := d
      warnings := [⟨"Failed to parse incoming frame", [("error", .text e.logText)]⟩] }
  | .ok frame =>
    match frame.message? with
    | some (.response id outcome) => { dispatcher := d, next := [.respond id outcome] }
    | some (.event method params) => { dispatcher := d, next := [.announce method params] }
    | none =>
      { dispatcher := d
        warnings := [⟨"Incoming frame is neither response nor event", [("text", .text text)]⟩] }

/-- Forgets the pending submission of a command. -/
def cancel (d : Dispatcher) (key : Nat) : Effect :=
  match d.pending.idOf? key with
  | some id => { dispatcher := { d with pending := d.pending.remove id }, cancelled := true }
  | none => { dispatcher := d }

/-- Runs one task. -/
def step (d : Dispatcher) (answer : Answer) : Task → Effect
  | .submit s =>
    { dispatcher := d
      next := [if d.closed then .done s (.error .connectionClosed) else .askParams s] }
  | .askParams s =>
    { dispatcher := d
      next := [match answer.params with
        | .ok params => .number s params
        | .error e => .done s (.error e)] }
  | .number s params =>
    { dispatcher := { d with nextId := d.nextId + 1 }
      next := [.enter s ⟨d.nextId, s.command.method, params⟩] }
  | .enter s request => d.enter s request
  | .write _ request =>
    { dispatcher := d
      next := match answer.written with
        | .ok () => []
        | .error e => [.withdraw request.id e] }
  | .withdraw id cause => d.complete id (.error cause) []
  | .done .. => { dispatcher := d }
  | .receive text => d.receive text
  | .respond id outcome =>
    d.complete id outcome [⟨"Response for unknown request", [("id", .count id.toNat)]⟩]
  | .announce event params =>
    { dispatcher := d, next := (d.sinksFor event).map fun sink => .notify sink params }
  | .notify .. => { dispatcher := d }
  | .listen sink => { dispatcher := { d with sinks := d.sinks ++ [sink] } }
  | .cancel key => d.cancel key
  | .close =>
    { dispatcher := { d with closed := true, pending := [] }
      next := d.pending.map fun (_, s) => .done s (.error .connectionClosed) }

end Dispatcher

end Bindery.Session
