import Bindery.Session.Frame
import Bindery.Error

/-!
# Remote calls and events

What generated bindings know of a command and of an event: the names on the wire and how payloads
are read. How a caller learns the result of a call is the business of its handle.
-/

namespace Bindery.Session

open Bindery.Json

/-- A command ready to be sent: the method it calls, the text of its parameters, and how its result
is read. A command without a result reads every payload as the unit. -/
structure RemoteCall (ρ : Type) where
  method : String
  params : Option RawText
  read : RawText → Except Fault ρ

namespace RemoteCall

variable {ρ : Type}

/-- The result of a command with a given outcome. -/
def result (call : RemoteCall ρ) (outcome : Outcome) : Except ProtocolError ρ := do
  let raw ← outcome
  (call.read raw).mapError .decode

/-- A command with its result put into another form. -/
def map {σ : Type} (f : ρ → σ) (call : RemoteCall ρ) : RemoteCall σ :=
  ⟨call.method, call.params, fun raw => f <$> call.read raw⟩

end RemoteCall

/-- The events of one name, and how their payload is read. -/
structure EventForm (ε : Type) where
  name : String
  read : RawText → Except Fault ε

namespace EventForm

variable {ε ζ : Type}

/-- An event with its payload put into another form. -/
def map (f : ε → ζ) (form : EventForm ε) : EventForm ζ :=
  ⟨form.name, fun raw => f <$> form.read raw⟩

/-- Reads an event; one that cannot be read is dropped with a warning. -/
def receive (form : EventForm ε) (params : RawText) : Except Warning ε :=
  match form.read params with
  | .ok event => .ok event
  | .error fault =>
    .error ⟨"Dropping malformed event",
      [("event", .text form.name), ("error", .text (ProtocolError.decode fault).logText)]⟩

end EventForm

end Bindery.Session
