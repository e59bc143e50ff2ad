import Bindery.Json.Encode
import Bindery.Session.ProtocolError

/-!
# Frames

A frame is one JSON text on the connection. A `Request` goes out; an `Incoming` frame comes in and
is either the response to a request, told by its id, or an event, told by its method. A response
fails only if its error has a message. A result or parameters that are absent count as the object
without members.
-/

namespace Bindery.Session

open Bindery.Json

/-- What a command is completed with: the text of its result, or why it failed. -/
abbrev Outcome := Except ProtocolError RawText

/-- A frame that calls a method. -/
structure Request where
  id : UInt64
  method : String
  params : Option RawText
  deriving DecidableEq

/-- The text of a request; parameters stand in it as they are written. -/
def Request.text (r : Request) : String :=
  String.ofList (objectChars (
    [("id", intChars r.id.toNat), ("method", stringChars r.method)] ++
      optionalMember "params" RawText.chars r.params))

/-- The error of a response. -/
structure RemoteError where
  code : Int64 := 0
  message : String := ""
  deriving DecidableEq

def RemoteError.form : RecordForm RemoteError where
  name := "RemoteError"
  fields := [
    .of "code" .defaulted (fun scope doc => Int64.ofInt <$> decodeInt scope doc)
      fun r x => { r with code := x },
    .of "message" .defaulted decodeString fun r x => { r with message := x }]
  initial := {}

/-- A frame from the remote end. -/
structure Incoming where
  id : Option UInt64 := none
  error : Option RemoteError := none
  result : Option RawText := none
  method : Option String := none
  params : Option RawText := none
  deriving DecidableEq

/-- What a frame from the remote end says. -/
inductive Message where
  /-- The request of this id has its outcome. -/
  | response (id : UInt64) (outcome : Outcome)
  /-- Something happened. -/
  | event (method : String) (params : RawText)

namespace Incoming

def form : RecordForm Incoming where
  name := "Incoming"
  fields := [
    .of "id" .defaulted
      (decodeOption fun scope doc => UInt64.ofNat <$> decodeWord scope doc)
      fun r x => { r with id := x },
    .of "error" .defaulted (decodeOption RemoteError.form.decode) fun r x => { r with error := x },
    .of "result" .defaulted (decodeOption decodeRaw) fun r x => { r with result := x },
    .of "method" .defaulted (decodeOption decodeString) fun r x => { r with method := x },
    .of "params" .defaulted (decodeOption decodeRaw) fun r x => { r with params := x }]
  initial := {}

/-- Reads a frame. -/
def parse (text : String) : Except ProtocolError Incoming :=
  (decodeText form.decode text).mapError .decode

/-- The outcome that a response brings. -/
def outcome (frame : Incoming) : Outcome :=
  match frame.error with
  | some e =>
    if e.message.isEmpty then .ok (frame.result.getD .emptyObject)
    else .error (.remote e.code e.message)
  | none => .ok (frame.result.getD .emptyObject)

/-- What the frame says, if it has an id or a method. -/
def message? (frame : Incoming) : Option Message :=
  match frame.id with
  | some id => some (.response id frame.outcome)
  | none => frame.method.map fun method => .event method (frame.params.getD .emptyObject)

end Incoming

end Bindery.Session
