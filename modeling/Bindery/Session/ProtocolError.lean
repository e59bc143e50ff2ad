import Bindery.Json.Fault
import Bindery.Session.Time

/-!
# Errors of a session

Everything that a call of a remote method can fail with, each by its cause, and the wording of each
in `ProtocolError.message`.
-/

namespace Bindery.Session

/-- Why a call failed. -/
inductive ProtocolError where
  /-- The remote end answered with an error. -/
  | remote (code : Int64) (message : String)
  /-- A payload is not what its reader expects. -/
  | decode (cause : Json.Fault)
  /-- Parameters could not be written. -/
  | encode (cause : Json.Fault)
  /-- The connection closed before an answer came. -/
  | connectionClosed
  /-- A command was completed and left no result. -/
  | missingResult
  /-- No answer came in time. -/
  | timeout (method : String) (millis : Nat)
  /-- Too many commands await an answer already. -/
  | tooManyPending (pending max : Nat)
  /-- The frame could not be handed to the connection. -/
  | transport (message : String)

namespace ProtocolError

/-- The error of a wait that was given up; its milliseconds fit 64 bits, a longer wait counting as
the longest of these. -/
def ofTimeout (method : String) (timeout : Duration) : ProtocolError :=
  .timeout method (min timeout.millis (UInt64.size - 1))

/-- The wording of an error; there is none where a malformed JSON text is the cause. -/
def message : ProtocolError → Option String
  | .remote code message => s!"Remote error {code.toInt}: {message}"
  | .decode cause => cause.message.map fun m => s!"Failed to decode payload: {m}"
  | .encode cause => cause.message.map fun m => s!"Failed to encode parameters: {m}"
  | .connectionClosed => "Connection closed"
  | .missingResult => "Command completed without a result"
  | .timeout method millis => s!"Command {method} timed out after {millis}ms"
  | .tooManyPending pending max => s!"Too many pending commands: {pending}/{max}"
  | .transport message => s!"Transport error: {message}"

/-- The wording for a log: that of a malformed text leaves out what is wrong with it. -/
def logText (e : ProtocolError) : String :=
  match e.message, e with
  | some text, _ => text
  | none, .encode _ => "Failed to encode parameters"
  | none, _ => "Failed to decode payload"

/-- The remote end refused the command. -/
def isRemote : ProtocolError → Bool
  | .remote .. => true
  | _ => false

/-- The command was given up. -/
def isTimeout : ProtocolError → Bool
  | .timeout .. => true
  | _ => false

/-- The connection is at fault, not the call. -/
def isConnectionError : ProtocolError → Bool
  | .connectionClosed | .transport .. => true
  | _ => false

end ProtocolError

end Bindery.Session
