import Bindery.Session.RemoteCall

/-!
# Being called back

A callback handle passes the first outcome of its command on to its callback, and has none left
after that. A failure that no callback hears of is worth a warning.
-/

namespace Bindery.Session

/-- A handle that passes the first outcome on to its callback. -/
structure CallbackHandle where
  /-- There is a callback that has not been called. -/
  armed : Bool
  deriving DecidableEq, Repr

/-- What a callback handle does with an outcome. -/
inductive CallbackEffect (ρ : Type) where
  | called (result : Except ProtocolError ρ)
  | warned (w : Warning)
  | nothing

namespace CallbackHandle

variable {ρ : Type}

/-- The command is completed. -/
def done (h : CallbackHandle) (call : RemoteCall ρ) (outcome : Outcome) :
    CallbackEffect ρ × CallbackHandle :=
  if h.armed then (.called (call.result outcome), ⟨false⟩)
  else match call.result outcome with
    | .ok _ => (.nothing, h)
    | .error e =>
      (.warned ⟨"Command failed without callback",
        [("method", .text call.method), ("error", .text e.logText)]⟩, h)

end CallbackHandle

end Bindery.Session
