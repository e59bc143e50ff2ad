import Bindery.Session.Dispatcher
import Bindery.Session.RemoteCall
import Bindery.Session.Time

/-!
# Waiting for a command

A blocking handle keeps what its command is completed with until its caller has waited for it. A
run of a handle submits the command, waits on the latch of the handle, and ends; a run that has
waited in vain cancels the command.

A latch is released once and stays released. A waiter gives up when its deadline passes; a deadline
that the clock cannot show makes the waiter fail.

A handle lives longer than a run: it may be run again, and a completion may come before, during and
after a run. A `RunCourse` is all that a handle sees of a run, and `BlockingHandle.run` what the run
makes of it.
-/

namespace Bindery.Session

/-! ## Latches -/

/-- Something that one party releases and another waits for. -/
structure Latch where
  released : Bool := false
  deriving DecidableEq, Repr

namespace Latch

/-- Releases a latch; a second release changes nothing. -/
def release (_ : Latch) : Latch := ⟨true⟩

/-- How a wait ends. -/
inductive Wait where
  | released
  | timedOut
  /-- There is no instant at which to give up, and the waiter fails before it waits. -/
  | noDeadline
  deriving DecidableEq, Repr

/-- Waits from `start` on, for as long as `timeout`. `release` is the instant at which the latch is
released while the waiter waits, if it is.

Instants are logical: they order a release and the end of a wait as the latch itself does. A waiter
whose time is up looks at the latch once more before it gives up, and a release that this last look
finds counts as one that came by the deadline, whatever a clock would have shown; one that comes
after the last look is later than the deadline. -/
def wait (latch : Latch) (start : Instant) (timeout : Duration) (release : Option Instant) : Wait :=
  match start.after? timeout with
  | none => .noDeadline
  | some deadline =>
    if latch.released then .released
    else match release with
      | some t => if t.nanos ≤ deadline.nanos then .released else .timedOut
      | none => .timedOut

end Latch

/-! ## Handles and their runs -/

/-- A handle whose caller waits until the command is completed. It keeps what it has been completed
with, also from one run to the next. -/
structure BlockingHandle (ρ : Type) where
  latch : Latch := {}
  result : Option ρ := none
  failure : Option ProtocolError := none

/-- How a run ends. -/
inductive RunEnd where
  /-- The command was completed, and the run returns. -/
  | returned (result : Except ProtocolError Unit)
  /-- The wait was over before: the command is to be cancelled, and the run returns a failure. -/
  | abandoned (failure : ProtocolError)
  /-- There was no deadline to wait for: the run breaks off and leaves the command submitted. -/
  | broken

namespace RunEnd

/-- What the run returns, if it does. -/
def result? : RunEnd → Option (Except ProtocolError Unit)
  | .returned result => some result
  | .abandoned failure => some (.error failure)
  | .broken => none

/-- What the run still asks of the dispatcher; `key` is that of its command. -/
def tasks (key : Nat) : RunEnd → List Task
  | .abandoned _ => [.cancel key]
  | _ => []

end RunEnd

/-- A submission of the handle is completed. -/
structure Completion where
  ticket : Nat
  outcome : Outcome

/-- What a handle sees of a run. The instant of the next completion is logical, as those of a latch
are: it is the deadline at the latest if the run still finds the completion when it looks for the
last time. -/
structure RunCourse where
  /-- The submission that the run makes. -/
  ticket : Nat
  /-- The completions since the run before, up to the moment at which the wait begins. -/
  before : List Completion := []
  /-- When the wait begins. -/
  start : Instant
  /-- How long it may last. -/
  timeout : Duration
  /-- The next completion after that, if one comes. -/
  next : Option (Instant × Completion) := none

namespace BlockingHandle

variable {ρ : Type}

/-- The longest wait of a run that is given none. -/
def defaultTimeout : Duration := ⟨30, 0, by decide⟩

/-- The command is completed. -/
def done (h : BlockingHandle ρ) (call : RemoteCall ρ) (outcome : Outcome) : BlockingHandle ρ :=
  match call.result outcome with
  | .ok r => { h with result := some r, latch := h.latch.release }
  | .error e => { h with failure := some e, latch := h.latch.release }

/-- Ends a run after its wait. A failure is handed out once. -/
def conclude (h : BlockingHandle ρ) (call : RemoteCall ρ) (timeout : Duration) :
    Latch.Wait → RunEnd × BlockingHandle ρ
  | .released =>
    match h.failure with
    | some e => (.returned (.error e), { h with failure := none })
    | none => (.returned (.ok ()), h)
  | .timedOut => (.abandoned (.ofTimeout call.method timeout), h)
  | .noDeadline => (.broken, h)

/-- The handle at the end of a wait that ends so: the completion that released its latch has
reached it. -/
def woken (h : BlockingHandle ρ) (call : RemoteCall ρ) (next : Option (Instant × Completion)) :
    Latch.Wait → BlockingHandle ρ
  | .released =>
    if h.latch.released then h
    else match next with
      | some (_, completion) => h.done call completion.outcome
      | none => h
  | _ => h

/-- A run. -/
def run (h : BlockingHandle ρ) (call : RemoteCall ρ) (course : RunCourse) :
    RunEnd × BlockingHandle ρ :=
  let h := course.before.foldl (fun h completion => h.done call completion.outcome) h
  let wait := h.latch.wait course.start course.timeout (course.next.map (·.1))
  (h.woken call course.next wait).conclude call course.timeout wait

/-- The handle after runs that follow one another. -/
def afterRuns (h : BlockingHandle ρ) (call : RemoteCall ρ) (courses : List RunCourse) :
    BlockingHandle ρ :=
  courses.foldl (fun h course => (h.run call course).2) h

/-- Hands out the result. -/
def takeResult (h : BlockingHandle ρ) : Option ρ × BlockingHandle ρ :=
  (h.result, { h with result := none })

/-- What the function of a command returns, from what its run returned. -/
def answer (h : BlockingHandle ρ) (run : Except ProtocolError Unit) : Except ProtocolError ρ := do
  run
  match h.result with
  | some r => return r
  | none => throw .missingResult

end BlockingHandle

end Bindery.Session
