import Bindery.Shell.Process

/-!
# Redirections

A redirection is a plan once its target has been expanded; `applyPlans` does what the plans say, and
`restoreStreams` undoes it.
-/

namespace Bindery.Shell

/-- A redirection whose target has been expanded. -/
inductive Plan where
  | path (stream : Nat) (opening : Opening) (path : String)
  | duplicate (stream source : Nat)
  | close (stream : Nat)
  | text (stream : Nat) (content : String)

/-- The stream that a redirection is for. -/
def Plan.stream : Plan → Nat
  | path stream _ _ | duplicate stream _ | close stream | text stream _ => stream

/-- What the target of a duplication asks for. -/
def Plan.ofTarget? (stream : Nat) (target : String) : Option Plan :=
  match target.toList with
  | ['-'] => some (.close stream)
  | [d] => if d.isDigit then some (.duplicate stream (d.toNat - 48)) else none
  | _ => none

/-- Does one redirection, or tells why that is not possible. -/
def Plan.apply (s : State) : Plan → Except String Streams
  | .path stream opening file =>
    match s.streams.openPath file opening (s.has 'C') s.mask with
    | .ok (streams, key) => .ok (streams.assign stream key)
    | .error e =>
      let missing := e = .notFound || e = .notDirectory
      let verb := if opening == .input then "open" else "create"
      let reason :=
        if !missing then e.reason
        else if opening == .input then "No such file" else "Directory nonexistent"
      .error s!"cannot {verb} {file}: {reason}"
  | .duplicate stream source =>
    match s.streams.numbers.lookup source with
    | some key => .ok (s.streams.assign stream key)
    | none => .error s!"{source}: Bad file descriptor"
  | .close stream => .ok (s.streams.close stream)
  | .text stream content =>
    let (streams, key) := s.streams.pushText (Text.Octets.toBytes content)
    .ok (streams.assign stream key)

/-- Does redirections, up to the first that is not possible; then there is a message. With `saves`,
the errors of before are kept in safety, and nobody sees the message that they cannot go to a stream
that is not there. -/
def applyPlans (saves : Bool) (s : State) : List Plan → State × Bool
  | [] => (s, true)
  | plan :: rest =>
    match plan.apply s, plan with
    | .ok streams, plan => applyPlans (saves && plan.stream != 2) { s with streams } rest
    | .error text, .duplicate 2 _ => (if saves then s else s.complain none text, false)
    | .error text, _ => (s.complain none text, false)

/-- Streams of which some stand for what they stood for before. -/
def Streams.revert (s before : Streams) (changed : List Nat) : Streams :=
  changed.foldl (fun (streams : Streams) stream =>
    match before.numbers.lookup stream with
    | some key => streams.assign stream key
    | none => streams.close stream) s

/-- Makes streams what they were before redirections of them. -/
def State.restoreStreams (s before : State) (changed : List Nat) : State :=
  if changed.isEmpty then s
  else
    { s with streams := s.streams.revert before.streams changed }.release
      before.streams.opened.size

/-- Shows a command before it runs, if that is asked for, where errors went `before` its
redirections. -/
def trace (s before : State) (assignments : List (String × String)) (words : List String) : State :=
  if s.has 'x' then
    let texts := assignments.map (fun (name, value) => name ++ "=" ++ value) ++ words
    let line := (s.value? "PS4").getD "" ++ " ".intercalate texts ++ "\n"
    let shown := { s with streams := s.streams.revert before.streams [2] }.print 2 line
    { shown with streams := { shown.streams with numbers := s.streams.numbers } }
  else s

end Bindery.Shell
