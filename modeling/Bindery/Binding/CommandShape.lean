import Bindery.Binding.Record

/-!
# What a generated command consists of

Both ways of calling a command, blocking and with a callback, are generated from one
`CommandShape`: its identifier, its wire method, and the records of its parameters and of its
result, if it has any.
-/

namespace Bindery

/-- A command as both ways of calling it see it. -/
structure CommandShape where
  ident : String
  /-- The domain and the command, joined by a dot. -/
  method : String
  description : Option String
  experimental : Bool
  params : Option Record
  result : Option Record

namespace CommandShape

open Text

variable (shape : CommandShape)

def paramsIdent : Option String := shape.params.map (·.ident)

/-- The type of a successful outcome. -/
def resultType : String := (shape.result.map (·.ident)).getD "()"

/-- The handle of a blocking call. -/
def blockingIdent : String := s!"{shape.ident}Command"

/-- The handle of a call with a callback. -/
def callbackHandleIdent : String := s!"Async{shape.ident}Command"

/-- The type of the callback. -/
def callbackIdent : String := s!"{shape.ident}Callback"

/-- The field of a handle that holds the parameters. -/
def paramsField : List Layout :=
  (shape.paramsIdent.map fun ident => Layout.line s!"params: {ident},").toList

/-- The argument that passes the parameters. -/
def paramsArg : Option String :=
  shape.paramsIdent.map fun ident => s!"params: {ident}"

/-- Arguments with the parameters in front, if there are any. -/
def withParamsArg (others : String) : String :=
  match shape.paramsArg with
  | some arg => s!"{arg}, {others}"
  | none => others

/-- The lines only for commands with parameters. -/
def ifParams (lines : List Layout) : List Layout :=
  if shape.params.isSome then lines else []

/-- The lines only for commands with a result. -/
def ifResult (lines : List Layout) : List Layout :=
  if shape.result.isSome then lines else []

/-- The two functions by which a handle says what it calls: its method and its parameters. -/
def identity : List Layout :=
  [.block "fn name(&self) -> &'static str" "" [.line (quote shape.method)],
    .blank,
    .block "fn params(&self) -> Result<Option<Box<RawValue>>, rt::ProtocolError>" ""
      [.line (if shape.params.isSome then "rt::encode(&self.params).map(Some)" else "Ok(None)")]]

/-- The expression that turns a response into the outcome of the call. -/
def outcome : String :=
  match shape.result with
  | some record => s!"response.and_then(rt::decode::<{record.ident}>)"
  | none => "response.map(|_| ())"

/-- The header of the function that receives the response. -/
def doneHeader : String :=
  "fn done(&self, response: Result<&RawValue, rt::ProtocolError>)"

end CommandShape

end Bindery
