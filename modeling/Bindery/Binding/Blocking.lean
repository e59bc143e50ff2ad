import Bindery.Binding.CommandShape

/-!
# Blocking calls

The blocking way of calling a command: a handle that holds the parameters, the result and a latch,
and a function that submits the handle, waits for the latch and returns the result.
-/

namespace Bindery.Blocking

open Text

/-- What a blocking call needs to be imported. -/
def required : List Capability := [.shared, .sync, .rawValue, .runtime]

variable (shape : CommandShape)

/-- The handle. -/
def handle : List Layout :=
  [.line s!"/// Blocking handle for `{shape.method}`.",
    .block s!"pub struct {shape.blockingIdent}" "" <|
      shape.paramsField ++
      shape.ifResult [.line s!"result: Mutex<Option<{shape.resultType}>>,"] ++
      [.line "latch: rt::Latch,", .line "err: Mutex<Option<rt::ProtocolError>>,"]]

/-- The function that makes a handle. -/
def constructor : Layout :=
  let args := shape.paramsArg.getD ""
  .block s!"pub fn new({args}) -> Arc<Self>" ""
    [.block "Arc::new(Self" ")" <|
      shape.ifParams [.line "params,"] ++
      shape.ifResult [.line "result: Mutex::new(None),"] ++
      [.line "latch: rt::Latch::new(),", .line "err: Mutex::new(None),"]]

/-- The functions that submit a handle and wait. -/
def running : List Layout :=
  [.line "/// Submits the command and blocks until the response is decoded.",
    .line "///",
    .line "/// Gives up after [`rt::DEFAULT_COMMAND_TIMEOUT`].",
    .block ("pub fn run(self: &Arc<Self>, transport: &dyn rt::Transport) " ++
        "-> Result<(), rt::ProtocolError>") ""
      [.line "self.run_timeout(transport, rt::DEFAULT_COMMAND_TIMEOUT)"],
    .blank,
    .line "/// Like `run`, but abandons the command after `timeout`.",
    .block ("pub fn run_timeout(self: &Arc<Self>, transport: &dyn rt::Transport, " ++
        "timeout: ::std::time::Duration) -> Result<(), rt::ProtocolError>") ""
      [.line "let command = Arc::clone(self) as Arc<dyn rt::Command>;",
        .line "transport.submit(Arc::clone(&command));",
        .block "if !self.latch.wait_timeout(timeout)" ""
          [.line "transport.cancel(&command);",
            .line s!"return Err(rt::ProtocolError::timeout({quote shape.method}, timeout));"],
        .block "match self.err.lock().take()" ""
          [.line "Some(err) => Err(err),", .line "None => Ok(()),"]]]

/-- The functions that give the result of a handle that has run. -/
def results : List Layout :=
  shape.ifResult
    [.blank,
      .line "/// Returns the decoded result of a completed run.",
      .block s!"pub fn result(&self) -> Option<{shape.resultType}>" ""
        [.line "self.result.lock().clone()"],
      .blank,
      .block s!"pub fn take_result(&self) -> Option<{shape.resultType}>" ""
        [.line "self.result.lock().take()"]]

/-- The function that receives the response. -/
def done : Layout :=
  .block CommandShape.doneHeader ""
    [.block s!"match {shape.outcome}" ""
      [.line (if shape.result.isSome then "Ok(result) => *self.result.lock() = Some(result),"
          else "Ok(()) => \x7b\x7d"),
        .line "Err(err) => *self.err.lock() = Some(err),"],
      .line "self.latch.release();"]

/-- The function that makes a handle, runs it and returns its result. -/
def convenience : List Layout :=
  let args := shape.withParamsArg "transport: &dyn rt::Transport"
  let call := if shape.params.isSome then "new(params)" else "new()"
  [.doc .item shape.description shape.experimental,
    .block (s!"pub fn {Naming.fnIdent shape.ident}({args}) " ++
        s!"-> Result<{shape.resultType}, rt::ProtocolError>") ""
      [.line s!"let command = {shape.blockingIdent}::{call};",
        .line "command.run(transport)?;",
        .line (if shape.result.isSome then
            "command.take_result().ok_or(rt::ProtocolError::MissingResult)"
          else "Ok(())")]]

/-- All that the blocking way of calling a command consists of. -/
def layout : List Layout :=
  handle shape ++ [.blank] ++
  [.block s!"impl {shape.blockingIdent}" "" <|
    [constructor shape, .blank] ++ running shape ++ results shape] ++ [.blank] ++
  [.block s!"impl rt::Command for {shape.blockingIdent}" "" <|
    shape.identity ++ [.blank, done shape]] ++ [.blank] ++
  convenience shape ++ [.blank]

end Bindery.Blocking
