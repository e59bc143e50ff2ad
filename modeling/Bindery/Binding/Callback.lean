import Bindery.Binding.CommandShape

/-!
# Calls with a callback

The other way of calling a command: a handle that holds the parameters and a callback, which
receives the outcome once. A failure that no callback receives is logged.
-/

namespace Bindery.Callback

open Text

/-- What a call with a callback needs to be imported. -/
def required : List Capability := [.shared, .sync, .rawValue, .runtime, .logging]

variable (shape : CommandShape)

/-- The type of the callback. -/
def callbackType : List Layout :=
  [.line s!"/// Completion callback for `{shape.method}`.",
    .line (s!"pub type {shape.callbackIdent} = " ++
      s!"Box<dyn FnOnce(Result<{shape.resultType}, rt::ProtocolError>) + Send>;")]

/-- The handle. -/
def handle : List Layout :=
  [.line s!"/// Callback handle for `{shape.method}`.",
    .block s!"pub struct {shape.callbackHandleIdent}" "" <|
      shape.paramsField ++ [.line s!"callback: Mutex<Option<{shape.callbackIdent}>>,"]]

/-- The functions that make a handle and submit it. -/
def functions : List Layout :=
  let args := shape.withParamsArg s!"callback: Option<{shape.callbackIdent}>"
  [.block s!"pub fn new({args}) -> Arc<Self>" ""
      [.block "Arc::new(Self" ")" <|
        shape.ifParams [.line "params,"] ++ [.line "callback: Mutex::new(callback),"]],
    .blank,
    .line "/// Submits the command without waiting for the response.",
    .block "pub fn submit(self: &Arc<Self>, transport: &dyn rt::Transport)" ""
      [.line "transport.submit(Arc::clone(self) as Arc<dyn rt::Command>);"]]

/-- The function that receives the response. -/
def done : Layout :=
  .block CommandShape.doneHeader ""
    [.line s!"let outcome = {shape.outcome};",
      .line "let callback = self.callback.lock().take();",
      .block "match callback" ""
        [.line "Some(callback) => callback(outcome),",
          .block "None =>" ""
            [.block "if let Err(err) = outcome" ""
              [.line (s!"warn!(method = {quote shape.method}, error = %err, " ++
                "\"Command failed without callback\");")]]]]

/-- All that the callback way of calling a command consists of. -/
def layout : List Layout :=
  callbackType shape ++ [.blank] ++ handle shape ++ [.blank] ++
  [.block s!"impl {shape.callbackHandleIdent}" "" (functions shape), .blank] ++
  [.block s!"impl rt::Command for {shape.callbackHandleIdent}" "" <|
    shape.identity ++ [.blank, done shape]] ++ [.blank]

end Bindery.Callback
