import Bindery.Binding.Blocking
import Bindery.Binding.Callback
import Bindery.Binding.Enumeration

/-!
# Generated declarations

Each declaration of a domain is generated on its own, against the name table of the whole schema:
`TypeDecl.piece?`, `Command.piece?` and `Event.piece?` give its layout and what it needs to be
imported, or the reference that stands for nothing.
-/

namespace Bindery

open Text

/-- The generated code of one declaration. -/
structure Piece where
  layout : List Layout
  required : List Capability

/-- The code of a type: a record, an enumeration or an alias. -/
def TypeDecl.piece? (table : NameTable) (domain : String) (decl : TypeDecl) :
    Except Error Piece := do
  let ident := table.ident domain decl.name
  match decl.shape with
  | .enumeration literals =>
    return ⟨Enumeration.layout ident decl.description decl.experimental literals ++ [.blank],
      Enumeration.required⟩
  | .composite properties =>
    let record ← Record.ofProperties? table domain ident decl.name properties
    return ⟨(record.withDoc decl.description decl.experimental).layout ++ [.blank],
      Record.required table domain decl.name properties⟩
  | shape =>
    let type ← CodeType.ofShape? table domain decl.name shape
    return ⟨[.doc .item decl.description decl.experimental,
      .line s!"pub type {ident} = {type.text};", .blank], shape.required⟩

/-- The record for the parameters or returns of a command, if there are any. -/
def Command.record? (table : NameTable) (domain ident title : String) (command : Command)
    (properties : List Property) : Except Error (Option Record) :=
  if properties.isEmpty then .ok none
  else do
    let record ← Record.ofProperties? table domain ident command.name properties
    return some (record.withDoc (some s!"{title} of `{domain}.{command.name}`.") false)

/-- What a command consists of. -/
def Command.shape? (table : NameTable) (domain : String) (command : Command) :
    Except Error CommandShape := do
  let ident := table.ident domain command.name
  let params ← command.record? table domain s!"{ident}Params" "Parameters" command.parameters
  let result ← command.record? table domain s!"{ident}Result" "Result" command.returns
  return ⟨ident, s!"{domain}.{command.name}", command.description, command.experimental, params,
    result⟩

/-- What the records of a command need to be imported. -/
def Command.recordsRequired (table : NameTable) (domain : String) (command : Command) :
    List Capability :=
  [command.parameters, command.returns].flatMap fun properties =>
    if properties.isEmpty then [] else Record.required table domain command.name properties

/-- The code of a command: its records, then both ways of calling it. -/
def Command.piece? (table : NameTable) (domain : String) (command : Command) :
    Except Error Piece := do
  let shape ← command.shape? table domain
  let records := shape.params.toList ++ shape.result.toList
  return ⟨records.flatMap (fun record => record.layout ++ [.blank]) ++
      Blocking.layout shape ++ Callback.layout shape,
    command.recordsRequired table domain ++ Blocking.required ++ Callback.required⟩

/-- The function that registers a callback for an event. A notification that does not decode is
logged and dropped. -/
def Event.registration (ident recordIdent method : String) : List Layout :=
  [.line s!"/// Registers `callback` for `{method}` notifications.",
    .line "///",
    .line "/// Payloads that fail to decode are logged and dropped.",
    .block (s!"pub fn on_{Naming.snakeCase ident}<F>" ++
      "(transport: &dyn rt::Transport, callback: F) " ++
        s!"where F: Fn({recordIdent}) + Send + Sync + 'static") ""
      [.group "transport.add_event_sink(" ");"
        [.line s!"{quote method},",
          .block ("Box::new(move |params: &RawValue| " ++
              s!"match rt::decode::<{recordIdent}>(params)") "),"
            [.line "Ok(event) => callback(event),",
              .line (s!"Err(err) => warn!(event = {quote method}, error = %err, " ++
                "\"Dropping malformed event\"),")]]]]

/-- The code of an event: its record and the function that registers a callback. -/
def Event.piece? (table : NameTable) (domain : String) (event : Event) : Except Error Piece := do
  let ident := table.ident domain event.name
  let recordIdent := s!"{ident}Event"
  let record ← Record.ofProperties? table domain recordIdent event.name event.parameters
  return ⟨(record.withDoc event.description event.experimental).layout ++ [.blank] ++
      Event.registration ident recordIdent s!"{domain}.{event.name}" ++ [.blank],
    Record.required table domain event.name event.parameters ++ [.rawValue, .logging, .runtime]⟩

/-- The code of a declaration. -/
def Declaration.piece? (table : NameTable) (domain : String) :
    Declaration → Except Error Piece
  | .type decl => decl.piece? table domain
  | .command decl => decl.piece? table domain
  | .event decl => decl.piece? table domain

end Bindery
