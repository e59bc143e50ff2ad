import Bindery.Document.Basic
import Bindery.Document.Reading
import Bindery.Error
import Bindery.Schema.Basic

/-!
# Reading schemas

A schema is read from the text of a protocol description: first the document, then the shapes of
its type expressions. A text that came from a file is reported with its path.

`Schema.ofDocument?` gives every type expression of a protocol description its shape. It fails at
the first expression that has none, in declaration order, and names the place: the domain, the
declaration and the properties on the way, joined by dots. The items of an array stand at the place
of the array.
-/

namespace Bindery

open Bindery.Document (TypeExpr Member TypeEntry CommandEntry EventEntry DomainEntry Protocol)

mutual

/-- The shape of a type expression at a place. A reference needs no kind; only an array looks at
its items, and only an object at its properties. -/
def Shape.ofExpr? (place : String) : TypeExpr → Except Error Shape
  | .mk _ (some target) _ _ _ _ => .ok (.reference target)
  | .mk none none _ _ _ _ => .error (.unsupportedShape place "<missing type and $ref>")
  | .mk (some kind) none _ items literals properties =>
    match kind with
    | "string" =>
      match literals with
      | some literals => .ok (.enumeration literals)
      | none => .ok (.primitive .string)
    | "integer" => .ok (.primitive .integer)
    | "number" => .ok (.primitive .number)
    | "boolean" => .ok (.primitive .boolean)
    | "any" => .ok (.primitive .any)
    | "object" =>
      match properties with
      | some members => .composite <$> Property.ofMembers? place members
      | none => .ok (.primitive .object)
    | "array" =>
      match items with
      | some items => .array <$> Shape.ofExpr? place items
      | none => .error (.unsupportedShape place "array without items")
    | kind => .error (.unsupportedShape place kind)

/-- The properties that the members of a place stand for. -/
def Property.ofMembers? (place : String) : List Member → Except Error (List Property)
  | [] => .ok []
  | .mk name optional experimental type :: rest => do
    let shape ← Shape.ofExpr? (place ++ "." ++ name) type
    let properties ← Property.ofMembers? place rest
    return ⟨name, type.description, optional, experimental, shape⟩ :: properties

end

/-- A type of a domain. An object without declared members is a record without members. -/
def TypeDecl.ofEntry? (domain : String) (entry : TypeEntry) : Except Error TypeDecl := do
  let shape ← Shape.ofExpr? (domain ++ "." ++ entry.id) entry.type
  let shape := match shape with
    | .primitive .object => .composite []
    | shape => shape
  return ⟨entry.id, entry.type.description, entry.experimental, shape⟩

def Command.ofEntry? (domain : String) (entry : CommandEntry) : Except Error Command := do
  let place := domain ++ "." ++ entry.name
  let parameters ← Property.ofMembers? place entry.parameters
  let returns ← Property.ofMembers? place entry.returns
  return ⟨entry.name, entry.description, entry.experimental, parameters, returns⟩

def Event.ofEntry? (domain : String) (entry : EventEntry) : Except Error Event := do
  let parameters ← Property.ofMembers? (domain ++ "." ++ entry.name) entry.parameters
  return ⟨entry.name, entry.description, entry.experimental, parameters⟩

def Domain.ofEntry? (entry : DomainEntry) : Except Error Domain := do
  let types ← entry.types.mapM (TypeDecl.ofEntry? entry.name)
  let commands ← entry.commands.mapM (Command.ofEntry? entry.name)
  let events ← entry.events.mapM (Event.ofEntry? entry.name)
  return ⟨entry.name, entry.description, entry.experimental, types, commands, events⟩

/-- The schema that a protocol description stands for. -/
def Schema.ofDocument? (doc : Protocol) : Except Error Schema := do
  let domains ← doc.domains.mapM Domain.ofEntry?
  return ⟨⟨doc.version.major, doc.version.minor⟩, domains⟩

/-- Reads a schema from a text. -/
def Schema.parse (text : String) : Except Error Schema := do
  let doc ← (Document.Protocol.parse text).mapError .json
  Schema.ofDocument? doc

/-- Reads a schema from the text of the file at a path. -/
def Schema.parseFile (path : String) (text : String) : Except Error Schema := do
  let doc ← (Document.Protocol.parse text).mapError (.schemaParse path)
  Schema.ofDocument? doc

end Bindery
