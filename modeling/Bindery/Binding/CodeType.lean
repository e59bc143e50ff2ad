import Bindery.Capability
import Bindery.Error
import Bindery.NameTable

/-!
# Types of generated code

A `CodeType` is a type as generated code spells it. Every shape has one: primitives and inline
objects have fixed names, arrays are vectors, and a reference is the identifier of the declaration,
boxed unless the declaration is held by value.
-/

namespace Bindery

/-- A type of the generated code. -/
inductive CodeType where
  | double
  | integer
  | boolean
  | string
  /-- A JSON value kept as text. -/
  | raw
  /-- A map from strings to strings. -/
  | stringMap
  | named (ident : String)
  | boxed (ident : String)
  | vector (items : CodeType)
  | option (content : CodeType)
  deriving DecidableEq, Repr

/-- How generated code spells a type. -/
def CodeType.text : CodeType → String
  | .double => "f64"
  | .integer => "i64"
  | .boolean => "bool"
  | .string => "String"
  | .raw => "Box<RawValue>"
  | .stringMap => "HashMap<String, String>"
  | .named ident => ident
  | .boxed ident => s!"Box<{ident}>"
  | .vector items => s!"Vec<{items.text}>"
  | .option content => s!"Option<{content.text}>"

/-- The type of a primitive value. -/
def CodeType.ofPrimitive : Primitive → CodeType
  | .number => .double
  | .integer => .integer
  | .boolean => .boolean
  | .string => .string
  | .any => .raw
  | .object => .stringMap

/-- The type that a declaration of a domain uses for a shape. `declaration` is named if a reference
stands for nothing. -/
def CodeType.ofShape? (table : NameTable) (domain declaration : String) :
    Shape → Except Error CodeType
  | .primitive kind => .ok (.ofPrimitive kind)
  | .enumeration _ => .ok .string
  | .composite _ => .ok .stringMap
  | .array items => .vector <$> ofShape? table domain declaration items
  | .reference target =>
    match table.resolve? domain target with
    | some (owner, name) =>
      let ident := table.ident owner name
      .ok (if table.isValue name then .named ident else .boxed ident)
    | none => .error (.unresolvedReference domain declaration target)

/-- What a type of the given shape needs to be imported. -/
def Shape.required : Shape → List Capability
  | .primitive .any => [.rawValue]
  | .primitive .object | .composite _ => [.stringMap]
  | .array items => items.required
  | _ => []

end Bindery
