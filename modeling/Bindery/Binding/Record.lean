import Bindery.Binding.CodeType
import Bindery.Text.Layout
import Bindery.Text.Quoted

/-!
# Generated records

A record has one field for each property, in property order. Field identifiers are derived from the
property names; where two would be equal, the later one is numbered. The wire name of a field is
the property name as it stands.
-/

namespace Bindery

/-- The first of the texts `base`, `base ++ mark ++ "2"`, `base ++ mark ++ "3"`, … that is not
taken. One more candidate than there are taken texts is enough. -/
def firstUnused (taken : List String) (base mark : String) : String :=
  let numbered := (List.range taken.length).map fun i => base ++ mark ++ toString (i + 2)
  ((base :: numbered).find? fun ident => !taken.contains ident).getD base

/-- A field of a generated record. -/
structure RecordField where
  ident : String
  /-- The name of the property. -/
  wireName : String
  type : CodeType
  optional : Bool
  description : Option String
  experimental : Bool

/-- A record of the generated code. -/
structure Record where
  ident : String
  description : Option String
  experimental : Bool
  fields : List RecordField

namespace Record

/-- The type of the field that carries a property. -/
def fieldType? (table : NameTable) (domain declaration : String) (p : Property) :
    Except Error CodeType := do
  let type ← CodeType.ofShape? table domain declaration p.shape
  return if p.optional then .option type else type

/-- The fields for the given properties, after fields whose identifiers are taken. -/
def fieldsFrom? (table : NameTable) (domain declaration : String) (taken : List String) :
    List Property → Except Error (List RecordField)
  | [] => .ok []
  | p :: rest => do
    let type ← fieldType? table domain declaration p
    let ident := firstUnused taken (Naming.fieldIdent p.name) "_"
    let fields ← fieldsFrom? table domain declaration (ident :: taken) rest
    return ⟨ident, p.name, type, p.optional, p.description, p.experimental⟩ :: fields

/-- The record of the given properties, without a description. -/
def ofProperties? (table : NameTable) (domain ident declaration : String)
    (properties : List Property) : Except Error Record := do
  let fields ← fieldsFrom? table domain declaration [] properties
  return ⟨ident, none, false, fields⟩

/-- What the record of the given properties needs to be imported: what its fields need, up to the
first that has no type, and the serializer if all have one. -/
def required (table : NameTable) (domain declaration : String) :
    List Property → List Capability
  | [] => [.serde]
  | p :: rest =>
    match CodeType.ofShape? table domain declaration p.shape with
    | .ok _ => p.shape.required ++ required table domain declaration rest
    | .error _ => []

/-- The same record with a description. -/
def withDoc (record : Record) (description : Option String) (experimental : Bool) : Record :=
  { record with description, experimental }

end Record

open Text

/-- The attribute that ties a field to its wire name. -/
def RecordField.attribute (field : RecordField) : String :=
  "#[serde(rename = " ++ quote field.wireName ++
    (if field.optional then ", skip_serializing_if = \"Option::is_none\"" else "") ++ ")]"

/-- The lines of a field. -/
def RecordField.layout (field : RecordField) : List Layout :=
  [.doc .item field.description field.experimental,
    .line field.attribute,
    .line s!"pub {field.ident}: {field.type.text},"]

/-- The definition of a record; fields are set apart by empty lines. -/
def Record.layout (record : Record) : List Layout :=
  let start : List Layout :=
    [.doc .item record.description record.experimental,
      .line "#[derive(Debug, Clone, Serialize, Deserialize)]"]
  let header := s!"pub struct {record.ident}"
  match record.fields with
  | [] => start ++ [.line (header ++ " \x7b\x7d")]
  | first :: rest =>
    start ++ [.block header "" (first.layout ++ rest.flatMap fun f => .blank :: f.layout)]

end Bindery
