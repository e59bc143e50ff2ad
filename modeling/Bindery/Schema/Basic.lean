/-!
# Schemas

A schema is one version of a remote-debugging protocol: domains of types, commands and events, in
the order in which they were declared. Every type expression is one of five shapes.
-/

namespace Bindery

/-- The kinds of values that are not built from others. -/
inductive Primitive where
  | string
  | integer
  | number
  | boolean
  /-- Any value at all, kept as it is written. -/
  | any
  /-- An object whose members are not declared. -/
  | object
  deriving DecidableEq, Repr, Inhabited

/-- The spelling of a kind in a protocol description. -/
def Primitive.name : Primitive → String
  | .string => "string"
  | .integer => "integer"
  | .number => "number"
  | .boolean => "boolean"
  | .any => "any"
  | .object => "object"

mutual

/-- What a type expression stands for. -/
inductive Shape where
  | primitive (kind : Primitive)
  /-- One of the given strings. -/
  | enumeration (literals : List String)
  | array (items : Shape)
  /-- A declared type, named on its own or after its domain and a dot. -/
  | reference (target : String)
  /-- A record with the given members. -/
  | composite (properties : List Property)
  deriving Inhabited

/-- A named member of a record: a property, a parameter, a return value or a field of an event. -/
structure Property where
  name : String
  description : Option String
  /-- It may be left out of a message. -/
  optional : Bool
  experimental : Bool
  shape : Shape

end

deriving instance Repr for Shape, Property

instance : Inhabited Property := ⟨⟨"", none, false, false, default⟩⟩

/-- Whether a declaration of this shape is held by value; all but records are. -/
def Shape.isValueKind : Shape → Bool
  | .composite _ => false
  | _ => true

/-- A named type. -/
structure TypeDecl where
  name : String
  description : Option String
  experimental : Bool
  shape : Shape
  deriving Repr

/-- A request that is answered by a response. -/
structure Command where
  name : String
  description : Option String
  experimental : Bool
  parameters : List Property
  returns : List Property
  deriving Repr

/-- A notification. -/
structure Event where
  name : String
  description : Option String
  experimental : Bool
  parameters : List Property
  deriving Repr

/-- A group of declarations with a namespace of its own. -/
structure Domain where
  name : String
  description : Option String
  experimental : Bool
  types : List TypeDecl
  commands : List Command
  events : List Event
  deriving Repr

/-- A declaration of a domain. -/
inductive Declaration where
  | type (decl : TypeDecl)
  | command (decl : Command)
  | event (decl : Event)

namespace Declaration

def name : Declaration → String
  | type decl => decl.name
  | command decl => decl.name
  | event decl => decl.name

def experimental : Declaration → Bool
  | type decl => decl.experimental
  | command decl => decl.experimental
  | event decl => decl.experimental

end Declaration

/-- The declarations of a domain: types, then commands, then events. -/
def Domain.declarations (d : Domain) : List Declaration :=
  d.types.map .type ++ d.commands.map .command ++ d.events.map .event

/-- The names that a domain declares: its types, commands and events. -/
def Domain.declaredNames (d : Domain) : List String :=
  d.types.map (·.name) ++ d.commands.map (·.name) ++ d.events.map (·.name)

/-- The first type of a domain with the given name. -/
def Domain.typeDecl? (d : Domain) (name : String) : Option TypeDecl :=
  d.types.find? (·.name == name)

/-- A version tag. -/
structure Version where
  major : String
  minor : String
  deriving DecidableEq, Repr

namespace Version

/-- The tag with a dot between its parts. -/
def tag (v : Version) : String := s!"{v.major}.{v.minor}"

/-- The directory that holds the files of a version. -/
def dirName (v : Version) : String := s!"v{v.major}_{v.minor}"

/-- Versions are ordered by their parts as texts. -/
def lt (v w : Version) : Bool :=
  v.major < w.major || (v.major == w.major && v.minor < w.minor)

end Version

/-- One version of a protocol. -/
structure Schema where
  version : Version
  domains : List Domain
  deriving Repr

/-- The first domain of a schema with the given name. -/
def Schema.domain? (s : Schema) (name : String) : Option Domain :=
  s.domains.find? (·.name == name)

end Bindery
