/-!
# Protocol documents

The records of a protocol description as it is written, before anything in them is checked: a type
expression is still a bag of optional members, of which `Schema.ofDocument?` makes one shape.
-/

namespace Bindery.Document

mutual

/-- A type expression. A reference stands for itself; otherwise `kind` says which of the other
members count. -/
inductive TypeExpr where
  | mk (kind : Option String) (reference : Option String) (description : Option String)
    (items : Option TypeExpr) (literals : Option (List String)) (properties : Option (List Member))

/-- A named member: a property, a parameter, a return value or a field of an event. -/
inductive Member where
  | mk (name : String) (optional experimental : Bool) (type : TypeExpr)

end

namespace TypeExpr

/-- An expression that says nothing. -/
def empty : TypeExpr := .mk none none none none none none

instance : Inhabited TypeExpr := ⟨empty⟩

def kind : TypeExpr → Option String
  | .mk kind _ _ _ _ _ => kind

def reference : TypeExpr → Option String
  | .mk _ reference _ _ _ _ => reference

def description : TypeExpr → Option String
  | .mk _ _ description _ _ _ => description

def items : TypeExpr → Option TypeExpr
  | .mk _ _ _ items _ _ => items

def literals : TypeExpr → Option (List String)
  | .mk _ _ _ _ literals _ => literals

def properties : TypeExpr → Option (List Member)
  | .mk _ _ _ _ _ properties => properties

end TypeExpr

namespace Member

def name : Member → String
  | .mk name _ _ _ => name

def optional : Member → Bool
  | .mk _ optional _ _ => optional

def experimental : Member → Bool
  | .mk _ _ experimental _ => experimental

def type : Member → TypeExpr
  | .mk _ _ _ type => type

end Member

/-- A named type. -/
structure TypeEntry where
  id : String := ""
  experimental : Bool := false
  type : TypeExpr := .empty

/-- A request with its parameters and the values it returns. -/
structure CommandEntry where
  name : String := ""
  description : Option String := none
  experimental : Bool := false
  parameters : List Member := []
  returns : List Member := []

/-- A notification with its fields. -/
structure EventEntry where
  name : String := ""
  description : Option String := none
  experimental : Bool := false
  parameters : List Member := []

/-- A group of declarations under one name. -/
structure DomainEntry where
  name : String := ""
  description : Option String := none
  experimental : Bool := false
  types : List TypeEntry := []
  commands : List CommandEntry := []
  events : List EventEntry := []

/-- The two parts of a version tag. -/
structure VersionEntry where
  major : String := ""
  minor : String := ""

/-- A whole protocol description. -/
structure Protocol where
  version : VersionEntry := {}
  domains : List DomainEntry := []

end Bindery.Document
