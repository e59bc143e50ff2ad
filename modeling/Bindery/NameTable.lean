import Bindery.Naming
import Bindery.Schema.Basic

/-!
# Names across a schema

All generated items of a schema live in one namespace, so the identifier of a declaration depends
on the whole schema: a spelling that only one declaration has stands alone, a shared one carries
the domain in front. A `NameTable` is what there is to know for that: how many declarations have a
spelling, which types are held by value, and which types each domain declares. It is filled in one
pass over the declarations, experimental ones among them, so leaving those out changes no name.
-/

namespace Bindery

/-- What the names of a schema depend on. -/
structure NameTable where
  /-- Exported spellings, each once, with the number of declarations that have it. -/
  counts : List (String × Nat) := []
  /-- The names of the types that are held by value in some domain. -/
  valueNames : List String := []
  /-- Every type with the domain that declares it. -/
  declared : List (String × String) := []

/-- Adds one to the number of a key. A key that is not there yet begins with one. -/
def increment (key : String) : List (String × Nat) → List (String × Nat)
  | [] => [(key, 1)]
  | (other, n) :: rest =>
    if other = key then (other, n + 1) :: rest else (other, n) :: increment key rest

namespace NameTable

/-- Counts a declaration of this name. -/
def count (table : NameTable) (name : String) : NameTable :=
  { table with counts := increment (Naming.typeIdent name) table.counts }

@[simp] theorem count_valueNames (table : NameTable) (name : String) :
    (table.count name).valueNames = table.valueNames := rfl

@[simp] theorem count_declared (table : NameTable) (name : String) :
    (table.count name).declared = table.declared := rfl

/-- Goes on with a declaration of a domain: counts it and, if it is a type, enters it into both
sets. -/
def add (domain : String) (table : NameTable) : Declaration → NameTable
  | .type decl =>
    let table := table.count decl.name
    { table with
      valueNames :=
        if decl.shape.isValueKind then table.valueNames.insert decl.name else table.valueNames
      declared := table.declared.insert (domain, decl.name) }
  | .command decl => table.count decl.name
  | .event decl => table.count decl.name

/-- Goes on with the declarations of a domain. -/
def addDomain (table : NameTable) (d : Domain) : NameTable :=
  d.declarations.foldl (add d.name) table

/-- The table of the domains of a schema, filled in one pass over them. -/
def build (domains : List Domain) : NameTable := domains.foldl addDomain {}

/-- How many declarations have the exported spelling of a name. -/
def occurrences (table : NameTable) (name : String) : Nat :=
  (table.counts.lookup (Naming.typeIdent name)).getD 0

/-- Whether declarations of this name carry their domain in front. -/
def needsQualification (table : NameTable) (name : String) : Bool :=
  1 < table.occurrences name

/-- Whether a type of this name is held by value. One declaration that is no record decides it for
all domains. -/
def isValue (table : NameTable) (name : String) : Bool :=
  table.valueNames.contains name

/-- Whether a domain declares a type of this name. -/
def isDeclared (table : NameTable) (domain name : String) : Bool :=
  table.declared.contains (domain, name)

/-- The identifier of a declaration. -/
def ident (table : NameTable) (domain name : String) : String :=
  if table.needsQualification name then domain ++ Naming.typeIdent name
  else Naming.typeIdent name

end NameTable

/-- The domain and the name that a reference made in a domain speaks of: up to its first dot and
after it, or the domain itself and the whole reference where it has no dot. -/
def splitReference (domain reference : String) : String × String :=
  let cs := reference.toList
  match cs.dropWhile (· != '.') with
  | _ :: name => (String.ofList (cs.takeWhile (· != '.')), String.ofList name)
  | [] => (domain, reference)

/-- The declared type that a reference made in a domain stands for. -/
def NameTable.resolve? (table : NameTable) (domain reference : String) : Option (String × String) :=
  let target := splitReference domain reference
  if table.isDeclared target.1 target.2 then some target else none

end Bindery
