import Bindery.Binding.Declaration

/-!
# Generated domains

The code of a domain is written in one go: a single writer, a single set of capabilities and a
single count go through its declarations, types first, then commands, then events, each in schema
order. Experimental declarations are generated on request and else only counted. `Domain.unit?`
fails at the first declaration that is to be generated and has no code.
-/

namespace Bindery

open Text

/-- Which declarations are generated. -/
structure Selection where
  includeExperimental : Bool

/-- Whether a declaration is generated, given whether it is experimental. -/
def Selection.includes (s : Selection) (experimental : Bool) : Bool :=
  s.includeExperimental || !experimental

/-- How many declarations of each kind were generated, and how many were left out. -/
structure DeclarationCounts where
  types : Nat
  commands : Nat
  events : Nat
  skipped : Nat
  deriving DecidableEq, Repr

/-- The counts of two domains together. -/
def DeclarationCounts.add (c d : DeclarationCounts) : DeclarationCounts :=
  ⟨c.types + d.types, c.commands + d.commands, c.events + d.events, c.skipped + d.skipped⟩

/-- What a declaration adds to the counts when it is generated. -/
def Declaration.counted : Declaration → DeclarationCounts
  | .type _ => ⟨1, 0, 0, 0⟩
  | .command _ => ⟨0, 1, 0, 0⟩
  | .event _ => ⟨0, 0, 1, 0⟩

/-- What a declaration adds to the counts. -/
def Declaration.count (s : Selection) (x : Declaration) : DeclarationCounts :=
  if s.includes x.experimental then x.counted else ⟨0, 0, 0, 1⟩

/-- The generated code of a domain, without its imports. -/
structure DomainUnit where
  domain : String
  moduleName : String
  description : Option String
  experimental : Bool
  body : String
  capabilities : CapabilitySet
  counts : DeclarationCounts

/-- What has been written of a domain so far. -/
structure Emission where
  writer : Writer := {}
  capabilities : CapabilitySet := .empty
  counts : DeclarationCounts := ⟨0, 0, 0, 0⟩

/-- Goes on with a declaration: writes its code, unless it is left out, and counts it. -/
def Emission.add (table : NameTable) (s : Selection) (domain : String) (e : Emission)
    (x : Declaration) : Except Error Emission :=
  if s.includes x.experimental then do
    let piece ← x.piece? table domain
    return ⟨e.writer.writeAll piece.layout, e.capabilities.require piece.required,
      e.counts.add (x.count s)⟩
  else .ok { e with counts := e.counts.add (x.count s) }

/-- The generated code of a domain, against the name table of its schema. -/
def Domain.unit? (table : NameTable) (s : Selection) (d : Domain) : Except Error DomainUnit := do
  let e ← d.declarations.foldlM (Emission.add table s d.name) {}
  return {
    domain := d.name
    moduleName := Naming.moduleName d.name
    description := d.description
    experimental := d.experimental
    body := e.writer.text
    capabilities := e.capabilities
    counts := e.counts }

end Bindery
