/-!
# Capabilities

A capability is something that generated declarations use and their file must import. A file
imports each capability that one of its declarations requires, once, in one fixed order, however
often and in whatever order they were required.
-/

namespace Bindery

/-- What a generated file may need to import. -/
inductive Capability where
  | cow
  | stringMap
  | shared
  | sync
  | serde
  | rawValue
  | logging
  | runtime
  deriving DecidableEq, Repr

namespace Capability

/-- Every capability, in the order in which imports are written. -/
def all : List Capability :=
  [.cow, .stringMap, .shared, .sync, .serde, .rawValue, .logging, .runtime]

theorem mem_all (c : Capability) : c ∈ all := by
  cases c <;> decide

/-- The line that imports a capability; `runtimePath` is the module of the runtime. -/
def importLine (runtimePath : String) : Capability → String
  | cow => "use ::std::borrow::Cow;"
  | stringMap => "use ::std::collections::HashMap;"
  | shared => "use ::std::sync::Arc;"
  | sync => "use ::parking_lot::Mutex;"
  | serde => "use ::serde::\x7bDeserialize, Serialize\x7d;"
  | rawValue => "use ::serde_json::value::RawValue;"
  | logging => "use ::tracing::warn;"
  | runtime => s!"use {runtimePath} as rt;"

end Capability

/-- A set of capabilities. -/
structure CapabilitySet where
  has : Capability → Bool

namespace CapabilitySet

/-- The set without members. -/
def empty : CapabilitySet := ⟨fun _ => false⟩

/-- Adds the capabilities of a list. -/
def require (s : CapabilitySet) (cs : List Capability) : CapabilitySet :=
  ⟨fun c => s.has c || cs.contains c⟩

/-- The capabilities that belong to either set. -/
def union (s t : CapabilitySet) : CapabilitySet :=
  ⟨fun c => s.has c || t.has c⟩

/-- The members, in the order in which imports are written. -/
def toList (s : CapabilitySet) : List Capability :=
  Capability.all.filter s.has

/-- Whether the set has no member. -/
def isEmpty (s : CapabilitySet) : Bool :=
  s.toList.isEmpty

/-- The import lines of the members. -/
def imports (s : CapabilitySet) (runtimePath : String) : List String :=
  s.toList.map (·.importLine runtimePath)

end CapabilitySet

end Bindery
