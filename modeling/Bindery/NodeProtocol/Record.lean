import Bindery.Json.Encode

/-!
# The records of the node protocol

The node protocol is a small protocol of version 1.3 with the domains A, B and Lab, bound as the
compiler binds it: a structure for every record, an absent value for an optional member that is
left out.

A `StringMap` is an object whose values are strings. No key appears twice; reading keeps the last
value of a repeated key. The entries have an order, in which they are written.
-/

namespace Bindery.NodeProtocol

open Bindery.Json

/-! ## Maps from texts to texts -/

/-- Puts a value under a key: where the key is already, or at the end. -/
def putEntry (key value : String) : List (String × String) → List (String × String)
  | [] => [(key, value)]
  | (k, v) :: rest => if k = key then (key, value) :: rest else (k, v) :: putEntry key value rest

theorem mem_keys_putEntry {key value k : String} {entries : List (String × String)} :
    k ∈ (putEntry key value entries).map (·.1) ↔ k = key ∨ k ∈ entries.map (·.1) := by
  induction entries with
  | nil => simp [putEntry]
  | cons e rest ih =>
    obtain ⟨k', v'⟩ := e
    by_cases h : k' = key
    · simp [putEntry, h]
    · simp only [putEntry, h, if_false, List.map_cons, List.mem_cons, ih]
      grind

theorem nodup_putEntry {key value : String} {entries : List (String × String)}
    (h : (entries.map (·.1)).Nodup) : ((putEntry key value entries).map (·.1)).Nodup := by
  induction entries with
  | nil => simp [putEntry]
  | cons e rest ih =>
    obtain ⟨k', v'⟩ := e
    simp only [List.map_cons, List.nodup_cons] at h
    by_cases hk : k' = key
    · subst hk
      simpa [putEntry] using h
    · simp only [putEntry, hk, if_false, List.map_cons, List.nodup_cons, mem_keys_putEntry]
      exact ⟨by simpa [hk] using h.1, ih h.2⟩

/-- A map from texts to texts. -/
structure StringMap where
  entries : List (String × String) := []
  nodup : (entries.map (·.1)).Nodup := by simp
  deriving DecidableEq

namespace StringMap

/-- The map with a value under a key. -/
def insert (m : StringMap) (key value : String) : StringMap :=
  ⟨putEntry key value m.entries, nodup_putEntry m.nodup⟩

/-- Adds the members of an object to a map. -/
def readMembers (scope : Scope) (m : StringMap) : Members → Except Fault StringMap
  | .close _ => .ok m
  | .fault => .error .malformed
  | .member _ key _ value rest => do
    let key ← stringText? key
    let value ← decodeString scope value
    readMembers scope (m.insert key value) rest

def decode : Decoder StringMap := fun scope doc =>
  match doc with
  | .object members => do
    let inner ← scope.enter
    readMembers inner {} members
  | doc => wrongType doc "a map"

/-- The text of a map. -/
def chars (m : StringMap) : List Char :=
  objectChars (m.entries.map fun (key, value) => (key, stringChars value))

end StringMap

/-! ## Records -/

/-- A node of the A tree. -/
structure ANode where
  nodeId : Int64 := 0
  nodeName : String := ""
  children : Option (List ANode) := none
  attributes : Option StringMap := none
  value : Option RawText := none

/-- A mode, by its literal. Literals other than those of the protocol are kept too. -/
structure Mode where
  literal : String
  deriving DecidableEq, Repr

namespace Mode

def before : Mode := ⟨"before"⟩
def afterChange : Mode := ⟨"after-change"⟩

end Mode

/-- A node of the B tree. -/
structure BNode where
  frameId : String := ""
  deriving DecidableEq, Repr

/-- A node here and one elsewhere. -/
structure Holder where
  localNode : ANode := {}
  remoteNode : BNode := {}
  mode : Mode := ⟨""⟩
  kind : String := ""

/-- A frame, with the frame it stands in and the node that owns it. -/
structure FrameInfo where
  id : String := ""
  parent : Option FrameInfo := none
  owner : Option Int64 := none

/-- A record without members. -/
structure Headers where
  deriving DecidableEq, Repr

structure GetNodeParams where
  nodeId : Int64 := 0
  depth : Option Int64 := none
  deriving DecidableEq, Repr

structure GetNodeResult where
  node : ANode := {}

structure SetModeParams where
  mode : Mode := ⟨""⟩
  deriving DecidableEq, Repr

structure CountNodesResult where
  count : Int64 := 0
  deriving DecidableEq, Repr

structure DocumentUpdatedEvent where
  deriving DecidableEq, Repr

structure NodeChangedEvent where
  node : ANode := {}

structure FrameAttachedEvent where
  frame : FrameInfo := {}

end Bindery.NodeProtocol
