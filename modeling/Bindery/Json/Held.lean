import Bindery.Json.Decode
import Bindery.Json.Defect

/-!
# Values held in memory

A `Held` value is what a document denotes, told apart as far as anybody asks: a text, a number, or
something else, of which the compact text is kept. Compact text has no white space, numbers in
their shortest spelling, strings with the fewest escapes, and the members of an object in the order
of their keys, of a repeated key the last one. So documents with the same value have the same
compact text.

An object whose first key is `rawKey` is no object: it denotes the value of the JSON text that
stands in its string. That text is read by itself, and what is wrong with it is wrong with the
whole.
-/

namespace Bindery.Json

/-- Puts an entry into a list sorted by key, in place of one with the same key. -/
def insertSorted {α : Type} (key : String) (value : α) : List (String × α) → List (String × α)
  | [] => [(key, value)]
  | (k, v) :: rest =>
    if key < k then (key, value) :: (k, v) :: rest
    else if key = k then (key, value) :: rest
    else (k, v) :: insertSorted key value rest

/-- The value of a document. -/
inductive Held where
  | text (value : String)
  | number (value : Number)
  /-- A value of another kind, as compact text. -/
  | other (compact : String)

namespace Held

/-- The compact text of a value. -/
def compact : Held → String
  | text value => stringText value
  | number value => value.text
  | other compact => compact

/-- The object with the given members, each as compact text. -/
def ofMembers (entries : List (String × String)) : Held :=
  let members := entries.map fun (key, value) => stringText key ++ ":" ++ value
  other ("\x7b" ++ ",".intercalate members ++ "\x7d")

/-- The text of a document that should be a string for its value to be read from. -/
def rawText : Doc → Except Fault String
  | .string body => stringText? body
  | doc => wrongType doc "raw value"

mutual

/-- The value of a document; `reread` gives the value of a text that the document holds. -/
def ofDoc (reread : String → Except Fault Held) (scope : Scope) : Doc → Except Fault Held
  | .null => .ok (other "null")
  | .bool b => .ok (other (toString b))
  | .number lexeme => number <$> number? lexeme
  | .string body => text <$> stringText? body
  | .array items => do
    let values ← ofItems reread (← scope.enter) items
    return other ("[" ++ ",".intercalate values ++ "]")
  | .object members => do
    let scope ← scope.enter
    match members with
    | .member _ key _ value rest =>
      let key ← stringText? key
      if key = rawKey then
        let held ← reread (← rawText value)
        match rest with
        | .close _ => return held
        | _ => throw .malformed
      else
        let value ← ofDoc reread scope value
        ofMembers <$> addMembers reread scope [(key, value.compact)] rest
    | .close _ => return ofMembers []
    | .fault => throw .malformed
  | .fault => .error .malformed

/-- The compact texts of the values of an array. -/
def ofItems (reread : String → Except Fault Held) (scope : Scope) :
    Items → Except Fault (List String)
  | .close _ => .ok []
  | .fault => .error .malformed
  | .item _ value rest => do
    let value ← ofDoc reread scope value
    let values ← ofItems reread scope rest
    return value.compact :: values

/-- Adds members to entries sorted by key, each with its value as compact text. -/
def addMembers (reread : String → Except Fault Held) (scope : Scope)
    (entries : List (String × String)) : Members → Except Fault (List (String × String))
  | .close _ => .ok entries
  | .fault => .error .malformed
  | .member _ key _ value rest => do
    let key ← stringText? key
    let value ← ofDoc reread scope value
    addMembers reread scope (insertSorted key value.compact entries) rest

end

/-- The value of a text that a document holds. What is wrong with the text is told in words, since
the document itself is sound. -/
def reread : Nat → String → Except Fault Held
  | 0, _ => .error .malformed
  | fuel + 1, s =>
    match decodeText (fun scope doc => ofDoc (reread fuel) scope doc) s with
    | .ok held => .ok held
    | .error fault =>
      let reason := fault.message.getD (((defect? s).map Defect.message).getD "")
      .error (.rejected reason)

/-- Decodes any value. A text inside a document is shorter than the document. -/
def decode : Decoder Held := fun scope doc =>
  ofDoc (reread doc.text.length) scope doc

end Held

end Bindery.Json
