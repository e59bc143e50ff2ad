import Bindery.Json.Fault
import Bindery.Json.Escape

/-!
# Decoding documents

A decoder walks a document in reading order and stops at its first fault. Strings, numbers and
nesting are judged where they are decoded: a value that is skipped or kept as text may hold lone
surrogates, numbers without a value and any depth of brackets.

A record is described by a `RecordForm`, the list of its fields in declaration order. It may be
written as an object, or as an array of its fields in that order.
-/

namespace Bindery.Json

/-- Where a value stands. A value decoded straight from the text may be entered only so often; a
value inside a buffered one has been checked as a whole before. -/
inductive Scope where
  | streamed (room : Nat)
  | buffered

/-- A whole text, of which 127 brackets inside one another may be entered. -/
def Scope.whole : Scope := .streamed 127

/-- The scope inside an array or object. -/
def Scope.enter : Scope → Except Fault Scope
  | .streamed 0 => .error .malformed
  | .streamed (room + 1) => .ok (.streamed room)
  | .buffered => .ok .buffered

/-- What a decoder does with a document. -/
abbrev Decoder (α : Type) := Scope → Doc → Except Fault α

/-! ## Scalars -/

def number? (lexeme : List Char) : Except Fault Number :=
  match Number.ofLexeme lexeme with
  | some n => .ok n
  | none => .error .malformed

def stringText? (body : List Char) : Except Fault String :=
  match unescape body with
  | some cs => .ok (String.ofList cs)
  | none => .error .malformed

/-- What a document is, as a message puts it. -/
def Doc.found : Doc → Except Fault Found
  | .null => .ok .null
  | .bool b => .ok (.flag b)
  | .number lexeme => .number <$> number? lexeme
  | .string body => .text <$> stringText? body
  | .array _ => .ok .sequence
  | .object _ => .ok .map
  | .fault => .error .malformed

/-- Fails because the document is not of the expected kind. -/
def wrongType {α : Type} (doc : Doc) (expected : String) : Except Fault α := do
  let found ← doc.found
  throw (.wrongType found expected)

def decodeString : Decoder String := fun _ doc =>
  match doc with
  | .string body => stringText? body
  | doc => wrongType doc "a string"

def decodeBool : Decoder Bool := fun _ doc =>
  match doc with
  | .bool b => .ok b
  | doc => wrongType doc "a boolean"

/-- An integer from `low` to `high`; `expected` names its type. -/
def decodeInteger (low high : Int) (expected : String) : Decoder Int := fun _ doc =>
  match doc with
  | .number lexeme => do
    match ← number? lexeme with
    | .nonneg n =>
      if (n : Int) ≤ high then return n else throw (.outOfRange (.number (.nonneg n)) expected)
    | .negative n =>
      if low ≤ n then return n else throw (.outOfRange (.number (.negative n)) expected)
    | .double x => throw (.wrongType (.number (.double x)) expected)
  | doc => wrongType doc expected

/-- An integer of eight bits without sign. -/
def decodeByte : Decoder Nat := fun scope doc =>
  Int.toNat <$> decodeInteger 0 (UInt8.size - 1 : Nat) "u8" scope doc

/-- An integer of 64 bits without sign. -/
def decodeWord : Decoder Nat := fun scope doc =>
  Int.toNat <$> decodeInteger 0 (UInt64.size - 1 : Nat) "u64" scope doc

/-- An integer of 64 bits with a sign. -/
def decodeInt : Decoder Int :=
  decodeInteger Int64.minValue.toInt Int64.maxValue.toInt "i64"

/-! ## Values kept or skipped -/

/-- A JSON text, kept as it was written. -/
structure RawText where
  text : String
  deriving DecidableEq, Repr

/-- Fails if the document holds a fault. -/
def Doc.skip (doc : Doc) : Except Fault Unit :=
  if doc.isSound then .ok () else .error .malformed

def decodeRaw : Decoder RawText := fun _ doc => do
  doc.skip
  return ⟨String.ofList doc.text⟩

/-- Absent where the value is null. -/
def decodeOption {α : Type} (decode : Decoder α) : Decoder (Option α) := fun scope doc =>
  match doc with
  | .null => .ok none
  | doc => some <$> decode scope doc

mutual

/-- Whether a document can be held in memory: it is sound, its strings and numbers have values, and
it is nested no deeper than `room`. -/
def Doc.fits (room : Nat) : Doc → Bool
  | .null | .bool _ => true
  | .number lexeme => (Number.ofLexeme lexeme).isSome
  | .string body => (unescape body).isSome
  | .array items => 0 < room && items.fits (room - 1)
  | .object members => 0 < room && members.fits (room - 1)
  | .fault => false

def Items.fits (room : Nat) : Items → Bool
  | .close _ => true
  | .fault => false
  | .item _ value rest => value.fits room && rest.fits room

def Members.fits (room : Nat) : Members → Bool
  | .close _ => true
  | .fault => false
  | .member _ key _ value rest => (unescape key).isSome && value.fits room && rest.fits room

end

/-- Fails if a document cannot be buffered. -/
def Doc.buffer (scope : Scope) (doc : Doc) : Except Fault Unit :=
  match scope with
  | .streamed room => if doc.fits room then .ok () else .error .malformed
  | .buffered => .ok ()

/-! ## Lists -/

/-- The values of a list, each decoded where it stands. -/
def decodeItems {α : Type} (decode : Doc → Except Fault α) : Items → Except Fault (List α)
  | .close _ => .ok []
  | .fault => .error .malformed
  | .item _ value rest => do
    let x ← decode value
    let xs ← decodeItems decode rest
    return x :: xs

def decodeList {α : Type} (decode : Decoder α) : Decoder (List α) := fun scope doc =>
  match doc with
  | .array items => do
    let inner ← scope.enter
    decodeItems (decode inner) items
  | doc => wrongType doc "a sequence"

/-! ## Records -/

/-- What becomes of a field that is not written. -/
inductive Presence where
  /-- It must be written. -/
  | required
  /-- An object may leave it out, an array may not. -/
  | optional
  /-- It has a default. -/
  | defaulted
  deriving DecidableEq

/-- A field of a record: how to read its value into the record. -/
structure Field (ρ : Type) where
  name : String
  presence : Presence
  read : Scope → Doc → ρ → Except Fault ρ

/-- A field that `set` puts into the record. -/
def Field.of {ρ α : Type} (name : String) (presence : Presence) (decode : Decoder α)
    (set : ρ → α → ρ) : Field ρ :=
  ⟨name, presence, fun scope doc record => set record <$> decode scope doc⟩

/-- The form of a record: its name, its fields in declaration order, and the record before any of
them has been read. -/
structure RecordForm (ρ : Type) where
  name : String
  fields : List (Field ρ)
  initial : ρ

/-- A count of elements, as a message puts it. -/
def elementCount (n : Nat) : String :=
  if n = 1 then "1 element" else s!"{n} elements"

namespace RecordForm

variable {ρ : Type}

/-- What is expected where the record stands. -/
def expected (form : RecordForm ρ) : String := s!"struct {form.name}"

/-- Fails if a required field was not seen, naming the first. -/
def checkRequired (seen : List String) : List (Field ρ) → Except Fault Unit
  | [] => .ok ()
  | field :: rest =>
    if field.presence = .required && !seen.contains field.name then
      .error (.missingField field.name)
    else checkRequired seen rest

/-- Reads the members of an object. A known key may appear once; an unknown one is skipped. -/
def readMembers (form : RecordForm ρ) (scope : Scope) (seen : List String) (record : ρ) :
    Members → Except Fault ρ
  | .close _ => do
    checkRequired seen form.fields
    return record
  | .fault => .error .malformed
  | .member _ key _ value rest => do
    let key ← stringText? key
    match form.fields.find? (·.name == key) with
    | some field =>
      if seen.contains key then throw (.duplicateField key)
      let record ← field.read scope value record
      form.readMembers scope (key :: seen) record rest
    | none =>
      value.skip
      form.readMembers scope seen record rest

/-- Fails at the end of an array that leaves fields out, unless all of them have defaults. `index`
is the position of the first field left out. -/
def checkLength (form : RecordForm ρ) (index : Nat) : List (Field ρ) → Except Fault Unit
  | [] => .ok ()
  | field :: rest =>
    if field.presence = .defaulted then form.checkLength (index + 1) rest
    else
      let expected := s!"{form.expected} with {elementCount form.fields.length}"
      .error (.wrongLength index expected)

/-- How many values a list holds. -/
def countItems : Items → Nat
  | .item _ _ rest => countItems rest + 1
  | _ => 0

/-- Fails if values are left over after the fields of a record. -/
def checkEnd (form : RecordForm ρ) (scope : Scope) (items : Items) : Except Fault Unit :=
  match items, scope with
  | .close _, _ => .ok ()
  | .item _ _ _, .buffered =>
    let known := form.fields.length
    .error (.wrongLength (known + countItems items) s!"{elementCount known} in sequence")
  | _, _ => .error .malformed

/-- Reads the values of an array into the fields, in declaration order. -/
def readItems (form : RecordForm ρ) (scope : Scope) (index : Nat) (record : ρ) :
    List (Field ρ) → Items → Except Fault ρ
  | [], items => do
    form.checkEnd scope items
    return record
  | field :: fields, .item _ value rest => do
    let record ← field.read scope value record
    form.readItems scope (index + 1) record fields rest
  | fields, .close _ => do
    form.checkLength index fields
    return record
  | _, .fault => .error .malformed

/-- Decodes a record from an object or an array. -/
def decode (form : RecordForm ρ) : Decoder ρ := fun scope doc =>
  match doc with
  | .object members => do
    let inner ← scope.enter
    form.readMembers inner [] form.initial members
  | .array items => do
    let inner ← scope.enter
    form.readItems inner 0 form.initial form.fields items
  | doc => wrongType doc form.expected

end RecordForm

/-! ## Records that share their object with another one -/

/-- The form of a record whose object also holds the fields of a second record, which `attach` puts
into the first. The record's own fields are decoded as they come; all other members are buffered,
and the second record is decoded from them at the end. -/
structure SharedForm (ρ σ : Type) where
  own : RecordForm ρ
  inner : RecordForm σ
  attach : ρ → σ → ρ

namespace SharedForm

variable {ρ σ : Type}

/-- Reads the members of the shared object. `others` holds the buffered members, last one first. -/
def readMembers (form : SharedForm ρ σ) (scope : Scope) (seen : List String) (record : ρ)
    (others : List (List Char × Doc)) : Members → Except Fault ρ
  | .close sep => do
    RecordForm.checkRequired seen form.own.fields
    let members := others.foldl (fun rest (key, doc) => .member [] key [] doc rest) (.close sep)
    let inner ← form.inner.readMembers .buffered [] form.inner.initial members
    return form.attach record inner
  | .fault => .error .malformed
  | .member _ rawKey _ value rest => do
    let key ← stringText? rawKey
    match form.own.fields.find? (·.name == key) with
    | some field =>
      if seen.contains key then throw (.duplicateField key)
      let record ← field.read scope value record
      form.readMembers scope (key :: seen) record others rest
    | none =>
      value.buffer scope
      form.readMembers scope seen record ((rawKey, value) :: others) rest

/-- Decodes the shared object; an array does not do. -/
def decode (form : SharedForm ρ σ) : Decoder ρ := fun scope doc =>
  match doc with
  | .object members => do
    let inner ← scope.enter
    form.readMembers inner [] form.own.initial [] members
  | doc => wrongType doc form.own.expected

end SharedForm

/-! ## Whole texts -/

/-- Decodes a text that holds one value and nothing else but white space. -/
def decodeText {α : Type} (decode : Decoder α) (s : String) : Except Fault α := do
  let parsed := parse s
  let x ← decode .whole parsed.doc
  if parsed.ended then return x else throw .malformed

end Bindery.Json
