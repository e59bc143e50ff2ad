import Bindery.Json.Held
import Bindery.Document.Basic

/-!
# Reading protocol documents

The forms of the records of a protocol description: which members each has, in which order, and
which of them may be left out. The members of a type expression are written into the object of the
type or property that they belong to.
-/

namespace Bindery.Document

open Bindery.Json

/-- A part of a version tag: a string as it is, or a number in its shortest spelling. -/
def decodeVersionPart : Decoder String := fun scope doc => do
  match ← Held.decode scope doc with
  | .text value => return value
  | .number value => return value.text
  | .other found =>
    throw (.rejected s!"expected string or number version component, found {found}")

def versionForm : RecordForm VersionEntry where
  name := "RawVersion"
  fields := [
    .of "major" .required decodeVersionPart fun r x => { r with major := x },
    .of "minor" .required decodeVersionPart fun r x => { r with minor := x }]
  initial := {}

/-- The form of a type expression, given decoders for the expressions and members inside it. -/
def typeExprForm (inner : Decoder TypeExpr) (member : Decoder Member) : RecordForm TypeExpr where
  name := "RawTypeExpr"
  fields := [
    .of "type" .defaulted (decodeOption decodeString)
      fun (.mk _ r d i l p) x => .mk x r d i l p,
    .of "$ref" .defaulted (decodeOption decodeString)
      fun (.mk k _ d i l p) x => .mk k x d i l p,
    .of "description" .defaulted (decodeOption decodeString)
      fun (.mk k r _ i l p) x => .mk k r x i l p,
    .of "items" .defaulted (decodeOption inner)
      fun (.mk k r d _ l p) x => .mk k r d x l p,
    .of "enum" .defaulted (decodeOption (decodeList decodeString))
      fun (.mk k r d i _ p) x => .mk k r d i x p,
    .of "properties" .defaulted (decodeOption (decodeList member))
      fun (.mk k r d i l _) x => .mk k r d i l x]
  initial := .empty

/-- The form of a member, given the form of the type expression that shares its object. -/
def memberForm (type : RecordForm TypeExpr) : SharedForm Member TypeExpr where
  own := {
    name := "RawProperty"
    fields := [
      .of "name" .required decodeString fun (.mk _ o e t) x => .mk x o e t,
      .of "optional" .defaulted decodeBool fun (.mk n _ e t) x => .mk n x e t,
      .of "experimental" .defaulted decodeBool fun (.mk n o _ t) x => .mk n o x t]
    initial := .mk "" false false .empty }
  inner := type
  attach := fun (.mk n o e _) t => .mk n o e t

/-- The form of type expressions nested at most `depth` deep. -/
def typeExprFormAt : Nat → RecordForm TypeExpr
  | 0 => typeExprForm (fun _ _ => .error .malformed) (fun _ _ => .error .malformed)
  | depth + 1 =>
    let inner := typeExprFormAt depth
    typeExprForm inner.decode (memberForm inner).decode

/-- Decodes a member; the document bounds the nesting of what is in it. -/
def decodeMember : Decoder Member := fun scope doc =>
  (memberForm (typeExprFormAt doc.height)).decode scope doc

/-- The form of a type, given the form of the expression that shares its object. -/
def typeEntryForm (type : RecordForm TypeExpr) : SharedForm TypeEntry TypeExpr where
  own := {
    name := "RawTypeDecl"
    fields := [
      .of "id" .required decodeString fun r x => { r with id := x },
      .of "experimental" .defaulted decodeBool fun r x => { r with experimental := x }]
    initial := {} }
  inner := type
  attach := fun r t => { r with type := t }

def decodeTypeEntry : Decoder TypeEntry := fun scope doc =>
  (typeEntryForm (typeExprFormAt doc.height)).decode scope doc

def commandForm : RecordForm CommandEntry where
  name := "RawCommand"
  fields := [
    .of "name" .required decodeString fun r x => { r with name := x },
    .of "description" .defaulted (decodeOption decodeString) fun r x => { r with description := x },
    .of "experimental" .defaulted decodeBool fun r x => { r with experimental := x },
    .of "parameters" .defaulted (decodeList decodeMember) fun r x => { r with parameters := x },
    .of "returns" .defaulted (decodeList decodeMember) fun r x => { r with returns := x }]
  initial := {}

def eventForm : RecordForm EventEntry where
  name := "RawEvent"
  fields := [
    .of "name" .required decodeString fun r x => { r with name := x },
    .of "description" .defaulted (decodeOption decodeString) fun r x => { r with description := x },
    .of "experimental" .defaulted decodeBool fun r x => { r with experimental := x },
    .of "parameters" .defaulted (decodeList decodeMember) fun r x => { r with parameters := x }]
  initial := {}

def domainForm : RecordForm DomainEntry where
  name := "RawDomain"
  fields := [
    .of "domain" .required decodeString fun r x => { r with name := x },
    .of "description" .defaulted (decodeOption decodeString) fun r x => { r with description := x },
    .of "experimental" .defaulted decodeBool fun r x => { r with experimental := x },
    .of "types" .defaulted (decodeList decodeTypeEntry) fun r x => { r with types := x },
    .of "commands" .defaulted (decodeList commandForm.decode) fun r x => { r with commands := x },
    .of "events" .defaulted (decodeList eventForm.decode) fun r x => { r with events := x }]
  initial := {}

def protocolForm : RecordForm Protocol where
  name := "RawProtocol"
  fields := [
    .of "version" .required versionForm.decode fun r x => { r with version := x },
    .of "domains" .defaulted (decodeList domainForm.decode) fun r x => { r with domains := x }]
  initial := {}

/-- Reads a protocol description from its text. -/
def Protocol.parse (s : String) : Except Fault Protocol :=
  decodeText protocolForm.decode s

end Bindery.Document
