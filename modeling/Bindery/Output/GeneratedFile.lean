import Bindery.Binding.DomainUnit

/-!
# Generated files

The files of a version: one for each domain, and an index that declares them all as modules and
re-exports what they define. Every file opens with a banner that names the version.
-/

namespace Bindery

open Text

/-- What all files of a version have in common. -/
structure FileHeader where
  /-- The version tag. -/
  version : String
  /-- The module from which the files import the runtime. -/
  runtimePath : String

/-- The first line of every generated file. -/
def FileHeader.banner (header : FileHeader) : Layout :=
  .line ("// Code generated by devtools-protogen from protocol version " ++
    s!"{header.version}. DO NOT EDIT.")

/-- What stands in front of the declarations of a domain: the banner, the description of the
domain, and the imports that the declarations need. -/
def DomainUnit.preamble (header : FileHeader) (u : DomainUnit) : List Layout :=
  let imports := u.capabilities.imports header.runtimePath
  [header.banner, .blank] ++
    (if u.description.isSome || u.experimental then
      [.doc .enclosing u.description u.experimental, .blank]
    else []) ++
    [.line "use super::*;"] ++
    (if imports.isEmpty then [] else .blank :: imports.map .line) ++
    [.blank]

/-- The text of the file of a domain. It ends with one newline. -/
def DomainUnit.fileText (header : FileHeader) (u : DomainUnit) : String :=
  Layout.textAll 0 (u.preamble header) ++ String.ofList (trimEnd u.body.toList) ++ "\n"

/-- A domain in the index. -/
structure IndexEntry where
  domain : String
  moduleName : String
  deriving DecidableEq, Repr

/-- The entry of a generated domain. -/
def IndexEntry.ofUnit (u : DomainUnit) : IndexEntry := ⟨u.domain, u.moduleName⟩

/-- The lines of an entry. -/
def IndexEntry.layout (entry : IndexEntry) : List Layout :=
  let ident := Naming.moduleIdent entry.moduleName
  [.blank,
    .line s!"/// `{entry.domain}` domain.",
    .line s!"pub mod {ident};",
    .line s!"pub use {ident}::*;"]

/-- The text of the index. -/
def FileHeader.indexText (header : FileHeader) (entries : List IndexEntry) : String :=
  Layout.textAll 0 <|
    [header.banner,
      .blank,
      .line s!"//! Protocol version {header.version}.",
      .blank,
      .line ("#![allow(non_camel_case_types, non_snake_case, clippy::all, dead_code, " ++
        "unused_imports)]")] ++
    entries.flatMap (·.layout)

end Bindery
