import Bindery.Binding.Record

/-!
# Generated enumerations

An enumeration is a record around a string, with one constant for each literal. Constants are named
after their literals; where two names would be equal, the later one is numbered. Any other string
can still be held, so a newer peer may send literals that the schema does not know.
-/

namespace Bindery.Enumeration

open Text

/-- The names of the constants for the given literals, after constants whose names are taken. -/
def constantsFrom (taken : List String) : List String → List (String × String)
  | [] => []
  | literal :: rest =>
    let base := Naming.escapeKeyword (Naming.enumConstIdent literal)
    let name := firstUnused taken base ""
    (name, literal) :: constantsFrom (name :: taken) rest

/-- The constants of an enumeration, each with its literal, in literal order. -/
def constants (literals : List String) : List (String × String) :=
  constantsFrom [] literals

/-- The line that defines a constant. -/
def constantLine (constant : String × String) : String :=
  s!"pub const {constant.1}: Self = Self(Cow::Borrowed({quote constant.2}));"

/-- What every enumeration needs to be imported. -/
def required : List Capability := [.cow, .serde]

/-- The definition of an enumeration. -/
def layout (ident : String) (description : Option String) (experimental : Bool)
    (literals : List String) : List Layout :=
  [.doc .item description experimental,
    .line "#[derive(Debug, Clone, PartialEq, Eq, Hash, Serialize, Deserialize)]",
    .line "#[serde(transparent)]",
    .line s!"pub struct {ident}(pub Cow<'static, str>);",
    .blank,
    .line "#[allow(non_upper_case_globals)]",
    .block s!"impl {ident}" "" <|
      (constants literals).map (fun c => .line (constantLine c)) ++
      (if literals.isEmpty then [] else [.blank]) ++
      [.line "/// Returns the wire literal.",
        .block "pub fn as_str(&self) -> &str" "" [.line "&self.0"]]]

end Bindery.Enumeration
