import Bindery.Proofs.Results
import Bindery.Schema.Reading

/-!
# From documents to schemas, and what is kept

A protocol description says what it means by type expressions, each at a place. Not all of them
count: nothing below a reference does, items count for arrays only and properties for objects only.
The `Site`s of a description are the expressions that count, in the order of the description, each
in front of those below it. A conversion goes through the sites of what it converts, and either
fails at the first with a defect or gives something that carries all that was said
(`Schema.ofDocument?_stopsAtFirst`).
-/

namespace Bindery.Document

/-! ## Type expressions that count -/

/-- A type expression at the place that an error names. -/
structure Site where
  place : String
  type : TypeExpr

/-- The kinds of type expressions but arrays. -/
def plainKinds : List String := ["string", "integer", "number", "boolean", "any", "object"]

/-- What is wrong with a type expression, whatever is said below it. -/
def TypeExpr.defect? (type : TypeExpr) : Option String :=
  match type.reference, type.kind with
  | some _, _ => none
  | none, none => some "<missing type and $ref>"
  | none, some "array" => if type.items.isNone then some "array without items" else none
  | none, some kind => if kind ∈ plainKinds then none else some kind

/-- The failure of a site. -/
def Site.error? (site : Site) : Option Error :=
  site.type.defect?.map (.unsupportedShape site.place)

mutual

/-- The expressions that count in a type expression at a place: itself, and those below it. -/
def TypeExpr.sites (place : String) : TypeExpr → List Site
  | .mk kind reference description items literals properties =>
    ⟨place, .mk kind reference description items literals properties⟩ ::
      match reference, kind with
      | none, some "array" =>
        match items with
        | some items => items.sites place
        | none => []
      | none, some "object" =>
        match properties with
        | some members => Member.allSites place members
        | none => []
      | _, _ => []

/-- The expressions that count in the members of a place. -/
def Member.allSites (place : String) : List Member → List Site
  | [] => []
  | .mk name _ _ type :: rest => type.sites (place ++ "." ++ name) ++ Member.allSites place rest

end

/-- A type, a command or an event stands at its domain and its name. -/
def placeOf (domain name : String) : String := domain ++ "." ++ name

def TypeEntry.sites (domain : String) (entry : TypeEntry) : List Site :=
  entry.type.sites (placeOf domain entry.id)

/-- The parameters of a command come before its returns. -/
def CommandEntry.sites (domain : String) (entry : CommandEntry) : List Site :=
  Member.allSites (placeOf domain entry.name) entry.parameters ++
    Member.allSites (placeOf domain entry.name) entry.returns

def EventEntry.sites (domain : String) (entry : EventEntry) : List Site :=
  Member.allSites (placeOf domain entry.name) entry.parameters

/-- Types come before commands, and commands before events. -/
def DomainEntry.sites (entry : DomainEntry) : List Site :=
  entry.types.flatMap (·.sites entry.name) ++ entry.commands.flatMap (·.sites entry.name) ++
    entry.events.flatMap (·.sites entry.name)

def Protocol.sites (doc : Protocol) : List Site := doc.domains.flatMap (·.sites)

/-! ## What is kept -/

mutual

/-- What a type expression stands for. -/
inductive TypeExpr.StandsFor : TypeExpr → Shape → Prop where
  | reference {type : TypeExpr} {target : String} (href : type.reference = some target) :
      TypeExpr.StandsFor type (.reference target)
  | primitive {type : TypeExpr} {kind : Primitive} (href : type.reference = none)
      (hkind : type.kind = some kind.name) (hstring : kind = .string → type.literals = none)
      (hobject : kind = .object → type.properties = none) :
      TypeExpr.StandsFor type (.primitive kind)
  | enumeration {type : TypeExpr} {literals : List String} (href : type.reference = none)
      (hkind : type.kind = some "string") (hliterals : type.literals = some literals) :
      TypeExpr.StandsFor type (.enumeration literals)
  | array {type items : TypeExpr} {shape : Shape} (href : type.reference = none)
      (hkind : type.kind = some "array") (hitems : type.items = some items)
      (h : TypeExpr.StandsFor items shape) : TypeExpr.StandsFor type (.array shape)
  | composite {type : TypeExpr} {members : List Member} {properties : List Property}
      (href : type.reference = none) (hkind : type.kind = some "object")
      (hmembers : type.properties = some members)
      (h : List.Forall₂ Member.StandsFor members properties) :
      TypeExpr.StandsFor type (.composite properties)

/-- The property of a member keeps its name, its flags, and what its type says. -/
inductive Member.StandsFor : Member → Property → Prop where
  | mk {m : Member} {p : Property} (name : p.name = m.name)
      (description : p.description = m.type.description) (optional : p.optional = m.optional)
      (experimental : p.experimental = m.experimental)
      (shape : TypeExpr.StandsFor m.type p.shape) : Member.StandsFor m p

end

/-- The type of an entry keeps its name, its description and its flag. An object without declared
members is a record without members. -/
structure TypeEntry.StandsFor (entry : TypeEntry) (t : TypeDecl) : Prop where
  name : t.name = entry.id
  description : t.description = entry.type.description
  experimental : t.experimental = entry.experimental
  shape : entry.type.StandsFor t.shape ∨
    entry.type.StandsFor (.primitive .object) ∧ t.shape = .composite []
  record : t.shape ≠ .primitive .object

structure CommandEntry.StandsFor (entry : CommandEntry) (c : Command) : Prop where
  name : c.name = entry.name
  description : c.description = entry.description
  experimental : c.experimental = entry.experimental
  parameters : List.Forall₂ Member.StandsFor entry.parameters c.parameters
  returns : List.Forall₂ Member.StandsFor entry.returns c.returns

structure EventEntry.StandsFor (entry : EventEntry) (event : Event) : Prop where
  name : event.name = entry.name
  description : event.description = entry.description
  experimental : event.experimental = entry.experimental
  parameters : List.Forall₂ Member.StandsFor entry.parameters event.parameters

structure DomainEntry.StandsFor (entry : DomainEntry) (d : Domain) : Prop where
  name : d.name = entry.name
  description : d.description = entry.description
  experimental : d.experimental = entry.experimental
  types : List.Forall₂ TypeEntry.StandsFor entry.types d.types
  commands : List.Forall₂ CommandEntry.StandsFor entry.commands d.commands
  events : List.Forall₂ EventEntry.StandsFor entry.events d.events

structure Protocol.StandsFor (doc : Protocol) (s : Schema) : Prop where
  major : s.version.major = doc.version.major
  minor : s.version.minor = doc.version.minor
  domains : List.Forall₂ DomainEntry.StandsFor doc.domains s.domains

end Bindery.Document

namespace Bindery

open Document

/-! ## Conversions -/

section Kinds

variable {kind place : String} {description : Option String} {items : Option TypeExpr}
  {literals : Option (List String)} {properties : Option (List Member)}

theorem Document.TypeExpr.defect?_of_unknown (harray : kind ≠ "array")
    (hplain : kind ∉ plainKinds) :
    defect? (.mk (some kind) none description items literals properties) = some kind := by
  simp [defect?, reference, TypeExpr.kind, hplain]

/-- Nothing counts below an expression that is no array and no object. -/
theorem Document.TypeExpr.sites_of_flat (harray : kind ≠ "array") (hobject : kind ≠ "object") :
    sites place (.mk (some kind) none description items literals properties) =
      [⟨place, .mk (some kind) none description items literals properties⟩] := by
  rw [sites]
  · exact fun _ h => harray (Option.some.inj h)
  · exact fun _ h => hobject (Option.some.inj h)

end Kinds

/-- A site fails with an error. -/
def Document.Site.FailsWith (site : Site) (e : Error) : Prop := site.error? = some e

theorem Document.Site.forall_not_failsWith_iff {site : Site} :
    (∀ e, ¬ site.FailsWith e) ↔ site.type.defect? = none := by
  simp only [FailsWith, error?]
  cases site.type.defect? with
  | none => exact ⟨fun _ => rfl, fun _ _ => nofun⟩
  | some kind => exact ⟨fun hnone => absurd rfl (hnone _), nofun⟩

theorem Document.Site.not_failsWith {place : String} {type : TypeExpr} (h : type.defect? = none) :
    ∀ e, ¬ Site.FailsWith ⟨place, type⟩ e :=
  forall_not_failsWith_iff.mpr h

/-- A conversion stops at an expression with a defect. -/
theorem Document.Site.stopsAtFirst {place kind : String} {type : TypeExpr} {good : Shape → Prop}
    (h : type.defect? = some kind) :
    Except.StopsAtFirst Site.FailsWith good [⟨place, type⟩]
      (.error (.unsupportedShape place kind)) := by
  refine .head ?_
  rw [FailsWith, error?, h]
  rfl

mutual

theorem Shape.ofExpr?_stopsAtFirst (place : String) : ∀ type : TypeExpr,
    Except.StopsAtFirst Site.FailsWith type.StandsFor (type.sites place)
      (Shape.ofExpr? place type)
  | .mk _ (some _) _ _ _ _ => .cons (Site.not_failsWith rfl) (.pure (.reference rfl))
  | .mk none none _ _ _ _ => Site.stopsAtFirst rfl
  | .mk (some kind) none description items literals properties => by
    unfold Shape.ofExpr?
    split
    · -- a text, or one of the given literals
      cases literals with
      | none =>
        exact .cons (Site.not_failsWith rfl) (.pure (.primitive rfl rfl (fun _ => rfl) nofun))
      | some literals => exact .cons (Site.not_failsWith rfl) (.pure (.enumeration rfl rfl rfl))
    -- integers, numbers, truth values and values of any kind
    · exact .cons (Site.not_failsWith rfl) (.pure (.primitive rfl rfl nofun nofun))
    · exact .cons (Site.not_failsWith rfl) (.pure (.primitive rfl rfl nofun nofun))
    · exact .cons (Site.not_failsWith rfl) (.pure (.primitive rfl rfl nofun nofun))
    · exact .cons (Site.not_failsWith rfl) (.pure (.primitive rfl rfl nofun nofun))
    · -- an object goes through the members that it declares
      cases properties with
      | none =>
        exact .cons (Site.not_failsWith rfl) (.pure (.primitive rfl rfl nofun fun _ => rfl))
      | some members =>
        refine .cons (Site.not_failsWith rfl) ?_
        exact (Property.ofMembers?_stopsAtFirst place members).map fun properties hproperties =>
          .composite rfl rfl rfl hproperties
    · -- an array has no shape without items
      cases items with
      | none => exact Site.stopsAtFirst rfl
      | some items =>
        refine .cons (Site.not_failsWith rfl) ?_
        exact (Shape.ofExpr?_stopsAtFirst place items).map fun shape hshape =>
          .array rfl rfl rfl hshape
    · -- no other kind is known
      rename_i hstring hinteger hnumber hboolean hany hobject harray
      have hplain : kind ∉ plainKinds := by
        simp only [plainKinds, List.mem_cons, List.not_mem_nil, or_false, not_or]
        exact ⟨hstring, hinteger, hnumber, hboolean, hany, hobject⟩
      rw [TypeExpr.sites_of_flat harray hobject]
      exact Site.stopsAtFirst (TypeExpr.defect?_of_unknown harray hplain)

theorem Property.ofMembers?_stopsAtFirst (place : String) : ∀ members : List Member,
    Except.StopsAtFirst Site.FailsWith (List.Forall₂ Member.StandsFor members)
      (Member.allSites place members) (Property.ofMembers? place members)
  | [] => .pure .nil
  | .mk name optional experimental type :: rest => by
    rw [Property.ofMembers?, Member.allSites]
    refine (Shape.ofExpr?_stopsAtFirst _ type).bind fun shape hshape => ?_
    refine (Property.ofMembers?_stopsAtFirst place rest).bind_ok fun properties hproperties => ?_
    exact .cons ⟨rfl, rfl, rfl, rfl, hshape⟩ hproperties

end

theorem TypeDecl.ofEntry?_stopsAtFirst (domain : String) (entry : TypeEntry) :
    Except.StopsAtFirst Site.FailsWith entry.StandsFor (entry.sites domain)
      (TypeDecl.ofEntry? domain entry) := by
  refine (Shape.ofExpr?_stopsAtFirst _ entry.type).bind_ok fun shape hshape => ?_
  split
  · exact ⟨rfl, rfl, rfl, .inr ⟨hshape, rfl⟩, nofun⟩
  · rename_i hother
    exact ⟨rfl, rfl, rfl, .inl hshape, hother⟩

theorem Command.ofEntry?_stopsAtFirst (domain : String) (entry : CommandEntry) :
    Except.StopsAtFirst Site.FailsWith entry.StandsFor (entry.sites domain)
      (Command.ofEntry? domain entry) :=
  (Property.ofMembers?_stopsAtFirst _ entry.parameters).bind fun _ hparameters =>
    (Property.ofMembers?_stopsAtFirst _ entry.returns).bind_ok fun _ hreturns =>
      ⟨rfl, rfl, rfl, hparameters, hreturns⟩

theorem Event.ofEntry?_stopsAtFirst (domain : String) (entry : EventEntry) :
    Except.StopsAtFirst Site.FailsWith entry.StandsFor (entry.sites domain)
      (Event.ofEntry? domain entry) :=
  (Property.ofMembers?_stopsAtFirst _ entry.parameters).bind_ok fun _ hparameters =>
    ⟨rfl, rfl, rfl, hparameters⟩

theorem Domain.ofEntry?_stopsAtFirst (entry : DomainEntry) :
    Except.StopsAtFirst Site.FailsWith entry.StandsFor entry.sites (Domain.ofEntry? entry) := by
  have htypes := Except.StopsAtFirst.mapM fun t (_ : t ∈ entry.types) =>
    TypeDecl.ofEntry?_stopsAtFirst entry.name t
  have hcommands := Except.StopsAtFirst.mapM fun c (_ : c ∈ entry.commands) =>
    Command.ofEntry?_stopsAtFirst entry.name c
  have hevents := Except.StopsAtFirst.mapM fun event (_ : event ∈ entry.events) =>
    Event.ofEntry?_stopsAtFirst entry.name event
  rw [DomainEntry.sites, List.append_assoc]
  exact htypes.bind fun _ htypes => hcommands.bind fun _ hcommands =>
    hevents.bind_ok fun _ hevents => ⟨rfl, rfl, rfl, htypes, hcommands, hevents⟩

/-- **A description is converted site by site.** -/
theorem Schema.ofDocument?_stopsAtFirst (doc : Protocol) :
    Except.StopsAtFirst Site.FailsWith doc.StandsFor doc.sites (Schema.ofDocument? doc) :=
  (Except.StopsAtFirst.mapM fun d _ => Domain.ofEntry?_stopsAtFirst d).bind_ok fun _ hdomains =>
    ⟨rfl, rfl, hdomains⟩

/-- **What becomes of a description.** It has a schema if and only if no type expression that
counts has a defect. The schema keeps what was said: every domain, type, command, parameter, return
value, event and property is at its position and has its name, description and flags, and no type
is an object without declared members. Otherwise the error names the place and the defect of the
first type expression that counts and has one. -/
theorem Schema.ofDocument?_converts (doc : Protocol) :
    ((∃ s, Schema.ofDocument? doc = .ok s) ↔ ∀ site ∈ doc.sites, site.type.defect? = none) ∧
    (∀ s, Schema.ofDocument? doc = .ok s → doc.StandsFor s) ∧
    ∀ e, Schema.ofDocument? doc = .error e → ∃ before site after kind,
      doc.sites = before ++ site :: after ∧
      (∀ site' ∈ before, site'.type.defect? = none) ∧
      site.type.defect? = some kind ∧
      e = .unsupportedShape site.place kind := by
  have hstops := Schema.ofDocument?_stopsAtFirst doc
  refine ⟨hstops.exists_ok_iff.trans ?_, fun s hs => ?_, fun e he => ?_⟩
  · exact forall₂_congr fun site _ => Site.forall_not_failsWith_iff
  · rw [hs] at hstops
    exact hstops.good_of_ok
  · rw [he] at hstops
    obtain ⟨before, site, after, hsites, hbefore, hbad⟩ := hstops.exists_of_error
    obtain ⟨kind, hkind, rfl⟩ := Option.map_eq_some_iff.mp hbad
    refine ⟨before, site, after, kind, hsites, fun site' hsite' => ?_, hkind, rfl⟩
    exact Site.forall_not_failsWith_iff.mp (hbefore site' hsite')

/-- The items below the reference do not count, and those of the array stand at its place. -/
example :
    let hidden : TypeExpr := .mk (some "array") (some "Node") none none none none
    let nested : TypeExpr := .mk (some "array") none none (some .empty) none none
    let record : TypeExpr := .mk (some "object") none none none none
      (some [.mk "parent" false false hidden, .mk "children" true false nested])
    Schema.ofDocument? ⟨⟨"1", "3"⟩, [⟨"DOM", none, false, [⟨"Node", false, record⟩], [], []⟩]⟩ =
      .error (.unsupportedShape "DOM.Node.children" "<missing type and $ref>") :=
  rfl

end Bindery
