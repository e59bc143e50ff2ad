import Bindery.Proofs.Definitions
import Mathlib.Logic.Relation

/-!
# Records inside records

A record whose fields hold records by value has no size if one of these is the record itself, at
some depth. References are boxed to prevent that, but whether they are is decided by the bare name
of the target: a name that is that of a record in one domain and of another kind of type in another
one is held by value everywhere. So a record can hold itself; `mixed_name_of_contains_self` says
that its name must be one of these, unless its identifier is that of a built-in type.

What a field holds is read from the text of its type, as a reader of the code would: a record that
is called `String` is held by every field with a text in it.
-/

namespace Bindery

/-! ## What a type holds -/

/-- A text is an identifier, or `Option` around it, once or more often. -/
inductive InOptions (ident : String) : String → Prop where
  | bare : InOptions ident ident
  | option {text : String} (h : InOptions ident text) : InOptions ident ("Option<" ++ text ++ ">")

/-- The values of a type lie where they stand: neither a box nor a vector nor a map is around
them. -/
def CodeType.isInPlace : CodeType → Bool
  | .double | .integer | .boolean | .string | .named _ => true
  | .option content => content.isInPlace
  | .raw | .stringMap | .boxed _ | .vector _ => false

/-- A type holds what has the identifier by value: it is spelled by the identifier, possibly inside
`Option`. -/
def CodeType.HoldsIdent (type : CodeType) (ident : String) : Prop :=
  type.isInPlace = true ∧ InOptions ident type.text

/-- A type declaration, with the domain that it belongs to. -/
structure OwnedType where
  domain : Domain
  decl : TypeDecl

namespace OwnedType

variable (domains : List Domain)

/-- The type is one of a schema. -/
def In (x : OwnedType) : Prop := x.domain ∈ domains ∧ x.decl ∈ x.domain.types

/-- The identifier of the type in the code of the schema. -/
def ident (x : OwnedType) : String :=
  (NameTable.build domains).ident x.domain.name x.decl.name

/-- The type is a record. -/
def IsRecord (x : OwnedType) : Prop := ∃ properties, x.decl.shape = .composite properties

/-- The shapes that the code of a type spells out, and whether they are optional: those of the
fields of a record, or the one that an alias stands for. -/
def parts (x : OwnedType) : List (Shape × Bool) :=
  match x.decl.shape with
  | .composite properties => properties.map fun p => (p.shape, p.optional)
  | .enumeration _ => []
  | shape => [(shape, false)]

end OwnedType

/-- The generated code of one type holds the other by value: a field of the record, or the type that
the name is an alias of, is the bare identifier of the other type, possibly inside `Option`. -/
inductive Holds (domains : List Domain) (x y : OwnedType) : Prop where
  | field {properties : List Property} {record : Record} {field : RecordField}
      (hx : x.In domains) (hy : y.In domains) (hshape : x.decl.shape = .composite properties)
      (hrecord : Record.ofProperties? (NameTable.build domains) x.domain.name (x.ident domains)
        x.decl.name properties = .ok record)
      (hfield : field ∈ record.fields) (hheld : field.type.HoldsIdent (y.ident domains))
  | alias {type : CodeType} (hx : x.In domains) (hy : y.In domains)
      (hnorecord : ∀ properties, x.decl.shape ≠ .composite properties)
      (hnoenum : ∀ literals, x.decl.shape ≠ .enumeration literals)
      (htype : CodeType.ofShape? (NameTable.build domains) x.domain.name x.decl.name x.decl.shape =
        .ok type)
      (hheld : type.HoldsIdent (y.ident domains))

/-- One type contains another by value, at some depth. -/
def Contains (domains : List Domain) : OwnedType → OwnedType → Prop :=
  Relation.TransGen (Holds domains)

/-- Some type of this name is no record. -/
def HasValueKind (domains : List Domain) (name : String) : Prop :=
  ∃ d ∈ domains, ∃ t ∈ d.types, t.name = name ∧ t.shape.isValueKind = true

theorem NameTable.isValue_build_iff {domains : List Domain} {name : String} :
    (build domains).isValue name = true ↔ HasValueKind domains name := by
  unfold isValue
  rw [List.contains_iff_mem, mem_valueNames_build]
  rfl

/-- The identifiers of built-in types whose values lie where they stand. -/
def builtinIdents : List String := ["f64", "i64", "bool", "String"]

/-- How a domain spells a shape whose values lie where they stand: a built-in type, or the
identifier of what is referred to, if some type of that name is no record. -/
inductive InPlace (domains : List Domain) (domain : String) : Shape → String → Prop where
  | number : InPlace domains domain (.primitive .number) "f64"
  | integer : InPlace domains domain (.primitive .integer) "i64"
  | boolean : InPlace domains domain (.primitive .boolean) "bool"
  | string : InPlace domains domain (.primitive .string) "String"
  | enumeration (literals : List String) : InPlace domains domain (.enumeration literals) "String"
  | reference {target owner name : String} (hrefers : RefersTo domain target owner name)
      (hdeclares : Declares domains owner name) (hkind : HasValueKind domains name) :
      InPlace domains domain (.reference target) ((NameTable.build domains).ident owner name)

/-- The text of a field whose values are spelled by a text. -/
def fieldText (optional : Bool) (text : String) : String :=
  if optional then "Option<" ++ text ++ ">" else text

namespace InOptions

variable {ident text : String}

/-- Around what has no angle bracket there is no `Option`. -/
theorem iff_of_not_mem (h : '<' ∉ text.toList) : InOptions ident text ↔ ident = text := by
  constructor
  · rintro (_ | _)
    · rfl
    · exact absurd (by simp) h
  · rintro rfl
    exact .bare

theorem option_iff : InOptions ident ("Option<" ++ text ++ ">") ↔
    ident = "Option<" ++ text ++ ">" ∨ InOptions ident text := by
  constructor
  · intro h
    generalize hwhole : "Option<" ++ text ++ ">" = whole at h
    cases h with
    | bare => exact .inl rfl
    | @option inside h =>
      have hchars := congrArg String.toList hwhole
      simp only [String.toList_append, List.append_cancel_right_eq, List.append_cancel_left_eq,
        String.toList_inj] at hchars
      rw [hchars]
      exact .inr h
  · rintro (rfl | h)
    · exact .bare
    · exact .option h

end InOptions

namespace CodeType

/-- **What lies where it stands.** The values of a type do exactly if its shape has a spelling of
that kind, and this is how the type is spelled. -/
theorem isInPlace_ofShape? {domains : List Domain} {domain declaration : String} {shape : Shape}
    {type : CodeType}
    (h : ofShape? (NameTable.build domains) domain declaration shape = .ok type) (text : String) :
    type.isInPlace = true ∧ type.text = text ↔ InPlace domains domain shape text := by
  cases shape with
  | primitive kind =>
    obtain rfl := Except.ok.inj h
    cases kind with
    | number => exact ⟨fun h => h.2 ▸ .number, fun h => by cases h; exact ⟨rfl, rfl⟩⟩
    | integer => exact ⟨fun h => h.2 ▸ .integer, fun h => by cases h; exact ⟨rfl, rfl⟩⟩
    | boolean => exact ⟨fun h => h.2 ▸ .boolean, fun h => by cases h; exact ⟨rfl, rfl⟩⟩
    | string => exact ⟨fun h => h.2 ▸ .string, fun h => by cases h; exact ⟨rfl, rfl⟩⟩
    | any => exact ⟨fun h => absurd h.1 (by decide), fun h => by cases h⟩
    | object => exact ⟨fun h => absurd h.1 (by decide), fun h => by cases h⟩
  | enumeration literals =>
    obtain rfl := Except.ok.inj h
    exact ⟨fun h => h.2 ▸ .enumeration literals, fun h => by cases h; exact ⟨rfl, rfl⟩⟩
  | composite properties =>
    obtain rfl := Except.ok.inj h
    exact ⟨fun h => absurd h.1 (by decide), fun h => by cases h⟩
  | array items =>
    rw [ofShape?] at h
    obtain ⟨content, -, h⟩ := Except.bind_eq_ok_iff.mp h
    obtain rfl := Except.ok.inj h
    exact ⟨fun h => absurd h.1 Bool.false_ne_true, fun h => by cases h⟩
  | reference target =>
    obtain ⟨owner, name, hresolve, rfl⟩ := ofShape?_reference_eq_ok_iff.mp h
    obtain ⟨hrefers, hdeclares⟩ := NameTable.resolve?_build_iff.mp hresolve
    constructor
    · rintro ⟨hplace, rfl⟩
      split at hplace
      · rename_i hvalue
        rw [if_pos hvalue]
        exact .reference hrefers hdeclares (NameTable.isValue_build_iff.mp hvalue)
      · cases hplace
    · rintro (_ | _ | _ | _ | _ | ⟨hrefers', hdeclares', hkind⟩)
      have hresolve' := NameTable.resolve?_build_iff.mpr ⟨hrefers', hdeclares'⟩
      obtain ⟨rfl, rfl⟩ := Prod.mk.inj (Option.some.inj (hresolve.symm.trans hresolve'))
      rw [if_pos (NameTable.isValue_build_iff.mpr hkind)]
      exact ⟨rfl, rfl⟩

/-- A shape with such a spelling has a type. -/
theorem exists_ofShape?_of_inPlace {domains : List Domain} {domain : String} {shape : Shape}
    {text : String} (h : InPlace domains domain shape text) (declaration : String) :
    ∃ type, ofShape? (NameTable.build domains) domain declaration shape = .ok type := by
  cases h with
  | reference hrefers hdeclares hkind =>
    have hresolve := NameTable.resolve?_build_iff.mpr ⟨hrefers, hdeclares⟩
    exact ⟨_, ofShape?_reference_eq_ok_iff.mpr ⟨_, _, hresolve, rfl⟩⟩
  | _ => exact ⟨_, rfl⟩

theorem holdsIdent_fieldType {optional : Bool} {type : CodeType} {ident : String} :
    (if optional then .option type else type).HoldsIdent ident ↔
      type.isInPlace = true ∧ InOptions ident (fieldText optional type.text) := by
  cases optional <;> rfl

end CodeType

/-! ## What records hold -/

/-- Every field has a property, whose shape has the type of the field, with room for absence if the
property is optional. -/
theorem Record.property_of_field_from {table : NameTable} {domain declaration : String} :
    ∀ {properties : List Property} {taken : List String} {fields : List RecordField},
      fieldsFrom? table domain declaration taken properties = .ok fields →
        ∀ field ∈ fields, ∃ p ∈ properties, ∃ type,
          CodeType.ofShape? table domain declaration p.shape = .ok type ∧
            field.type = if p.optional then .option type else type := by
  intro properties
  induction properties with
  | nil =>
    intro taken fields h field hfield
    rw [fieldsFrom?] at h
    obtain rfl := Except.ok.inj h
    exact absurd hfield List.not_mem_nil
  | cons p rest ih =>
    intro taken fields h field hfield
    rw [fieldsFrom?] at h
    obtain ⟨type, htype, h⟩ := Except.bind_eq_ok_iff.mp h
    obtain ⟨later, hlater, h⟩ := Except.bind_eq_ok_iff.mp h
    obtain rfl := Except.ok.inj h
    rcases List.mem_cons.mp hfield with rfl | hfield
    · obtain ⟨content, hcontent, hoptional⟩ := Except.bind_eq_ok_iff.mp htype
      exact ⟨p, List.mem_cons_self, content, hcontent, (Except.ok.inj hoptional).symm⟩
    · obtain ⟨q, hq, hfound⟩ := ih hlater field hfield
      exact ⟨q, List.mem_cons_of_mem _ hq, hfound⟩

theorem Record.property_of_field {table : NameTable} {domain ident declaration : String}
    {properties : List Property} {record : Record}
    (h : ofProperties? table domain ident declaration properties = .ok record) {field : RecordField}
    (hfield : field ∈ record.fields) :
    ∃ p ∈ properties, ∃ type, CodeType.ofShape? table domain declaration p.shape = .ok type ∧
      field.type = if p.optional then .option type else type := by
  obtain ⟨fields, hfields, hrecord⟩ := Except.bind_eq_ok_iff.mp h
  obtain rfl := Except.ok.inj hrecord
  exact property_of_field_from hfields field hfield

/-- All domains have code, experimental declarations included. -/
def AllEmit (domains : List Domain) : Prop :=
  ∀ d ∈ domains, ∃ unit, d.unit? (NameTable.build domains) ⟨true⟩ = .ok unit

namespace OwnedType

variable {domains : List Domain} {x y : OwnedType}

/-- In a schema that has code, each record has. -/
theorem record_of_allEmit (hall : AllEmit domains) (hx : x.In domains) {properties : List Property}
    (hshape : x.decl.shape = .composite properties) :
    ∃ record, Record.ofProperties? (NameTable.build domains) x.domain.name (x.ident domains)
      x.decl.name properties = .ok record := by
  obtain ⟨unit, hunit⟩ := hall x.domain hx.1
  obtain ⟨pieces, hpieces, -⟩ := Domain.hasLine_body hunit
  rw [Domain.included_all] at hpieces
  obtain ⟨piece, -, hpiece⟩ := (Domain.piece_mem_pieces hpieces).1 x.decl hx.2
  unfold TypeDecl.piece? at hpiece
  simp only [hshape] at hpiece
  obtain ⟨record, hrecord, -⟩ := Except.bind_eq_ok_iff.mp hpiece
  exact ⟨record, hrecord⟩

theorem mem_parts_iff {part : Shape × Bool} :
    part ∈ x.parts ↔
      (∃ properties, x.decl.shape = .composite properties ∧
        ∃ p ∈ properties, (p.shape, p.optional) = part) ∨
      (∀ properties, x.decl.shape ≠ .composite properties) ∧
        (∀ literals, x.decl.shape ≠ .enumeration literals) ∧ part = (x.decl.shape, false) := by
  unfold parts
  split
  · rename_i properties hshape
    simp [hshape]
  · rename_i literals hshape
    simp [hshape]
  · rename_i hnorecord hnoenum
    simp only [List.mem_singleton]
    constructor
    · rintro rfl
      exact .inr ⟨hnorecord, hnoenum, rfl⟩
    · rintro (⟨properties, hshape, -⟩ | ⟨-, -, rfl⟩)
      · exact absurd hshape (hnorecord properties)
      · rfl

end OwnedType

/-- **What is held by value.** The code of a type holds another type by value exactly if one of its
parts lies where it stands and its spelling, possibly inside `Option`, is the identifier of the
other type. -/
theorem holds_iff {domains : List Domain} (hall : AllEmit domains) {x y : OwnedType} :
    Holds domains x y ↔ x.In domains ∧ y.In domains ∧ ∃ part ∈ x.parts, ∃ text,
      InPlace domains x.domain.name part.1 text ∧
        InOptions (y.ident domains) (fieldText part.2 text) := by
  constructor
  · rintro (⟨hx, hy, hshape, hrecord, hfield, hheld⟩ |
      ⟨hx, hy, hnorecord, hnoenum, htype, hplace, hspelled⟩)
    · -- the type of a field is that of a property
      obtain ⟨p, hp, type, htype, hfieldtype⟩ := Record.property_of_field hrecord hfield
      rw [hfieldtype, CodeType.holdsIdent_fieldType] at hheld
      exact ⟨hx, hy, (p.shape, p.optional),
        OwnedType.mem_parts_iff.mpr (.inl ⟨_, hshape, p, hp, rfl⟩), type.text,
        (CodeType.isInPlace_ofShape? htype _).mp ⟨hheld.1, rfl⟩, hheld.2⟩
    · exact ⟨hx, hy, (x.decl.shape, false),
        OwnedType.mem_parts_iff.mpr (.inr ⟨hnorecord, hnoenum, rfl⟩), _,
        (CodeType.isInPlace_ofShape? htype _).mp ⟨hplace, rfl⟩, hspelled⟩
  · rintro ⟨hx, hy, part, hpart, text, hplace, hspelled⟩
    rcases OwnedType.mem_parts_iff.mp hpart with
      ⟨properties, hshape, p, hp, rfl⟩ | ⟨hnorecord, hnoenum, rfl⟩
    · obtain ⟨record, hrecord⟩ := OwnedType.record_of_allEmit hall hx hshape
      obtain ⟨type, htype, field, hfield, hfieldtype⟩ := Record.field_of_property hrecord hp
      obtain ⟨hin, rfl⟩ := (CodeType.isInPlace_ofShape? htype _).mpr hplace
      refine .field hx hy hshape hrecord hfield ?_
      rw [hfieldtype, CodeType.holdsIdent_fieldType]
      exact ⟨hin, hspelled⟩
    · obtain ⟨type, htype⟩ := CodeType.exists_ofShape?_of_inPlace hplace x.decl.name
      obtain ⟨hin, rfl⟩ := (CodeType.isInPlace_ofShape? htype _).mpr hplace
      exact .alias hx hy hnorecord hnoenum htype ⟨hin, hspelled⟩

/-! ## Records in themselves -/

/-- A type that is contained in itself is held by a type. -/
theorem Contains.held {domains : List Domain} {x y : OwnedType} (h : Contains domains x y) :
    ∃ z, Holds domains z y := by
  cases h with
  | single hholds => exact ⟨x, hholds⟩
  | tail _ hholds => exact ⟨_, hholds⟩

/-- What lies where it stands is spelled by a built-in type, or by the identifier of a type whose
name some type has that is no record. -/
theorem InPlace.text_cases {domains : List Domain} {domain text : String} {shape : Shape}
    (h : InPlace domains domain shape text) :
    text ∈ builtinIdents ∨ ∃ owner name, Declares domains owner name ∧ HasValueKind domains name ∧
      (NameTable.build domains).ident owner name = text := by
  cases h with
  | reference _ hdeclares hkind => exact .inr ⟨_, _, hdeclares, hkind, rfl⟩
  | _ => exact .inl (by decide)

/-- **When a record can contain itself.** One type holds another by value exactly if a part of its
code lies where it stands, a built-in type or a reference to a name that some type has which is no
record, and is spelled by the identifier of the other type, possibly inside `Option`. So a record
that contains itself, at whatever depth, has the identifier of a built-in type or of a type of such
a name; where its identifier tells it apart from both, its own name is also that of a type which is
no record. -/
theorem mixed_name_of_contains_self {domains : List Domain} (hall : AllEmit domains) :
    (∀ x y, Holds domains x y ↔ x.In domains ∧ y.In domains ∧ ∃ part ∈ x.parts, ∃ text,
      InPlace domains x.domain.name part.1 text ∧
        InOptions (y.ident domains) (fieldText part.2 text)) ∧
    (∀ x : OwnedType, x.IsRecord → Contains domains x x → ∃ text optional,
      InOptions (x.ident domains) (fieldText optional text) ∧
      (text ∈ builtinIdents ∨ ∃ owner name, Declares domains owner name ∧
        HasValueKind domains name ∧ (NameTable.build domains).ident owner name = text)) ∧
    (∀ x : OwnedType, x.IsRecord →
      (∀ text ∈ builtinIdents, ∀ optional,
        ¬ InOptions (x.ident domains) (fieldText optional text)) →
      (∀ owner name, Declares domains owner name → ∀ optional,
        InOptions (x.ident domains)
          (fieldText optional ((NameTable.build domains).ident owner name)) →
        name = x.decl.name) →
      Contains domains x x → HasValueKind domains x.decl.name) := by
  have held (x : OwnedType) (h : Contains domains x x) : ∃ text optional,
      InOptions (x.ident domains) (fieldText optional text) ∧
      (text ∈ builtinIdents ∨ ∃ owner name, Declares domains owner name ∧
        HasValueKind domains name ∧ (NameTable.build domains).ident owner name = text) := by
    -- the last type on the way around holds this one
    obtain ⟨z, hholds⟩ := h.held
    obtain ⟨-, -, part, -, text, hplace, hspelled⟩ := (holds_iff hall).mp hholds
    exact ⟨text, part.2, hspelled, hplace.text_cases⟩
  refine ⟨fun x y => holds_iff hall, fun x _ h => held x h, fun x _ hbuiltin hapart h => ?_⟩
  obtain ⟨text, optional, hspelled, hmem | ⟨owner, name, hdeclares, hkind, rfl⟩⟩ := held x h
  · exact absurd hspelled (hbuiltin text hmem optional)
  · rw [← hapart owner name hdeclares optional hspelled]
    exact hkind

/-- A domain with one type. -/
def Domain.ofType (name : String) (decl : TypeDecl) : Domain where
  name
  description := none
  experimental := false
  types := [decl]
  commands := []
  events := []

/-- A record with a field that may hold another record of the kind. -/
def chained (name : String) : TypeDecl :=
  ⟨name, none, false, .composite [⟨"next", none, true, false, .reference name⟩]⟩

/-- A record whose name no type of another kind has. -/
def listDomains : List Domain := [.ofType "A" (chained "Entry")]

/-- The record in it. -/
def listEntry : OwnedType := ⟨.ofType "A" (chained "Entry"), chained "Entry"⟩

theorem mixed_name_of_contains_self_in_listDomains :
    AllEmit listDomains ∧ ¬ Contains listDomains listEntry listEntry := by
  have hall : AllEmit listDomains := by
    intro d hd
    obtain rfl := List.mem_singleton.mp hd
    exact ⟨_, rfl⟩
  have hunmixed : ¬ HasValueKind listDomains "Entry" := by
    rw [← NameTable.isValue_build_iff]
    decide
  have hident : listEntry.ident listDomains = "Entry" := by decide
  have hbuiltin : ∀ text ∈ builtinIdents, ∀ optional,
      ¬ InOptions (listEntry.ident listDomains) (fieldText optional text) := by
    have hplain : ∀ text ∈ builtinIdents, '<' ∉ text.toList ∧ "Entry" ≠ text ∧
        "Entry" ≠ "Option<" ++ text ++ ">" := by
      decide
    intro text htext optional
    obtain ⟨hbracket, hbare, hoption⟩ := hplain text htext
    rw [hident]
    cases optional <;> simp [fieldText, InOptions.option_iff, InOptions.iff_of_not_mem hbracket,
      hbare, hoption]
  refine ⟨hall, fun h => hunmixed ?_⟩
  refine (mixed_name_of_contains_self hall).2.2 listEntry ⟨_, rfl⟩ hbuiltin ?_ h
  rintro owner name ⟨d, hd, -, t, ht, rfl⟩ - -
  obtain rfl := List.mem_singleton.mp hd
  obtain rfl := List.mem_singleton.mp ht
  rfl

/-- The same record, with a number of its name in another domain. -/
def mixedDomains : List Domain :=
  [.ofType "A" (chained "Mixed"), .ofType "B" ⟨"Mixed", none, false, .primitive .integer⟩]

/-- A record can contain itself: references to `Mixed` are not boxed, as one `Mixed` is a number. -/
theorem not_forall_not_contains_self :
    ¬ ∀ domains, AllEmit domains → ∀ x : OwnedType, x.In domains → x.IsRecord →
      ¬ Contains domains x x := by
  intro h
  have hall : AllEmit mixedDomains := by
    intro d hd
    simp only [mixedDomains, List.mem_cons, List.not_mem_nil, or_false] at hd
    rcases hd with rfl | rfl
    · exact ⟨_, rfl⟩
    · exact ⟨_, rfl⟩
  have hin : OwnedType.In mixedDomains ⟨.ofType "A" (chained "Mixed"), chained "Mixed"⟩ :=
    ⟨List.mem_cons_self, List.mem_cons_self⟩
  refine h mixedDomains hall _ hin ⟨_, rfl⟩ (.single ?_)
  exact .field hin hin rfl rfl List.mem_cons_self ⟨rfl, .option .bare⟩

/-- A record with a text in it. -/
def labelled (name : String) : TypeDecl :=
  ⟨name, none, false, .composite [⟨"text", none, false, false, .primitive .string⟩]⟩

/-- A record that is called like a built-in type contains itself, though no name is mixed. -/
theorem contains_self_of_builtinIdent :
    Contains [.ofType "A" (labelled "String")] ⟨.ofType "A" (labelled "String"), labelled "String"⟩
        ⟨.ofType "A" (labelled "String"), labelled "String"⟩ ∧
      ¬ HasValueKind [.ofType "A" (labelled "String")] "String" := by
  have hin : OwnedType.In [.ofType "A" (labelled "String")]
      ⟨.ofType "A" (labelled "String"), labelled "String"⟩ :=
    ⟨List.mem_cons_self, List.mem_cons_self⟩
  constructor
  · exact .single (.field hin hin rfl rfl List.mem_cons_self ⟨rfl, .bare⟩)
  · rw [← NameTable.isValue_build_iff]
    decide

end Bindery
