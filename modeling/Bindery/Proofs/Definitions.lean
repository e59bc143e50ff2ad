import Bindery.Proofs.Emission
import Bindery.Proofs.Lines
import Bindery.Proofs.References
import Bindery.Proofs.Results

/-!
# Definitions and uses of types

A type is defined in one place of the generated code and used in others, which are written by
different functions for different domains. `TypeDecl.definition_mem_lines` says what line defines a
type, `TypeDecl.use_mem_lines` and its like for commands and events in what lines types are used.
Both go through the name table, so that a use spells the identifier that the definition has:
`references_meet_definitions`.
-/

namespace Bindery

open Text

/-! ## The lines of generated code -/

/-- The lines of a piece. -/
def Piece.lines (piece : Piece) : List String := Layout.allLinesAt 0 piece.layout

theorem Piece.flatMap_lines (pieces : List Piece) :
    pieces.flatMap (·.lines) = Layout.allLinesAt 0 (pieces.flatMap (·.layout)) := by
  induction pieces with
  | nil => rfl
  | cons piece rest ih => simp [← ih, lines]

/-- A line that defines a type under an identifier. -/
inductive IsDefinition (ident : String) : String → Prop where
  | record : IsDefinition ident ("pub struct " ++ ident ++ " \x7b")
  | emptyRecord : IsDefinition ident ("pub struct " ++ ident ++ " \x7b\x7d")
  | enumeration : IsDefinition ident ("pub struct " ++ ident ++ "(pub Cow<'static, str>);")
  | alias (type : CodeType) : IsDefinition ident ("pub type " ++ ident ++ " = " ++ type.text ++ ";")

/-- A line that uses a type: the field of a record, or an alias. -/
inductive IsUse (type : CodeType) : String → Prop where
  | field (name : String) : IsUse type ("    pub " ++ name ++ ": " ++ type.text ++ ",")
  | alias (name : String) : IsUse type ("pub type " ++ name ++ " = " ++ type.text ++ ";")

/-- Some line of a text defines a type under the identifier. -/
def DefinesType (text ident : String) : Prop := ∃ line, IsDefinition ident line ∧ HasLine text line

/-- Some line of a text uses the type. -/
def UsesType (text : String) (type : CodeType) : Prop := ∃ line, IsUse type line ∧ HasLine text line

/-! ## Records -/

namespace Record

/-- A record is defined under its identifier. -/
theorem definition_mem_lines (record : Record) :
    ∃ line ∈ Layout.allLinesAt 0 record.layout, IsDefinition record.ident line := by
  unfold layout
  cases record.fields with
  | nil =>
    refine ⟨_, ?_, .emptyRecord⟩
    simp [toString]
  | cons first rest =>
    refine ⟨_, ?_, .record⟩
    simp [toString]

/-- Each field of a record uses its type. -/
theorem use_mem_lines {record : Record} {field : RecordField} (h : field ∈ record.fields) :
    ∃ line ∈ Layout.allLinesAt 0 record.layout, IsUse field.type line := by
  have hfield : .line s!"pub {field.ident}: {field.type.text}," ∈ field.layout := by
    simp [RecordField.layout]
  have hline : "    pub " ++ field.ident ++ ": " ++ field.type.text ++ "," ∈
      Layout.linesAt 1 (.line s!"pub {field.ident}: {field.type.text},") := by
    rw [Layout.linesAt_line_one (by simp [toString])]
    simp only [toString, ← String.append_assoc]
    exact List.mem_cons_self
  unfold layout
  cases hfields : record.fields with
  | nil => rw [hfields] at h; exact absurd h List.not_mem_nil
  | cons first rest =>
    refine ⟨_, ?_, .field field.ident⟩
    rw [Layout.allLinesAt_append]
    refine List.mem_append_right _ ?_
    rw [Layout.allLinesAt, Layout.linesAt_block_zero]
    refine List.mem_append_left _ (List.mem_cons_of_mem _ (List.mem_append_left _ ?_))
    refine Layout.mem_allLinesAt.mpr ⟨_, ?_, hline⟩
    rw [hfields] at h
    rcases List.mem_cons.mp h with rfl | hrest
    · exact List.mem_append_left _ hfield
    · exact List.mem_append_right _
        (List.mem_flatMap.mpr ⟨field, hrest, List.mem_cons_of_mem _ hfield⟩)

theorem field_of_property_from {table : NameTable} {domain declaration : String} :
    ∀ {properties : List Property} {taken : List String} {fields : List RecordField},
      fieldsFrom? table domain declaration taken properties = .ok fields →
        ∀ p ∈ properties, ∃ type, CodeType.ofShape? table domain declaration p.shape = .ok type ∧
          ∃ field ∈ fields, field.type = if p.optional then .option type else type := by
  intro properties
  induction properties with
  | nil => intro _ _ _ p hp; exact absurd hp List.not_mem_nil
  | cons q rest ih =>
    intro taken fields h p hp
    rw [fieldsFrom?] at h
    obtain ⟨type, htype, h⟩ := Except.bind_eq_ok_iff.mp h
    obtain ⟨later, hlater, h⟩ := Except.bind_eq_ok_iff.mp h
    obtain rfl := Except.ok.inj h
    rcases List.mem_cons.mp hp with rfl | hrest
    · obtain ⟨content, hcontent, hoptional⟩ := Except.bind_eq_ok_iff.mp htype
      exact ⟨content, hcontent, _, List.mem_cons_self, (Except.ok.inj hoptional).symm⟩
    · obtain ⟨type', htype', field, hfield, heq⟩ := ih hlater p hrest
      exact ⟨type', htype', field, List.mem_cons_of_mem _ hfield, heq⟩

/-- Every property has a field, whose type is that of the shape, with room for absence if the
property is optional. -/
theorem field_of_property {table : NameTable} {domain ident declaration : String}
    {properties : List Property} {record : Record}
    (h : ofProperties? table domain ident declaration properties = .ok record) {p : Property}
    (hp : p ∈ properties) :
    ∃ type, CodeType.ofShape? table domain declaration p.shape = .ok type ∧
      ∃ field ∈ record.fields, field.type = if p.optional then .option type else type := by
  obtain ⟨fields, hfields, hrecord⟩ := Except.bind_eq_ok_iff.mp h
  obtain rfl := Except.ok.inj hrecord
  exact field_of_property_from hfields p hp

end Record

/-! ## Where types are used -/

/-- A place where generated code uses the type of a shape. -/
structure TypeUse where
  /-- The declaration that it is a part of. -/
  declaration : String
  /-- The value may be left out. -/
  optional : Bool
  shape : Shape

/-- The type that stands at a place, given the type of its shape. -/
def TypeUse.spelled (use : TypeUse) (type : CodeType) : CodeType :=
  if use.optional then .option type else type

def Property.use (declaration : String) (p : Property) : TypeUse :=
  ⟨declaration, p.optional, p.shape⟩

/-- A type uses the types of its members, or the one that it is an alias of. -/
def TypeDecl.uses (decl : TypeDecl) : List TypeUse :=
  match decl.shape with
  | .enumeration _ => []
  | .composite properties => properties.map (·.use decl.name)
  | shape => [⟨decl.name, false, shape⟩]

/-- A command uses the types of its parameters and returns. -/
def Command.uses (command : Command) : List TypeUse :=
  (command.parameters ++ command.returns).map (·.use command.name)

/-- An event uses the types of its parameters. -/
def Event.uses (event : Event) : List TypeUse :=
  event.parameters.map (·.use event.name)

/-- All places where the code of a domain uses types. -/
def Domain.uses (d : Domain) : List TypeUse :=
  d.types.flatMap (·.uses) ++ d.commands.flatMap (·.uses) ++ d.events.flatMap (·.uses)

/-- The shape of a use has a type, and one of the lines spells it. -/
def TypeUse.MetIn (use : TypeUse) (table : NameTable) (domain : String) (lines : List String) :
    Prop :=
  ∃ type, CodeType.ofShape? table domain use.declaration use.shape = .ok type ∧
    ∃ line ∈ lines, IsUse (use.spelled type) line

theorem TypeUse.MetIn.mono {use : TypeUse} {table : NameTable} {domain : String}
    {lines lines' : List String} (h : use.MetIn table domain lines) (hsub : lines ⊆ lines') :
    use.MetIn table domain lines' := by
  obtain ⟨type, htype, line, hline, huse⟩ := h
  exact ⟨type, htype, line, hsub hline, huse⟩

/-- The record of some properties uses their types. -/
theorem Record.use_of_property {table : NameTable} {domain ident declaration : String}
    {properties : List Property} {record : Record}
    (h : ofProperties? table domain ident declaration properties = .ok record)
    (description : Option String) (experimental : Bool) :
    ∀ use ∈ properties.map (·.use declaration), use.MetIn table domain
      (Layout.allLinesAt 0 (record.withDoc description experimental).layout) := by
  intro use huse
  obtain ⟨p, hp, rfl⟩ := List.mem_map.mp huse
  obtain ⟨type, htype, field, hfield, heq⟩ := field_of_property h hp
  have hfield : field ∈ (record.withDoc description experimental).fields := hfield
  obtain ⟨line, hline, hisuse⟩ := use_mem_lines hfield
  refine ⟨type, htype, line, hline, ?_⟩
  rw [heq] at hisuse
  exact hisuse

/-! ## Pieces -/

/-- **A type is defined under its identifier** in its domain. -/
theorem TypeDecl.definition_mem_lines {table : NameTable} {domain : String} {decl : TypeDecl}
    {piece : Piece} (h : decl.piece? table domain = .ok piece) :
    ∃ line ∈ piece.lines, IsDefinition (table.ident domain decl.name) line := by
  unfold piece? at h
  simp only at h
  split at h
  · obtain rfl := Except.ok.inj h
    refine ⟨_, ?_, .enumeration⟩
    refine Layout.mem_allLinesAt.mpr
      ⟨.line s!"pub struct {table.ident domain decl.name}(pub Cow<'static, str>);", ?_, ?_⟩
    · simp [Enumeration.layout]
    · rw [Layout.linesAt_line_zero]
      exact List.mem_cons_self
  · obtain ⟨record, hrecord, h⟩ := Except.bind_eq_ok_iff.mp h
    obtain rfl := Except.ok.inj h
    obtain ⟨fields, -, hfields⟩ := Except.bind_eq_ok_iff.mp hrecord
    obtain rfl := Except.ok.inj hfields
    obtain ⟨line, hline, hdefinition⟩ := Record.definition_mem_lines
      (Record.withDoc ⟨table.ident domain decl.name, none, false, fields⟩ decl.description
        decl.experimental)
    refine ⟨line, ?_, hdefinition⟩
    unfold Piece.lines
    rw [Layout.allLinesAt_append]
    exact List.mem_append_left _ hline
  · obtain ⟨type, htype, h⟩ := Except.bind_eq_ok_iff.mp h
    obtain rfl := Except.ok.inj h
    refine ⟨_, ?_, .alias type⟩
    refine Layout.mem_allLinesAt.mpr
      ⟨.line s!"pub type {table.ident domain decl.name} = {type.text};", by simp, ?_⟩
    rw [Layout.linesAt_line_zero]
    exact List.mem_cons_self

theorem TypeDecl.use_mem_lines {table : NameTable} {domain : String} {decl : TypeDecl}
    {piece : Piece} (h : decl.piece? table domain = .ok piece) :
    ∀ use ∈ decl.uses, use.MetIn table domain piece.lines := by
  intro use huse
  unfold piece? at h
  unfold uses at huse
  simp only at h
  split at h
  · rename_i literals hshape
    rw [hshape] at huse
    exact absurd huse List.not_mem_nil
  · rename_i properties hshape
    rw [hshape] at huse
    obtain ⟨record, hrecord, h⟩ := Except.bind_eq_ok_iff.mp h
    obtain rfl := Except.ok.inj h
    have hmet := Record.use_of_property hrecord decl.description decl.experimental use huse
    refine hmet.mono ?_
    unfold Piece.lines
    rw [Layout.allLinesAt_append]
    exact List.subset_append_left _ _
  · rename_i hnoenum hnorecord
    obtain ⟨type, htype, h⟩ := Except.bind_eq_ok_iff.mp h
    obtain rfl := Except.ok.inj h
    split at huse
    · rename_i literals hshape
      exact absurd hshape (hnoenum literals)
    · rename_i properties hshape
      exact absurd hshape (hnorecord properties)
    · obtain rfl := List.mem_singleton.mp huse
      refine ⟨type, htype, _, ?_, .alias (table.ident domain decl.name)⟩
      refine Layout.mem_allLinesAt.mpr
        ⟨.line s!"pub type {table.ident domain decl.name} = {type.text};", by simp, ?_⟩
      rw [Layout.linesAt_line_zero]
      exact List.mem_cons_self

/-- The record of the parameters or returns of a command uses their types. -/
theorem Command.use_of_record {table : NameTable} {domain ident title : String} {command : Command}
    {properties : List Property} {record : Option Record}
    (h : command.record? table domain ident title properties = .ok record) :
    ∀ use ∈ properties.map (·.use command.name), use.MetIn table domain
      (Layout.allLinesAt 0 (record.toList.flatMap fun record => record.layout ++ [.blank])) := by
  intro use huse
  unfold record? at h
  split at h
  · rename_i hempty
    rw [List.isEmpty_iff.mp hempty] at huse
    exact absurd huse List.not_mem_nil
  · obtain ⟨made, hmade, h⟩ := Except.bind_eq_ok_iff.mp h
    obtain rfl := Except.ok.inj h
    have hmet := Record.use_of_property hmade
      (some s!"{title} of `{domain}.{command.name}`.") false use huse
    refine hmet.mono ?_
    simp only [Option.toList_some, List.flatMap_singleton, Layout.allLinesAt_append]
    exact List.subset_append_left _ _

theorem Command.use_mem_lines {table : NameTable} {domain : String} {command : Command}
    {piece : Piece} (h : command.piece? table domain = .ok piece) :
    ∀ use ∈ command.uses, use.MetIn table domain piece.lines := by
  intro use huse
  obtain ⟨shape, hshape, h⟩ := Except.bind_eq_ok_iff.mp h
  obtain rfl := Except.ok.inj h
  obtain ⟨params, hparams, hshape⟩ := Except.bind_eq_ok_iff.mp hshape
  obtain ⟨result, hresult, hshape⟩ := Except.bind_eq_ok_iff.mp hshape
  obtain rfl := Except.ok.inj hshape
  unfold Piece.lines
  simp only [List.flatMap_append, Layout.allLinesAt_append]
  unfold uses at huse
  rw [List.map_append] at huse
  rcases List.mem_append.mp huse with hparam | hreturn
  · refine (use_of_record hparams use hparam).mono fun line hline => ?_
    simp only [List.mem_append]
    exact .inl (.inl (.inl hline))
  · refine (use_of_record hresult use hreturn).mono fun line hline => ?_
    simp only [List.mem_append]
    exact .inl (.inl (.inr hline))

theorem Event.use_mem_lines {table : NameTable} {domain : String} {event : Event}
    {piece : Piece} (h : event.piece? table domain = .ok piece) :
    ∀ use ∈ event.uses, use.MetIn table domain piece.lines := by
  intro use huse
  obtain ⟨record, hrecord, h⟩ := Except.bind_eq_ok_iff.mp h
  obtain rfl := Except.ok.inj h
  have hmet := Record.use_of_property hrecord event.description event.experimental use huse
  refine hmet.mono fun line hline => ?_
  unfold Piece.lines
  simp only [Layout.allLinesAt_append, List.mem_append]
  exact .inl (.inl (.inl hline))

/-! ## Domains -/

namespace Domain

/-- With experimental declarations, nothing of a domain is left out. -/
theorem included_all (d : Domain) : d.included ⟨true⟩ = d := by
  simp [included, Selection.includes]

/-- The body of a unit has the lines of the pieces of its declarations. -/
theorem hasLine_body {table : NameTable} {s : Selection} {d : Domain} {unit : DomainUnit}
    (h : d.unit? table s = .ok unit) :
    ∃ pieces, (d.included s).pieces? table = .ok pieces ∧
      ∀ piece ∈ pieces, ∀ line ∈ piece.lines, HasLine unit.body line := by
  rw [unit?_eq_assembled?] at h
  obtain ⟨pieces, hpieces, h⟩ := Except.bind_eq_ok_iff.mp h
  obtain rfl := Except.ok.inj h
  refine ⟨pieces, hpieces, fun piece hpiece line hline => ?_⟩
  obtain ⟨l, hl, hmem⟩ := Layout.mem_allLinesAt.mp hline
  exact Layout.hasLine_textAll (List.mem_flatMap.mpr ⟨piece, hpiece, hl⟩) hmem

/-- The pieces of a domain are those of its declarations. -/
theorem piece_mem_pieces {table : NameTable} {d : Domain} {pieces : List Piece}
    (h : d.pieces? table = .ok pieces) :
    (∀ t ∈ d.types, ∃ piece ∈ pieces, t.piece? table d.name = .ok piece) ∧
      (∀ c ∈ d.commands, ∃ piece ∈ pieces, c.piece? table d.name = .ok piece) ∧
      (∀ e ∈ d.events, ∃ piece ∈ pieces, e.piece? table d.name = .ok piece) := by
  obtain ⟨types, htypes, h⟩ := Except.bind_eq_ok_iff.mp h
  obtain ⟨commands, hcommands, h⟩ := Except.bind_eq_ok_iff.mp h
  obtain ⟨events, hevents, h⟩ := Except.bind_eq_ok_iff.mp h
  obtain rfl := Except.ok.inj h
  refine ⟨fun t ht => ?_, fun c hc => ?_, fun e he => ?_⟩
  · obtain ⟨piece, hmem, heq⟩ := Except.mem_of_mapM_eq_ok htypes ht
    exact ⟨piece, List.mem_append_left _ (List.mem_append_left _ hmem), heq⟩
  · obtain ⟨piece, hmem, heq⟩ := Except.mem_of_mapM_eq_ok hcommands hc
    exact ⟨piece, List.mem_append_left _ (List.mem_append_right _ hmem), heq⟩
  · obtain ⟨piece, hmem, heq⟩ := Except.mem_of_mapM_eq_ok hevents he
    exact ⟨piece, List.mem_append_right _ hmem, heq⟩

/-- A domain defines each of its included types under the identifier of the type. -/
theorem definesType_body {table : NameTable} {s : Selection} {d : Domain} {unit : DomainUnit}
    (h : d.unit? table s = .ok unit) {t : TypeDecl} (ht : t ∈ d.types)
    (hincluded : s.includes t.experimental = true) :
    ∃ piece, t.piece? table d.name = .ok piece ∧
      ∃ line ∈ piece.lines, IsDefinition (table.ident d.name t.name) line ∧
        HasLine unit.body line := by
  obtain ⟨pieces, hpieces, hbody⟩ := hasLine_body h
  obtain ⟨piece, hmem, hpiece⟩ := (piece_mem_pieces hpieces).1 t
    (List.mem_filter.mpr ⟨ht, hincluded⟩)
  obtain ⟨line, hline, hdefinition⟩ := TypeDecl.definition_mem_lines hpiece
  exact ⟨piece, hpiece, line, hline, hdefinition, hbody piece hmem line hline⟩

/-- With experimental declarations, a domain that has code uses the types of all its uses. -/
theorem usesType_body {table : NameTable} {d : Domain} {unit : DomainUnit}
    (h : d.unit? table ⟨true⟩ = .ok unit) {use : TypeUse} (huse : use ∈ d.uses) :
    ∃ type, CodeType.ofShape? table d.name use.declaration use.shape = .ok type ∧
      UsesType unit.body (use.spelled type) := by
  obtain ⟨pieces, hpieces, hbody⟩ := hasLine_body h
  rw [included_all] at hpieces
  obtain ⟨htypes, hcommands, hevents⟩ := piece_mem_pieces hpieces
  have hmet : ∃ piece ∈ pieces, use.MetIn table d.name piece.lines := by
    rcases List.mem_append.mp huse with huse | huse
    · rcases List.mem_append.mp huse with huse | huse
      · obtain ⟨t, ht, huse⟩ := List.mem_flatMap.mp huse
        obtain ⟨piece, hmem, hpiece⟩ := htypes t ht
        exact ⟨piece, hmem, TypeDecl.use_mem_lines hpiece use huse⟩
      · obtain ⟨c, hc, huse⟩ := List.mem_flatMap.mp huse
        obtain ⟨piece, hmem, hpiece⟩ := hcommands c hc
        exact ⟨piece, hmem, Command.use_mem_lines hpiece use huse⟩
    · obtain ⟨e, he, huse⟩ := List.mem_flatMap.mp huse
      obtain ⟨piece, hmem, hpiece⟩ := hevents e he
      exact ⟨piece, hmem, Event.use_mem_lines hpiece use huse⟩
  obtain ⟨piece, hmem, type, htype, line, hline, hisuse⟩ := hmet
  exact ⟨type, htype, line, hisuse, hbody piece hmem line hline⟩

end Domain

/-! ## References meet definitions -/

/-- A type of a domain is defined under an identifier, in its own code and in that of the domain. -/
def Domain.Defines (d : Domain) (table : NameTable) (s : Selection) (decl : TypeDecl)
    (ident : String) : Prop :=
  ∀ unit, d.unit? table s = .ok unit → s.includes decl.experimental = true →
    ∃ piece, decl.piece? table d.name = .ok piece ∧
      ∃ line ∈ piece.lines, IsDefinition ident line ∧ HasLine unit.body line

/-- **Definition and use agree.** A reference has a type exactly if it speaks of a declared type.
The type is then spelled with the identifier under which every domain of the target's name defines
the target, whatever domain the reference is made in. So when all code is generated, each type that
the code uses for a shape with a reference in it is spelled with an identifier that the code of the
target's domain defines. -/
theorem references_meet_definitions (domains : List Domain) :
    let table := NameTable.build domains
    (∀ domain declaration reference,
      (∃ type, CodeType.ofShape? table domain declaration (.reference reference) = .ok type) ↔
        ∃ owner name, RefersTo domain reference owner name ∧ Declares domains owner name) ∧
    (∀ domain declaration reference type,
      CodeType.ofShape? table domain declaration (.reference reference) = .ok type →
        ∃ owner name, RefersTo domain reference owner name ∧ Declares domains owner name ∧
          (type.text = table.ident owner name ∨
            type.text = "Box<" ++ table.ident owner name ++ ">") ∧
          ∀ d ∈ domains, d.name = owner → ∀ t ∈ d.types, t.name = name →
            ∀ s, d.Defines table s t (table.ident owner name)) ∧
    ((∀ d ∈ domains, ∃ unit, d.unit? table ⟨true⟩ = .ok unit) →
      ∀ d ∈ domains, ∀ unit, d.unit? table ⟨true⟩ = .ok unit → ∀ use ∈ d.uses,
        ∃ type, CodeType.ofShape? table d.name use.declaration use.shape = .ok type ∧
          UsesType unit.body (use.spelled type) ∧
          ∀ reference, use.shape.reference? = some reference →
            ∃ owner name, RefersTo d.name reference owner name ∧
              type.ident? = some (table.ident owner name) ∧
              ∃ target ∈ domains, target.name = owner ∧ (∃ t ∈ target.types, t.name = name) ∧
                ∃ code, target.unit? table ⟨true⟩ = .ok code ∧
                  DefinesType code.body (table.ident owner name)) := by
  intro table
  refine ⟨fun domain declaration reference => ?_, fun domain declaration reference type htype => ?_,
    fun hall d hd unit hunit use huse => ?_⟩
  · constructor
    · rintro ⟨type, htype⟩
      obtain ⟨owner, name, hresolve, -⟩ := CodeType.ofShape?_reference_eq_ok_iff.mp htype
      exact ⟨owner, name, NameTable.resolve?_build_iff.mp hresolve⟩
    · rintro ⟨owner, name, htarget⟩
      have hresolve := NameTable.resolve?_build_iff.mpr htarget
      exact ⟨_, CodeType.ofShape?_reference_eq_ok_iff.mpr ⟨owner, name, hresolve, rfl⟩⟩
  · obtain ⟨owner, name, hresolve, rfl⟩ := CodeType.ofShape?_reference_eq_ok_iff.mp htype
    obtain ⟨hrefers, hdeclares⟩ := NameTable.resolve?_build_iff.mp hresolve
    refine ⟨owner, name, hrefers, hdeclares, ?_, ?_⟩
    · split
      · exact .inl rfl
      · exact .inr rfl
    · rintro d - rfl t ht rfl s unit hunit hincluded
      exact Domain.definesType_body hunit ht hincluded
  · obtain ⟨type, htype, huses⟩ := Domain.usesType_body hunit huse
    refine ⟨type, htype, huses, fun reference hreference => ?_⟩
    rcases CodeType.ident?_ofShape? htype with
      ⟨hnone, -⟩ | ⟨_, owner, name, hsome, hresolve, hident⟩
    · rw [hnone] at hreference
      cases hreference
    · obtain rfl := Option.some.inj (hreference.symm.trans hsome)
      obtain ⟨hrefers, target, htarget, rfl, t, ht, rfl⟩ :=
        NameTable.resolve?_build_iff.mp hresolve
      obtain ⟨code, hcode⟩ := hall target htarget
      obtain ⟨_, -, line, -, hdefinition, hline⟩ := Domain.definesType_body hcode ht rfl
      exact ⟨target.name, t.name, hrefers, hident, target, htarget, rfl, ⟨t, ht, rfl⟩, code, hcode,
        line, hdefinition, hline⟩

/-- A domain with a `Node` that holds nodes of another domain. -/
def linkingDomain : Domain where
  name := "A"
  description := none
  experimental := false
  types := [⟨"Node", none, false,
    .composite [⟨"others", none, true, false, .array (.reference "B.Node")⟩]⟩]
  commands := []
  events := []

/-- Both domains declare a `Node`, so each is defined and used with its domain in front. -/
def linkedDomains : List Domain := [linkingDomain, .ofRecordNames "B" ["Node"]]

theorem references_meet_definitions_in_linkedDomains :
    (∀ d ∈ linkedDomains, ∃ unit, d.unit? (NameTable.build linkedDomains) ⟨true⟩ = .ok unit) ∧
      ∃ type, CodeType.ofShape? (NameTable.build linkedDomains) "A" "Node"
          (.array (.reference "B.Node")) = .ok type ∧ type.ident? = some "BNode" ∧
        ∃ target ∈ linkedDomains, target.name = "B" ∧ ∃ code,
          target.unit? (NameTable.build linkedDomains) ⟨true⟩ = .ok code ∧
            DefinesType code.body "BNode" := by
  have hall : ∀ d ∈ linkedDomains,
      ∃ unit, d.unit? (NameTable.build linkedDomains) ⟨true⟩ = .ok unit := by
    intro d hd
    simp only [linkedDomains, List.mem_cons, List.not_mem_nil, or_false] at hd
    rcases hd with rfl | rfl
    · exact ⟨_, rfl⟩
    · exact ⟨_, rfl⟩
  refine ⟨hall, ?_⟩
  have hlinking : linkingDomain ∈ linkedDomains := List.mem_cons_self
  obtain ⟨unit, hunit⟩ := hall linkingDomain hlinking
  obtain ⟨type, htype, -, hreference⟩ := (references_meet_definitions linkedDomains).2.2 hall
    linkingDomain hlinking unit hunit ⟨"Node", true, .array (.reference "B.Node")⟩
    List.mem_cons_self
  obtain ⟨owner, name, hrefers, hident, target, htarget, howner, -, code, hcode, hdefines⟩ :=
    hreference "B.Node" rfl
  have hsplit : splitReference linkingDomain.name "B.Node" = ("B", "Node") := by decide
  obtain ⟨rfl, rfl⟩ := Prod.mk.inj (hrefers.splitReference_eq.symm.trans hsplit)
  have hspelled : (NameTable.build linkedDomains).ident "B" "Node" = "BNode" := by decide
  rw [hspelled] at hident hdefines
  exact ⟨type, htype, hident, target, htarget, howner, code, hcode, hdefines⟩

end Bindery
