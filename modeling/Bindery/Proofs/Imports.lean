import Bindery.Proofs.Emission
import Bindery.Proofs.Pieces

/-!
# What a file imports

`Domain.Needs` says from the declarations of a domain alone which capabilities its file needs. The
shapes that matter for this are those that generated code spells (`Domain.renderedShapes`), and of
an array only what stands behind all its layers. What is imported is exactly what is needed:
`Domain.capabilities_iff_needs`.
-/

namespace Bindery

/-! ## Needs -/

/-- What stands behind the layers of an array. -/
def Shape.element : Shape → Shape
  | .array items => items.element
  | shape => shape

/-- The shapes that the code of a type spells: those of the properties of a record, or that of an
alias. -/
def TypeDecl.renderedShapes (t : TypeDecl) : List Shape :=
  match t.shape with
  | .enumeration _ => []
  | .composite properties => properties.map (·.shape)
  | shape => [shape]

namespace Domain

/-- The shapes that the code of a domain spells, without array layers. -/
def renderedShapes (d : Domain) : List Shape :=
  (d.types.flatMap TypeDecl.renderedShapes ++
    d.commands.flatMap (fun c => (c.parameters ++ c.returns).map (·.shape)) ++
      d.events.flatMap fun e => e.parameters.map (·.shape)).map Shape.element

/-- What the file of a domain needs to import, the domain having the given declarations. -/
def Needs (d : Domain) : Capability → Prop
  | .cow => ∃ t ∈ d.types, ∃ literals, t.shape = .enumeration literals
  | .serde =>
    (∃ t ∈ d.types,
      (∃ literals, t.shape = .enumeration literals) ∨
        ∃ properties, t.shape = .composite properties) ∨
      (∃ c ∈ d.commands, c.parameters ≠ [] ∨ c.returns ≠ []) ∨ d.events ≠ []
  | .shared | .sync => d.commands ≠ []
  | .logging | .runtime => d.commands ≠ [] ∨ d.events ≠ []
  | .rawValue => d.commands ≠ [] ∨ d.events ≠ [] ∨ .primitive .any ∈ d.renderedShapes
  | .stringMap =>
    .primitive .object ∈ d.renderedShapes ∨ ∃ properties, .composite properties ∈ d.renderedShapes

end Domain

/-- What a shape without array layers needs. -/
def Shape.Needs (shape : Shape) : Capability → Prop
  | .rawValue => shape = .primitive .any
  | .stringMap => shape = .primitive .object ∨ ∃ properties, shape = .composite properties
  | _ => False

/-- A shape needs what stands behind its array layers needs. -/
theorem Shape.mem_required {c : Capability} : ∀ shape : Shape,
    c ∈ shape.required ↔ shape.element.Needs c
  | .array items => mem_required items
  | .primitive kind => by
    cases kind <;> cases c <;> simp [required, element, Needs]
  | .enumeration _ | .reference _ => by
    cases c <;> simp [required, element, Needs]
  | .composite _ => by
    cases c <;> simp [required, element, Needs]

/-! ## Declarations -/

variable {table : NameTable} {domain : String}

/-- A record needs what the shapes of its properties need, and the serializer. -/
theorem Record.mem_required {declaration : String} {properties : List Property}
    {taken : List String} {fields : List RecordField} {c : Capability}
    (h : fieldsFrom? table domain declaration taken properties = .ok fields) :
    c ∈ required table domain declaration properties ↔
      c = .serde ∨ ∃ p ∈ properties, p.shape.element.Needs c := by
  induction properties generalizing taken fields with
  | nil => simp [required]
  | cons p rest ih =>
    obtain ⟨type, htype, h⟩ := Except.bind_eq_ok_iff.mp h
    obtain ⟨later, hlater, -⟩ := Except.bind_eq_ok_iff.mp h
    obtain ⟨shape, hshape, -⟩ := Except.bind_eq_ok_iff.mp htype
    simp only [required, hshape, List.mem_append, Shape.mem_required, ih hlater,
      List.exists_mem_cons_iff]
    exact or_left_comm

namespace Domain

theorem exists_mem_declarations {d : Domain} {p : Declaration → Prop} :
    (∃ x ∈ d.declarations, p x) ↔
      (∃ t ∈ d.types, p (.type t)) ∨ (∃ c ∈ d.commands, p (.command c)) ∨
        ∃ e ∈ d.events, p (.event e) := by
  simp only [declarations, List.mem_append, List.mem_map, or_and_right, exists_or, or_assoc]
  simp

theorem renderedShapes_eq (d : Domain) :
    d.renderedShapes = d.declarations.flatMap fun x => (x.alone d).renderedShapes := by
  simp [renderedShapes, declarations, Declaration.alone, List.flatMap_map, List.map_flatMap,
    List.flatMap_append]

theorem ne_nil_iff_exists_mem {α : Type} {xs : List α} : xs ≠ [] ↔ ∃ x, x ∈ xs := by
  constructor
  · exact List.exists_mem_of_ne_nil xs
  · rintro ⟨x, hx⟩
    exact List.ne_nil_of_mem hx

/-- A domain needs what its declarations need by themselves. -/
theorem needs_iff {d : Domain} {c : Capability} :
    d.Needs c ↔ ∃ x ∈ d.declarations, (x.alone d).Needs c := by
  have hcommands : d.commands ≠ [] ↔ ∃ x ∈ d.declarations, (x.alone d).commands ≠ [] := by
    simp [exists_mem_declarations, Declaration.alone, ne_nil_iff_exists_mem]
  have hevents : d.events ≠ [] ↔ ∃ x ∈ d.declarations, (x.alone d).events ≠ [] := by
    simp [exists_mem_declarations, Declaration.alone, ne_nil_iff_exists_mem]
  have hshape (shape : Shape) : shape ∈ d.renderedShapes ↔
      ∃ x ∈ d.declarations, shape ∈ (x.alone d).renderedShapes := by
    rw [renderedShapes_eq, List.mem_flatMap]
  -- what is needed is a disjunction, each part of which goes back to one declaration
  cases c with
  | cow => simp [exists_mem_declarations, Needs, Declaration.alone]
  | serde => simp [exists_mem_declarations, Needs, Declaration.alone, ne_nil_iff_exists_mem]
  | shared | sync => exact hcommands
  | logging | runtime => simp only [Needs, hcommands, hevents, ← exists_or, ← and_or_left]
  | rawValue => simp only [Needs, hcommands, hevents, hshape, ← exists_or, ← and_or_left]
  | stringMap =>
    simp only [Needs, hshape]
    rw [exists_comm]
    simp only [← exists_or, exists_and_left, ← and_or_left]

/-- What the declarations of a domain need besides the shapes that they spell. -/
def NeedsBesides (d : Domain) : Capability → Prop
  | .rawValue => d.commands ≠ [] ∨ d.events ≠ []
  | .stringMap => False
  | c => d.Needs c

theorem needs_iff_besides {d : Domain} {c : Capability} :
    d.Needs c ↔ d.NeedsBesides c ∨ ∃ shape ∈ d.renderedShapes, shape.Needs c := by
  cases c with
  | rawValue => simp [Needs, NeedsBesides, Shape.Needs, or_assoc]
  | stringMap =>
    simp only [Needs, NeedsBesides, Shape.Needs, false_or, and_or_left, exists_or,
      exists_eq_right, ← exists_and_left]
    rw [exists_comm]
    simp
  | _ => simp [Needs, NeedsBesides, Shape.Needs]

/-! ## Pieces -/

theorem exists_mem_map_iff {α β : Type} {f : α → β} {xs : List α} {p : β → Prop} :
    (∃ y ∈ xs.map f, p y) ↔ ∃ x ∈ xs, p (f x) := by
  simp only [List.mem_map, exists_exists_and_eq_and]

theorem mem_required_of_type {t : TypeDecl} {piece : Piece} {d : Domain} {c : Capability}
    (h : t.piece? table domain = .ok piece) :
    c ∈ piece.required ↔ ((Declaration.type t).alone d).Needs c := by
  have hshapes : ((Declaration.type t).alone d).renderedShapes =
      t.renderedShapes.map Shape.element := by
    simp [renderedShapes, Declaration.alone]
  rw [needs_iff_besides, hshapes, exists_mem_map_iff]
  unfold TypeDecl.piece? at h
  simp only at h
  split at h
  · rename_i literals hshape
    obtain rfl := Except.ok.inj h
    have hrendered : t.renderedShapes = [] := by rw [TypeDecl.renderedShapes, hshape]
    rw [hrendered]
    cases c <;> simp [Enumeration.required, Needs, NeedsBesides, Declaration.alone, hshape]
  · rename_i properties hshape
    obtain ⟨record, hrecord, h⟩ := Except.bind_eq_ok_iff.mp h
    obtain ⟨fields, hfields, -⟩ := Except.bind_eq_ok_iff.mp hrecord
    obtain rfl := Except.ok.inj h
    have hrendered : t.renderedShapes = properties.map (·.shape) := by
      rw [TypeDecl.renderedShapes, hshape]
    rw [Record.mem_required hfields, hrendered, exists_mem_map_iff]
    refine or_congr ?_ Iff.rfl
    cases c <;> simp [Needs, NeedsBesides, Declaration.alone, hshape]
  · rename_i hnoenum hnorecord
    obtain ⟨type, -, h⟩ := Except.bind_eq_ok_iff.mp h
    obtain rfl := Except.ok.inj h
    have hrendered : t.renderedShapes = [t.shape] := by
      unfold TypeDecl.renderedShapes
      split
      · rename_i literals hshape
        exact absurd hshape (hnoenum literals)
      · rename_i properties hshape
        exact absurd hshape (hnorecord properties)
      · rfl
    have hbesides : ¬ ((Declaration.type t).alone d).NeedsBesides c := by
      have hnoenum' (literals : List String) : ¬ t.shape = .enumeration literals := hnoenum literals
      have hnorecord' (properties : List Property) : ¬ t.shape = .composite properties :=
        hnorecord properties
      cases c <;> simp [Needs, NeedsBesides, Declaration.alone, hnoenum', hnorecord']
    rw [Shape.mem_required, hrendered, or_iff_right hbesides]
    simp only [List.mem_singleton, exists_eq_left]

/-- The records of a command need the serializer, if there are any, and what their fields need. -/
theorem mem_recordsRequired {command : Command} {shape : CommandShape} {c : Capability}
    (h : command.shape? table domain = .ok shape) :
    c ∈ command.recordsRequired table domain ↔
      (c = .serde ∧ (command.parameters ≠ [] ∨ command.returns ≠ [])) ∨
        ∃ p ∈ command.parameters ++ command.returns, p.shape.element.Needs c := by
  have hmem {properties : List Property} {ident title : String} {record : Option Record}
      (hrecord : command.record? table domain ident title properties = .ok record) :
      c ∈ (if properties.isEmpty then []
          else Record.required table domain command.name properties) ↔
        (c = .serde ∧ properties ≠ []) ∨ ∃ p ∈ properties, p.shape.element.Needs c := by
    rcases Command.record?_eq_ok hrecord with ⟨hempty, -⟩ | ⟨hpresent, made, hmade, -⟩
    · rw [List.isEmpty_iff.mp hempty]
      simp
    · obtain ⟨fields, hfields, -⟩ := Except.bind_eq_ok_iff.mp hmade
      have hne : properties ≠ [] := by simpa using hpresent
      rw [hpresent, if_neg Bool.false_ne_true, Record.mem_required hfields, and_iff_left hne]
  obtain ⟨params, hparams, h⟩ := Except.bind_eq_ok_iff.mp h
  obtain ⟨result, hresult, -⟩ := Except.bind_eq_ok_iff.mp h
  rw [Command.recordsRequired, List.flatMap_cons, List.flatMap_cons, List.flatMap_nil,
    List.append_nil, List.mem_append, hmem hparams, hmem hresult]
  simp only [List.mem_append, or_and_right, exists_or, and_or_left]
  exact or_or_or_comm

theorem mem_required_of_command {command : Command} {piece : Piece} {d : Domain} {c : Capability}
    (h : command.piece? table domain = .ok piece) :
    c ∈ piece.required ↔ ((Declaration.command command).alone d).Needs c := by
  obtain ⟨shape, hshape, h⟩ := Except.bind_eq_ok_iff.mp h
  obtain rfl := Except.ok.inj h
  have hshapes : ((Declaration.command command).alone d).renderedShapes =
      (command.parameters ++ command.returns).map (·.shape.element) := by
    simp [renderedShapes, Declaration.alone, Function.comp_def]
  show c ∈ command.recordsRequired table domain ++ Blocking.required ++ Callback.required ↔ _
  rw [List.append_assoc, List.mem_append, mem_recordsRequired hshape, or_right_comm,
    needs_iff_besides, hshapes, exists_mem_map_iff]
  refine or_congr ?_ Iff.rfl
  cases c <;> simp [Blocking.required, Callback.required, Needs, NeedsBesides, Declaration.alone]

theorem mem_required_of_event {event : Event} {piece : Piece} {d : Domain} {c : Capability}
    (h : event.piece? table domain = .ok piece) :
    c ∈ piece.required ↔ ((Declaration.event event).alone d).Needs c := by
  obtain ⟨record, hrecord, h⟩ := Except.bind_eq_ok_iff.mp h
  obtain ⟨fields, hfields, -⟩ := Except.bind_eq_ok_iff.mp hrecord
  obtain rfl := Except.ok.inj h
  have hshapes : ((Declaration.event event).alone d).renderedShapes =
      event.parameters.map (·.shape.element) := by
    simp [renderedShapes, Declaration.alone, Function.comp_def]
  rw [List.mem_append, Record.mem_required hfields, or_right_comm, needs_iff_besides, hshapes,
    exists_mem_map_iff]
  refine or_congr ?_ Iff.rfl
  cases c <;> simp [Needs, NeedsBesides, Declaration.alone]

/-- A declaration requires what it needs by itself. -/
theorem mem_required_iff {x : Declaration} {piece : Piece} {d : Domain} {c : Capability}
    (h : x.piece? table domain = .ok piece) : c ∈ piece.required ↔ (x.alone d).Needs c := by
  cases x with
  | type t => exact mem_required_of_type h
  | command command => exact mem_required_of_command h
  | event event => exact mem_required_of_event h

theorem has_iff_needs {s : Selection} {d : Domain} {u : DomainUnit}
    (h : d.unit? table s = .ok u) (c : Capability) :
    u.capabilities.has c = true ↔ (d.included s).Needs c := by
  obtain ⟨pieces, hpieces, rfl⟩ := unit?_eq_ok_iff.mp h
  have hhas : (CapabilitySet.empty.require (pieces.flatMap (·.required))).has c = true ↔
      ∃ piece ∈ pieces, c ∈ piece.required := by
    simp [CapabilitySet.require, CapabilitySet.empty]
  rw [needs_iff, declarations_included, hhas]
  constructor
  · rintro ⟨piece, hpiece, hc⟩
    obtain ⟨x, hx, hmade⟩ := exists_of_forall₂_of_mem hpieces hpiece
    exact ⟨x, hx, (mem_required_iff hmade).mp hc⟩
  · rintro ⟨x, hx, hneeds⟩
    obtain ⟨piece, hpiece, hmade⟩ :=
      Except.mem_of_mapM_eq_ok (Except.mapM_eq_ok_iff.mpr hpieces) hx
    exact ⟨piece, hpiece, (mem_required_iff hmade).mpr hneeds⟩

/-- **A file imports exactly what it needs**: a capability is recorded, and stands in the list of
imports, if one of the included declarations gives a reason for it. -/
theorem capabilities_iff_needs {s : Selection} {d : Domain} {u : DomainUnit}
    (h : d.unit? table s = .ok u) (c : Capability) :
    (u.capabilities.has c = true ↔ (d.included s).Needs c) ∧
      (c ∈ u.capabilities.toList ↔ (d.included s).Needs c) := by
  have hlisted : c ∈ u.capabilities.toList ↔ u.capabilities.has c = true := by
    rw [CapabilitySet.toList, List.mem_filter, and_iff_right (Capability.mem_all c)]
  exact ⟨has_iff_needs h c, hlisted.trans (has_iff_needs h c)⟩

/-- A domain with an alias of lists of lists of untyped objects, and an experimental event. -/
def tables : Domain where
  name := "Table"
  description := none
  experimental := false
  types := [⟨"Rows", none, false, .array (.array (.primitive .object))⟩]
  commands := []
  events := [⟨"ready", none, true, []⟩]

theorem capabilities_iff_needs_tables :
    ∃ u, tables.unit? (NameTable.build [tables]) ⟨false⟩ = .ok u ∧
      ∀ c, c ∈ u.capabilities.toList ↔ c = .stringMap := by
  have hunit : ∃ u, tables.unit? (NameTable.build [tables]) ⟨false⟩ = .ok u := ⟨_, rfl⟩
  obtain ⟨u, hu⟩ := hunit
  refine ⟨u, hu, fun c => ?_⟩
  rw [(capabilities_iff_needs hu c).2]
  cases c <;> simp [tables, included, Selection.includes, Needs, renderedShapes,
    TypeDecl.renderedShapes, Shape.element]

end Domain

end Bindery
