import Bindery.Binding.DomainUnit
import Bindery.Proofs.Results

/-!
# What generated code is made of

The code of a declaration, taken apart: for each kind of declaration, what has been computed where
there is code, and the layout that it makes (`TypeDecl.piece?_eq_ok`, `Command.piece?_eq_ok`,
`Event.piece?_eq_ok`). What is shown of generated code starts from these, and does not look at how
the code is computed.
-/

namespace Bindery

open Text

variable {table : NameTable} {domain : String}

theorem Record.ofProperties?_eq_ok {ident declaration : String} {properties : List Property}
    {record : Record} (h : ofProperties? table domain ident declaration properties = .ok record) :
    ∃ fields, fieldsFrom? table domain declaration [] properties = .ok fields ∧
      record = ⟨ident, none, false, fields⟩ := by
  obtain ⟨fields, hfields, h⟩ := Except.bind_eq_ok_iff.mp h
  exact ⟨fields, hfields, (Except.ok.inj h).symm⟩

/-- The code of a type is that of an enumeration, of a record, or of an alias. -/
theorem TypeDecl.piece?_eq_ok {t : TypeDecl} {piece : Piece}
    (h : t.piece? table domain = .ok piece) :
    (∃ literals, t.shape = .enumeration literals ∧
      piece.layout = Enumeration.layout (table.ident domain t.name) t.description t.experimental
        literals ++ [.blank]) ∨
    (∃ properties record, t.shape = .composite properties ∧
      Record.ofProperties? table domain (table.ident domain t.name) t.name properties =
        .ok record ∧
      piece.layout = (record.withDoc t.description t.experimental).layout ++ [.blank]) ∨
    (∃ type, (∀ literals, t.shape ≠ .enumeration literals) ∧
      (∀ properties, t.shape ≠ .composite properties) ∧
      CodeType.ofShape? table domain t.name t.shape = .ok type ∧
      piece.layout = [.doc .item t.description t.experimental,
        .line s!"pub type {table.ident domain t.name} = {type.text};", .blank]) := by
  unfold piece? at h
  simp only at h
  split at h
  · rename_i literals hshape
    obtain rfl := Except.ok.inj h
    exact .inl ⟨literals, hshape, rfl⟩
  · rename_i properties hshape
    obtain ⟨record, hrecord, h⟩ := Except.bind_eq_ok_iff.mp h
    obtain rfl := Except.ok.inj h
    exact .inr (.inl ⟨properties, record, hshape, hrecord, rfl⟩)
  · rename_i hnoenum hnorecord
    obtain ⟨type, htype, h⟩ := Except.bind_eq_ok_iff.mp h
    obtain rfl := Except.ok.inj h
    exact .inr (.inr ⟨type, hnoenum, hnorecord, htype, rfl⟩)

/-- A command has a record of parameters, or of returns, if it has any. -/
theorem Command.record?_eq_ok {c : Command} {ident title : String} {properties : List Property}
    {record : Option Record}
    (h : c.record? table domain ident title properties = .ok record) :
    (properties.isEmpty = true ∧ record = none) ∨
    (properties.isEmpty = false ∧ ∃ made,
      Record.ofProperties? table domain ident c.name properties = .ok made ∧
      record = some (made.withDoc (some s!"{title} of `{domain}.{c.name}`.") false)) := by
  unfold record? at h
  split at h
  · rename_i hempty
    exact .inl ⟨hempty, (Except.ok.inj h).symm⟩
  · rename_i hempty
    obtain ⟨made, hmade, h⟩ := Except.bind_eq_ok_iff.mp h
    exact .inr ⟨by simpa using hempty, made, hmade, (Except.ok.inj h).symm⟩

/-- A command as both ways of calling it see it, given its records. -/
def Command.shapeWith (table : NameTable) (domain : String) (c : Command)
    (params result : Option Record) : CommandShape :=
  ⟨table.ident domain c.name, s!"{domain}.{c.name}", c.description, c.experimental, params, result⟩

/-- The code of a command: its records, then both ways of calling it. -/
theorem Command.piece?_eq_ok {c : Command} {piece : Piece}
    (h : c.piece? table domain = .ok piece) :
    ∃ params result,
      c.record? table domain s!"{table.ident domain c.name}Params" "Parameters" c.parameters =
        .ok params ∧
      c.record? table domain s!"{table.ident domain c.name}Result" "Result" c.returns =
        .ok result ∧
      piece.layout =
        (params.toList ++ result.toList).flatMap (fun record => record.layout ++ [.blank]) ++
          Blocking.layout (c.shapeWith table domain params result) ++
          Callback.layout (c.shapeWith table domain params result) := by
  obtain ⟨shape, hshape, h⟩ := Except.bind_eq_ok_iff.mp h
  obtain rfl := Except.ok.inj h
  obtain ⟨params, hparams, hshape⟩ := Except.bind_eq_ok_iff.mp hshape
  obtain ⟨result, hresult, hshape⟩ := Except.bind_eq_ok_iff.mp hshape
  obtain rfl := Except.ok.inj hshape
  exact ⟨params, result, hparams, hresult, rfl⟩

/-- The code of an event: its record, then the registration of a callback. -/
theorem Event.piece?_eq_ok {e : Event} {piece : Piece} (h : e.piece? table domain = .ok piece) :
    ∃ record,
      Record.ofProperties? table domain s!"{table.ident domain e.name}Event" e.name e.parameters =
        .ok record ∧
      piece.layout = (record.withDoc e.description e.experimental).layout ++ [.blank] ++
        Event.registration (table.ident domain e.name) s!"{table.ident domain e.name}Event"
          s!"{domain}.{e.name}" ++ [.blank] := by
  obtain ⟨record, hrecord, h⟩ := Except.bind_eq_ok_iff.mp h
  obtain rfl := Except.ok.inj h
  exact ⟨record, hrecord, rfl⟩

end Bindery
