import Bindery.Proofs.Comments
import Bindery.Proofs.Emission
import Bindery.Proofs.KeptFiles
import Bindery.Proofs.Pieces

/-!
# What descriptions can change

Descriptions are free text, and they are written between the lines of generated code. They stay
there: `descriptions_change_no_code` compares two schemas that differ in descriptions only, and
finds the same code, and the same failures, in both. `undescribed` takes the descriptions out of a
schema, so that what two schemas share is stated as an equation. Each function that makes code is
then shown not to see what `undescribed` takes away, from `Record.allCodeAt_undescribed` up to
`Domain.pieces?_alike`. Only the end of a file needs more: it is trimmed, and no part of a line of
code goes with the blank lines because the last line always ends in something visible
(`EndsInCode.declaration`).
-/

namespace Bindery

open Text

/-! ## Schemas without descriptions -/

mutual

/-- The shape without the descriptions in it, and without the marks on experimental members. -/
def Shape.undescribed : Shape → Shape
  | .primitive kind => .primitive kind
  | .enumeration literals => .enumeration literals
  | .array items => .array items.undescribed
  | .reference target => .reference target
  | .composite properties => .composite (Property.allUndescribed properties)

/-- The member without its description, and without the mark of an experimental one. -/
def Property.undescribed : Property → Property
  | ⟨name, _, optional, _, shape⟩ => ⟨name, none, optional, false, shape.undescribed⟩

/-- The members without their descriptions and marks. -/
def Property.allUndescribed : List Property → List Property
  | [] => []
  | p :: rest => p.undescribed :: Property.allUndescribed rest

end

namespace Property

@[simp] theorem name_undescribed (p : Property) : p.undescribed.name = p.name := by cases p; rfl

@[simp] theorem optional_undescribed (p : Property) : p.undescribed.optional = p.optional := by
  cases p; rfl

@[simp] theorem shape_undescribed (p : Property) : p.undescribed.shape = p.shape.undescribed := by
  cases p; rfl

end Property

def TypeDecl.undescribed (t : TypeDecl) : TypeDecl :=
  { t with description := none, shape := t.shape.undescribed }

def Command.undescribed (c : Command) : Command :=
  { c with
    description := none
    parameters := c.parameters.map Property.undescribed
    returns := c.returns.map Property.undescribed }

def Event.undescribed (e : Event) : Event :=
  { e with description := none, parameters := e.parameters.map Property.undescribed }

/-- The domain without any description, and without the marks on experimental members; its
declarations are as experimental as before. -/
def Domain.undescribed (d : Domain) : Domain :=
  { d with
    description := none
    types := d.types.map TypeDecl.undescribed
    commands := d.commands.map Command.undescribed
    events := d.events.map Event.undescribed }

def Schema.undescribed (s : Schema) : Schema :=
  { s with domains := s.domains.map Domain.undescribed }

@[simp] theorem Property.allUndescribed_eq_map (ps : List Property) :
    Property.allUndescribed ps = ps.map Property.undescribed := by
  induction ps with
  | nil => rfl
  | cons p rest ih => simp [Property.allUndescribed, ih]

/-! ## Names and types -/

@[simp] theorem Shape.isValueKind_undescribed (shape : Shape) :
    shape.undescribed.isValueKind = shape.isValueKind := by
  cases shape <;> rfl

/-- No name depends on a description. -/
theorem NameTable.build_undescribed (domains : List Domain) :
    build (domains.map Domain.undescribed) = build domains := by
  refine build_map (fun table d => ?_) domains
  simp only [addDomain, Domain.declarations, Domain.undescribed, List.foldl_append, List.foldl_map,
    add, TypeDecl.undescribed, Shape.isValueKind_undescribed]
  rfl

@[simp] theorem CodeType.ofShape?_undescribed (table : NameTable) (domain declaration : String) :
    ∀ shape : Shape, ofShape? table domain declaration shape.undescribed =
      ofShape? table domain declaration shape
  | .primitive _ => rfl
  | .enumeration _ => rfl
  | .reference _ => rfl
  | .composite _ => rfl
  | .array items => by
    rw [Shape.undescribed, ofShape?, ofShape?, ofShape?_undescribed table domain declaration items]

@[simp] theorem Shape.required_undescribed :
    ∀ shape : Shape, shape.undescribed.required = shape.required
  | .primitive _ => rfl
  | .enumeration _ => rfl
  | .reference _ => rfl
  | .composite _ => rfl
  | .array items => by
    rw [Shape.undescribed, required, required, required_undescribed items]

/-! ## Records -/

def RecordField.undescribed (f : RecordField) : RecordField :=
  { f with description := none, experimental := false }

def Record.undescribed (r : Record) : Record :=
  { r with
    description := none
    experimental := false
    fields := r.fields.map RecordField.undescribed }

namespace Record

@[simp] theorem fieldType?_undescribed (table : NameTable) (domain declaration : String)
    (p : Property) :
    fieldType? table domain declaration p.undescribed = fieldType? table domain declaration p := by
  simp [fieldType?]

@[simp] theorem fieldsFrom?_undescribed (table : NameTable) (domain declaration : String)
    (taken : List String) (ps : List Property) :
    fieldsFrom? table domain declaration taken (ps.map Property.undescribed) =
      List.map RecordField.undescribed <$> fieldsFrom? table domain declaration taken ps := by
  induction ps generalizing taken with
  | nil => rfl
  | cons p rest ih =>
    rw [List.map_cons, fieldsFrom?, fieldsFrom?]
    simp only [fieldType?_undescribed, p.name_undescribed, p.optional_undescribed, ih, map_bind,
      bind_map_left]
    cases p
    rfl

@[simp] theorem ofProperties?_undescribed (table : NameTable) (domain ident declaration : String)
    (ps : List Property) :
    ofProperties? table domain ident declaration (ps.map Property.undescribed) =
      undescribed <$> ofProperties? table domain ident declaration ps := by
  simp only [ofProperties?, fieldsFrom?_undescribed, map_bind, bind_map_left]
  rfl

@[simp] theorem required_undescribed (table : NameTable) (domain declaration : String)
    (ps : List Property) :
    required table domain declaration (ps.map Property.undescribed) =
      required table domain declaration ps := by
  induction ps with
  | nil => rfl
  | cons p rest ih => simp [required, ih]

@[simp] theorem undescribed_withDoc (r : Record) (description : Option String)
    (experimental : Bool) :
    (r.withDoc description experimental).undescribed = r.undescribed := rfl

@[simp] theorem undescribed_undescribed (r : Record) :
    r.undescribed.undescribed = r.undescribed := by
  simp only [undescribed, List.map_map]
  rfl

@[simp] theorem allCodeAt_field (depth : Nat) (f : RecordField) :
    Layout.allCodeAt depth f.undescribed.layout = Layout.allCodeAt depth f.layout := rfl

/-- The code of a record does not depend on descriptions. -/
@[simp] theorem allCodeAt_undescribed (depth : Nat) (r : Record) :
    Layout.allCodeAt depth r.undescribed.layout = Layout.allCodeAt depth r.layout := by
  obtain ⟨ident, description, experimental, fields⟩ := r
  have hrest (rest : List RecordField) :
      Layout.allCodeAt (depth + 1)
          ((rest.map RecordField.undescribed).flatMap fun f => .blank :: f.layout) =
        Layout.allCodeAt (depth + 1) (rest.flatMap fun f => .blank :: f.layout) := by
    induction rest with
    | nil => rfl
    | cons f rest ih =>
      simp [Layout.allCodeAt, ih]
  cases fields with
  | nil => rfl
  | cons first rest =>
    simp [layout, undescribed, Layout.allCodeAt, Layout.codeAt, Layout.block, hrest]

/-- The description of the declaration does not change the code of its record either. -/
@[simp] theorem allCodeAt_withDoc (depth : Nat) (r : Record) (description : Option String)
    (experimental : Bool) :
    Layout.allCodeAt depth (r.withDoc description experimental).layout =
      Layout.allCodeAt depth r.layout := by
  rw [← allCodeAt_undescribed, undescribed_withDoc, allCodeAt_undescribed]

end Record

/-! ## Commands -/

def CommandShape.undescribed (s : CommandShape) : CommandShape :=
  { s with
    description := none
    experimental := false
    params := s.params.map Record.undescribed
    result := s.result.map Record.undescribed }

@[simp] theorem Callback.layout_undescribed (s : CommandShape) :
    layout s.undescribed = layout s := by
  obtain ⟨ident, method, description, experimental, params, result⟩ := s
  cases params <;> cases result <;> rfl

@[simp] theorem Blocking.allCodeAt_undescribed (depth : Nat) (s : CommandShape) :
    Layout.allCodeAt depth (layout s.undescribed) = Layout.allCodeAt depth (layout s) := by
  obtain ⟨ident, method, description, experimental, params, result⟩ := s
  cases params <;> cases result <;> rfl

namespace Command

/-- The record of a command, less what describes it. -/
theorem record?_undescribed (table : NameTable) (domain ident title : String) (c : Command)
    (ps : List Property) :
    Option.map Record.undescribed <$>
        c.undescribed.record? table domain ident title (ps.map Property.undescribed) =
      Option.map Record.undescribed <$> c.record? table domain ident title ps := by
  have hname : c.undescribed.name = c.name := rfl
  unfold record?
  rw [List.isEmpty_map, hname, Record.ofProperties?_undescribed]
  split
  · rfl
  · simp

/-- What a command consists of, less the descriptions. -/
theorem shape?_undescribed (table : NameTable) (domain : String) (c : Command) :
    CommandShape.undescribed <$> c.undescribed.shape? table domain =
      CommandShape.undescribed <$> c.shape? table domain := by
  have hname : c.undescribed.name = c.name := rfl
  have hparameters : c.undescribed.parameters = c.parameters.map Property.undescribed := rfl
  have hreturns : c.undescribed.returns = c.returns.map Property.undescribed := rfl
  -- the records are made one after the other, and only then put together
  have hshape (c' : Command) (x y : Except Error (Option Record)) (ident method : String) :
      CommandShape.undescribed <$> (do
          let params ← x
          let result ← y
          return ⟨ident, method, c'.description, c'.experimental, params, result⟩) = (do
        let params ← Option.map Record.undescribed <$> x
        let result ← Option.map Record.undescribed <$> y
        return ⟨ident, method, none, false, params, result⟩) := by
    simp only [map_bind, bind_map_left, map_pure]
    rfl
  unfold shape?
  simp only [hname, hparameters, hreturns, hshape, record?_undescribed]

end Command

/-! ## Pieces -/

/-- What a piece comes to without its doc comments: its lines of code, and what it requires. -/
def Piece.code (piece : Piece) : List (List Char) × List Capability :=
  (Layout.allCodeAt 0 piece.layout, piece.required)

theorem TypeDecl.piece?_undescribed (table : NameTable) (domain : String) (t : TypeDecl) :
    Piece.code <$> t.undescribed.piece? table domain = Piece.code <$> t.piece? table domain := by
  obtain ⟨name, description, experimental, shape⟩ := t
  unfold piece?
  cases shape with
  | enumeration literals => rfl
  | primitive kind => rfl
  | reference target =>
    simp only [undescribed, Shape.undescribed, map_bind, map_pure]
    rfl
  | array items =>
    have hitems : (Shape.array items).undescribed = .array items.undescribed := by
      rw [Shape.undescribed]
    have htype := CodeType.ofShape?_undescribed table domain name (.array items)
    have hrequired := Shape.required_undescribed (.array items)
    rw [hitems] at htype hrequired
    simp only [undescribed, hitems, htype, hrequired, map_bind, map_pure]
    rfl
  | composite properties =>
    simp [undescribed, Shape.undescribed, Piece.code]

/-- The records of a command. -/
def CommandShape.records (s : CommandShape) : List Record := s.params.toList ++ s.result.toList

@[simp] theorem CommandShape.records_undescribed (s : CommandShape) :
    s.undescribed.records = s.records.map Record.undescribed := by
  simp [records, undescribed, Option.toList_map]

@[simp] theorem Record.allCodeAt_undescribed_all (depth : Nat) (rs : List Record) :
    Layout.allCodeAt depth ((rs.map undescribed).flatMap fun r => r.layout ++ [.blank]) =
      Layout.allCodeAt depth (rs.flatMap fun r => r.layout ++ [.blank]) := by
  induction rs with
  | nil => rfl
  | cons r rs ih =>
    simp only [List.map_cons, List.flatMap_cons, Layout.allCodeAt_append, allCodeAt_undescribed, ih]

/-- The lines of code of a command. -/
def CommandShape.code (s : CommandShape) : List (List Char) :=
  Layout.allCodeAt 0 ((s.records.flatMap fun r => r.layout ++ [.blank]) ++ Blocking.layout s ++
    Callback.layout s)

@[simp] theorem CommandShape.code_undescribed (s : CommandShape) : s.undescribed.code = s.code := by
  simp [code]

theorem Command.code_piece? (table : NameTable) (domain : String) (c : Command) :
    Piece.code <$> c.piece? table domain =
      (fun s => (s.code,
        c.recordsRequired table domain ++ Blocking.required ++ Callback.required)) <$>
        CommandShape.undescribed <$> c.shape? table domain := by
  rw [← comp_map]
  simp only [piece?, map_eq_pure_bind, bind_assoc, pure_bind, Function.comp_def,
    CommandShape.code_undescribed]
  rfl

theorem Command.piece?_undescribed (table : NameTable) (domain : String) (c : Command) :
    Piece.code <$> c.undescribed.piece? table domain = Piece.code <$> c.piece? table domain := by
  have hrequired : c.undescribed.recordsRequired table domain = c.recordsRequired table domain := by
    simp only [recordsRequired, undescribed, List.flatMap_cons, List.isEmpty_map,
      Record.required_undescribed, List.flatMap_nil]
  rw [code_piece?, code_piece?, shape?_undescribed, hrequired]

theorem Event.piece?_undescribed (table : NameTable) (domain : String) (e : Event) :
    Piece.code <$> e.undescribed.piece? table domain = Piece.code <$> e.piece? table domain := by
  obtain ⟨name, description, experimental, parameters⟩ := e
  simp [piece?, undescribed, Piece.code]

/-! ## Domains -/

def Declaration.undescribed : Declaration → Declaration
  | type decl => .type decl.undescribed
  | command decl => .command decl.undescribed
  | event decl => .event decl.undescribed

theorem Declaration.piece?_undescribed (table : NameTable) (domain : String) (x : Declaration) :
    Piece.code <$> x.undescribed.piece? table domain = Piece.code <$> x.piece? table domain := by
  cases x with
  | type decl => exact decl.piece?_undescribed table domain
  | command decl => exact decl.piece?_undescribed table domain
  | event decl => exact decl.piece?_undescribed table domain

namespace Domain

@[simp] theorem declarations_undescribed (d : Domain) :
    d.undescribed.declarations = d.declarations.map Declaration.undescribed := by
  simp only [declarations, undescribed, List.map_append, List.map_map]
  rfl

/-- What is left out does not depend on descriptions. -/
@[simp] theorem included_undescribed (s : Selection) (d : Domain) :
    d.undescribed.included s = (d.included s).undescribed := by
  simp only [included, undescribed, List.filter_map]
  rfl

variable {d e : Domain} (h : d.undescribed = e.undescribed)

include h

theorem name_eq_of_undescribed : d.name = e.name := by
  show d.undescribed.name = e.undescribed.name
  rw [h]

theorem included_eq_of_undescribed (s : Selection) :
    (d.included s).undescribed = (e.included s).undescribed := by
  rw [← included_undescribed, h, included_undescribed]

/-- Of domains that differ in descriptions only, the pieces differ in doc comments only. -/
theorem pieces?_alike (table : NameTable) (s : Selection) :
    Except.Alike (List.Forall₂ fun p q => p.code = q.code) ((d.included s).pieces? table)
      ((e.included s).pieces? table) := by
  have hname : (d.included s).name = (e.included s).name :=
    name_eq_of_undescribed (included_eq_of_undescribed h s)
  have hdeclarations := congrArg declarations (included_eq_of_undescribed h s)
  rw [declarations_undescribed, declarations_undescribed] at hdeclarations
  rw [pieces?_eq_mapM, pieces?_eq_mapM, hname]
  refine Except.alike_mapM ((forall₂_of_map_eq hdeclarations).imp fun x y hxy => ?_)
  refine Except.alike_of_map_eq ?_
  rw [← Declaration.piece?_undescribed, hxy, Declaration.piece?_undescribed]

end Domain

/-! ## Where the body of a file ends -/

/-- The text ends in something that can be seen, a newline, and an empty line. -/
def EndsInCode (ls : List Layout) : Prop :=
  ∃ (start : List Char) (last : Char), isBlank last = false ∧
    (Layout.textAll 0 ls).toList = start ++ [last, '\n', '\n']

namespace EndsInCode

theorem append {ls : List Layout} (h : EndsInCode ls) (before : List Layout) :
    EndsInCode (before ++ ls) := by
  obtain ⟨start, last, hlast, htext⟩ := h
  refine ⟨(Layout.textAll 0 before).toList ++ start, last, hlast, ?_⟩
  rw [Layout.textAll_append, String.toList_append, htext, List.append_assoc]

theorem line {content : String} {start : List Char} {last : Char}
    (hcontent : content.toList = start ++ [last]) (hlast : isBlank last = false) :
    EndsInCode [.line content, .blank] := by
  refine ⟨start, last, hlast, ?_⟩
  rw [Layout.textAll_eq_joinLines]
  simp [joinLines, hcontent]

theorem block (header : String) (body : List Layout) :
    EndsInCode [.block header "" body, .blank] := by
  refine ⟨(header ++ " \x7b\n").toList ++ (joinLines (Layout.allLinesAt 1 body)).toList, '\x7d',
    by decide, ?_⟩
  rw [Layout.textAll_eq_joinLines]
  simp [joinLines]

theorem record (r : Record) : EndsInCode (r.layout ++ [.blank]) := by
  unfold Record.layout
  cases r.fields with
  | nil =>
    have hheader : (s!"pub struct {r.ident}" ++ " \x7b\x7d").toList =
        ("pub struct " ++ r.ident ++ " \x7b").toList ++ ['\x7d'] := by
      simp [toString]
    simp only [List.append_assoc]
    exact (line hheader (by decide)).append [_, _]
  | cons first rest =>
    simp only [List.append_assoc]
    exact (block _ _).append [_, _]

theorem callback (shape : CommandShape) : EndsInCode (Callback.layout shape) := by
  unfold Callback.layout
  rw [List.append_assoc]
  exact (block _ _).append _

theorem registration (ident recordIdent method : String) :
    EndsInCode (Event.registration ident recordIdent method ++ [.blank]) := by
  unfold Event.registration
  exact (block _ _).append [_, _, _]

theorem typeDecl {table : NameTable} {domain : String} {t : TypeDecl} {piece : Piece}
    (h : t.piece? table domain = .ok piece) : EndsInCode piece.layout := by
  rcases TypeDecl.piece?_eq_ok h with ⟨literals, -, hlayout⟩ | ⟨_, r, -, -, hlayout⟩ |
    ⟨type, -, -, -, hlayout⟩
  · rw [hlayout]
    exact (block _ _).append (_ :: _ :: _ :: _ :: _ :: [_])
  · rw [hlayout]
    exact record _
  · rw [hlayout]
    have halias : (s!"pub type {table.ident domain t.name} = {type.text};").toList =
        ("pub type " ++ table.ident domain t.name ++ " = " ++ type.text).toList ++ [';'] := by
      simp [toString]
    exact (line halias (by decide)).append [_]

theorem declaration {table : NameTable} {domain : String} {x : Declaration} {piece : Piece}
    (h : x.piece? table domain = .ok piece) : EndsInCode piece.layout := by
  cases x with
  | type decl => exact typeDecl h
  | command decl =>
    obtain ⟨params, result, -, -, hlayout⟩ := Command.piece?_eq_ok h
    rw [hlayout]
    exact (callback _).append _
  | event decl =>
    obtain ⟨r, -, hlayout⟩ := Event.piece?_eq_ok h
    rw [hlayout, List.append_assoc]
    exact (registration _ _ _).append _

end EndsInCode

/-- Trimming the end of a body takes empty lines away, and no code. -/
theorem codeLines_trimEnd {ls : List Layout} (h : ls = [] ∨ EndsInCode ls) :
    codeLines (trimEnd (Layout.textAll 0 ls).toList) = Layout.allCodeAt 0 ls := by
  rw [← Layout.codeLines_textAll]
  rcases h with rfl | ⟨start, last, hlast, htext⟩
  · rfl
  · have htrim : trimEnd (start ++ [last, '\n', '\n']) = start ++ [last] := by
      have hnewline : isBlank '\n' = true := by decide
      simp [trimEnd, hlast, hnewline]
    have hsplit : start ++ [last, '\n', '\n'] =
        (start ++ [last]) ++ '\n' :: ([] ++ '\n' :: []) := by
      simp
    rw [htext, htrim, hsplit, codeLines_append_newline, codeLines_append_newline]
    simp [codeLines, splitNewlines, allBlank]

/-! ## Files -/

namespace DomainUnit

/-- The code in front of the declarations of a file: it does not tell whether the domain is
described. -/
theorem allCodeAt_preamble (header : FileHeader) (u : DomainUnit) :
    Layout.allCodeAt 0 (u.preamble header) =
      Layout.allCodeAt 0 ([header.banner, .blank] ++ [.line "use super::*;"] ++
        (if (u.capabilities.imports header.runtimePath).isEmpty then []
          else .blank :: (u.capabilities.imports header.runtimePath).map .line) ++ [.blank]) := by
  have hdoc : Layout.allCodeAt 0 (if u.description.isSome || u.experimental then
      [.doc .enclosing u.description u.experimental, .blank] else []) = [] := by
    split <;> rfl
  unfold preamble
  simp only [Layout.allCodeAt_append, hdoc, List.append_nil]

theorem codeLines_fileText (header : FileHeader) (u : DomainUnit) :
    codeLines (u.fileText header).toList =
      Layout.allCodeAt 0 (u.preamble header) ++ codeLines (trimEnd u.body.toList) := by
  unfold fileText
  rw [String.toList_append, String.toList_append, String.toList_ofList, List.append_assoc,
    Layout.codeLines_textAll_append]
  show _ ++ codeLines (_ ++ '\n' :: []) = _
  rw [codeLines_append_newline, show codeLines [] = [] from rfl, List.append_nil]

/-- Two units of one domain whose files hold the same code, line for line, under every header. -/
structure SameCode (u v : DomainUnit) : Prop where
  domain : u.domain = v.domain
  moduleName : u.moduleName = v.moduleName
  capabilities : u.capabilities = v.capabilities
  counts : u.counts = v.counts
  code : ∀ header : FileHeader,
    codeLines (u.fileText header).toList = codeLines (v.fileText header).toList

end DomainUnit

/-- The body of pieces of declarations ends in code, if there is any. -/
theorem endsInCode_pieces {table : NameTable} {d : Domain} {pieces : List Piece}
    (h : d.pieces? table = .ok pieces) :
    pieces.flatMap (·.layout) = [] ∨ EndsInCode (pieces.flatMap (·.layout)) := by
  rw [Domain.pieces?_eq_mapM] at h
  rcases List.eq_nil_or_concat pieces with rfl | ⟨start, last, rfl⟩
  · exact .inl rfl
  · obtain ⟨x, -, hx⟩ := Except.mem_of_mem_mapM h (y := last) (by simp)
    refine .inr ?_
    rw [List.concat_eq_append, List.flatMap_append, List.flatMap_singleton]
    exact (EndsInCode.declaration hx).append _

theorem allCodeAt_pieces {ps qs : List Piece}
    (h : List.Forall₂ (fun p q => p.code = q.code) ps qs) :
    Layout.allCodeAt 0 (ps.flatMap (·.layout)) = Layout.allCodeAt 0 (qs.flatMap (·.layout)) ∧
      ps.flatMap (·.required) = qs.flatMap (·.required) := by
  induction h with
  | nil => exact ⟨rfl, rfl⟩
  | cons hpiece _ ih =>
    obtain ⟨hcode, hrequired⟩ := Prod.mk.inj hpiece
    simp only [List.flatMap_cons, Layout.allCodeAt_append, hcode, hrequired, ih, and_self]

theorem DomainUnit.sameCode_of_pieces {u v : DomainUnit} {ps qs : List Piece}
    (hu : u.body = Layout.textAll 0 (ps.flatMap (·.layout)))
    (hv : v.body = Layout.textAll 0 (qs.flatMap (·.layout)))
    (hps : ps.flatMap (·.layout) = [] ∨ EndsInCode (ps.flatMap (·.layout)))
    (hqs : qs.flatMap (·.layout) = [] ∨ EndsInCode (qs.flatMap (·.layout)))
    (hcode : Layout.allCodeAt 0 (ps.flatMap (·.layout)) =
      Layout.allCodeAt 0 (qs.flatMap (·.layout)))
    (hdomain : u.domain = v.domain) (hmodule : u.moduleName = v.moduleName)
    (hcapabilities : u.capabilities = v.capabilities) (hcounts : u.counts = v.counts) :
    SameCode u v := by
  refine ⟨hdomain, hmodule, hcapabilities, hcounts, fun header => ?_⟩
  rw [codeLines_fileText, codeLines_fileText, allCodeAt_preamble, allCodeAt_preamble, hu, hv,
    codeLines_trimEnd hps, codeLines_trimEnd hqs, hcode, hcapabilities]

/-- Domains that differ in descriptions only have the same code. -/
theorem Domain.unit?_alike {d e : Domain} (h : d.undescribed = e.undescribed) (table : NameTable)
    (s : Selection) :
    Except.Alike DomainUnit.SameCode (d.unit? table s) (e.unit? table s) := by
  have hname := name_eq_of_undescribed h
  have hincluded := included_eq_of_undescribed h s
  have hlength (d : Domain) : d.undescribed.declarationCount = d.declarationCount := by
    simp [declarationCount, undescribed]
  have hcount : d.declarationCount = e.declarationCount := by rw [← hlength, h, hlength]
  have hchosen : (d.included s).declarationCount = (e.included s).declarationCount := by
    rw [← hlength, hincluded, hlength]
  have htypes := congrArg (fun d : Domain => d.types.length) hincluded
  have hcommands := congrArg (fun d : Domain => d.commands.length) hincluded
  have hevents := congrArg (fun d : Domain => d.events.length) hincluded
  simp only [undescribed, List.length_map] at htypes hcommands hevents
  rw [unit?_eq_assembled?, unit?_eq_assembled?]
  refine Except.alike_bind (pieces?_alike h table s) fun ps qs hps hqs hpieces => .ok ?_
  obtain ⟨hcode, hrequired⟩ := allCodeAt_pieces hpieces
  refine DomainUnit.sameCode_of_pieces rfl rfl (endsInCode_pieces hps) (endsInCode_pieces hqs) hcode
    hname (congrArg Naming.moduleName hname) ?_ ?_
  · exact congrArg CapabilitySet.empty.require hrequired
  · simp only [htypes, hcommands, hevents, hcount, hchosen]

/-! ## Schemas -/

/-- **Descriptions change no code.** Take two schemas that differ only in descriptions, there or
not, and in the marks on experimental members. Generating a domain of one fails if generating the
domain at its place in the other does, with the same error, and otherwise both give files that hold
the same code. So a whole run over the included domains ends alike as well. -/
theorem descriptions_change_no_code {s t : Schema} (h : s.undescribed = t.undescribed) :
    (∀ selection : Selection, List.Forall₂ (fun d e => Except.Alike DomainUnit.SameCode
        (d.unit? (NameTable.build s.domains) selection)
        (e.unit? (NameTable.build t.domains) selection)) s.domains t.domains) ∧
    ∀ compiler : Compiler, (compiler.outputFor s).header = (compiler.outputFor t).header ∧
      Except.Alike (List.Forall₂ DomainUnit.SameCode) (compiler.units? s) (compiler.units? t) := by
  have hversion : s.version = t.version := by
    show s.undescribed.version = t.undescribed.version
    rw [h]
  have hdomains : s.domains.map Domain.undescribed = t.domains.map Domain.undescribed :=
    congrArg (fun schema : Schema => schema.domains) h
  have htable : NameTable.build s.domains = NameTable.build t.domains := by
    rw [← NameTable.build_undescribed, hdomains, NameTable.build_undescribed]
  refine ⟨fun selection => ?_, fun compiler => ⟨?_, ?_⟩⟩
  · rw [htable]
    exact (forall₂_of_map_eq hdomains).imp fun d e hde => Domain.unit?_alike hde _ selection
  · simp only [Compiler.outputFor, hversion]
  · -- which domains are included does not depend on descriptions either
    have hincluded : (compiler.includedDomains s).map Domain.undescribed =
        (compiler.includedDomains t).map Domain.undescribed := by
      have hfilter (domains : List Domain) :
          (domains.filter fun d => compiler.selection.includes d.experimental).map
              Domain.undescribed =
            (domains.map Domain.undescribed).filter fun d =>
              compiler.selection.includes d.experimental := by
        rw [List.filter_map]
        rfl
      unfold Compiler.includedDomains
      rw [hfilter, hfilter, hdomains]
    unfold Compiler.units?
    rw [htable]
    exact Except.alike_mapM ((forall₂_of_map_eq hincluded).imp fun d e hde =>
      Domain.unit?_alike hde _ _)

/-- A schema of one domain, in which everything that can be described has the same description. -/
def notebook (description : Option String) (experimental : Bool) : Schema :=
  let text : Property := ⟨"text", description, true, experimental, .primitive .string⟩
  ⟨⟨"1", "3"⟩, [{
    name := "Notebook"
    description := description
    experimental := false
    types := [⟨"Note", description, false, .composite [text]⟩]
    commands := [⟨"add", description, false, [text], []⟩]
    events := [⟨"added", description, false, [text]⟩] }]⟩

/-- A description that would close what is open and go on with a definition of its own. -/
def intruder : String := "<code>\r\n\x7d\x7d\n<code>pub struct Note;\n  \n"

theorem descriptions_change_no_code_notebook :
    (notebook (some intruder) true).undescribed = (notebook none false).undescribed ∧
    ∃ d e u v, (notebook (some intruder) true).domains = [d] ∧ (notebook none false).domains = [e] ∧
      d.unit? (NameTable.build [d]) ⟨false⟩ = .ok u ∧
      e.unit? (NameTable.build [e]) ⟨false⟩ = .ok v ∧ u.SameCode v ∧ u.body ≠ v.body := by
  have h : (notebook (some intruder) true).undescribed = (notebook none false).undescribed := rfl
  obtain ⟨hsame, -⟩ := List.forall₂_cons.mp ((descriptions_change_no_code h).1 ⟨false⟩)
  refine ⟨h, _, _, _, _, rfl, rfl, rfl, rfl, ?_, by decide +kernel⟩
  cases hsame with
  | ok hcode => exact hcode

end Bindery
