import Bindery.Proofs.Json.Entries
import Bindery.Schema.Reading
import Mathlib.Data.List.Permutation
import Mathlib.Logic.Relation

/-!
# Edits that a schema does not notice

A schema is read from a text whose objects are records of a protocol description. An `Edit` changes
one of them, at any depth: its members are put into another order, or a member is added that the
record does not declare. What is read stays the same, after any number of edits
(`Schema.parse_of_edits`).

A type and a property share their object with a type expression. The members of the expression are
buffered until the object ends, so that what is added there has to be a value that can be held in
memory (`Kind.admits`), and to fit between the brackets around it; a member that other records skip
only has to be JSON.
-/

namespace Bindery.Document

open Json

/-! ## Type expressions of any depth -/

/-- Decodes a type expression; the document bounds the nesting of what is in it. -/
def decodeTypeExpr : Decoder TypeExpr := fun scope doc =>
  (typeExprFormAt doc.height).decode scope doc

/-- The form of a type expression, of whatever depth. -/
def expressionForm : RecordForm TypeExpr := typeExprForm decodeTypeExpr decodeMember

theorem typeExprForm_extends {bound : Nat} {inner inner' : Decoder TypeExpr}
    {member member' : Decoder Member} (hinner : Decoder.Extends bound inner inner')
    (hmember : Decoder.Extends bound member member') :
    (typeExprForm inner member).Extends bound (typeExprForm inner' member') :=
  ⟨rfl, .cons (.refl _ _) <| .cons (.refl _ _) <| .cons (.refl _ _) <|
    .cons (Field.of_extends hinner.option) <| .cons (.refl _ _) <|
    .cons (Field.of_extends hmember.list.option) .nil⟩

/-- A form with room for a depth reads what any other one reads up to that depth. -/
theorem typeExprFormAt_extends (n m : Nat) :
    (typeExprFormAt n).Extends m (typeExprFormAt m) := by
  -- on the depth that is read: the parts of a document nest less deep than itself
  induction m generalizing n with
  | zero =>
    cases n <;> exact typeExprForm_extends (Decoder.extends_zero _ _) (Decoder.extends_zero _ _)
  | succ m ih =>
    cases n with
    | zero =>
      exact typeExprForm_extends (Decoder.error_extends _ _ _) (Decoder.error_extends _ _ _)
    | succ n =>
      refine typeExprForm_extends (fun scope doc x hheight h => ?_) fun scope doc x hheight h => ?_
      · exact RecordForm.decode_of_extends (ih n) (Nat.le_of_lt_succ hheight) h
      · exact SharedForm.decode_of_extends (ih n) (Nat.le_of_lt_succ hheight) h

theorem typeExprFormAt_extends_expressionForm (n bound : Nat) :
    (typeExprFormAt n).Extends bound expressionForm := by
  cases n with
  | zero => exact typeExprForm_extends (Decoder.error_extends _ _ _) (Decoder.error_extends _ _ _)
  | succ n =>
    refine typeExprForm_extends (fun scope doc x _ h => ?_) fun scope doc x _ h => ?_
    · exact RecordForm.decode_of_extends (typeExprFormAt_extends n _) (Nat.le_refl _) h
    · exact SharedForm.decode_of_extends (typeExprFormAt_extends n _) (Nat.le_refl _) h

theorem expressionForm_extends (m : Nat) : expressionForm.Extends m (typeExprFormAt m) := by
  cases m with
  | zero => exact typeExprForm_extends (Decoder.extends_zero _ _) (Decoder.extends_zero _ _)
  | succ m =>
    refine typeExprForm_extends (fun scope doc x hheight h => ?_) fun scope doc x hheight h => ?_
    · exact RecordForm.decode_of_extends (typeExprFormAt_extends _ m) (Nat.le_of_lt_succ hheight) h
    · exact SharedForm.decode_of_extends (typeExprFormAt_extends _ m) (Nat.le_of_lt_succ hheight) h

section

variable {scope : Scope} {doc : Doc}

theorem decodeTypeExpr_eq_ok_iff {x : TypeExpr} :
    decodeTypeExpr scope doc = .ok x ↔ expressionForm.decode scope doc = .ok x :=
  ⟨RecordForm.decode_of_extends (typeExprFormAt_extends_expressionForm _ _) (Nat.le_refl _),
    RecordForm.decode_of_extends (expressionForm_extends _) (Nat.le_refl _)⟩

theorem decodeMember_eq_ok_iff {x : Member} :
    decodeMember scope doc = .ok x ↔ (memberForm expressionForm).decode scope doc = .ok x :=
  ⟨SharedForm.decode_of_extends (typeExprFormAt_extends_expressionForm _ _) (Nat.le_refl _),
    SharedForm.decode_of_extends (expressionForm_extends _) (Nat.le_refl _)⟩

theorem decodeTypeEntry_eq_ok_iff {x : TypeEntry} :
    decodeTypeEntry scope doc = .ok x ↔ (typeEntryForm expressionForm).decode scope doc = .ok x :=
  ⟨SharedForm.decode_of_extends (typeExprFormAt_extends_expressionForm _ _) (Nat.le_refl _),
    SharedForm.decode_of_extends (expressionForm_extends _) (Nat.le_refl _)⟩

end

/-! ## The records of a protocol description -/

/-- The kinds of records. -/
inductive Kind where
  | protocol | version | domain | type | command | event | member | expression
  deriving DecidableEq, Repr

namespace Kind

/-- What a record of a kind is read as. -/
def Record : Kind → Type
  | protocol => Protocol
  | version => VersionEntry
  | domain => DomainEntry
  | type => TypeEntry
  | command => CommandEntry
  | event => EventEntry
  | member => Member
  | expression => TypeExpr

def decode : (kind : Kind) → Decoder kind.Record
  | protocol => protocolForm.decode
  | version => versionForm.decode
  | domain => domainForm.decode
  | type => decodeTypeEntry
  | command => commandForm.decode
  | event => eventForm.decode
  | member => decodeMember
  | expression => decodeTypeExpr

def form : (kind : Kind) → ObjectForm kind.Record
  | protocol => .single protocolForm
  | version => .single versionForm
  | domain => .single domainForm
  | type => .shared (typeEntryForm expressionForm)
  | command => .single commandForm
  | event => .single eventForm
  | member => .shared (memberForm expressionForm)
  | expression => .single expressionForm

theorem decode_eq_ok_iff {kind : Kind} {scope : Scope} {doc : Doc} {x : kind.Record} :
    kind.decode scope doc = .ok x ↔ kind.form.decode scope doc = .ok x := by
  cases kind with
  | type => exact decodeTypeEntry_eq_ok_iff
  | member => exact decodeMember_eq_ok_iff
  | expression => exact decodeTypeExpr_eq_ok_iff
  | _ => exact Iff.rfl

/-- No two fields of a record meddle with each other: each sets a part of its own. -/
theorem commuting (kind : Kind) : kind.form.Commuting := by
  have hexpression : expressionForm.Commuting := by
    simp only [RecordForm.Commuting, expressionForm, typeExprForm, List.pairwise_cons,
      List.forall_mem_cons, List.not_mem_nil, false_implies, implies_true, List.Pairwise.nil,
      and_true]
    and_intros <;> refine Field.of_commutes fun r _ _ => ?_ <;> cases r <;> rfl
  cases kind
  case expression => exact hexpression
  all_goals
    dsimp only [Record, form, ObjectForm.Commuting, RecordForm.Commuting, protocolForm, versionForm,
      domainForm, typeEntryForm, commandForm, eventForm, memberForm]
    simp only [List.pairwise_cons, List.forall_mem_cons, List.not_mem_nil, false_implies,
      implies_true, List.Pairwise.nil, and_true]
    and_intros <;> first | exact hexpression | exact Field.of_commutes fun r _ _ => by cases r; rfl

end Kind

/-! ## Parts -/

/-- What records stand in: one as it is, or several in a list. -/
inductive Part where
  | record (kind : Kind)
  | list (kind : Kind)
  deriving DecidableEq, Repr

namespace Part

def kind : Part → Kind
  | record kind | list kind => kind

/-- What a part is read as. -/
def Value : Part → Type
  | record kind => kind.Record
  | list kind => List kind.Record

def decode : (part : Part) → Decoder part.Value
  | record kind => kind.decode
  | list kind => decodeList kind.decode

end Part

namespace Kind

/-- The parts of a record, under the names of its members. -/
def parts : Kind → List (String × Part)
  | protocol => [("version", .record version), ("domains", .list domain)]
  | version => []
  | domain => [("types", .list type), ("commands", .list command), ("events", .list event)]
  | command => [("parameters", .list member), ("returns", .list member)]
  | event => [("parameters", .list member)]
  | type | member | expression => [("items", .record expression), ("properties", .list member)]

/-- The members of a type expression are buffered, with all that is inside. -/
def isBuffered : Kind → Bool
  | type | member | expression => true
  | _ => false

/-- Whether a value may be added to a record whose members may hold `room` brackets. -/
def admits (kind : Kind) (room : Nat) (value : Doc) : Bool :=
  if kind.isBuffered then value.fits room else value.isSound

variable {kind : Kind} {room : Nat} {value : Doc}

theorem fits_of_admits (hkind : kind.isBuffered = true) (h : kind.admits room value = true) :
    value.fits room = true := by
  rwa [admits, if_pos hkind] at h

theorem isSound_of_admits (h : kind.admits room value = true) : value.isSound = true := by
  unfold admits at h
  split at h
  · exact Doc.isSound_of_fits h
  · exact h

theorem isBuffered_of_buffers (h : kind.form.buffers = true) : kind.isBuffered = true := by
  cases kind with
  | type | member => rfl
  | _ => cases h

theorem isBuffered_of_part {name : String} {part : Part} (hpart : (name, part) ∈ kind.parts)
    (hkind : kind.isBuffered = true) : part.kind.isBuffered = true := by
  have hexpression : ∀ p ∈ expression.parts, p.2.kind.isBuffered = true := by decide
  cases kind with
  | type | member | expression => exact hexpression _ hpart
  | _ => cases hkind

end Kind

/-! ## Documents that are read alike -/

/-- In a text, `room` brackets may be entered; what is buffered has been checked before. -/
def HasRoom (room : Nat) : Scope → Prop
  | .streamed left => left = room
  | .buffered => True

namespace HasRoom

variable {room : Nat} {scope inner : Scope} {doc doc' : Doc}

theorem enter (h : HasRoom room scope) (henter : scope.enter = .ok inner) :
    HasRoom (room - 1) inner := by
  cases scope with
  | buffered =>
    obtain rfl := Except.ok.inj henter
    trivial
  | streamed left =>
    obtain rfl : left = room := h
    cases left with
    | zero => cases henter
    | succ left =>
      obtain rfl := Except.ok.inj henter
      rfl

theorem buffer_eq_ok (h : HasRoom room scope) (hfits : doc.fits room = true) :
    doc.buffer scope = .ok () := by
  cases scope with
  | buffered => rfl
  | streamed left =>
    obtain rfl : left = room := h
    exact if_pos hfits

theorem buffer_of_fits (h : HasRoom room scope)
    (hfits : doc.fits room = true → doc'.fits room = true) (hbuffer : doc.buffer scope = .ok ()) :
    doc'.buffer scope = .ok () := by
  cases scope with
  | buffered => rfl
  | streamed left =>
    obtain rfl : left = room := h
    have hdoc : doc.fits left = true := by
      by_contra hnot
      rw [Doc.buffer, if_neg hnot] at hbuffer
      cases hbuffer
    exact if_pos (hfits hdoc)

end HasRoom

/-- The second document may stand where the first one does. -/
structure Part.ReadsAlike (part : Part) (room : Nat) (doc doc' : Doc) : Prop where
  ne_null : doc ≠ .null
  ne_null' : doc' ≠ .null
  decode : ∀ scope x, HasRoom room scope → part.decode scope doc = .ok x →
    part.decode scope doc' = .ok x
  fits : part.kind.isBuffered = true → doc.fits room = true → doc'.fits room = true

/-- A field of a record reads documents alike that its decoder reads alike. -/
theorem read_of_decode {ρ α : Type} {name : String} {presence : Presence} {decode : Decoder α}
    {set : ρ → α → ρ} {scope : Scope} {doc doc' : Doc}
    (h : ∀ x, decode scope doc = .ok x → decode scope doc' = .ok x) (r s : ρ)
    (hread : (Field.of name presence decode set).read scope doc r = .ok s) :
    (Field.of name presence decode set).read scope doc' r = .ok s := by
  obtain ⟨x, hx, rfl⟩ := map_eq_ok_iff.mp hread
  exact Field.read_of (h x hx)

namespace Part.ReadsAlike

variable {part : Part} {room : Nat} {doc doc' : Doc}

theorem option (h : part.ReadsAlike room doc doc') {scope : Scope} (hscope : HasRoom room scope)
    (x : Option part.Value) (hx : decodeOption part.decode scope doc = .ok x) :
    decodeOption part.decode scope doc' = .ok x := by
  rcases decodeOption_eq_ok_iff.mp hx with ⟨hnull, -⟩ | ⟨-, a, ha, rfl⟩
  · exact absurd hnull h.ne_null
  · exact decodeOption_eq_ok_iff.mpr (.inr ⟨h.ne_null', a, h.decode _ _ hscope ha, rfl⟩)

/-- The record around a part reads it alike, too. -/
theorem readsSame {kind : Kind} {name : String} (hpart : (name, part) ∈ kind.parts)
    (h : part.ReadsAlike room doc doc') {scope : Scope} (hscope : HasRoom room scope) :
    kind.form.ReadsSame scope name doc doc' := by
  have hexpression : (name, part) ∈ Kind.expression.parts → ∀ scope, HasRoom room scope →
      Kind.expression.form.ReadsSame scope name doc doc' := by
    intro hpart scope hscope
    simp only [Kind.parts, List.mem_cons, Prod.mk.injEq, List.not_mem_nil, or_false] at hpart
    rcases hpart with ⟨rfl, rfl⟩ | ⟨rfl, rfl⟩
    · exact ⟨_, rfl, read_of_decode (h.option hscope)⟩
    · exact ⟨_, rfl, read_of_decode (h.option hscope)⟩
  have hsame (x : part.Value) := h.decode scope x hscope
  cases kind with
  | expression => exact hexpression hpart scope hscope
  | type | member =>
    -- the part is one of the expression, which is read from what has been buffered
    have hown : name = "items" ∨ name = "properties" := by
      simp only [Kind.parts, List.mem_cons, Prod.mk.injEq, List.not_mem_nil, or_false] at hpart
      exact hpart.imp And.left And.left
    refine ⟨?_, hscope.buffer_of_fits (h.fits (Kind.isBuffered_of_part hpart rfl)),
      hexpression hpart .buffered trivial⟩
    rcases hown with rfl | rfl <;> decide
  | protocol | command =>
    simp only [Kind.parts, List.mem_cons, Prod.mk.injEq, List.not_mem_nil, or_false] at hpart
    rcases hpart with ⟨rfl, rfl⟩ | ⟨rfl, rfl⟩
    · exact ⟨_, rfl, read_of_decode hsame⟩
    · exact ⟨_, rfl, read_of_decode hsame⟩
  | domain =>
    simp only [Kind.parts, List.mem_cons, Prod.mk.injEq, List.not_mem_nil, or_false] at hpart
    rcases hpart with ⟨rfl, rfl⟩ | ⟨rfl, rfl⟩ | ⟨rfl, rfl⟩
    · exact ⟨_, rfl, read_of_decode hsame⟩
    · exact ⟨_, rfl, read_of_decode hsame⟩
    · exact ⟨_, rfl, read_of_decode hsame⟩
  | event =>
    simp only [Kind.parts, List.mem_cons, Prod.mk.injEq, List.not_mem_nil, or_false] at hpart
    obtain ⟨rfl, rfl⟩ := hpart
    exact ⟨_, rfl, read_of_decode hsame⟩
  | version => cases hpart

end Part.ReadsAlike

/-! ## Edits -/

/-- A change of what stands for a part, in which `room` brackets may be entered, that of the record
or list among them. -/
inductive Edit : Part → Nat → Doc → Doc → Prop where
  /-- The members of a record are put into another order. -/
  | reorder {kind : Kind} {room : Nat} {members members' : Members} {es es' : List Entry}
      (hes : members.entries? = some es) (hes' : members'.entries? = some es')
      (hperm : es.Perm es') :
      Edit (.record kind) room (.object members) (.object members')
  /-- A member is added that the record does not declare. -/
  | insert {kind : Kind} {room : Nat} {members members' : Members} {before after : List Entry}
      {key : List Char} {name : String} {value : Doc}
      (hes : members.entries? = some (before ++ after))
      (hes' : members'.entries? = some (before ++ (key, value) :: after))
      (hkey : unescape key = some name.toList) (hnew : name ∉ kind.form.names)
      (hvalue : kind.admits (room - 1) value = true) :
      Edit (.record kind) room (.object members) (.object members')
  /-- A part of a record is changed. -/
  | inside {kind : Kind} {part : Part} {room : Nat} {members members' : Members}
      {before after : List Entry} {key : List Char} {name : String} {value value' : Doc}
      (hes : members.entries? = some (before ++ (key, value) :: after))
      (hes' : members'.entries? = some (before ++ (key, value') :: after))
      (hkey : unescape key = some name.toList) (hpart : (name, part) ∈ kind.parts)
      (hedit : Edit part (room - 1) value value') :
      Edit (.record kind) room (.object members) (.object members')
  /-- A record of a list is changed. -/
  | among {kind : Kind} {room : Nat} {items items' : Items} {before after : List Doc}
      {value value' : Doc} (hvalues : items.values? = some (before ++ value :: after))
      (hvalues' : items'.values? = some (before ++ value' :: after))
      (hedit : Edit (.record kind) (room - 1) value value') :
      Edit (.list kind) room (.array items) (.array items')

section

variable {α β : Type} {before after : List α} {a a' : α}

theorem forall_mem_replace {P : α → Prop} (hreplace : P a → P a')
    (h : ∀ x ∈ before ++ a :: after, P x) : ∀ x ∈ before ++ a' :: after, P x := by
  obtain ⟨hbefore, hrest⟩ := List.forall_mem_append.mp h
  obtain ⟨ha, hafter⟩ := List.forall_mem_cons.mp hrest
  exact List.forall_mem_append.mpr ⟨hbefore, List.forall_mem_cons.mpr ⟨hreplace ha, hafter⟩⟩

theorem forall₂_replace {R : α → β → Prop} {xs : List β} (hreplace : ∀ x, R a x → R a' x)
    (h : List.Forall₂ R (before ++ a :: after) xs) :
    List.Forall₂ R (before ++ a' :: after) xs := by
  induction before generalizing xs with
  | nil =>
    cases h with
    | cons ha hafter => exact .cons (hreplace _ ha) hafter
  | cons b before ih =>
    cases h with
    | cons hb hrest => exact .cons hb (ih hrest)

end

namespace Part.ReadsAlike

variable {kind : Kind} {room : Nat} {members members' : Members} {es es' : List Entry}

/-- Objects are read alike if their entries are. -/
theorem of_entries (hes : members.entries? = some es) (hes' : members'.entries? = some es')
    (hreads : ∀ scope x, HasRoom (room - 1) scope → kind.form.Reads scope es x →
      kind.form.Reads scope es' x)
    (hfits : kind.isBuffered = true →
      (∀ e ∈ es, (unescape e.1).isSome = true ∧ e.2.fits (room - 1) = true) →
      ∀ e ∈ es', (unescape e.1).isSome = true ∧ e.2.fits (room - 1) = true) :
    (Part.record kind).ReadsAlike room (.object members) (.object members') where
  ne_null := Doc.noConfusion
  ne_null' := Doc.noConfusion
  decode := by
    intro scope x hscope hx
    obtain ⟨inner, _, henter, hsome, hx⟩ :=
      ObjectForm.decode_object_eq_ok_iff.mp (Kind.decode_eq_ok_iff.mp hx)
    obtain rfl := Option.some.inj (hes.symm.trans hsome)
    exact Kind.decode_eq_ok_iff.mpr (ObjectForm.decode_object_eq_ok_iff.mpr
      ⟨inner, es', henter, hes', hreads inner x (hscope.enter henter) hx⟩)
  fits := by
    intro hkind h
    obtain ⟨hroom, hmembers⟩ := Bool.and_eq_true_iff.mp h
    obtain ⟨_, hsome, hall⟩ := Members.fits_iff.mp hmembers
    obtain rfl := Option.some.inj (hes.symm.trans hsome)
    exact Bool.and_eq_true_iff.mpr ⟨hroom, Members.fits_iff.mpr ⟨es', hes', hfits hkind hall⟩⟩

theorem reorder (hes : members.entries? = some es) (hes' : members'.entries? = some es')
    (hperm : es.Perm es') :
    (Part.record kind).ReadsAlike room (.object members) (.object members') :=
  of_entries hes hes' (fun _ _ _ hx => hx.perm kind.commuting hperm)
    fun _ h e he => h e (hperm.mem_iff.mpr he)

variable {before after : List Entry} {key : List Char} {name : String} {value value' : Doc}

theorem insert (hes : members.entries? = some (before ++ after))
    (hes' : members'.entries? = some (before ++ (key, value) :: after))
    (hkey : unescape key = some name.toList) (hnew : name ∉ kind.form.names)
    (hvalue : kind.admits (room - 1) value = true) :
    (Part.record kind).ReadsAlike room (.object members) (.object members') := by
  refine of_entries hes hes' (fun scope x hscope hx => ?_) fun hkind h => ?_
  · have hbuffer (hbuffers : kind.form.buffers = true) : value.buffer scope = .ok () :=
      hscope.buffer_eq_ok (Kind.fits_of_admits (Kind.isBuffered_of_buffers hbuffers) hvalue)
    have hadded := hx.insert hkey hnew (Kind.isSound_of_admits hvalue) hbuffer
    exact hadded.perm kind.commuting List.perm_middle.symm
  · have hhere : (unescape key).isSome = true ∧ value.fits (room - 1) = true :=
      ⟨by rw [hkey, Option.isSome_some], Kind.fits_of_admits hkind hvalue⟩
    obtain ⟨hbefore, hafter⟩ := List.forall_mem_append.mp h
    exact List.forall_mem_append.mpr ⟨hbefore, List.forall_mem_cons.mpr ⟨hhere, hafter⟩⟩

theorem inside {part : Part} (hes : members.entries? = some (before ++ (key, value) :: after))
    (hes' : members'.entries? = some (before ++ (key, value') :: after))
    (hkey : unescape key = some name.toList) (hpart : (name, part) ∈ kind.parts)
    (h : part.ReadsAlike (room - 1) value value') :
    (Part.record kind).ReadsAlike room (.object members) (.object members') := by
  refine of_entries hes hes' (fun scope x hscope hx => ?_) fun hkind hall => ?_
  · -- the entry is brought to the front, and back behind the replacement
    have hfirst := hx.perm kind.commuting List.perm_middle
    have hreplaced := hfirst.replace hkey (h.readsSame hpart hscope)
    exact hreplaced.perm kind.commuting List.perm_middle.symm
  · refine forall_mem_replace ?_ hall
    exact And.imp_right (h.fits (Kind.isBuffered_of_part hpart hkind))

theorem among {items items' : Items} {before after : List Doc}
    (hvalues : items.values? = some (before ++ value :: after))
    (hvalues' : items'.values? = some (before ++ value' :: after))
    (h : (Part.record kind).ReadsAlike (room - 1) value value') :
    (Part.list kind).ReadsAlike room (.array items) (.array items') where
  ne_null := Doc.noConfusion
  ne_null' := Doc.noConfusion
  decode := by
    intro scope xs hscope hxs
    have hlist : decodeList kind.decode scope (.array items) = .ok xs := hxs
    obtain ⟨_, inner, _, heq, henter, hsome, hall⟩ := decodeList_eq_ok_iff.mp hlist
    obtain rfl := Doc.array.inj heq
    obtain rfl := Option.some.inj (hvalues.symm.trans hsome)
    refine decodeList_eq_ok_iff.mpr ⟨items', inner, _, rfl, henter, hvalues', ?_⟩
    exact forall₂_replace (fun x => h.decode inner x (hscope.enter henter)) hall
  fits := by
    intro hkind hfits
    obtain ⟨hroom, hitems⟩ := Bool.and_eq_true_iff.mp hfits
    obtain ⟨_, hsome, hall⟩ := Items.fits_iff.mp hitems
    obtain rfl := Option.some.inj (hvalues.symm.trans hsome)
    exact Bool.and_eq_true_iff.mpr ⟨hroom,
      Items.fits_iff.mpr ⟨_, hvalues', forall_mem_replace (h.fits hkind) hall⟩⟩

end Part.ReadsAlike

/-- **An edit is not noticed**, wherever it is made. -/
theorem Edit.readsAlike {part : Part} {room : Nat} {doc doc' : Doc} (h : Edit part room doc doc') :
    part.ReadsAlike room doc doc' := by
  induction h with
  | reorder hes hes' hperm => exact .reorder hes hes' hperm
  | insert hes hes' hkey hnew hvalue => exact .insert hes hes' hkey hnew hvalue
  | inside hes hes' hkey hpart _ ih => exact .inside hes hes' hkey hpart ih
  | among hvalues hvalues' _ ih => exact .among hvalues hvalues' ih

/-- Nor is any number of edits, one after another. -/
theorem decode_of_edits {part : Part} {room : Nat} {doc doc' : Doc}
    (h : Relation.ReflTransGen (Edit part room) doc doc') {scope : Scope}
    (hscope : HasRoom room scope) {x : part.Value} (hx : part.decode scope doc = .ok x) :
    part.decode scope doc' = .ok x := by
  induction h with
  | refl => exact hx
  | tail _ hedit ih => exact hedit.readsAlike.decode _ _ hscope ih

end Bindery.Document

namespace Bindery.Schema

open Document Json

/-- **A schema does not depend on the order of members, nor on members that no record declares.** A
text whose document comes from that of an accepted one by edits is read as the same schema. -/
theorem parse_of_edits {text text' : String} {schema : Schema} {doc : Doc}
    (hparse : Schema.parse text = .ok schema)
    (hedits : Relation.ReflTransGen (Edit (.record .protocol) 127) (Json.parse text).doc doc)
    (htext : IsTextOf text' doc) : Schema.parse text' = .ok schema := by
  obtain ⟨protocol, hprotocol, hschema⟩ := Except.bind_eq_ok_iff.mp hparse
  obtain ⟨hread, -⟩ := decodeText_eq_ok_iff.mp (Except.mapError_eq_ok_iff.mp hprotocol)
  have hroom : HasRoom 127 .whole := rfl
  have hread' : Kind.protocol.decode .whole doc = .ok protocol := decode_of_edits hedits hroom hread
  exact Except.bind_eq_ok_iff.mpr
    ⟨protocol, Except.mapError_eq_ok_iff.mpr (htext.decodeText hread'), hschema⟩

/-- A protocol description with one type. -/
def plainText : String :=
  "\x7b\"version\":\x7b\"major\":\"1\",\"minor\":\"3\"\x7d,\"domains\":[\x7b\"domain\":\"DOM\"," ++
    "\"types\":[\x7b\"id\":\"Id\",\"type\":\"string\"\x7d]\x7d]\x7d"

/-- The same one, with a note at the type and the version at the end. -/
def notedText : String :=
  "\x7b\"domains\":[\x7b\"domain\":\"DOM\",\"types\":[\x7b\"id\":\"Id\",\"note\":[null]," ++
    "\"type\":\"string\"\x7d]\x7d],\"version\":\x7b\"major\":\"1\",\"minor\":\"3\"\x7d\x7d"

def plainSchema : Schema :=
  ⟨⟨"1", "3"⟩, [⟨"DOM", none, false, [⟨"Id", none, false, .primitive .string⟩], [], []⟩]⟩

/-- The type, with members that it does not declare. -/
def typeDoc (others : List (String × Doc)) : Doc :=
  .object (.ofList true (("id", .string ['I', 'd']) :: others ++
    [("type", .string ['s', 't', 'r', 'i', 'n', 'g'])]))

def domainsDoc (others : List (String × Doc)) : Doc :=
  .array (.ofList true [.object (.ofList true
    [("domain", .string ['D', 'O', 'M']), ("types", .array (.ofList true [typeDoc others]))])])

def versionDoc : Doc :=
  .object (.ofList true [("major", .string ['1']), ("minor", .string ['3'])])

def plainDoc (others : List (String × Doc)) : Doc :=
  .object (.ofList true [("version", versionDoc), ("domains", domainsDoc others)])

def movedDoc (others : List (String × Doc)) : Doc :=
  .object (.ofList true [("domains", domainsDoc others), ("version", versionDoc)])

def note : List (String × Doc) := [("note", .array (.ofList true [.null]))]

theorem doc_plainText : (Json.parse plainText).doc = plainDoc [] := by cbv

theorem doc_notedText : (Json.parse notedText).doc = movedDoc note := by cbv

theorem edits_plainDoc :
    Relation.ReflTransGen (Edit (.record .protocol) 127) (plainDoc []) (movedDoc note) := by
  have htype : Edit (.record .type) 123 (typeDoc []) (typeDoc note) :=
    .insert (show _ = some ([_] ++ [_]) from rfl) rfl (unescape_escape "note".toList) (by decide)
      (by decide)
  have hdomains : Edit (.list .domain) 126 (domainsDoc []) (domainsDoc note) := by
    refine .among (show _ = some ([] ++ [_]) from rfl) rfl ?_
    refine .inside (show _ = some ([_] ++ [_]) from rfl) rfl (unescape_escape "types".toList)
      (.head _) ?_
    exact .among (show _ = some ([] ++ [_]) from rfl) rfl htype
  have hinside : Edit (.record .protocol) 127 (plainDoc []) (plainDoc note) :=
    .inside (show _ = some ([_] ++ [_]) from rfl) rfl (unescape_escape "domains".toList)
      (.tail _ (.head _)) hdomains
  have hmove : Edit (.record .protocol) 127 (plainDoc note) (movedDoc note) :=
    .reorder rfl rfl (.swap _ _ _)
  exact (Relation.ReflTransGen.single hinside).tail hmove

theorem parse_of_edits_of_note :
    Schema.parse plainText = .ok plainSchema ∧
      Relation.ReflTransGen (Edit (.record .protocol) 127) (Json.parse plainText).doc
        (movedDoc note) ∧
      IsTextOf notedText (movedDoc note) ∧ Schema.parse notedText = .ok plainSchema := by
  have hparse : Schema.parse plainText = .ok plainSchema := by cbv
  have hedits : Relation.ReflTransGen (Edit (.record .protocol) 127) (Json.parse plainText).doc
      (movedDoc note) := by
    rw [doc_plainText]
    exact edits_plainDoc
  have htext : IsTextOf notedText (movedDoc note) :=
    isTextOf_iff.mpr ⟨doc_notedText, by cbv, by rw [doc_notedText]; decide⟩
  exact ⟨hparse, hedits, htext, parse_of_edits hparse hedits htext⟩

end Bindery.Schema
