import Bindery.Proofs.Definitions

/-!
# References in the order of the code

References are looked up while code is generated, and only those are that the code spells: the
`Mention`s of a domain. Going through them in the order of the code, `FailsAtFirst` says how each
function of the generator ends: with the error of the first mention that stands for nothing, or
with a value if all stand for something (`Domain.unit?_failsAtFirst`). Which references the code
spells does not depend on this order (`Domain.Spells`).
-/

namespace Bindery

/-! ## Mentions -/

/-- A reference that the code of a declaration spells. -/
structure Mention where
  domain : String
  declaration : String
  reference : String

namespace Mention

/-- The failure of a mention. -/
def error (m : Mention) : Error := .unresolvedReference m.domain m.declaration m.reference

/-- The reference stands for nothing. -/
def Dangles (table : NameTable) (m : Mention) : Prop := table.resolve? m.domain m.reference = none

end Mention

/-- The reference that a shape is spelled with, if any, as a mention. -/
def Shape.mentions (domain declaration : String) (shape : Shape) : List Mention :=
  shape.reference?.toList.map (⟨domain, declaration, ·⟩)

/-- The mentions in the members of a record. -/
def Record.mentions (domain declaration : String) (properties : List Property) : List Mention :=
  properties.flatMap (·.shape.mentions domain declaration)

/-- The mention at a place where the code of a domain uses a type. -/
def TypeUse.mentions (domain : String) (use : TypeUse) : List Mention :=
  use.shape.mentions domain use.declaration

/-- The mentions of a domain, in the order of its code. -/
def Domain.mentions (d : Domain) : List Mention := d.uses.flatMap (·.mentions d.name)

theorem Record.mentions_eq (domain declaration : String) (properties : List Property) :
    mentions domain declaration properties =
      (properties.map (·.use declaration)).flatMap (·.mentions domain) := by
  rw [List.flatMap_map]
  rfl

/-- The mentions of a type: those in its members, or the one that it is an alias of. -/
def TypeDecl.mentions (domain : String) (t : TypeDecl) : List Mention :=
  match t.shape with
  | .composite properties => Record.mentions domain t.name properties
  | shape => shape.mentions domain t.name

/-- The mentions of a command: its parameters come before its returns. -/
def Command.mentions (domain : String) (c : Command) : List Mention :=
  Record.mentions domain c.name c.parameters ++ Record.mentions domain c.name c.returns

def Event.mentions (domain : String) (event : Event) : List Mention :=
  Record.mentions domain event.name event.parameters

theorem TypeDecl.mentions_eq (domain : String) (t : TypeDecl) :
    t.uses.flatMap (·.mentions domain) = t.mentions domain := by
  unfold uses mentions
  cases t.shape with
  | enumeration literals => rfl
  | composite properties => exact (Record.mentions_eq _ _ _).symm
  | primitive _ | array _ | reference _ => exact List.flatMap_singleton ..

theorem Command.mentions_eq (domain : String) (c : Command) :
    c.uses.flatMap (·.mentions domain) = c.mentions domain := by
  rw [uses, mentions, List.map_append, List.flatMap_append, Record.mentions_eq, Record.mentions_eq]

theorem Event.mentions_eq (domain : String) (event : Event) :
    event.uses.flatMap (·.mentions domain) = event.mentions domain :=
  (Record.mentions_eq _ _ _).symm

/-- Types come before commands, and commands before events. -/
theorem Domain.mentions_eq (d : Domain) :
    d.mentions = d.types.flatMap (·.mentions d.name) ++ d.commands.flatMap (·.mentions d.name) ++
      d.events.flatMap (·.mentions d.name) := by
  rw [mentions, uses, List.flatMap_append, List.flatMap_append, List.flatMap_assoc,
    List.flatMap_assoc, List.flatMap_assoc]
  simp only [TypeDecl.mentions_eq, Command.mentions_eq, Event.mentions_eq]

theorem Shape.mem_mentions {domain declaration : String} {shape : Shape} {m : Mention} :
    m ∈ shape.mentions domain declaration ↔
      m.domain = domain ∧ m.declaration = declaration ∧ shape.reference? = some m.reference := by
  obtain ⟨domain', declaration', reference⟩ := m
  simp only [mentions, List.mem_map, Option.mem_toList, Mention.mk.injEq]
  constructor
  · rintro ⟨reference', hreference, rfl, rfl, rfl⟩
    exact ⟨rfl, rfl, hreference⟩
  · rintro ⟨rfl, rfl, hreference⟩
    exact ⟨reference, hreference, rfl, rfl, rfl⟩

theorem Domain.domain_of_mention {d : Domain} {m : Mention} (h : m ∈ d.mentions) :
    m.domain = d.name := by
  obtain ⟨use, -, hm⟩ := List.mem_flatMap.mp h
  exact (Shape.mem_mentions.mp hm).1

/-! ## Failing at the first -/

variable {α β : Type} {p : Mention → Prop} {x : Except Error α}

/-- How a computation ends that comes across some mentions: it fails with the first bad one, or
gives a value if there is none. -/
inductive FailsAtFirst (p : Mention → Prop) : List Mention → Except Error α → Prop where
  | ok {mentions : List Mention} (h : ∀ m ∈ mentions, ¬ p m) (a : α) :
      FailsAtFirst p mentions (.ok a)
  | error {before after : List Mention} {m : Mention} (h : ∀ m' ∈ before, ¬ p m') (hm : p m) :
      FailsAtFirst p (before ++ m :: after) (.error m.error)

namespace FailsAtFirst

variable {ms ms' : List Mention}

/-- The bad ones are the mentions with the property, each with its own failure. -/
theorem stopsAtFirst (good : α → Prop) (h : FailsAtFirst p ms x)
    (hgood : ∀ a, x = .ok a → good a) :
    Except.StopsAtFirst (fun m e => p m ∧ e = m.error) good ms x := by
  cases h with
  | ok h a => exact .ok (fun m hm _ hbad => h m hm hbad.1) (hgood a rfl)
  | error h hm => exact .error (fun m' hm' _ hbad => h m' hm' hbad.1) ⟨hm, rfl⟩

theorem of_stopsAtFirst (good : α → Prop)
    (h : Except.StopsAtFirst (fun m e => p m ∧ e = m.error) good ms x) : FailsAtFirst p ms x := by
  cases h with
  | ok hnone => exact .ok (fun m hm hp => hnone m hm _ ⟨hp, rfl⟩) _
  | error hbefore hbad =>
    obtain ⟨hp, rfl⟩ := hbad
    exact .error (fun m' hm' hp' => hbefore m' hm' _ ⟨hp', rfl⟩) hp

theorem nil (a : α) : FailsAtFirst p [] (.ok a : Except Error α) :=
  .ok (fun _ hm => absurd hm List.not_mem_nil) a

theorem bind {f : α → Except Error β} (h : FailsAtFirst p ms x)
    (hf : ∀ a, x = .ok a → FailsAtFirst p ms' (f a)) : FailsAtFirst p (ms ++ ms') (x >>= f) := by
  have hx := h.stopsAtFirst (x = .ok ·) fun _ ha => ha
  have hnext (a : α) (ha : x = .ok a) := (hf a ha).stopsAtFirst (fun _ => True) fun _ _ => trivial
  exact of_stopsAtFirst (fun _ => True) (hx.bind hnext)

theorem map (h : FailsAtFirst p ms x) (f : α → β) : FailsAtFirst p ms (f <$> x) := by
  have hx := h.stopsAtFirst (fun _ => True) fun _ _ => trivial
  exact of_stopsAtFirst (fun _ => True) (hx.map fun _ _ => trivial)

/-- What comes behind a computation and always gives a value has nothing to do with mentions. -/
theorem bind_ok (h : FailsAtFirst p ms x) (f : α → β) :
    FailsAtFirst p ms (x >>= fun a => .ok (f a)) := by
  have hx := h.stopsAtFirst (fun _ => True) fun _ _ => trivial
  exact of_stopsAtFirst (fun _ => True) (hx.bind_ok fun _ _ => trivial)

theorem mapM {γ : Type} {f : γ → Except Error α} {xs : List γ} {mentions : γ → List Mention}
    (h : ∀ x ∈ xs, FailsAtFirst p (mentions x) (f x)) :
    FailsAtFirst p (xs.flatMap mentions) (xs.mapM f) := by
  have hxs : Except.StopsAtFirst (fun m e => p m ∧ e = m.error) (List.Forall₂ (fun _ _ => True) xs)
      (xs.flatMap mentions) (xs.mapM f) :=
    Except.StopsAtFirst.mapM fun x hx => (h x hx).stopsAtFirst _ fun _ _ => trivial
  exact of_stopsAtFirst _ hxs

/-- What it fails with is the failure of a bad mention. -/
theorem exists_of_error {e : Error} (h : FailsAtFirst p ms (.error e : Except Error α)) :
    ∃ m ∈ ms, p m ∧ e = m.error := by
  cases h with
  | error h hm => exact ⟨_, by simp, hm, rfl⟩

/-- It fails if one of the mentions is bad. -/
theorem isError_iff (h : FailsAtFirst p ms x) : (∃ m ∈ ms, p m) ↔ ∃ e, x = .error e := by
  cases h with
  | ok h a =>
    constructor
    · rintro ⟨m, hm, hp⟩
      exact absurd hp (h m hm)
    · rintro ⟨e, he⟩
      cases he
  | error h hm => exact ⟨fun _ => ⟨_, rfl⟩, fun _ => ⟨_, by simp, hm⟩⟩

end FailsAtFirst

/-! ## Generating code -/

variable {table : NameTable} {domain : String}

theorem CodeType.ofShape?_failsAtFirst (declaration : String) : ∀ shape : Shape,
    FailsAtFirst (Mention.Dangles table) (shape.mentions domain declaration)
      (ofShape? table domain declaration shape)
  | .primitive _ | .enumeration _ | .composite _ => .nil _
  | .array items => (ofShape?_failsAtFirst declaration items).map _
  | .reference target => by
    rw [ofShape?]
    have hmention : Shape.mentions domain declaration (.reference target) =
        [] ++ [⟨domain, declaration, target⟩] := rfl
    cases hresolve : table.resolve? domain target with
    | none =>
      rw [hmention]
      exact .error (by simp) hresolve
    | some found =>
      refine .ok (fun m hm => ?_) _
      obtain rfl : m = ⟨domain, declaration, target⟩ := List.mem_singleton.mp hm
      simp [Mention.Dangles, hresolve]

theorem Record.fieldsFrom?_failsAtFirst (declaration : String) (taken : List String)
    (properties : List Property) :
    FailsAtFirst (Mention.Dangles table) (mentions domain declaration properties)
      (fieldsFrom? table domain declaration taken properties) := by
  induction properties generalizing taken with
  | nil => exact .nil []
  | cons p rest ih =>
    have htype : FailsAtFirst (Mention.Dangles table) (p.shape.mentions domain declaration)
        (fieldType? table domain declaration p) :=
      (CodeType.ofShape?_failsAtFirst declaration p.shape).bind_ok _
    exact htype.bind fun type _ => (ih _).bind_ok _

theorem Record.ofProperties?_failsAtFirst (ident declaration : String)
    (properties : List Property) :
    FailsAtFirst (Mention.Dangles table) (mentions domain declaration properties)
      (ofProperties? table domain ident declaration properties) :=
  (fieldsFrom?_failsAtFirst declaration [] properties).bind_ok _

theorem TypeDecl.piece?_failsAtFirst (t : TypeDecl) :
    FailsAtFirst (Mention.Dangles table) (t.mentions domain) (t.piece? table domain) := by
  unfold piece? mentions
  simp only
  -- a record is gone through member by member; all else but an enumeration is an alias
  cases t.shape with
  | enumeration literals => exact .nil _
  | composite properties => exact (Record.ofProperties?_failsAtFirst _ _ _).bind_ok _
  | primitive _ | array _ | reference _ => exact (CodeType.ofShape?_failsAtFirst _ _).bind_ok _

theorem Command.record?_failsAtFirst (c : Command) (ident title : String)
    (properties : List Property) :
    FailsAtFirst (Mention.Dangles table) (Record.mentions domain c.name properties)
      (c.record? table domain ident title properties) := by
  unfold record?
  split
  · rename_i hempty
    rw [List.isEmpty_iff.mp hempty]
    exact .nil none
  · exact (Record.ofProperties?_failsAtFirst _ _ _).bind_ok _

theorem Command.piece?_failsAtFirst (c : Command) :
    FailsAtFirst (Mention.Dangles table) (c.mentions domain) (c.piece? table domain) := by
  have hshape : FailsAtFirst (Mention.Dangles table) (c.mentions domain) (c.shape? table domain) :=
    (c.record?_failsAtFirst _ _ _).bind fun params _ => (c.record?_failsAtFirst _ _ _).bind_ok _
  exact hshape.bind_ok _

theorem Event.piece?_failsAtFirst (event : Event) :
    FailsAtFirst (Mention.Dangles table) (event.mentions domain) (event.piece? table domain) :=
  (Record.ofProperties?_failsAtFirst _ _ _).bind_ok _

theorem Domain.pieces?_failsAtFirst (d : Domain) :
    FailsAtFirst (Mention.Dangles table) d.mentions (d.pieces? table) := by
  rw [mentions_eq, List.append_assoc]
  exact (FailsAtFirst.mapM fun t _ => t.piece?_failsAtFirst).bind fun types _ =>
    (FailsAtFirst.mapM fun c _ => c.piece?_failsAtFirst).bind fun commands _ =>
      (FailsAtFirst.mapM fun event _ => event.piece?_failsAtFirst).bind_ok _

/-- **A domain fails at its first dangling mention**, of those in the declarations that are
generated. -/
theorem Domain.unit?_failsAtFirst (s : Selection) (d : Domain) :
    FailsAtFirst (Mention.Dangles table) (d.included s).mentions (d.unit? table s) := by
  rw [unit?_eq_assembled?]
  exact (d.included s).pieces?_failsAtFirst.bind_ok _

/-! ## The references of a domain -/

/-- The shape is a reference, or an array of arrays of it. -/
inductive Shape.Spells (reference : String) : Shape → Prop where
  | here : Spells reference (.reference reference)
  | items {items : Shape} (h : Spells reference items) : Spells reference (.array items)

theorem Shape.Spells.reference?_eq {reference : String} {shape : Shape}
    (h : shape.Spells reference) : shape.reference? = some reference := by
  induction h with
  | here => rfl
  | items _ ih => exact ih

theorem Shape.spells_of_reference? {reference : String} : ∀ {shape : Shape},
    shape.reference? = some reference → shape.Spells reference
  | .array _, h => .items (spells_of_reference? h)
  | .reference _, h => by
    obtain rfl := Option.some.inj h
    exact .here

theorem Shape.reference?_eq_some_iff {reference : String} {shape : Shape} :
    shape.reference? = some reference ↔ shape.Spells reference :=
  ⟨spells_of_reference?, Spells.reference?_eq⟩

/-- A declaration of the domain spells a reference. -/
inductive Domain.Spells (d : Domain) (reference : String) : String → Prop where
  | aliased {t : TypeDecl} (ht : t ∈ d.types) (h : t.shape.Spells reference) :
      Spells d reference t.name
  | property {t : TypeDecl} {properties : List Property} {p : Property} (ht : t ∈ d.types)
      (hshape : t.shape = .composite properties) (hp : p ∈ properties)
      (h : p.shape.Spells reference) : Spells d reference t.name
  | parameter {c : Command} {p : Property} (hc : c ∈ d.commands) (hp : p ∈ c.parameters)
      (h : p.shape.Spells reference) : Spells d reference c.name
  | returned {c : Command} {p : Property} (hc : c ∈ d.commands) (hp : p ∈ c.returns)
      (h : p.shape.Spells reference) : Spells d reference c.name
  | field {event : Event} {p : Property} (he : event ∈ d.events) (hp : p ∈ event.parameters)
      (h : p.shape.Spells reference) : Spells d reference event.name

theorem Record.mem_mentions {declaration : String} {properties : List Property} {m : Mention} :
    m ∈ mentions domain declaration properties ↔
      m.domain = domain ∧ m.declaration = declaration ∧
        ∃ p ∈ properties, p.shape.Spells m.reference := by
  simp only [mentions, List.mem_flatMap, Shape.mem_mentions, Shape.reference?_eq_some_iff]
  constructor
  · rintro ⟨p, hp, hdomain, hdeclaration, h⟩
    exact ⟨hdomain, hdeclaration, p, hp, h⟩
  · rintro ⟨hdomain, hdeclaration, p, hp, h⟩
    exact ⟨p, hp, hdomain, hdeclaration, h⟩

theorem TypeDecl.mem_mentions {t : TypeDecl} {m : Mention} :
    m ∈ t.mentions domain ↔ m.domain = domain ∧ m.declaration = t.name ∧
      (t.shape.Spells m.reference ∨
        ∃ properties, t.shape = .composite properties ∧
          ∃ p ∈ properties, p.shape.Spells m.reference) := by
  unfold mentions
  cases t.shape with
  | composite properties =>
    simp only
    rw [Record.mem_mentions]
    refine and_congr_right fun _ => and_congr_right fun _ => ⟨fun h => .inr ⟨_, rfl, h⟩, ?_⟩
    rintro (h | ⟨_, hshape, h⟩)
    · cases h
    · cases hshape
      exact h
  | primitive _ | array _ | reference _ | enumeration _ =>
    simp only
    rw [Shape.mem_mentions, Shape.reference?_eq_some_iff]
    refine and_congr_right fun _ => and_congr_right fun _ => ⟨.inl, ?_⟩
    rintro (h | ⟨_, hshape, -⟩)
    · exact h
    · cases hshape

/-- **The mentions of a domain are the references that its declarations spell.** -/
theorem Domain.mem_mentions {d : Domain} {m : Mention} :
    m ∈ d.mentions ↔ m.domain = d.name ∧ d.Spells m.reference m.declaration := by
  rw [mentions_eq, List.mem_append, List.mem_append, List.mem_flatMap, List.mem_flatMap,
    List.mem_flatMap]
  constructor
  · rintro ((⟨t, ht, hm⟩ | ⟨c, hc, hm⟩) | ⟨event, hevent, hm⟩)
    · obtain ⟨hdomain, hdeclaration, h⟩ := TypeDecl.mem_mentions.mp hm
      rw [hdeclaration]
      rcases h with h | ⟨properties, hshape, p, hp, h⟩
      · exact ⟨hdomain, .aliased ht h⟩
      · exact ⟨hdomain, .property ht hshape hp h⟩
    · rcases List.mem_append.mp hm with hm | hm
      · obtain ⟨hdomain, hdeclaration, p, hp, h⟩ := Record.mem_mentions.mp hm
        rw [hdeclaration]
        exact ⟨hdomain, .parameter hc hp h⟩
      · obtain ⟨hdomain, hdeclaration, p, hp, h⟩ := Record.mem_mentions.mp hm
        rw [hdeclaration]
        exact ⟨hdomain, .returned hc hp h⟩
    · obtain ⟨hdomain, hdeclaration, p, hp, h⟩ := Record.mem_mentions.mp hm
      rw [hdeclaration]
      exact ⟨hdomain, .field hevent hp h⟩
  · obtain ⟨domain, declaration, reference⟩ := m
    rintro ⟨rfl, h⟩
    cases h with
    | aliased ht h => exact .inl (.inl ⟨_, ht, TypeDecl.mem_mentions.mpr ⟨rfl, rfl, .inl h⟩⟩)
    | property ht hshape hp h =>
      exact .inl (.inl ⟨_, ht, TypeDecl.mem_mentions.mpr ⟨rfl, rfl, .inr ⟨_, hshape, _, hp, h⟩⟩⟩)
    | parameter hc hp h =>
      have hm := Record.mem_mentions.mpr ⟨rfl, rfl, _, hp, h⟩
      exact .inl (.inr ⟨_, hc, List.mem_append_left _ hm⟩)
    | returned hc hp h =>
      have hm := Record.mem_mentions.mpr ⟨rfl, rfl, _, hp, h⟩
      exact .inl (.inr ⟨_, hc, List.mem_append_right _ hm⟩)
    | field he hp h => exact .inr ⟨_, he, Record.mem_mentions.mpr ⟨rfl, rfl, _, hp, h⟩⟩

/-- **Which reference error is reported.** A domain fails if and only if one of the declarations
that are generated spells a reference that stands for nothing in the domain. The references that
are spelled are the mentions, in this order: those of the types, those of the commands, the
parameters of each before its returns, and those of the events. The error is that of the first
mention that stands for nothing. -/
theorem Domain.first_dangling_reference (table : NameTable) (s : Selection) (d : Domain) :
    ((∃ e, d.unit? table s = .error e) ↔
      ∃ declaration reference, (d.included s).Spells reference declaration ∧
        table.resolve? d.name reference = none) ∧
    (∀ m, m ∈ (d.included s).mentions ↔
      m.domain = d.name ∧ (d.included s).Spells m.reference m.declaration) ∧
    (d.included s).mentions =
      (d.included s).types.flatMap (·.mentions d.name) ++
        (d.included s).commands.flatMap (·.mentions d.name) ++
        (d.included s).events.flatMap (·.mentions d.name) ∧
    ∀ e, d.unit? table s = .error e → ∃ before m after,
      (d.included s).mentions = before ++ m :: after ∧
      (∀ m' ∈ before, table.resolve? d.name m'.reference ≠ none) ∧
      table.resolve? d.name m.reference = none ∧
      e = .unresolvedReference d.name m.declaration m.reference := by
  have hfails : FailsAtFirst (Mention.Dangles table) (d.included s).mentions (d.unit? table s) :=
    d.unit?_failsAtFirst s
  have hmem (m : Mention) := Domain.mem_mentions (d := d.included s) (m := m)
  refine ⟨hfails.isError_iff.symm.trans ?_, hmem, (d.included s).mentions_eq, fun e he => ?_⟩
  · constructor
    · rintro ⟨m, hm, hdangles⟩
      obtain ⟨hdomain, hspells⟩ := (hmem m).mp hm
      rw [Mention.Dangles, hdomain] at hdangles
      exact ⟨m.declaration, m.reference, hspells, hdangles⟩
    · rintro ⟨declaration, reference, hspells, hdangles⟩
      exact ⟨⟨d.name, declaration, reference⟩, (hmem _).mpr ⟨rfl, hspells⟩, hdangles⟩
  · have hdomain (m : Mention) (hm : m ∈ (d.included s).mentions) : m.domain = d.name :=
      ((hmem m).mp hm).1
    generalize (d.included s).mentions = mentions at hfails hdomain ⊢
    rw [he] at hfails
    cases hfails with
    | @error before after m hbefore hm =>
      have hname := hdomain m (by simp)
      refine ⟨before, m, after, rfl, fun m' hm' => ?_, ?_, ?_⟩
      · rw [← hdomain m' (List.mem_append_left _ hm')]
        exact hbefore m' hm'
      · rwa [Mention.Dangles, hname] at hm
      · rw [Mention.error, hname]

/-- The alias is left out, and the error is about the command. -/
example :
    let old : TypeDecl := ⟨"Old", none, true, .reference "Gone"⟩
    let frames : Property := ⟨"frames", none, false, false, .array (.reference "Missing")⟩
    let page : Domain := ⟨"Page", none, false, [old], [⟨"load", none, false, [], [frames]⟩], []⟩
    page.unit? (NameTable.build [page]) ⟨false⟩ =
      .error (.unresolvedReference "Page" "load" "Missing") :=
  rfl

end Bindery
