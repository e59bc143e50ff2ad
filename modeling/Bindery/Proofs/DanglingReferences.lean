import Bindery.Proofs.Progress

/-!
# Dangling references

A run looks up the references that its code spells, and fails on the first that stands for nothing.
A reference in a member of an inline object is not among them, since the code spells all such
objects as maps from strings to strings. So a dangling reference that only stands in inline objects
goes unnoticed: `Compiler.dangling_reference_fails_iff`.
-/

namespace Bindery

/-! ## References in shapes -/

/-- A reference stands somewhere in a shape, at any depth. -/
inductive Shape.HasReference (reference : String) : Shape → Prop where
  | here : HasReference reference (.reference reference)
  | items {items : Shape} (h : HasReference reference items) : HasReference reference (.array items)
  | member {properties : List Property} {p : Property} (hp : p ∈ properties)
      (h : HasReference reference p.shape) : HasReference reference (.composite properties)

/-- The members of the inline object that stands behind the array layers of a shape, if one does. -/
def Shape.members : Shape → List Property
  | .composite properties => properties
  | .array items => items.members
  | _ => []

/-- A reference in a shape is what stands behind the array layers, or it stands in a member of the
inline object there. -/
theorem Shape.hasReference_iff {reference : String} : ∀ {shape : Shape},
    shape.HasReference reference ↔
      shape.reference? = some reference ∨ ∃ p ∈ shape.members, p.shape.HasReference reference
  | .primitive kind => by
    constructor
    · rintro ⟨⟩
    · simp [reference?, members]
  | .enumeration literals => by
    constructor
    · rintro ⟨⟩
    · simp [reference?, members]
  | .reference target => by
    constructor
    · rintro ⟨⟩
      exact .inl rfl
    · rintro (heq | ⟨p, hp, -⟩)
      · obtain rfl : target = reference := Option.some.inj heq
        exact .here
      · exact absurd hp List.not_mem_nil
  | .composite properties => by
    constructor
    · intro hmember
      cases hmember with
      | member hp h => exact .inr ⟨_, hp, h⟩
    · rintro (heq | ⟨p, hp, h⟩)
      · cases heq
      · exact .member hp h
  | .array items => by
    rw [reference?, members, ← hasReference_iff]
    constructor
    · rintro ⟨⟩
      assumption
    · exact .items

/-- The type expressions that a domain is declared with. -/
def Domain.typeExpressions (d : Domain) : List Shape :=
  d.types.map (·.shape) ++
    d.commands.flatMap (fun c => (c.parameters ++ c.returns).map (·.shape)) ++
      d.events.flatMap fun e => e.parameters.map (·.shape)

/-- A reference stands somewhere in the declarations of a domain. -/
def Domain.HasReference (d : Domain) (reference : String) : Prop :=
  ∃ shape ∈ d.typeExpressions, shape.HasReference reference

/-- A reference stands in a member of an inline object that the code of a domain has a type for. -/
def Domain.HidesReference (d : Domain) (reference : String) : Prop :=
  ∃ use ∈ d.uses, ∃ p ∈ use.shape.members, p.shape.HasReference reference

/-! ## Where references stand -/

/-- The code of a domain spells a reference. -/
def Domain.Mentions (d : Domain) (reference : String) : Prop :=
  ∃ m ∈ d.mentions, m.reference = reference

/-- A domain mentions the references that its uses are spelled with. -/
theorem Domain.mentions_iff {d : Domain} {reference : String} :
    d.Mentions reference ↔ ∃ use ∈ d.uses, use.shape.reference? = some reference := by
  simp only [Mentions, mentions, List.mem_flatMap, TypeUse.mentions, Shape.mem_mentions]
  constructor
  · rintro ⟨m, ⟨use, huse, -, -, hreference⟩, rfl⟩
    exact ⟨use, huse, hreference⟩
  · rintro ⟨use, huse, hreference⟩
    exact ⟨⟨d.name, use.declaration, reference⟩, ⟨use, huse, rfl, rfl, hreference⟩, rfl⟩

/-- The references in the shape of a type are those in the shapes that its code uses. -/
theorem TypeDecl.hasReference_iff {t : TypeDecl} {reference : String} :
    t.shape.HasReference reference ↔ ∃ use ∈ t.uses, use.shape.HasReference reference := by
  -- an enumeration has no references, and a record those of its members
  unfold uses
  split
  · rename_i literals hshape
    rw [hshape, Shape.hasReference_iff]
    simp [Shape.reference?, Shape.members]
  · rename_i properties hshape
    rw [hshape, Shape.hasReference_iff]
    simp [Shape.reference?, Shape.members, Property.use]
  · simp

/-- The shapes of members, and the uses that they are spelled in. -/
theorem Property.exists_use_iff {properties : List Property} {declaration : String}
    {p : Shape → Prop} :
    (∃ shape ∈ properties.map (·.shape), p shape) ↔
      ∃ use ∈ properties.map (·.use declaration), p use.shape := by
  simp [use]

theorem exists_mem_flatMap_iff {α β γ : Type} {xs : List α} {f : α → List β} {g : α → List γ}
    {p : β → Prop} {q : γ → Prop} (h : ∀ x, (∃ y ∈ f x, p y) ↔ ∃ z ∈ g x, q z) :
    (∃ y ∈ xs.flatMap f, p y) ↔ ∃ z ∈ xs.flatMap g, q z := by
  simp only [List.mem_flatMap]
  constructor
  · rintro ⟨y, ⟨x, hx, hy⟩, hp⟩
    obtain ⟨z, hz, hq⟩ := (h x).mp ⟨y, hy, hp⟩
    exact ⟨z, ⟨x, hx, hz⟩, hq⟩
  · rintro ⟨z, ⟨x, hx, hz⟩, hq⟩
    obtain ⟨y, hy, hp⟩ := (h x).mpr ⟨z, hz, hq⟩
    exact ⟨y, ⟨x, hx, hy⟩, hp⟩

theorem Domain.hasReference_iff_uses {d : Domain} {reference : String} :
    d.HasReference reference ↔ ∃ use ∈ d.uses, use.shape.HasReference reference := by
  have htypes (t : TypeDecl) : (∃ shape ∈ [t.shape], shape.HasReference reference) ↔
      ∃ use ∈ t.uses, use.shape.HasReference reference := by
    rw [← TypeDecl.hasReference_iff]
    simp
  unfold HasReference typeExpressions uses
  rw [List.map_eq_flatMap]
  simp only [List.mem_append, or_and_right, exists_or]
  -- types, commands and events are gone through alike
  refine or_congr (or_congr ?_ ?_) ?_
  · exact exists_mem_flatMap_iff htypes
  · exact exists_mem_flatMap_iff fun c => Property.exists_use_iff
  · exact exists_mem_flatMap_iff fun e => Property.exists_use_iff

/-- **Where the references of a domain stand**: in its code, or in members of inline objects. -/
theorem Domain.hasReference_iff {d : Domain} {reference : String} :
    d.HasReference reference ↔ d.Mentions reference ∨ d.HidesReference reference := by
  have huse (use : TypeUse) : use.shape.HasReference reference ↔
      use.shape.reference? = some reference ∨
        ∃ p ∈ use.shape.members, p.shape.HasReference reference :=
    Shape.hasReference_iff
  rw [hasReference_iff_uses, mentions_iff]
  simp only [huse, and_or_left, exists_or]
  rfl

/-! ## Whole runs -/

/-- A reference made in a domain speaks of a type that no domain declares. -/
def Dangling (domains : List Domain) (domain reference : String) : Prop :=
  ∀ owner name, RefersTo domain reference owner name → ¬ Declares domains owner name

/-- A mention dangles if its reference speaks of nothing that is declared. -/
theorem Mention.dangles_build_iff {domains : List Domain} {m : Mention} :
    m.Dangles (NameTable.build domains) ↔ Dangling domains m.domain m.reference := by
  unfold Dangles Dangling
  rw [Option.eq_none_iff_forall_ne_some]
  constructor
  · intro h owner name hrefers hdeclares
    exact h (owner, name) (NameTable.resolve?_build_iff.mpr ⟨hrefers, hdeclares⟩)
  · rintro h ⟨owner, name⟩ hresolve
    obtain ⟨hrefers, hdeclares⟩ := NameTable.resolve?_build_iff.mp hresolve
    exact h owner name hrefers hdeclares

namespace Compiler

variable {compiler : Compiler}

/-- The mentions of the code of a schema, in order. -/
def mentions (compiler : Compiler) (schema : Schema) : List Mention :=
  (compiler.includedDomains schema).flatMap fun d => (d.included compiler.selection).mentions

theorem units?_failsAtFirst (compiler : Compiler) (schema : Schema) :
    FailsAtFirst (Mention.Dangles (NameTable.build schema.domains)) (compiler.mentions schema)
      (compiler.units? schema) :=
  FailsAtFirst.mapM fun d _ => d.unit?_failsAtFirst _

/-- With experimental declarations, all domains are generated, each as a whole. -/
theorem mentions_all (hall : compiler.options.includeExperimental = true) (schema : Schema) :
    compiler.mentions schema = schema.domains.flatMap Domain.mentions := by
  have hselection : compiler.selection = ⟨true⟩ := congrArg Selection.mk hall
  have hincluded : compiler.includedDomains schema = schema.domains := by
    simp [includedDomains, hselection, Selection.includes]
  simp only [mentions, hincluded, hselection, Domain.included_all]

end Compiler

/-- Some dangling reference stands in a domain in the given way. -/
def Schema.Dangles (schema : Schema) (stands : Domain → String → Prop) : Prop :=
  ∃ d ∈ schema.domains, ∃ reference,
    stands d reference ∧ Dangling schema.domains d.name reference

theorem Schema.dangles_mentions_iff {schema : Schema} :
    schema.Dangles Domain.Mentions ↔
      ∃ m ∈ schema.domains.flatMap Domain.mentions,
        Dangling schema.domains m.domain m.reference := by
  constructor
  · rintro ⟨d, hd, reference, ⟨m, hm, rfl⟩, hdangling⟩
    refine ⟨m, List.mem_flatMap.mpr ⟨d, hd, hm⟩, ?_⟩
    rwa [Domain.domain_of_mention hm]
  · rintro ⟨m, hm, hdangling⟩
    obtain ⟨d, hd, hm⟩ := List.mem_flatMap.mp hm
    rw [Domain.domain_of_mention hm] at hdangling
    exact ⟨d, hd, m.reference, ⟨m, hm, rfl⟩, hdangling⟩

theorem Schema.dangles_hasReference_iff {schema : Schema} :
    schema.Dangles Domain.HasReference ↔
      schema.Dangles Domain.Mentions ∨ schema.Dangles Domain.HidesReference := by
  simp only [Dangles, Domain.hasReference_iff, or_and_right, and_or_left, exists_or]

namespace Compiler

variable {compiler : Compiler} {schema : Schema} {tree : FileTree}

/-- A run has failed on a reference that stands for nothing. -/
def FailsOnReference (result : Except Error VersionReport) : Prop :=
  ∃ domain declaration reference,
    result = .error (.unresolvedReference domain declaration reference)

/-- With experimental declarations a run that can write ends as its domains do. -/
theorem compile_failsAtFirst (hformatter : compiler.formatter = none)
    (hall : compiler.options.includeExperimental = true) (hwrites : compiler.Writes schema tree) :
    FailsAtFirst (fun m => Dangling schema.domains m.domain m.reference)
      (schema.domains.flatMap Domain.mentions) (compiler.compile tree schema).1 := by
  have hunits := units?_failsAtFirst compiler schema
  have hdangles : Mention.Dangles (NameTable.build schema.domains) =
      fun m => Dangling schema.domains m.domain m.reference :=
    funext fun m => propext Mention.dangles_build_iff
  rw [mentions_all hall, hdangles] at hunits
  rw [(compile_of_writes hformatter hwrites).1]
  exact hunits.map _

/-- A run that goes through the mentions fails on a reference if one of them dangles. -/
theorem failsOnReference_iff {result : Except Error VersionReport} {p : Mention → Prop}
    {ms : List Mention} (h : FailsAtFirst p ms result) :
    FailsOnReference result ↔ ∃ m ∈ ms, p m := by
  -- there is no other way to fail than with the failure of a mention
  rw [h.isError_iff]
  cases h with
  | ok h report =>
    constructor
    · rintro ⟨domain, declaration, reference, heq⟩
      cases heq
    · rintro ⟨e, heq⟩
      cases heq
  | error h hm => exact ⟨fun _ => ⟨_, rfl⟩, fun _ => ⟨_, _, _, rfl⟩⟩

/-- **What becomes of dangling references.** Without a formatter and with experimental declarations,
a run that can write fails with the first mention that dangles, and succeeds if none does. So
dangling references never compile exactly if a schema that hides one in an inline object also
mentions one. -/
theorem dangling_reference_fails_iff (hformatter : compiler.formatter = none)
    (hall : compiler.options.includeExperimental = true) (hwrites : compiler.Writes schema tree) :
    FailsAtFirst (fun m => Dangling schema.domains m.domain m.reference)
        (schema.domains.flatMap Domain.mentions) (compiler.compile tree schema).1 ∧
      ((schema.Dangles Domain.HasReference → FailsOnReference (compiler.compile tree schema).1) ↔
        (schema.Dangles Domain.HidesReference → schema.Dangles Domain.Mentions)) := by
  have hfails := compile_failsAtFirst hformatter hall hwrites
  refine ⟨hfails, ?_⟩
  rw [failsOnReference_iff hfails, ← Schema.dangles_mentions_iff, Schema.dangles_hasReference_iff,
    or_imp, and_iff_right id]

/-- A schema of one domain with one type. -/
def schemaOfShape (shape : Shape) : Schema :=
  ⟨⟨"1", "3"⟩, [⟨"DOM", none, false, [⟨"Node", none, false, shape⟩], [], []⟩]⟩

/-- A property that refers to a type which nothing declares. -/
def strayProperty : Property := ⟨"owner", none, false, false, .reference "Missing"⟩

/-- The reference on which a run has failed. -/
def strayIn : Except Error VersionReport → Option String
  | .error (.unresolvedReference _ _ reference) => some reference
  | _ => none

theorem dangling_strayProperty (shape : Shape) :
    Dangling (schemaOfShape shape).domains "DOM" "Missing" := by
  have hdot : '.' ∉ "Missing".toList := by decide
  rintro owner name hrefers ⟨d, hd, -, t, ht, rfl⟩
  obtain ⟨-, hname⟩ := Prod.mk.inj
    (hrefers.splitReference_eq.symm.trans (RefersTo.unqualified hdot).splitReference_eq)
  obtain rfl := List.mem_singleton.mp hd
  obtain rfl := List.mem_singleton.mp ht
  exact absurd (show "Node" = "Missing" from hname) (by decide)

theorem dangling_reference_fails_of_record :
    let schema := schemaOfShape (.composite [strayProperty])
    plain.formatter = none ∧ plain.options.includeExperimental = true ∧
      plain.Writes schema emptyTree ∧ schema.Dangles Domain.HasReference ∧
        FailsOnReference (plain.compile emptyTree schema).1 := by
  intro schema
  have hresult : strayIn (plain.compile emptyTree schema).1 = some "Missing" := by decide +kernel
  have hwrites : plain.Writes schema emptyTree := by
    intro path cause hfailed
    rw [hfailed] at hresult
    cases hresult
  have hdangles : schema.Dangles Domain.HasReference := by
    refine ⟨_, List.mem_singleton.mpr rfl, "Missing", ?_, dangling_strayProperty _⟩
    exact ⟨_, List.mem_singleton.mpr rfl, .member (List.mem_singleton.mpr rfl) .here⟩
  refine ⟨rfl, rfl, hwrites, hdangles, ?_⟩
  refine (dangling_reference_fails_iff rfl rfl hwrites).2.mpr (fun _ => ?_) hdangles
  refine ⟨_, List.mem_singleton.mpr rfl, "Missing", ?_, dangling_strayProperty _⟩
  exact ⟨⟨"DOM", "Node", "Missing"⟩, List.mem_singleton.mpr rfl, rfl⟩

/-- A dangling reference can compile: in a member of an inline object it is not looked up. -/
theorem not_forall_failsOnReference :
    ¬ ∀ (compiler : Compiler) (schema : Schema) (tree : FileTree), compiler.formatter = none →
      compiler.options.includeExperimental = true → compiler.Writes schema tree →
        schema.Dangles Domain.HasReference →
          FailsOnReference (compiler.compile tree schema).1 := by
  intro h
  -- the code has a field for the inline object, but not for its member
  let shape : Shape := .composite [⟨"frame", none, false, false, .composite [strayProperty]⟩]
  have hok : (plain.compile emptyTree (schemaOfShape shape)).1.isOk = true := by decide +kernel
  obtain ⟨report, tree', hcompile⟩ := exists_eq_ok_of_isOk hok
  have hdangles : (schemaOfShape shape).Dangles Domain.HasReference := by
    refine ⟨_, List.mem_singleton.mpr rfl, "Missing", ?_, dangling_strayProperty _⟩
    exact ⟨_, List.mem_singleton.mpr rfl,
      .member (List.mem_singleton.mpr rfl) (.member (List.mem_singleton.mpr rfl) .here)⟩
  obtain ⟨domain, declaration, reference, hfails⟩ :=
    h plain _ emptyTree rfl rfl (writes_of_compile hcompile) hdangles
  rw [hcompile] at hfails
  cases hfails

end Compiler

end Bindery
