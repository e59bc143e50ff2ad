import Bindery.Binding.CodeType
import Bindery.Proofs.Identifiers
import Mathlib.Data.List.TakeWhile

/-!
# What a reference stands for

`RefersTo` says what a reference is meant to speak of, without saying how it is cut in two, and
`Declares` what the domains of a schema declare. The table resolves a reference to what it refers to
if that is declared (`NameTable.resolve?_build_iff`), and the type of a shape carries the identifier
of what the reference in it resolves to, however deep it stands (`CodeType.ident?_ofShape?`).
-/

namespace Bindery

/-- What a reference made in a domain speaks of: a type of the domain that is written before its
first dot, or, without a dot, a type of the domain where it is made. -/
inductive RefersTo (domain : String) : (reference owner name : String) → Prop where
  | qualified {owner name : String} (hdot : '.' ∉ owner.toList) :
      RefersTo domain (owner ++ "." ++ name) owner name
  | unqualified {name : String} (hdot : '.' ∉ name.toList) : RefersTo domain name domain name

/-- One of the domains has this name and declares a type of that name. -/
def Declares (domains : List Domain) (owner name : String) : Prop :=
  ∃ d ∈ domains, d.name = owner ∧ ∃ t ∈ d.types, t.name = name

/-- Every reference speaks of something. -/
theorem RefersTo.exists (domain reference : String) :
    ∃ owner name, RefersTo domain reference owner name := by
  by_cases hdot : '.' ∈ reference.toList
  · obtain ⟨owner, name, hsplit, hfirst⟩ := List.eq_append_cons_of_mem hdot
    have hreference : reference = String.ofList owner ++ "." ++ String.ofList name := by
      rw [← String.toList_inj, hsplit]
      simp
    rw [hreference]
    exact ⟨_, _, .qualified (by simpa using hfirst)⟩
  · exact ⟨domain, reference, .unqualified hdot⟩

/-- Cutting a reference at its first dot finds what it speaks of. -/
theorem RefersTo.splitReference_eq {domain reference owner name : String}
    (h : RefersTo domain reference owner name) :
    splitReference domain reference = (owner, name) := by
  cases h with
  | qualified hdot =>
    have hcut : ∀ c ∈ owner.toList, (c != '.') = true := by
      intro c hc
      simp only [bne_iff_ne, ne_eq]
      rintro rfl
      exact hdot hc
    unfold splitReference
    simp [String.toList_append, List.dropWhile_append_of_pos hcut,
      List.takeWhile_append_of_pos hcut]
  | unqualified hdot =>
    have hnone : reference.toList.dropWhile (· != '.') = [] := by
      rw [List.dropWhile_eq_nil_iff]
      intro c hc
      simp only [bne_iff_ne, ne_eq]
      rintro rfl
      exact hdot hc
    unfold splitReference
    simp only [hnone]

theorem splitReference_eq_iff {domain reference owner name : String} :
    splitReference domain reference = (owner, name) ↔ RefersTo domain reference owner name := by
  constructor
  · intro heq
    obtain ⟨owner', name', h⟩ := RefersTo.exists domain reference
    obtain ⟨rfl, rfl⟩ := Prod.mk.inj (h.splitReference_eq.symm.trans heq)
    exact h
  · exact RefersTo.splitReference_eq

namespace NameTable

theorem isDeclared_build_iff {domains : List Domain} {owner name : String} :
    (build domains).isDeclared owner name = true ↔ Declares domains owner name := by
  rw [isDeclared_iff, mem_declared_build]
  constructor
  · rintro ⟨d, hd, t, ht, heq⟩
    obtain ⟨hname, hdecl⟩ := Prod.mk.inj heq
    exact ⟨d, hd, hname, t, ht, hdecl⟩
  · rintro ⟨d, hd, rfl, t, ht, rfl⟩
    exact ⟨d, hd, t, ht, rfl⟩

/-- A reference resolves to what it speaks of, if that is declared. -/
theorem resolve?_build_iff {domains : List Domain} {domain reference owner name : String} :
    (build domains).resolve? domain reference = some (owner, name) ↔
      RefersTo domain reference owner name ∧ Declares domains owner name := by
  unfold resolve?
  simp only
  constructor
  · intro h
    split at h
    · rename_i hdeclared
      have hsplit := Option.some.inj h
      rw [hsplit] at hdeclared
      exact ⟨splitReference_eq_iff.mp hsplit, isDeclared_build_iff.mp hdeclared⟩
    · exact absurd h (by simp)
  · rintro ⟨hrefers, hdeclares⟩
    rw [hrefers.splitReference_eq, if_pos (isDeclared_build_iff.mpr hdeclares)]

end NameTable

/-! ## The identifier in a type -/

/-- The reference that a shape is made of, if any; only arrays stand around it. -/
def Shape.reference? : Shape → Option String
  | .reference target => some target
  | .array items => items.reference?
  | _ => none

namespace CodeType

/-- The identifier that a type is made of, if any. -/
def ident? : CodeType → Option String
  | .named ident => some ident
  | .boxed ident => some ident
  | .vector items => items.ident?
  | .option content => content.ident?
  | _ => none

/-- A reference has a type if it resolves: the identifier of the target, boxed unless types of its
name are held by value. -/
theorem ofShape?_reference_eq_ok_iff {table : NameTable} {domain declaration reference : String}
    {type : CodeType} :
    ofShape? table domain declaration (.reference reference) = .ok type ↔
      ∃ owner name, table.resolve? domain reference = some (owner, name) ∧
        type = if table.isValue name then .named (table.ident owner name)
          else .boxed (table.ident owner name) := by
  rw [ofShape?]
  constructor
  · intro h
    split at h
    · rename_i owner name hresolve
      exact ⟨owner, name, hresolve, (Except.ok.inj h).symm⟩
    · cases h
  · rintro ⟨owner, name, hresolve, rfl⟩
    rw [hresolve]

theorem ident?_ofPrimitive (kind : Primitive) : (ofPrimitive kind).ident? = none := by
  cases kind <;> rfl

/-- **A type is spelled with the identifier that its reference resolves to**, and with none if its
shape has no reference. -/
theorem ident?_ofShape? {table : NameTable} {domain declaration : String} :
    ∀ {shape : Shape} {type : CodeType}, ofShape? table domain declaration shape = .ok type →
      (shape.reference? = none ∧ type.ident? = none) ∨
        ∃ reference owner name, shape.reference? = some reference ∧
          table.resolve? domain reference = some (owner, name) ∧
          type.ident? = some (table.ident owner name)
  | .primitive kind, type, h => by
    rw [ofShape?] at h
    obtain rfl := Except.ok.inj h
    exact .inl ⟨rfl, ident?_ofPrimitive kind⟩
  | .enumeration literals, type, h => by
    rw [ofShape?] at h
    obtain rfl := Except.ok.inj h
    exact .inl ⟨rfl, rfl⟩
  | .composite properties, type, h => by
    rw [ofShape?] at h
    obtain rfl := Except.ok.inj h
    exact .inl ⟨rfl, rfl⟩
  | .array items, type, h => by
    rw [ofShape?] at h
    cases hitems : ofShape? table domain declaration items with
    | error e => rw [hitems] at h; cases h
    | ok content =>
      rw [hitems] at h
      obtain rfl := Except.ok.inj h
      rw [ident?, Shape.reference?]
      exact ident?_ofShape? hitems
  | .reference target, type, h => by
    obtain ⟨owner, name, hresolve, rfl⟩ := ofShape?_reference_eq_ok_iff.mp h
    refine .inr ⟨target, owner, name, rfl, hresolve, ?_⟩
    split <;> rfl

end CodeType

end Bindery
