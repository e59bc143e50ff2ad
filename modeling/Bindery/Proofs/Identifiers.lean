import Bindery.NameTable
import Mathlib.Data.List.Nodup

/-!
# When two types share an identifier

All items of a schema live in one namespace, and a spelling that is declared twice carries its
domain in front. That keeps apart two types of one spelling (`NamesApart.eq_of_same_parts`), but
not every two types: nothing marks where the domain ends and the spelling begins. The identifiers
of two types are equal exactly when a text stands at the end of the qualifier of one and at the
start of the spelling of the other (`ident_eq_iff_shift`).
-/

namespace Bindery

/-- What a schema has to keep apart: the names of its domains, and within each domain the exported
spellings of its types. -/
structure NamesApart (domains : List Domain) : Prop where
  domain_names : (domains.map (·.name)).Nodup
  type_spellings : ∀ d ∈ domains, (d.types.map fun t => Naming.typeIdent t.name).Nodup

namespace NameTable

/-- What stands in front of the exported spelling in an identifier. -/
def qualifier (table : NameTable) (domain name : String) : String :=
  if table.needsQualification name then domain else ""

theorem ident_eq_qualifier_append (table : NameTable) (domain name : String) :
    table.ident domain name = table.qualifier domain name ++ Naming.typeIdent name := by
  unfold ident qualifier
  split
  · rfl
  · rw [String.empty_append]

/-- Declarations of one spelling are qualified together or not at all. -/
theorem needsQualification_congr (table : NameTable) {m n : String}
    (h : Naming.typeIdent m = Naming.typeIdent n) :
    table.needsQualification m = table.needsQualification n := by
  unfold needsQualification occurrences
  rw [h]

theorem isDeclared_iff (table : NameTable) (domain name : String) :
    table.isDeclared domain name = true ↔ (domain, name) ∈ table.declared := by
  unfold isDeclared
  exact List.contains_iff_mem

/-- What a reference stands for is declared. -/
theorem mem_declared_of_resolve? {table : NameTable} {domain reference : String}
    {p : String × String} (h : table.resolve? domain reference = some p) : p ∈ table.declared := by
  unfold resolve? at h
  simp only at h
  split at h
  · rename_i hmem
    obtain rfl := Option.some.inj h
    exact (table.isDeclared_iff _ _).mp hmem
  · cases h

end NameTable

theorem Domain.declaredNames_eq (d : Domain) : d.declaredNames = d.declarations.map (·.name) := by
  simp only [declaredNames, declarations, List.map_append, List.map_map]
  rfl

theorem Domain.name_mem_declaredNames {d : Domain} {x : Declaration} (h : x ∈ d.declarations) :
    x.name ∈ d.declaredNames := by
  rw [declaredNames_eq]
  exact List.mem_map_of_mem h

theorem Domain.name_mem_declaredNames_of_type {d : Domain} {t : TypeDecl} (h : t ∈ d.types) :
    t.name ∈ d.declaredNames :=
  name_mem_declaredNames (x := .type t) (by simp [declarations, h])

/-! ## One pass over the declarations -/

theorem lookup_increment (key other : String) (counts : List (String × Nat)) :
    ((increment key counts).lookup other).getD 0 =
      (counts.lookup other).getD 0 + if other = key then 1 else 0 := by
  induction counts with
  | nil =>
    rw [increment, List.lookup_cons]
    by_cases h : other = key
    · simp [h]
    · simp [h, beq_eq_false_iff_ne.mpr h]
  | cons entry rest ih =>
    obtain ⟨here, n⟩ := entry
    rw [increment]
    split
    · rename_i hhere
      subst hhere
      by_cases h : other = here
      · simp [h]
      · simp [List.lookup_cons, h, beq_eq_false_iff_ne.mpr h]
    · rename_i hhere
      by_cases h : other = here
      · subst h
        simp [hhere]
      · simpa [List.lookup_cons, beq_eq_false_iff_ne.mpr h] using ih

/-- The declarations of a domain, each with the name of the domain. -/
def Domain.owned (d : Domain) : List (String × Declaration) := d.declarations.map (d.name, ·)

theorem Domain.type_mem_owned {d : Domain} {domain : String} {t : TypeDecl} :
    (domain, .type t) ∈ d.owned ↔ d.name = domain ∧ t ∈ d.types := by
  simp [owned, declarations, and_comm]

namespace NameTable

/-- What a table holds when it has been filled from declarations, each with the name of its domain:
spellings with their numbers, the names of the types that are no records, and types with their
domains. -/
structure Holds (table : NameTable) (xs : List (String × Declaration)) : Prop where
  counts : ∀ spelling, (table.counts.lookup spelling).getD 0 =
    xs.countP fun x => Naming.typeIdent x.2.name = spelling
  valueNames : ∀ name, name ∈ table.valueNames ↔
    ∃ domain t, (domain, .type t) ∈ xs ∧ t.name = name ∧ t.shape.isValueKind = true
  declared : ∀ p, p ∈ table.declared ↔ ∃ t, (p.1, .type t) ∈ xs ∧ t.name = p.2

namespace Holds

variable {table : NameTable} {xs : List (String × Declaration)}

theorem nil : Holds {} [] := ⟨by simp, by simp, by simp⟩

/-- Counting one more declaration. -/
theorem count (h : table.Holds xs) (domain : String) (x : Declaration) (spelling : String) :
    ((table.count x.name).counts.lookup spelling).getD 0 =
      (xs ++ [(domain, x)]).countP fun x => Naming.typeIdent x.2.name = spelling := by
  rw [NameTable.count, lookup_increment, h.counts, List.countP_append]
  simp [List.countP_cons, eq_comm]

/-- **A declaration more.** The table goes on to hold what it held, and the declaration too. -/
theorem add (h : table.Holds xs) (domain : String) (x : Declaration) :
    (table.add domain x).Holds (xs ++ [(domain, x)]) := by
  cases x with
  | type t =>
    refine ⟨h.count domain (.type t), fun name => ?_, fun p => ?_⟩
    · have hnew : name ∈ (table.add domain (.type t)).valueNames ↔
          name ∈ table.valueNames ∨ t.name = name ∧ t.shape.isValueKind = true := by
        by_cases hkind : t.shape.isValueKind = true
        · simp [NameTable.add, hkind, or_comm, eq_comm]
        · simp [NameTable.add, hkind]
      rw [hnew, h.valueNames]
      constructor
      · rintro (⟨owner, u, hu, hname, hkind⟩ | ⟨hname, hkind⟩)
        · exact ⟨owner, u, List.mem_append_left _ hu, hname, hkind⟩
        · exact ⟨domain, t, by simp, hname, hkind⟩
      · rintro ⟨owner, u, hu, hname, hkind⟩
        rcases List.mem_append.mp hu with hu | hu
        · exact .inl ⟨owner, u, hu, hname, hkind⟩
        · obtain ⟨rfl, rfl⟩ : owner = domain ∧ u = t := by simpa using hu
          exact .inr ⟨hname, hkind⟩
    · have hnew : p ∈ (table.add domain (.type t)).declared ↔
          p ∈ table.declared ∨ p = (domain, t.name) := by
        simp [NameTable.add, or_comm]
      rw [hnew, h.declared]
      constructor
      · rintro (⟨u, hu, hname⟩ | rfl)
        · exact ⟨u, List.mem_append_left _ hu, hname⟩
        · exact ⟨t, by simp, rfl⟩
      · rintro ⟨u, hu, hname⟩
        rcases List.mem_append.mp hu with hu | hu
        · exact .inl ⟨u, hu, hname⟩
        · obtain ⟨howner, rfl⟩ : p.1 = domain ∧ u = t := by simpa using hu
          exact .inr (Prod.ext howner hname.symm)
  | command c =>
    exact ⟨h.count domain (.command c), by simpa [NameTable.add] using h.valueNames,
      by simpa [NameTable.add] using h.declared⟩
  | event e =>
    exact ⟨h.count domain (.event e), by simpa [NameTable.add] using h.valueNames,
      by simpa [NameTable.add] using h.declared⟩

/-- Declarations of one domain, one after the other. -/
theorem foldl_add (h : table.Holds xs) (domain : String) (ys : List Declaration) :
    (ys.foldl (NameTable.add domain) table).Holds (xs ++ ys.map (domain, ·)) := by
  induction ys generalizing table xs with
  | nil => simpa using h
  | cons y ys ih =>
    rw [List.foldl_cons, List.map_cons, List.append_cons]
    exact ih (h.add domain y)

/-- Domains one after the other. -/
theorem foldl_addDomain (h : table.Holds xs) (domains : List Domain) :
    (domains.foldl addDomain table).Holds (xs ++ domains.flatMap Domain.owned) := by
  induction domains generalizing table xs with
  | nil => simpa using h
  | cons d domains ih =>
    rw [List.foldl_cons, List.flatMap_cons, ← List.append_assoc]
    exact ih (h.foldl_add d.name d.declarations)

end Holds

/-- **The table of a schema holds all its declarations.** -/
theorem build_holds (domains : List Domain) :
    (build domains).Holds (domains.flatMap Domain.owned) := by
  simpa [build] using Holds.nil.foldl_addDomain domains

/-- A change of domains that the pass does not see changes no table. -/
theorem build_map {f : Domain → Domain} (h : ∀ table d, addDomain table (f d) = addDomain table d)
    (domains : List Domain) : build (domains.map f) = build domains := by
  unfold build
  simp only [List.foldl_map, h]

theorem mem_declared_build {domains : List Domain} {p : String × String} :
    p ∈ (build domains).declared ↔ ∃ d ∈ domains, ∃ t ∈ d.types, (d.name, t.name) = p := by
  simp only [(build_holds domains).declared, List.mem_flatMap, Domain.type_mem_owned]
  constructor
  · rintro ⟨t, ⟨d, hd, hdomain, ht⟩, hname⟩
    exact ⟨d, hd, t, ht, Prod.ext hdomain hname⟩
  · rintro ⟨d, hd, t, ht, rfl⟩
    exact ⟨t, ⟨d, hd, rfl, ht⟩, rfl⟩

theorem mem_valueNames_build {domains : List Domain} {name : String} :
    name ∈ (build domains).valueNames ↔
      ∃ d ∈ domains, ∃ t ∈ d.types, t.name = name ∧ t.shape.isValueKind = true := by
  simp only [(build_holds domains).valueNames, List.mem_flatMap, Domain.type_mem_owned]
  constructor
  · rintro ⟨_, t, ⟨d, hd, -, ht⟩, hname, hkind⟩
    exact ⟨d, hd, t, ht, hname, hkind⟩
  · rintro ⟨d, hd, t, ht, hname, hkind⟩
    exact ⟨d.name, t, ⟨d, hd, rfl, ht⟩, hname, hkind⟩

theorem occurrences_build (domains : List Domain) (name : String) :
    (build domains).occurrences name =
      (domains.flatMap (·.declarations)).countP fun x =>
        Naming.typeIdent x.name = Naming.typeIdent name := by
  have howned : (domains.flatMap Domain.owned).map (·.2) = domains.flatMap (·.declarations) := by
    simp [List.map_flatMap, Domain.owned, Function.comp_def]
  rw [occurrences, (build_holds domains).counts, ← howned, List.countP_map]
  rfl

end NameTable

/-- Things that two different members of a list contribute are two. -/
theorem two_le_countP_flatMap {α β : Type} {f : α → List β} {p : β → Bool} {x y : α} {b c : β}
    (hne : x ≠ y) (hb : b ∈ f x) (hpb : p b = true) (hc : c ∈ f y) (hpc : p c = true)
    {l : List α} (hx : x ∈ l) (hy : y ∈ l) : 2 ≤ (l.flatMap f).countP p := by
  have one {w : α} {d : β} (hd : d ∈ f w) (hpd : p d = true) {l : List α} (hw : w ∈ l) :
      1 ≤ (l.flatMap f).countP p :=
    List.countP_pos_iff.mpr ⟨d, List.mem_flatMap.mpr ⟨w, hw, hd⟩, hpd⟩
  have head {w : α} {d : β} (hd : d ∈ f w) (hpd : p d = true) : 1 ≤ (f w).countP p :=
    List.countP_pos_iff.mpr ⟨d, hd, hpd⟩
  induction l with
  | nil => exact absurd hx List.not_mem_nil
  | cons z l ih =>
    rw [List.flatMap_cons, List.countP_append]
    rcases List.mem_cons.mp hx with rfl | hxl
    · have hhead := head hb hpb
      have htail := one hc hpc ((List.mem_cons.mp hy).resolve_left hne.symm)
      omega
    · rcases List.mem_cons.mp hy with rfl | hyl
      · have hhead := head hc hpc
        have htail := one hb hpb hxl
        omega
      · have htail := ih hxl hyl
        omega

namespace NamesApart

variable {domains : List Domain} (hapart : NamesApart domains)

include hapart

theorem domain_eq {d e : Domain} (hd : d ∈ domains) (he : e ∈ domains) (h : d.name = e.name) :
    d = e :=
  List.inj_on_of_nodup_map hapart.domain_names hd he h

theorem type_eq {d : Domain} {t u : TypeDecl} (hd : d ∈ domains) (ht : t ∈ d.types)
    (hu : u ∈ d.types) (h : Naming.typeIdent t.name = Naming.typeIdent u.name) : t = u :=
  List.inj_on_of_nodup_map (hapart.type_spellings d hd) ht hu h

/-- A spelling that two types have is shared, so both are qualified. -/
theorem needsQualification_of_same_spelling {p q : String × String}
    (hp : p ∈ (NameTable.build domains).declared) (hq : q ∈ (NameTable.build domains).declared)
    (hne : p ≠ q) (h : Naming.typeIdent p.2 = Naming.typeIdent q.2) :
    (NameTable.build domains).needsQualification p.2 = true := by
  obtain ⟨d, hd, t, ht, rfl⟩ := NameTable.mem_declared_build.mp hp
  obtain ⟨e, he, u, hu, rfl⟩ := NameTable.mem_declared_build.mp hq
  -- the two types are in different domains, as no domain has a spelling twice
  have hde : d ≠ e := by
    rintro rfl
    rw [hapart.type_eq hd ht hu h] at hne
    exact hne rfl
  have declares {c : Domain} {s : TypeDecl} (hs : s ∈ c.types) :
      Declaration.type s ∈ c.declarations := by
    simp [Domain.declarations, hs]
  have twice : 2 ≤ (NameTable.build domains).occurrences t.name := by
    rw [NameTable.occurrences_build]
    exact two_le_countP_flatMap hde (declares ht) (decide_eq_true rfl) (declares hu)
      (decide_eq_true h.symm) hd he
  simp only [NameTable.needsQualification, decide_eq_true_eq]
  exact twice

/-- A type is told by its qualifier and its spelling together. -/
theorem eq_of_same_parts {p q : String × String}
    (hp : p ∈ (NameTable.build domains).declared) (hq : q ∈ (NameTable.build domains).declared)
    (hqualifier : (NameTable.build domains).qualifier p.1 p.2 =
      (NameTable.build domains).qualifier q.1 q.2)
    (hspelling : Naming.typeIdent p.2 = Naming.typeIdent q.2) : p = q := by
  by_contra hne
  have shared := hapart.needsQualification_of_same_spelling hp hq hne hspelling
  have shared' := (NameTable.build domains).needsQualification_congr hspelling ▸ shared
  simp only [NameTable.qualifier, shared, shared', if_true] at hqualifier
  -- both are qualified, so they are types of one domain
  obtain ⟨d, hd, t, ht, rfl⟩ := NameTable.mem_declared_build.mp hp
  obtain ⟨e, he, u, hu, rfl⟩ := NameTable.mem_declared_build.mp hq
  obtain rfl := hapart.domain_eq hd he hqualifier
  exact hne (by rw [hapart.type_eq hd ht hu hspelling])

end NamesApart

/-- Two texts put together from two parts each are equal when a text moves from the first part of
one to the second part of the other. -/
theorem append_eq_append_iff_shift {a b s t : String} :
    a ++ s = b ++ t ↔
      ∃ w : String, (a = b ++ w ∧ t = w ++ s) ∨ (b = a ++ w ∧ s = w ++ t) := by
  simp only [← String.toList_inj, String.toList_append]
  rw [List.append_eq_append_iff]
  constructor
  · rintro (⟨w, hb, hs⟩ | ⟨w, ha, ht⟩)
    · exact ⟨String.ofList w, .inr (by simp [hb, hs])⟩
    · exact ⟨String.ofList w, .inl (by simp [ha, ht])⟩
  · rintro ⟨w, ⟨ha, ht⟩ | ⟨hb, hs⟩⟩
    · exact .inr ⟨w.toList, ha, ht⟩
    · exact .inl ⟨w.toList, hb, hs⟩

/-- **When identifiers collide.** Two different types of a schema have the same identifier exactly
when some text that is not empty ends the qualifier of one and starts the spelling of the other:
taken from the one and put before the other, it makes the two identifiers the same letters. -/
theorem ident_eq_iff_shift {domains : List Domain} (hapart : NamesApart domains)
    {p q : String × String} (hp : p ∈ (NameTable.build domains).declared)
    (hq : q ∈ (NameTable.build domains).declared) (hne : p ≠ q) :
    let table := NameTable.build domains
    table.ident p.1 p.2 = table.ident q.1 q.2 ↔
      ∃ w : String, w ≠ "" ∧
        ((table.qualifier p.1 p.2 = table.qualifier q.1 q.2 ++ w ∧
            Naming.typeIdent q.2 = w ++ Naming.typeIdent p.2) ∨
          (table.qualifier q.1 q.2 = table.qualifier p.1 p.2 ++ w ∧
            Naming.typeIdent p.2 = w ++ Naming.typeIdent q.2)) := by
  intro table
  rw [NameTable.ident_eq_qualifier_append, NameTable.ident_eq_qualifier_append,
    append_eq_append_iff_shift]
  constructor
  · rintro ⟨w, h⟩
    refine ⟨w, ?_, h⟩
    rintro rfl
    -- nothing moves, so qualifiers and spellings are equal and the types are one
    simp only [String.append_empty, String.empty_append] at h
    rcases h with ⟨ha, hs⟩ | ⟨ha, hs⟩
    · exact hne (hapart.eq_of_same_parts hp hq ha hs.symm)
    · exact hne (hapart.eq_of_same_parts hp hq ha.symm hs)
  · rintro ⟨w, -, h⟩
    exact ⟨w, h⟩

/-- A domain that declares records without members. -/
def Domain.ofRecordNames (name : String) (types : List String) : Domain where
  name
  description := none
  experimental := false
  types := types.map fun t => ⟨t, none, false, .composite []⟩
  commands := []
  events := []

/-- Both `Node` and `BNode` are declared twice, so all four types are qualified. -/
def splitDomains : List Domain :=
  [.ofRecordNames "A" ["BNode"], .ofRecordNames "AB" ["Node"], .ofRecordNames "C" ["Node", "BNode"]]

theorem splitDomains_apart : NamesApart splitDomains :=
  ⟨by decide, by decide⟩

/-- Two qualified types: the `B` ends the domain of one and starts the spelling of the other. -/
theorem ident_eq_in_splitDomains :
    NamesApart splitDomains ∧
      ("A", "BNode") ∈ (NameTable.build splitDomains).declared ∧
      ("AB", "Node") ∈ (NameTable.build splitDomains).declared ∧
      (NameTable.build splitDomains).ident "A" "BNode" =
        (NameTable.build splitDomains).ident "AB" "Node" := by
  have hp : ("A", "BNode") ∈ (NameTable.build splitDomains).declared := by decide
  have hq : ("AB", "Node") ∈ (NameTable.build splitDomains).declared := by decide
  have hne : ("A", "BNode") ≠ ("AB", "Node") := by decide
  refine ⟨splitDomains_apart, hp, hq, ?_⟩
  apply (ident_eq_iff_shift splitDomains_apart hp hq hne).mpr
  exact ⟨"B", by decide, .inr ⟨by decide, by decide⟩⟩

/-- `Node` is declared twice and `DOMNode` once. -/
def crossedDomains : List Domain :=
  [.ofRecordNames "DOM" ["Node"], .ofRecordNames "Page" ["Node"],
    .ofRecordNames "Overlay" ["DOMNode"]]

/-- Identifiers do not tell all types apart: the qualified `Node` of `DOM` is the `DOMNode` of
`Overlay`, which needs no qualifier. -/
theorem not_forall_ident_ne :
    ¬ ∀ domains : List Domain, NamesApart domains →
      ∀ p ∈ (NameTable.build domains).declared, ∀ q ∈ (NameTable.build domains).declared,
        p ≠ q →
          (NameTable.build domains).ident p.1 p.2 ≠ (NameTable.build domains).ident q.1 q.2 := by
  intro h
  have hapart : NamesApart crossedDomains := ⟨by decide, by decide⟩
  exact h crossedDomains hapart ("DOM", "Node") (by decide) ("Overlay", "DOMNode") (by decide)
    (by decide) (by decide)

end Bindery
