import Bindery.Proofs.Words
import Mathlib.Data.List.Pairwise

/-!
# The fields of a record

The fields of a record are named in a row after the spellings of their properties, so no two have
the same identifier. As names of the generated code they are still not always different: a number is
put behind a spelling that is escaped already, `r#type` becomes `r#type_2`, and a property may be
spelled `type_2` itself. This is the one way for two fields to share a name
(`Record.field_names_apart_iff`): so many properties are spelled as one keyword that the last of
them gets a number with which another property is spelled.
-/

namespace Bindery

/-! ## Clashes with a raw identifier -/

/-- Two identifiers of one name: one is the raw form of the other. -/
theorem eq_raw_of_bareName_eq {a b : String} (hne : a ≠ b)
    (h : bareName a.toList = bareName b.toList) : a = "r#" ++ b ∨ b = "r#" ++ a := by
  have hraw {s : String} (hs : bareName s.toList ≠ s.toList) :
      s.toList = "r#".toList ++ bareName s.toList := by
    rw [ne_eq, bareName_eq_self_iff, not_not] at hs
    obtain ⟨rest, hrest⟩ := hs
    rw [← hrest]
    rfl
  rcases eq_or_ne (bareName a.toList) a.toList with ha | ha
  · rcases eq_or_ne (bareName b.toList) b.toList with hb | hb
    · exact absurd (String.toList_inj.mp (ha.symm.trans (h.trans hb))) hne
    · refine .inr (String.toList_inj.mp ?_)
      rw [hraw hb, ← h, ha, String.toList_append]
  · rcases eq_or_ne (bareName b.toList) b.toList with hb | hb
    · refine .inl (String.toList_inj.mp ?_)
      rw [hraw ha, h, hb, String.toList_append]
    · exact absurd (String.toList_inj.mp (by rw [hraw ha, hraw hb, h])) hne

namespace Naming

theorem underscore_not_mem_keyword : ∀ keyword ∈ keywords, '_' ∉ keyword.toList := by decide

theorem hash_not_mem_keyword : ∀ keyword ∈ keywords, '#' ∉ keyword.toList := by decide

/-- A spelling with the mark of raw identifiers is a keyword with that mark. -/
theorem exists_keyword_of_hash_mem_fieldIdent {wireName : String}
    (h : '#' ∈ (fieldIdent wireName).toList) :
    ∃ keyword ∈ keywords, fieldIdent wireName = "r#" ++ keyword :=
  ⟨_, eq_raw_of_mem_escapeKeyword (hash_not_mem_sanitize _) h⟩

/-- A keyword, numbered or not, is numbered from nothing but the keyword. -/
theorem eq_of_candidate_eq {keyword other : String} (hkeyword : keyword ∈ keywords) {i j : Nat}
    (h : candidate other "_" i = candidate keyword "_" j) : i = 0 ∨ other = keyword := by
  have hdigits (n : Nat) : '_' ∉ (toString n).toList := fun hmem =>
    absurd (isDigit_of_mem_toString hmem) (by decide)
  have hmark : "_".toList = ['_'] := rfl
  have hnone := underscore_not_mem_keyword keyword hkeyword
  cases i with
  | zero => exact .inl rfl
  | succ i =>
    have hcut := congrArg String.toList h
    cases j with
    | zero =>
      refine absurd ?_ hnone
      rw [show keyword = candidate keyword "_" 0 from rfl, ← hcut]
      simp [candidate]
    | succ j =>
      simp only [candidate, String.toList_append, hmark, List.append_assoc,
        List.singleton_append] at hcut
      -- there is one underscore on the right, so it is the one in front of the number
      have hparts := (List.append_cons_inj_of_notMem hnone (hdigits (j + 2))).mp hcut.symm
      exact .inr (String.toList_inj.mp hparts.1.symm)

theorem candidate_raw (name : String) (k : Nat) :
    candidate ("r#" ++ name) "_" k = "r#" ++ candidate name "_" k := by
  cases k with
  | zero => rfl
  | succ k => simp only [candidate, String.append_assoc]

end Naming

/-! ## The fields -/

namespace Record

open Naming (candidate_raw)

variable {table : NameTable} {domain ident declaration : String} {properties : List Property}

/-- What the fields of properties are named after. -/
def spellings (properties : List Property) : List String :=
  properties.map fun p => Naming.fieldIdent p.name

/-- So many properties are spelled as one keyword that the field of the last of them gets a number
with which another property is spelled. -/
structure ClashesAt (properties : List Property) (keyword : String) (number : Nat) : Prop where
  two_le : 2 ≤ number
  le_count : number ≤ (spellings properties).count ("r#" ++ keyword)
  spelled : keyword ++ "_" ++ toString number ∈ spellings properties

instance (properties : List Property) (keyword : String) (number : Nat) :
    Decidable (ClashesAt properties keyword number) :=
  decidable_of_iff (2 ≤ number ∧ number ≤ (spellings properties).count ("r#" ++ keyword) ∧
      keyword ++ "_" ++ toString number ∈ spellings properties)
    ⟨fun ⟨h, h', h''⟩ => ⟨h, h', h''⟩, fun ⟨h, h', h''⟩ => ⟨h, h', h''⟩⟩

theorem map_ident_fieldsFrom? {taken : List String} {fields : List RecordField}
    (h : fieldsFrom? table domain declaration taken properties = .ok fields) :
    fields.map (·.ident) = namesFrom "_" taken (spellings properties) := by
  induction properties generalizing taken fields with
  | nil =>
    obtain rfl := Except.ok.inj h
    rfl
  | cons p rest ih =>
    rw [fieldsFrom?] at h
    obtain ⟨type, -, h⟩ := Except.bind_eq_ok_iff.mp h
    obtain ⟨later, hlater, h⟩ := Except.bind_eq_ok_iff.mp h
    obtain rfl := Except.ok.inj h
    rw [List.map_cons, ih hlater]
    rfl

theorem not_mem_keywords_of_mem_spellings {base : String} (h : base ∈ spellings properties) :
    base ∉ Naming.keywords := by
  obtain ⟨p, -, rfl⟩ := List.mem_map.mp h
  exact Naming.escapeKeyword_not_mem_keywords _

/-- A name with the mark of raw identifiers is a candidate for a keyword with that mark. -/
theorem exists_keyword_of_candidate {base : String} (hbase : base ∈ spellings properties) {k : Nat}
    (h : '#' ∈ (candidate base "_" k).toList) :
    ∃ keyword ∈ Naming.keywords, base = "r#" ++ keyword := by
  have hhash := hash_mem_of_candidate (by decide) h
  obtain ⟨p, -, rfl⟩ := List.mem_map.mp hbase
  exact Naming.exists_keyword_of_hash_mem_fieldIdent hhash

theorem hash_mem_raw (name : String) : '#' ∈ ("r#" ++ name).toList := by
  rw [String.toList_append]
  exact List.mem_append_left _ (by decide)

/-- As many names come from a keyword as properties are spelled as it. -/
theorem raw_candidate_mem_iff {keyword : String} (hkeyword : keyword ∈ Naming.keywords) (k : Nat) :
    "r#" ++ candidate keyword "_" k ∈ namesFrom "_" [] (spellings properties) ↔
      k < (spellings properties).count ("r#" ++ keyword) := by
  rw [← candidate_raw]
  refine candidate_mem_namesFrom_iff (fun other hother hne i j heq => hne ?_) k
  rw [candidate_raw] at heq
  obtain ⟨keyword', hkeyword', rfl⟩ := exists_keyword_of_candidate hother
    (heq ▸ hash_mem_raw _)
  rw [candidate_raw, String.append_right_inj] at heq
  refine congrArg ("r#" ++ ·) ?_
  rcases Naming.eq_of_candidate_eq hkeyword heq with rfl | hsame
  · -- neither of the two has a number then
    rcases Naming.eq_of_candidate_eq hkeyword' heq.symm with rfl | hsame
    · exact heq
    · exact hsame.symm
  · exact hsame

/-- What clashes is a keyword. -/
theorem ClashesAt.mem_keywords {keyword : String} {number : Nat}
    (h : ClashesAt properties keyword number) : keyword ∈ Naming.keywords := by
  have hcount := h.le_count
  have htwo := h.two_le
  have hspelled : "r#" ++ keyword ∈ spellings properties := List.count_pos_iff.mp (by omega)
  obtain ⟨other, hother, heq⟩ :=
    exists_keyword_of_candidate (k := 0) hspelled (hash_mem_raw keyword)
  rwa [(String.append_right_inj _).mp heq]

/-- The name in a clash is no raw identifier. -/
theorem ClashesAt.hash_not_mem {keyword : String} {number : Nat}
    (h : ClashesAt properties keyword number) :
    '#' ∉ (keyword ++ "_" ++ toString number).toList := by
  have htwo := h.two_le
  obtain ⟨j, rfl⟩ : ∃ j, number = j + 2 := ⟨number - 2, by omega⟩
  intro hmem
  have hcandidate : '#' ∈ (candidate keyword "_" (j + 1)).toList := hmem
  exact Naming.hash_not_mem_keyword keyword h.mem_keywords
    (hash_mem_of_candidate (by decide) hcandidate)

/-- **When a name stands beside its raw form.** -/
theorem raw_mem_and_mem_iff {name : String} :
    ("r#" ++ name ∈ namesFrom "_" [] (spellings properties) ∧
      name ∈ namesFrom "_" [] (spellings properties)) ↔
        ∃ keyword number, name = keyword ++ "_" ++ toString number ∧
          ClashesAt properties keyword number := by
  constructor
  · rintro ⟨hraw, hbare⟩
    obtain ⟨base, hbase, j, hj⟩ := exists_candidate_of_mem hraw
    obtain ⟨keyword, hkeyword, rfl⟩ := exists_keyword_of_candidate hbase (hj ▸ hash_mem_raw name)
    rw [candidate_raw, String.append_right_inj] at hj
    subst hj
    obtain ⟨other, hother, i, hi⟩ := exists_candidate_of_mem hbare
    -- a spelling is no keyword, so the name is a spelling itself
    have hnone := not_mem_keywords_of_mem_spellings hother
    have hspelled : candidate keyword "_" j = other := by
      rcases Naming.eq_of_candidate_eq hkeyword hi.symm with rfl | rfl
      · exact hi
      · exact absurd hkeyword hnone
    rw [← hspelled] at hother hnone
    cases j with
    | zero => exact absurd hkeyword hnone
    | succ j =>
      have hcount := (raw_candidate_mem_iff hkeyword (j + 1)).mp hraw
      exact ⟨keyword, j + 2, rfl, ⟨by omega, by omega, hother⟩⟩
  · rintro ⟨keyword, number, rfl, hclash⟩
    have hcount := hclash.le_count
    obtain ⟨j, rfl⟩ : ∃ j, number = j + 2 := ⟨number - 2, by have := hclash.two_le; omega⟩
    refine ⟨(raw_candidate_mem_iff hclash.mem_keywords (j + 1)).mpr (by omega), ?_⟩
    exact (mem_namesFrom_of_mem hclash.spelled).resolve_right List.not_mem_nil

/-- The field of a property is named after its spelling, beside the fields in front. -/
theorem namedAfter_of_map_ident {fields : List RecordField} {before after : List Property}
    {p : Property} (hidents : fields.map (·.ident) =
      namesFrom "_" [] (spellings (before ++ p :: after))) :
    ∃ front field rest, fields = front ++ field :: rest ∧ front.length = before.length ∧
      NamedAfter (front.map (·.ident)) (Naming.fieldIdent p.name) "_" field.ident := by
  obtain ⟨name, later, hnames, hnamed⟩ := namesFrom_nil_append_cons "_" (spellings before)
    (Naming.fieldIdent p.name) (spellings after)
  rw [spellings, List.map_append, List.map_cons] at hidents
  obtain ⟨front, back, rfl, hfront, hback⟩ := List.map_eq_append_iff.mp (hidents.trans hnames)
  obtain ⟨field, rest, rfl, rfl, -⟩ := List.map_eq_cons_iff.mp hback
  refine ⟨front, field, rest, rfl, ?_, by rwa [hfront]⟩
  have hlength := congrArg List.length hfront
  rwa [List.length_map, length_namesFrom, spellings, List.length_map] at hlength

/-- **Fields apart.** A record has one field for each property, in the same order. It is named after
the spelling of the property, with a number if a field in front has that name, so that no two fields
have one identifier. They have different names in the generated code, where the mark of a raw
identifier does not count, if and only if no number of a keyword is the spelling of a property. -/
theorem field_names_apart_iff {record : Record}
    (h : ofProperties? table domain ident declaration properties = .ok record) :
    List.Forall₂ (Carries table domain declaration) properties record.fields ∧
    (∀ (before : List Property) (p : Property) (after : List Property),
      properties = before ++ p :: after → ∃ front field rest,
        record.fields = front ++ field :: rest ∧ front.length = before.length ∧
        NamedAfter (front.map (·.ident)) (Naming.fieldIdent p.name) "_" field.ident) ∧
    (record.fields.map (·.ident)).Nodup ∧
    ((record.fields.map fun f => bareName f.ident.toList).Nodup ↔
      ∀ keyword number, ¬ ClashesAt properties keyword number) := by
  rw [ofProperties?] at h
  obtain ⟨fields, hfields, h⟩ := Except.bind_eq_ok_iff.mp h
  obtain rfl := Except.ok.inj h
  have hidents := map_ident_fieldsFrom? hfields
  have hnodup := (nodup_namesFrom "_" [] (spellings properties)).1
  have hbare : (fields.map fun f => bareName f.ident.toList) =
      (namesFrom "_" [] (spellings properties)).map fun name => bareName name.toList := by
    rw [← hidents, List.map_map]
    rfl
  refine ⟨forall₂_carries hfields, fun before p after hsplit => ?_, by rwa [hidents], ?_⟩
  · rw [hsplit] at hidents
    exact namedAfter_of_map_ident hidents
  rw [hbare, List.nodup_map_iff_inj_on hnodup]
  constructor
  · intro hinj keyword number hclash
    have hnumbered := hclash.hash_not_mem
    obtain ⟨hraw, hname⟩ := raw_mem_and_mem_iff.mpr ⟨keyword, number, rfl, hclash⟩
    have heq := hinj _ hraw _ hname (by rw [bareName_raw, bareName_of_not_mem hnumbered])
    exact hnumbered (heq ▸ hash_mem_raw _)
  · intro hnone a ha b hb heq
    by_contra hne
    rcases eq_raw_of_bareName_eq hne heq with rfl | rfl
    · obtain ⟨keyword, number, -, hclash⟩ := raw_mem_and_mem_iff.mp ⟨ha, hb⟩
      exact hnone keyword number hclash
    · obtain ⟨keyword, number, -, hclash⟩ := raw_mem_and_mem_iff.mp ⟨hb, ha⟩
      exact hnone keyword number hclash

/-- A property that holds a text. -/
def textProperty (name : String) : Property := ⟨name, none, false, false, .primitive .string⟩

/-- Two properties that are spelled as one keyword have fields of different names. -/
theorem field_names_apart_of_type :
    let properties := ["type", "Type", "type_3"].map textProperty
    ∃ record, ofProperties? (NameTable.build []) "DOM" "Node" "Node" properties = .ok record ∧
      record.fields.map (·.ident) = ["r#type", "r#type_2", "type_3"] ∧
      (record.fields.map fun f => bareName f.ident.toList).Nodup := by
  intro properties
  have hfew : ∀ keyword ∈ Naming.keywords, ∀ number ≤ 3, ¬ ClashesAt properties keyword number := by
    decide +kernel
  have hnone (keyword : String) (number : Nat) : ¬ ClashesAt properties keyword number := by
    intro hclash
    have hlength : number ≤ 3 := Nat.le_trans hclash.le_count List.count_le_length
    exact hfew keyword hclash.mem_keywords number hlength hclash
  refine ⟨_, rfl, by decide, ?_⟩
  exact (@field_names_apart_iff (NameTable.build []) "DOM" "Node" "Node" properties _
    rfl).2.2.2.mpr hnone

/-- The second field that is spelled `type` takes the number with which the third is spelled. -/
theorem not_forall_field_names_apart :
    ¬ ∀ (table : NameTable) (domain ident declaration : String) (properties : List Property)
      (record : Record), ofProperties? table domain ident declaration properties = .ok record →
        (record.fields.map fun f => bareName f.ident.toList).Nodup := by
  intro hall
  have hapart := hall (NameTable.build []) "DOM" "Node" "Node"
    (["type", "Type", "type_2"].map textProperty) _ rfl
  exact absurd hapart (by decide)

end Record

end Bindery
