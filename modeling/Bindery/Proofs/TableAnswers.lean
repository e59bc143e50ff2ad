import Bindery.Proofs.Containment
import Bindery.Proofs.Emission

/-!
# What the name table answers

A table is filled under three keys in one pass: exported spellings are counted, bare names and names
with their domain are collected (`NameTable.build_holds`). `NameTable.Describes` says what its
answers mean for the declarations of the schema, experimental ones among them, whether or not
domains or names are repeated; the table of any list of domains is like that
(`NameTable.build_describes`). Declarations of one spelling in domains of different names are
therefore told apart: both are counted, so both are qualified.

The type of a shape is spelled around the one reference in it, if there is any: `Shape.spelling` is
what is fixed by the shape, layer by layer, with a place for that reference. What stands there is
decided by the bare name of the target, over the whole schema: the identifier of the target is boxed
if all types of that name are records, in whatever domains, and stands as it is if one of them is
not (`boxing_rule`).
-/

namespace Bindery

theorem Shape.isValueKind_iff {shape : Shape} :
    shape.isValueKind = true ↔ ∀ properties, shape ≠ .composite properties := by
  cases shape <;> simp [isValueKind]

namespace NameTable

/-- What the answers of a table mean for the domains of a schema. -/
structure Describes (table : NameTable) (domains : List Domain) : Prop where
  /-- All declarations with the exported spelling of a name are counted. -/
  occurrences : ∀ name, table.occurrences name =
    (domains.flatMap (·.declarations)).countP fun x =>
      Naming.typeIdent x.name = Naming.typeIdent name
  /-- A name is held by value if some type of exactly this name is no record. -/
  isValue : ∀ name, table.isValue name = true ↔
    ∃ d ∈ domains, ∃ t ∈ d.types, t.name = name ∧ ∀ properties, t.shape ≠ .composite properties
  isDeclared : ∀ domain name, table.isDeclared domain name = true ↔
    ∃ d ∈ domains, d.name = domain ∧ ∃ t ∈ d.types, t.name = name
  ident : ∀ domain name, table.ident domain name =
    if table.occurrences name ≤ 1 then Naming.typeIdent name
    else domain ++ Naming.typeIdent name
  ident_ne : ∀ d ∈ domains, ∀ e ∈ domains, d.name ≠ e.name →
    ∀ x ∈ d.declarations, ∀ y ∈ e.declarations,
      Naming.typeIdent x.name = Naming.typeIdent y.name →
        table.ident d.name x.name ≠ table.ident e.name y.name

theorem isValue_build_iff_not_record {domains : List Domain} {name : String} :
    (build domains).isValue name = true ↔
      ∃ d ∈ domains, ∃ t ∈ d.types, t.name = name ∧
        ∀ properties, t.shape ≠ .composite properties := by
  rw [isValue_build_iff]
  simp only [HasValueKind, Shape.isValueKind_iff]

theorem ident_eq_ite (table : NameTable) (domain name : String) :
    table.ident domain name =
      if table.occurrences name ≤ 1 then Naming.typeIdent name
      else domain ++ Naming.typeIdent name := by
  unfold ident needsQualification
  by_cases h : table.occurrences name ≤ 1
  · rw [if_pos h, if_neg (by simpa using h)]
  · rw [if_neg h, if_pos (by simpa using h)]

/-- A spelling that two domains of different names have is counted at least twice. -/
theorem two_le_occurrences {domains : List Domain} {d e : Domain} (hd : d ∈ domains)
    (he : e ∈ domains) (hne : d.name ≠ e.name) {x y : Declaration} (hx : x ∈ d.declarations)
    (hy : y ∈ e.declarations) (hspelling : Naming.typeIdent x.name = Naming.typeIdent y.name) :
    2 ≤ (build domains).occurrences x.name := by
  have hdomains : d ≠ e := fun heq => hne (congrArg Domain.name heq)
  rw [occurrences_build]
  exact two_le_countP_flatMap hdomains hx (decide_eq_true rfl) hy (decide_eq_true hspelling.symm)
    hd he

/-- **What the table of a schema answers**, for any list of domains. -/
theorem build_describes (domains : List Domain) : (build domains).Describes domains where
  occurrences := occurrences_build domains
  isValue _ := isValue_build_iff_not_record
  isDeclared _ _ := isDeclared_build_iff
  ident := ident_eq_ite _
  ident_ne d hd e he hne x hx y hy hspelling := by
    have hx2 := two_le_occurrences hd he hne hx hy hspelling
    have hy2 := two_le_occurrences he hd hne.symm hy hx hspelling.symm
    rw [ident_eq_ite, ident_eq_ite, if_neg (by omega), if_neg (by omega), hspelling, ne_eq,
      String.append_left_inj]
    exact hne

/-- Records called `Node` and `Mixed`, the first of them experimental. -/
def recordsDomain : Domain :=
  ⟨"A", none, false, [⟨"Node", none, true, .composite []⟩, ⟨"Mixed", none, false, .composite []⟩],
    [], []⟩

/-- Another record called `Node`, a number called `Mixed`, and a command called `node`. -/
def numbersDomain : Domain :=
  ⟨"B", none, false,
    [⟨"Node", none, false, .composite []⟩, ⟨"Mixed", none, false, .primitive .integer⟩],
    [⟨"node", none, false, [], []⟩], []⟩

/-- The experimental `Node` of `A` is counted, and told apart from the command `node` of `B`. -/
theorem build_describes_of_sharedNames :
    let table := build [recordsDomain, numbersDomain]
    table.occurrences "node" = 3 ∧ table.isValue "Mixed" = true ∧
      table.ident "A" "Node" = "ANode" ∧ table.ident "A" "Node" ≠ table.ident "B" "node" := by
  intro table
  have h : table.Describes [recordsDomain, numbersDomain] := build_describes _
  have hcount : table.occurrences "node" = 3 := (h.occurrences "node").trans (by decide)
  have hident : table.ident "A" "Node" = "ANode" := (h.ident "A" "Node").trans (by decide)
  have hvalue : table.isValue "Mixed" = true :=
    (h.isValue "Mixed").mpr ⟨_, .tail _ (.head _), _, .tail _ (.head _), rfl, by simp⟩
  have hnode : Declaration.type ⟨"Node", none, true, .composite []⟩ ∈
      recordsDomain.declarations := .head _
  have hcommand : Declaration.command ⟨"node", none, false, [], []⟩ ∈
      numbersDomain.declarations := .tail _ (.tail _ (.head _))
  have hspelling : Naming.typeIdent "Node" = Naming.typeIdent "node" := by decide
  have hapart := h.ident_ne recordsDomain (.head _) numbersDomain (.tail _ (.head _)) (by decide)
    _ hnode _ hcommand hspelling
  exact ⟨hcount, hvalue, hident, hapart⟩

end NameTable

/-! ## Which references are boxed -/

/-- All types of this name are records, whichever domain they are in. -/
def OnlyRecords (domains : List Domain) (name : String) : Prop :=
  ∀ d ∈ domains, ∀ t ∈ d.types, t.name = name → ∃ properties, t.shape = .composite properties

theorem NameTable.isValue_build_iff_not_onlyRecords {domains : List Domain} {name : String} :
    (build domains).isValue name = true ↔ ¬ OnlyRecords domains name := by
  rw [isValue_build_iff_not_record]
  simp only [OnlyRecords, not_forall, not_exists, exists_prop]

/-- The name of the type of a primitive value. -/
def Primitive.spelling : Primitive → String
  | .number => "f64"
  | .integer => "i64"
  | .boolean => "bool"
  | .string => "String"
  | .any => "Box<RawValue>"
  | .object => "HashMap<String, String>"

/-- How the type of a shape is spelled, given how the reference in it is. -/
def Shape.spelling : Shape → String → String
  | .primitive kind, _ => kind.spelling
  | .enumeration _, _ => "String"
  | .composite _, _ => "HashMap<String, String>"
  | .array items, inner => "Vec<" ++ items.spelling inner ++ ">"
  | .reference _, inner => inner

namespace CodeType

theorem text_ofPrimitive (kind : Primitive) : (ofPrimitive kind).text = kind.spelling := by
  cases kind <;> rfl

/-- The text of the type that a declaration of a domain uses for a shape. -/
def spelled? (table : NameTable) (domain declaration : String) (shape : Shape) :
    Except Error String :=
  text <$> ofShape? table domain declaration shape

variable {table : NameTable} {domain declaration : String}

/-- A layer of an array puts a vector around what it has. -/
theorem spelled?_array (items : Shape) :
    spelled? table domain declaration (.array items) =
      (fun inner => "Vec<" ++ inner ++ ">") <$> spelled? table domain declaration items := by
  unfold spelled?
  rw [ofShape?]
  cases ofShape? table domain declaration items with
  | error e => rfl
  | ok type => rfl

/-- Without a reference the shape alone decides. -/
theorem spelled?_of_no_reference (inner : String) : ∀ shape : Shape,
    shape.reference? = none →
      spelled? table domain declaration shape = .ok (shape.spelling inner)
  | .primitive kind, _ => congrArg Except.ok (text_ofPrimitive kind)
  | .enumeration _, _ => rfl
  | .composite _, _ => rfl
  | .array items, h => by
    rw [spelled?_array, spelled?_of_no_reference inner items h]
    rfl

/-- With a reference the shape puts around it what it has, at any depth. -/
theorem spelled?_of_reference {reference inner : String}
    (hinner : spelled? table domain declaration (.reference reference) = .ok inner) :
    ∀ shape : Shape, shape.reference? = some reference →
      spelled? table domain declaration shape = .ok (shape.spelling inner)
  | .reference target, h => by
    obtain rfl := Option.some.inj h
    exact hinner
  | .array items, h => by
    rw [spelled?_array, spelled?_of_reference hinner items h]
    rfl

/-- A reference that resolves is spelled as the identifier of its target, boxed or not. -/
theorem spelled?_reference (declaration : String) {reference owner name : String}
    (h : table.resolve? domain reference = some (owner, name)) :
    spelled? table domain declaration (.reference reference) =
      .ok (if table.isValue name then table.ident owner name
        else "Box<" ++ table.ident owner name ++ ">") := by
  unfold spelled?
  rw [ofShape?_reference_eq_ok_iff.mpr ⟨owner, name, h, rfl⟩]
  split <;> rfl

end CodeType

/-- A box around a text makes it longer. -/
theorem boxed_ne (ident : String) : "Box<" ++ ident ++ ">" ≠ ident := by
  intro h
  have hlength := congrArg String.length h
  have hopening : "Box<".length = 4 := rfl
  rw [String.length_append, String.length_append] at hlength
  omega

/-- **When a reference is boxed.** For the table of a schema, a shape with a reference that resolves
is spelled, however deep in arrays the reference stands, around the identifier of its target: boxed
if and only if every type of the bare name of the target is a record, and bare otherwise. All else
is a matter of the shape: without a reference in it, so is the whole text. -/
theorem boxing_rule (domains : List Domain) (domain declaration : String) (shape : Shape) :
    let table := NameTable.build domains
    let spelled := CodeType.spelled? table domain declaration shape
    (∀ reference owner name, shape.reference? = some reference →
      table.resolve? domain reference = some (owner, name) →
        ∃ text, spelled = .ok (shape.spelling text) ∧
          (text = "Box<" ++ table.ident owner name ++ ">" ↔ OnlyRecords domains name) ∧
          (text = table.ident owner name ↔ ¬ OnlyRecords domains name)) ∧
    (shape.reference? = none → ∀ text, spelled = .ok (shape.spelling text)) := by
  intro table spelled
  refine ⟨fun reference owner name hreference hresolve => ?_, fun hnone text => ?_⟩
  · have hinner := CodeType.spelled?_reference declaration hresolve
    refine ⟨_, CodeType.spelled?_of_reference hinner shape hreference, ?_⟩
    have hrecords : table.isValue name = true ↔ ¬ OnlyRecords domains name :=
      NameTable.isValue_build_iff_not_onlyRecords
    by_cases hvalue : table.isValue name = true
    · rw [if_pos hvalue]
      have hmixed := hrecords.mp hvalue
      exact ⟨iff_of_false (boxed_ne _).symm hmixed, iff_of_true rfl hmixed⟩
    · rw [if_neg hvalue]
      have honly : OnlyRecords domains name := not_not.mp (mt hrecords.mpr hvalue)
      exact ⟨iff_of_true rfl honly, iff_of_false (boxed_ne _) (not_not.mpr honly)⟩
  · exact CodeType.spelled?_of_no_reference text shape hnone

/-- The record `Node` of the one domain is boxed, within two arrays of the other; `Mixed` is bare in
both, as it is a number in one. -/
theorem boxing_rule_of_sharedNames :
    let domains := [NameTable.recordsDomain, NameTable.numbersDomain]
    let table := NameTable.build domains
    let nodes : Shape := .array (.array (.reference "A.Node"))
    nodes.reference? = some "A.Node" ∧ table.resolve? "B" "A.Node" = some ("A", "Node") ∧
      OnlyRecords domains "Node" ∧
      CodeType.spelled? table "B" "Holder" nodes = .ok "Vec<Vec<Box<ANode>>>" ∧
      ¬ OnlyRecords domains "Mixed" ∧
      CodeType.spelled? table "A" "Holder" (.reference "Mixed") = .ok "AMixed" ∧
      CodeType.spelled? table "A" "Holder" (.array (.primitive .any)) =
        .ok "Vec<Box<RawValue>>" := by
  intro domains table nodes
  have hresolve : table.resolve? "B" "A.Node" = some ("A", "Node") := by decide
  have hmixed : table.resolve? "A" "Mixed" = some ("A", "Mixed") := by decide
  have honly : OnlyRecords domains "Node" :=
    not_not.mp (mt NameTable.isValue_build_iff_not_onlyRecords.mpr (by decide))
  have hother : ¬ OnlyRecords domains "Mixed" :=
    NameTable.isValue_build_iff_not_onlyRecords.mp (by decide)
  have hnodes := (boxing_rule domains "B" "Holder" nodes).1 _ _ _ rfl hresolve
  have hbare := (boxing_rule domains "A" "Holder" (.reference "Mixed")).1 _ _ _ rfl hmixed
  have hraw := (boxing_rule domains "A" "Holder" (.array (.primitive .any))).2 rfl ""
  obtain ⟨text, hspelled, hboxed, -⟩ := hnodes
  obtain ⟨text', hspelled', -, hident⟩ := hbare
  rw [hboxed.mpr honly] at hspelled
  rw [hident.mpr hother] at hspelled'
  exact ⟨rfl, hresolve, honly, hspelled.trans (congrArg Except.ok (by decide)), hother,
    hspelled'.trans (congrArg Except.ok (by decide)), hraw⟩

end Bindery
