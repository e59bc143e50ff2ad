import Bindery.Proofs.Json.Scalars

/-!
# What is written into a text

A `Content` is what a writer puts into a text: integers, strings, texts that are JSON already, lists
and objects. Its document is the one that is written without white space; it is well formed if the
raw texts in it are JSON (`Content.wellFormed_doc`). How deep a content nests counts the lists and
objects that a reader has to enter, so that the inside of a raw text does not count.
-/

namespace Bindery.Json

/-! ## Documents without white space -/

/-- What stands between the values of a list: nothing in front of the first. -/
def compactSeparator (first : Bool) : List Char := if first then [] else [',']

/-- What follows the opening bracket of an array of the given values, or one of them. -/
def Items.ofList (first : Bool) : List Doc → Items
  | [] => .close []
  | doc :: rest => .item (compactSeparator first) doc (ofList false rest)

/-- What follows the opening brace of an object of the given members, or one of them. -/
def Members.ofList (first : Bool) : List (String × Doc) → Members
  | [] => .close []
  | (key, doc) :: rest =>
    .member (compactSeparator first) (escape key.toList) [':'] doc (ofList false rest)

theorem isSeparator_compact (first : Bool) : IsSeparator first (compactSeparator first) := by
  cases first with
  | true => exact isSpaces_nil
  | false => exact ⟨[], [], isSpaces_nil, isSpaces_nil, rfl⟩

theorem isColon_compact : IsColon [':'] := ⟨[], [], isSpaces_nil, isSpaces_nil, rfl⟩

theorem Items.wellFormed_ofList {docs : List Doc} (h : ∀ doc ∈ docs, doc.WellFormed)
    (first : Bool) : (Items.ofList first docs).WellFormed first := by
  induction docs generalizing first with
  | nil => exact isSpaces_nil
  | cons doc rest ih =>
    exact ⟨isSeparator_compact first, h doc List.mem_cons_self,
      ih (fun d hd => h d (List.mem_cons_of_mem _ hd)) false⟩

theorem Members.wellFormed_ofList {entries : List (String × Doc)}
    (h : ∀ entry ∈ entries, entry.2.WellFormed) (first : Bool) :
    (Members.ofList first entries).WellFormed first := by
  induction entries generalizing first with
  | nil => exact isSpaces_nil
  | cons entry rest ih =>
    exact ⟨isSeparator_compact first, isBody_escape _, isColon_compact,
      h entry List.mem_cons_self, ih (fun e he => h e (List.mem_cons_of_mem _ he)) false⟩

@[simp] theorem commaChars_cons (text : List Char) (texts : List (List Char)) :
    commaChars (text :: texts) = text ++ texts.flatMap (',' :: ·) := by
  induction texts generalizing text with
  | nil => simp [commaChars]
  | cons next rest ih =>
    have hstep : commaChars (text :: next :: rest) = text ++ ([','] ++ commaChars (next :: rest)) :=
      by
      simp [commaChars]
    rw [hstep, ih, List.flatMap_cons]
    simp

theorem Items.text_ofList_false (docs : List Doc) :
    (Items.ofList false docs).text = (docs.map (·.text)).flatMap (',' :: ·) ++ [']'] := by
  induction docs with
  | nil => rfl
  | cons doc rest ih =>
    simp only [Items.ofList, Items.text, ih, List.map_cons, List.flatMap_cons, compactSeparator]
    simp

/-- The text of an array of values is made of their texts. -/
theorem Items.text_array (docs : List Doc) :
    (Doc.array (.ofList true docs)).text = arrayChars (docs.map (·.text)) := by
  cases docs with
  | nil => rfl
  | cons doc rest =>
    rw [arrayChars, List.map_cons, commaChars_cons]
    simp [Doc.text, Items.ofList, Items.text, Items.text_ofList_false, compactSeparator]

theorem Members.text_ofList_false (entries : List (String × Doc)) :
    (Members.ofList false entries).text =
      (entries.map fun entry => memberChars entry.1 entry.2.text).flatMap (',' :: ·) ++
        ['\x7d'] := by
  induction entries with
  | nil => rfl
  | cons entry rest ih =>
    simp only [Members.ofList, Members.text, ih, List.map_cons, List.flatMap_cons,
      compactSeparator]
    simp [memberChars, stringChars]

/-- The text of an object of members is made of their names and texts. -/
theorem Members.text_object (entries : List (String × Doc)) :
    (Doc.object (.ofList true entries)).text =
      objectChars (entries.map fun entry => (entry.1, entry.2.text)) := by
  cases entries with
  | nil => rfl
  | cons entry rest =>
    rw [objectChars, List.map_map, List.map_cons, commaChars_cons]
    simp [Doc.text, Members.ofList, Members.text, Members.text_ofList_false, compactSeparator,
      memberChars, stringChars, Function.comp_def]

/-- The names of the members of an object, as they are written. -/
def Members.keys : Members → List (List Char)
  | .member _ key _ _ rest => key :: rest.keys
  | _ => []

theorem Members.keys_ofList (entries : List (String × Doc)) (first : Bool) :
    (Members.ofList first entries).keys = entries.map fun entry => escape entry.1.toList := by
  induction entries generalizing first with
  | nil => rfl
  | cons entry rest ih =>
    show escape entry.1.toList :: (Members.ofList false rest).keys = _
    rw [ih false, List.map_cons]

theorem decodeItems_ofList {α : Type} {decode : Doc → Except Fault α} {docs : List Doc}
    {xs : List α} (h : List.Forall₂ (fun doc x => decode doc = .ok x) docs xs) (first : Bool) :
    decodeItems decode (.ofList first docs) = .ok xs := by
  induction h generalizing first with
  | nil => rfl
  | @cons doc x docs xs hdoc _ ih =>
    show decodeItems decode (.item _ doc (.ofList false docs)) = .ok (x :: xs)
    rw [decodeItems, hdoc, ih false]
    rfl

/-! ## Contents -/

/-- What is written into a text. -/
inductive Content where
  | integer (value : Int)
  | string (value : String)
  /-- A text that is JSON already. -/
  | raw (text : RawText)
  | array (items : List Content)
  | object (members : List (String × Content))

/-- The members that are not absent. -/
def present {α : Type} (members : List (String × Option α)) : List (String × α) :=
  members.filterMap fun member => member.2.map fun value => (member.1, value)

namespace Content

mutual

/-- The document of a content, without white space. -/
def doc : Content → Doc
  | .integer n => .number (intChars n)
  | .string s => .string (escape s.toList)
  | .raw text => text.doc
  | .array items => .array (.ofList true (docs items))
  | .object members => .object (.ofList true (memberDocs members))

def docs : List Content → List Doc
  | [] => []
  | item :: rest => item.doc :: docs rest

def memberDocs : List (String × Content) → List (String × Doc)
  | [] => []
  | (key, value) :: rest => (key, value.doc) :: memberDocs rest

end

mutual

/-- How many lists and objects stand inside one another, raw texts not looked into. -/
def depth : Content → Nat
  | .array items => greatestDepth items + 1
  | .object members => greatestMemberDepth members + 1
  | _ => 0

def greatestDepth : List Content → Nat
  | [] => 0
  | item :: rest => max item.depth (greatestDepth rest)

def greatestMemberDepth : List (String × Content) → Nat
  | [] => 0
  | (_, value) :: rest => max value.depth (greatestMemberDepth rest)

end

mutual

/-- The raw texts in a content. -/
def rawTexts : Content → List RawText
  | .raw text => [text]
  | .array items => rawTextsOf items
  | .object members => memberRawTexts members
  | _ => []

def rawTextsOf : List Content → List RawText
  | [] => []
  | item :: rest => item.rawTexts ++ rawTextsOf rest

def memberRawTexts : List (String × Content) → List RawText
  | [] => []
  | (_, value) :: rest => value.rawTexts ++ memberRawTexts rest

end

@[simp] theorem docs_eq_map (items : List Content) : docs items = items.map (·.doc) := by
  induction items with
  | nil => rfl
  | cons item rest ih => rw [docs, ih, List.map_cons]

@[simp] theorem memberDocs_eq_map (members : List (String × Content)) :
    memberDocs members = members.map fun member => (member.1, member.2.doc) := by
  induction members with
  | nil => rfl
  | cons member rest ih => rw [memberDocs, ih, List.map_cons]

/-- The raw texts of a content are JSON. -/
def Valid (content : Content) : Prop := ∀ raw ∈ content.rawTexts, raw.IsValue

mutual

/-- **What is written is JSON.** -/
theorem wellFormed_doc : ∀ {content : Content}, content.Valid → content.doc.WellFormed
  | .integer n, _ => isNumber_intChars n
  | .string _, _ => isBody_escape _
  | .raw text, h => (h text List.mem_cons_self).doc_spec.1
  | .array _, h => Items.wellFormed_ofList (wellFormed_docs h) true
  | .object _, h => Members.wellFormed_ofList (wellFormed_memberDocs h) true

theorem wellFormed_docs : ∀ {items : List Content}, (∀ raw ∈ rawTextsOf items, raw.IsValue) →
    ∀ doc ∈ docs items, doc.WellFormed
  | [], _, _, hdoc => absurd hdoc List.not_mem_nil
  | item :: rest, h, doc, hdoc => by
    rcases List.mem_cons.mp hdoc with rfl | hdoc
    · exact wellFormed_doc fun raw hraw => h raw (List.mem_append_left _ hraw)
    · exact wellFormed_docs (fun raw hraw => h raw (List.mem_append_right _ hraw)) doc hdoc

theorem wellFormed_memberDocs : ∀ {members : List (String × Content)},
    (∀ raw ∈ memberRawTexts members, raw.IsValue) →
      ∀ entry ∈ memberDocs members, entry.2.WellFormed
  | [], _, _, hentry => absurd hentry List.not_mem_nil
  | (key, value) :: rest, h, entry, hentry => by
    rcases List.mem_cons.mp hentry with rfl | hentry
    · exact wellFormed_doc fun raw hraw => h raw (List.mem_append_left _ hraw)
    · exact wellFormed_memberDocs (fun raw hraw => h raw (List.mem_append_right _ hraw)) entry
        hentry

end

/-! ### Lists and records -/

theorem of_mem_array {items : List Content} {item : Content} (h : item ∈ items) :
    item.depth < (array items).depth ∧ item.doc.height < (array items).doc.height ∧
      item.rawTexts ⊆ (array items).rawTexts := by
  show item.depth < greatestDepth items + 1 ∧
    item.doc.height < (Items.ofList true (docs items)).height + 1 ∧
      item.rawTexts ⊆ rawTextsOf items
  -- the first separator differs from the others, so the induction is over both
  generalize true = first
  induction items generalizing first with
  | nil => exact absurd h List.not_mem_nil
  | cons other rest ih =>
    simp only [greatestDepth, docs, Items.ofList, Items.height, rawTextsOf]
    rcases List.mem_cons.mp h with rfl | h
    · exact ⟨by omega, by omega, List.subset_append_left _ _⟩
    · obtain ⟨hdepth, hheight, hraw⟩ := ih h false
      exact ⟨by omega, by omega, fun raw hmem => List.mem_append_right _ (hraw hmem)⟩

theorem of_mem_object {members : List (String × Content)} {key : String} {value : Content}
    (h : (key, value) ∈ members) :
    value.depth < (object members).depth ∧ value.doc.height < (object members).doc.height ∧
      value.rawTexts ⊆ (object members).rawTexts := by
  show value.depth < greatestMemberDepth members + 1 ∧
    value.doc.height < (Members.ofList true (memberDocs members)).height + 1 ∧
      value.rawTexts ⊆ memberRawTexts members
  generalize true = first
  induction members generalizing first with
  | nil => exact absurd h List.not_mem_nil
  | cons other rest ih =>
    obtain ⟨otherKey, otherValue⟩ := other
    simp only [greatestMemberDepth, memberDocs, Members.ofList, Members.height, memberRawTexts]
    rcases List.mem_cons.mp h with heq | h
    · obtain ⟨rfl, rfl⟩ := Prod.mk.inj heq
      exact ⟨by omega, by omega, List.subset_append_left _ _⟩
    · obtain ⟨hdepth, hheight, hraw⟩ := ih h false
      exact ⟨by omega, by omega, fun raw hmem => List.mem_append_right _ (hraw hmem)⟩

/-- The object of the members that are not absent. -/
def record (members : List (String × Option Content)) : Content := .object (present members)

/-- The documents of the members, absent ones included. -/
def entries (members : List (String × Option Content)) : List (String × Option Doc) :=
  members.map fun member => (member.1, member.2.map doc)

end Content

theorem mem_present {α : Type} {members : List (String × Option α)} {key : String} {value : α}
    (h : (key, some value) ∈ members) : (key, value) ∈ present members :=
  List.mem_filterMap.mpr ⟨_, h, rfl⟩

/-- What is made of the members is made of those that are present. -/
theorem map_present {α β : Type} (f : α → β) (members : List (String × Option α)) :
    (present members).map (fun member => (member.1, f member.2)) =
      present (members.map fun member => (member.1, member.2.map f)) := by
  induction members with
  | nil => rfl
  | cons member rest ih =>
    obtain ⟨key, value⟩ := member
    cases value with
    | none => exact ih
    | some value => exact congrArg (List.cons (key, f value)) ih

namespace Content

theorem Valid.of_mem_array {items : List Content} (h : (array items).Valid) {item : Content}
    (hmem : item ∈ items) : item.Valid :=
  fun raw hraw => h raw ((Content.of_mem_array hmem).2.2 hraw)

theorem Valid.of_mem_record {members : List (String × Option Content)}
    (h : (record members).Valid) {key : String} {value : Content}
    (hmem : (key, some value) ∈ members) : value.Valid :=
  fun raw hraw => h raw ((of_mem_object (mem_present hmem)).2.2 hraw)

theorem doc_record (members : List (String × Option Content)) :
    (record members).doc = .object (.ofList true (present (entries members))) := by
  show Doc.object (.ofList true (memberDocs (present members))) = _
  rw [memberDocs_eq_map, map_present]
  rfl

theorem text_array (items : List Content) :
    (array items).doc.text = arrayChars (items.map fun item => item.doc.text) := by
  show (Doc.array (.ofList true (docs items))).text = _
  rw [Items.text_array, docs_eq_map, List.map_map]
  rfl

/-- The texts of the members that are present. -/
def memberTexts (members : List (String × Option Content)) : List (String × List Char) :=
  present (members.map fun member => (member.1, member.2.map fun value => value.doc.text))

@[simp] theorem memberTexts_nil : memberTexts [] = [] := rfl

theorem memberTexts_some (key : String) (value : Content)
    (rest : List (String × Option Content)) :
    memberTexts ((key, some value) :: rest) = (key, value.doc.text) :: memberTexts rest := rfl

/-- A member that may be absent is written where it has a value. -/
theorem memberTexts_optional {α : Type} {key : String} {content : α → Content}
    {write : α → List Char} {value : Option α}
    (h : ∀ x, value = some x → (content x).doc.text = write x)
    (rest : List (String × Option Content)) :
    memberTexts ((key, value.map content) :: rest) =
      optionalMember key write value ++ memberTexts rest := by
  cases value with
  | none => rfl
  | some x => exact congrArg (fun chars => (key, chars) :: memberTexts rest) (h x rfl)

/-- The text of a record is made of the texts of its members. -/
theorem text_record (members : List (String × Option Content)) :
    (record members).doc.text = objectChars (memberTexts members) := by
  rw [doc_record, Members.text_object, map_present, entries, List.map_map, memberTexts]
  simp [Function.comp_def]

end Content

end Bindery.Json
