import Bindery.Binding.Enumeration
import Bindery.Proofs.NumberedNames
import Bindery.Proofs.Results
import Bindery.Proofs.SnakeCase
import Mathlib.Logic.Basic

/-!
# Words

The names of fields and constants come from texts that may hold anything, and still are words: they
consist of identifier characters, and of the mark that a raw identifier carries
(`isWord_fieldIdent`, `isWord_of_mem_constants`). So no quote and no bracket gets into generated
code by way of a name that was made up for it.

A name that is a keyword is escaped: it becomes a raw identifier, or gets an underscore behind it
where it cannot be one (`Naming.escapeKeyword_cases`). To the generated code a raw identifier is the
name without the mark, its `bareName`. Escaping is undone by taking the bare name, unless the name
is one that no raw identifier spells (`bareName_escapeKeyword_iff`), and what comes out of it is
never a keyword (`Naming.escapeKeyword_not_mem_keywords`).
-/

namespace Bindery

open Text

/-! ## Escaped keywords -/

/-- An identifier without the mark of a raw one. -/
def bareName : List Char → List Char
  | 'r' :: '#' :: rest => rest
  | name => name

theorem bareName_eq_self_iff {name : List Char} :
    bareName name = name ↔ ¬ "r#".toList <+: name := by
  unfold bareName
  split
  · rename_i rest
    refine ⟨fun heq => ?_, fun hraw => absurd ⟨rest, rfl⟩ hraw⟩
    have hlength := congrArg List.length heq
    simp only [List.length_cons] at hlength
    omega
  · rename_i hother
    refine ⟨fun _ ⟨rest, hrest⟩ => hother rest ?_, fun _ => rfl⟩
    exact hrest.symm

theorem bareName_of_not_mem {name : List Char} (h : '#' ∉ name) : bareName name = name :=
  bareName_eq_self_iff.mpr fun hraw =>
    h (hraw.subset (List.mem_cons_of_mem _ List.mem_cons_self))

/-- The bare name of a raw identifier. -/
theorem bareName_raw (name : String) : bareName ("r#" ++ name).toList = name.toList := by
  rw [String.toList_append]
  rfl

namespace Naming

/-- A name is escaped only in place of a keyword: it gets an underscore behind it, or the mark of a
raw identifier in front. -/
theorem escapeKeyword_cases (name : String) :
    (name ∈ pathKeywords ∧ escapeKeyword name = name ++ "_") ∨
    (name ∈ keywords ∧ name ∉ pathKeywords ∧ escapeKeyword name = "r#" ++ name) ∨
    (name ∉ keywords ∧ name ∉ pathKeywords ∧ escapeKeyword name = name) := by
  unfold escapeKeyword
  split
  · rename_i hpath
    exact .inl ⟨List.contains_iff_mem.mp hpath, rfl⟩
  · rename_i hpath
    have hpath : name ∉ pathKeywords := fun hmem => hpath (List.contains_iff_mem.mpr hmem)
    split
    · rename_i hkeyword
      exact .inr (.inl ⟨List.contains_iff_mem.mp hkeyword, hpath, rfl⟩)
    · rename_i hkeyword
      exact .inr (.inr ⟨fun hmem => hkeyword (List.contains_iff_mem.mpr hmem), hpath, rfl⟩)

/-- What stands in place of a name is never a keyword. -/
theorem escapeKeyword_not_mem_keywords (name : String) : escapeKeyword name ∉ keywords := by
  have hunderscored : ∀ path ∈ pathKeywords, path ++ "_" ∉ keywords := by decide
  have hraw : ∀ keyword ∈ keywords, "r#" ++ keyword ∉ keywords := by decide
  rcases escapeKeyword_cases name with ⟨hpath, heq⟩ | ⟨hkeyword, -, heq⟩ | ⟨hnone, -, heq⟩
  · rw [heq]
    exact hunderscored name hpath
  · rw [heq]
    exact hraw name hkeyword
  · rwa [heq]

/-- The mark of raw identifiers gets into a name by way of a keyword only. -/
theorem eq_raw_of_mem_escapeKeyword {name : String} (hname : '#' ∉ name.toList)
    (h : '#' ∈ (escapeKeyword name).toList) :
    name ∈ keywords ∧ escapeKeyword name = "r#" ++ name := by
  rcases escapeKeyword_cases name with ⟨-, heq⟩ | ⟨hkeyword, -, heq⟩ | ⟨-, -, heq⟩
  · rw [heq, String.toList_append, List.mem_append] at h
    rcases h with h | h
    · exact absurd h hname
    · exact absurd h (by decide)
  · exact ⟨hkeyword, heq⟩
  · rw [heq] at h
    exact absurd h hname

end Naming

/-- An escaped name, taken as bare, is the name unless it cannot be raw or looks raw already. -/
theorem bareName_escapeKeyword_iff (name : String) :
    bareName (Naming.escapeKeyword name).toList = name.toList ↔
      name ∉ Naming.pathKeywords ∧ ¬ "r#".toList <+: name.toList := by
  rcases Naming.escapeKeyword_cases name with ⟨hpath, heq⟩ | ⟨hkeyword, hpath, heq⟩ |
    ⟨-, hpath, heq⟩
  · have hescaped : ∀ path ∈ Naming.pathKeywords,
        bareName (path ++ "_").toList ≠ path.toList := by
      decide
    rw [heq]
    exact ⟨fun hbare => absurd hbare (hescaped name hpath), fun h => absurd hpath h.1⟩
  · have hraw : ∀ keyword ∈ Naming.keywords, ¬ "r#".toList <+: keyword.toList := by decide
    rw [heq]
    exact ⟨fun _ => ⟨hpath, hraw name hkeyword⟩, fun _ => bareName_raw name⟩
  · rw [heq, bareName_eq_self_iff]
    exact (and_iff_right hpath).symm

/-- Escaping a keyword adds no characters but those of the mark and the underscore. -/
theorem mem_escapeKeyword {name : String} {c : Char} (hc : c ∉ ['r', '#', '_']) :
    c ∈ (Naming.escapeKeyword name).toList ↔ c ∈ name.toList := by
  simp only [List.mem_cons, List.not_mem_nil, or_false, not_or] at hc
  rcases Naming.escapeKeyword_cases name with ⟨-, heq⟩ | ⟨-, -, heq⟩ | ⟨-, -, heq⟩ <;>
    simp [heq, hc]

/-! ## Identifier characters -/

/-- A text of identifier characters, and of the mark of raw identifiers. -/
def IsWord (s : String) : Prop := ∀ c ∈ s.toList, Naming.isIdentChar c = true ∨ c = '#'

instance (s : String) : Decidable (IsWord s) := List.decidableBAll _ _

theorem IsWord.append {s t : String} (hs : IsWord s) (ht : IsWord t) : IsWord (s ++ t) := by
  intro c hc
  rw [String.toList_append] at hc
  rcases List.mem_append.mp hc with hc | hc
  · exact hs c hc
  · exact ht c hc

/-- What no word holds. -/
theorem IsWord.not_mem {s : String} (hs : IsWord s) {c : Char}
    (hc : Naming.isIdentChar c = false ∧ c ≠ '#') : c ∉ s.toList := by
  intro hmem
  rcases hs c hmem with h | h
  · rw [hc.1] at h
    cases h
  · exact hc.2 h

/-! ## Plain names -/

/-- An ASCII letter or digit, or an underscore. -/
def isPlain (c : Char) : Bool := c.isAlphanum || c == '_'

/-- A name of plain characters only. -/
def IsPlainName (s : String) : Prop := ∀ c ∈ s.toList, isPlain c = true

instance (s : String) : Decidable (IsPlainName s) := List.decidableBAll _ _

theorem toNat_lt_of_isPlain {c : Char} (h : isPlain c = true) : c.toNat < 128 := by
  have hcode : c.toNat = c.val.toNat := rfl
  delta isPlain Char.isAlphanum Char.isAlpha Char.isUpper Char.isLower Char.isDigit at h
  simp only [Bool.or_eq_true, Bool.and_eq_true, decide_eq_true_eq, UInt32.le_iff_toNat_le,
    ge_iff_le, beq_iff_eq] at h
  rcases h with h | rfl
  · have hupper : 'Z'.val.toNat = 90 := rfl
    have hlower : 'z'.val.toNat = 122 := rfl
    have hdigit : '9'.val.toNat = 57 := rfl
    omega
  · decide

theorem isIdentChar_of_isPlain {c : Char} (h : isPlain c = true) : Naming.isIdentChar c = true := by
  rw [Naming.isIdentChar, isAlphanumeric_of_ascii (toNat_lt_of_isPlain h)]
  exact h

theorem isPlain_recased {c : Char} (hascii : c.toNat < 128) :
    isPlain c = true → isPlain c.toUpper = true ∧ isPlain c.toLower = true :=
  forall_ascii
    (p := fun c => isPlain c = true → isPlain c.toUpper = true ∧ isPlain c.toLower = true)
    (by decide) hascii

/-- Changing the case of a plain character gives a plain character. -/
theorem isPlain_of_mem_recased {c d : Char} (hc : isPlain c = true)
    (hd : d ∈ toUpper c ∨ d ∈ toLower c) : isPlain d = true := by
  have hascii := toNat_lt_of_isPlain hc
  have hrecased := isPlain_recased hascii hc
  rw [toUpper_of_ascii hascii, toLower_of_ascii hascii, List.mem_singleton,
    List.mem_singleton] at hd
  rcases hd with rfl | rfl
  · exact hrecased.1
  · exact hrecased.2

/-- A property that the underscore has, and that no change to lower case takes away, passes from the
characters of a name to those of its snake-case spelling. -/
theorem Naming.forall_mem_snakeCharsFrom {p : Char → Prop} (hunderscore : p '_')
    (hlower : ∀ c, p c → ∀ d ∈ toLower c, p d) {cs : List Char} (hcs : ∀ c ∈ cs, p c) :
    ∀ c ∈ snakeCharsFrom none [] cs, p c := by
  intro c hc
  by_cases hword : c = '_'
  · rw [hword]
    exact hunderscore
  · have hmem := (mem_snakeCharsFrom_iff hword none [] cs).mp hc
    obtain ⟨d, hd, hwritten⟩ := hmem.resolve_left List.not_mem_nil
    exact forall_mem_written hlower (hcs d hd) c hwritten

namespace IsPlainName

theorem isWord {s : String} (h : IsPlainName s) : IsWord s :=
  fun c hc => .inl (isIdentChar_of_isPlain (h c hc))

theorem append {s t : String} (hs : IsPlainName s) (ht : IsPlainName t) : IsPlainName (s ++ t) := by
  intro c hc
  rw [String.toList_append] at hc
  rcases List.mem_append.mp hc with hc | hc
  · exact hs c hc
  · exact ht c hc

/-- The exported spelling of a plain name is plain. -/
theorem typeIdent {name : String} (h : IsPlainName name) : IsPlainName (Naming.typeIdent name) := by
  intro c hc
  rw [Naming.typeIdent, String.toList_ofList] at hc
  unfold Naming.typeChars at hc
  split at hc
  · exact absurd hc List.not_mem_nil
  · rename_i first rest hname
    rw [IsPlainName, hname] at h
    rcases List.mem_append.mp hc with hc | hc
    · exact isPlain_of_mem_recased (h first List.mem_cons_self) (.inl hc)
    · exact h c (List.mem_cons_of_mem _ hc)

/-- So are identifiers, qualified or not. -/
theorem ident {table : NameTable} {domain name : String} (hdomain : IsPlainName domain)
    (hname : IsPlainName name) : IsPlainName (table.ident domain name) := by
  unfold NameTable.ident
  split
  · exact hdomain.append hname.typeIdent
  · exact hname.typeIdent

/-- The snake-case spelling of a plain name is plain. -/
theorem snakeCase {name : String} (h : IsPlainName name) : IsPlainName (Naming.snakeCase name) := by
  intro c hc
  rw [Naming.snakeCase, String.toList_ofList] at hc
  exact Naming.forall_mem_snakeCharsFrom (by decide)
    (fun _ hplain _ hd => isPlain_of_mem_recased hplain (.inr hd)) h c hc

end IsPlainName

/-! ## Names made up for texts -/

/-- What is made up for a text holds nothing but identifier characters. -/
theorem isIdentChar_of_mem_sanitizeChars {cs : List Char} {c : Char}
    (h : c ∈ Naming.sanitizeChars cs) : Naming.isIdentChar c = true := by
  have hkept : ∀ c ∈ cs.map fun c => if Naming.isIdentChar c then c else '_',
      Naming.isIdentChar c = true := by
    intro c hc
    obtain ⟨d, -, rfl⟩ := List.mem_map.mp hc
    split
    · assumption
    · decide
  rw [Naming.sanitizeChars] at h
  split at h
  · obtain rfl := List.mem_singleton.mp h
    decide
  · split at h
    · rcases List.mem_cons.mp h with rfl | h
      · decide
      · exact hkept c h
    · exact hkept c h

theorem Naming.hash_not_mem_sanitize (cs : List Char) :
    '#' ∉ (String.ofList (sanitizeChars cs)).toList := by
  rw [String.toList_ofList]
  exact fun hmem => absurd (isIdentChar_of_mem_sanitizeChars hmem) (by decide)

theorem isWord_sanitize (cs : List Char) : IsWord (String.ofList (Naming.sanitizeChars cs)) := by
  intro c hc
  rw [String.toList_ofList] at hc
  exact .inl (isIdentChar_of_mem_sanitizeChars hc)

theorem isWord_escapeKeyword {s : String} (hs : IsWord s) : IsWord (Naming.escapeKeyword s) := by
  rcases Naming.escapeKeyword_cases s with ⟨-, heq⟩ | ⟨-, -, heq⟩ | ⟨-, -, heq⟩
  · rw [heq]
    exact hs.append (by decide)
  · rw [heq]
    exact IsWord.append (by decide) hs
  · rwa [heq]

theorem isWord_candidate {base mark : String} (hbase : IsWord base) (hmark : IsWord mark)
    (k : Nat) : IsWord (candidate base mark k) := by
  intro c hc
  rcases mem_candidate hc with hc | hc | hdigit
  · exact hbase c hc
  · exact hmark c hc
  · refine .inl (isIdentChar_of_isPlain ?_)
    rw [isPlain, Char.isAlphanum, hdigit, Bool.or_true, Bool.true_or]

theorem isWord_firstUnused (taken : List String) {base mark : String} (hbase : IsWord base)
    (hmark : IsWord mark) : IsWord (firstUnused taken base mark) := by
  obtain ⟨k, -, hname, -⟩ := firstUnused_eq_candidate taken base mark
  rw [hname]
  exact isWord_candidate hbase hmark k

/-- **The field of any property is named by a word.** -/
theorem isWord_fieldIdent (wireName : String) : IsWord (Naming.fieldIdent wireName) :=
  isWord_escapeKeyword (isWord_sanitize _)

/-! ## Constants -/

/-- The escaped transliteration of a literal. -/
def Naming.constantName (literal : String) : String := escapeKeyword (enumConstIdent literal)

namespace Enumeration

open Naming (constantName)

/-- The constants are named in a row. -/
theorem constantsFrom_eq_zip (taken literals : List String) :
    constantsFrom taken literals =
      (namesFrom "" taken (literals.map constantName)).zip literals := by
  induction literals generalizing taken with
  | nil => rfl
  | cons literal rest ih =>
    rw [constantsFrom, ih]
    rfl

theorem map_fst_constants (literals : List String) :
    (constants literals).map Prod.fst = namesFrom "" [] (literals.map constantName) := by
  rw [constants, constantsFrom_eq_zip, List.map_fst_zip]
  exact Nat.le_of_eq (by rw [length_namesFrom, List.length_map])

/-- A constant is numbered from the transliteration of a literal. -/
theorem exists_candidate_of_mem_constants {literals : List String} {constant : String × String}
    (h : constant ∈ constants literals) :
    ∃ literal k, constant.1 = candidate (constantName literal) "" k := by
  have hname : constant.1 ∈ namesFrom "" [] (literals.map constantName) := by
    rw [← map_fst_constants]
    exact List.mem_map_of_mem h
  obtain ⟨base, hbase, k, hcandidate⟩ := exists_candidate_of_mem hname
  obtain ⟨literal, -, rfl⟩ := List.mem_map.mp hbase
  exact ⟨literal, k, hcandidate⟩

end Enumeration

/-- **The constant of any literal is named by a word.** -/
theorem isWord_of_mem_constants {literals : List String} {constant : String × String}
    (h : constant ∈ Enumeration.constants literals) : IsWord constant.1 := by
  obtain ⟨literal, k, hname⟩ := Enumeration.exists_candidate_of_mem_constants h
  rw [hname]
  exact isWord_candidate (isWord_escapeKeyword (isWord_sanitize _))
    (fun c hc => absurd hc List.not_mem_nil) k

/-- Constants stand in the order of their literals. -/
theorem map_snd_constants (literals : List String) :
    (Enumeration.constants literals).map Prod.snd = literals := by
  rw [Enumeration.constants, Enumeration.constantsFrom_eq_zip, List.map_snd_zip]
  exact Nat.le_of_eq (by rw [length_namesFrom, List.length_map])

/-! ## Fields -/

/-- The field that carries a property. -/
structure Record.Carries (table : NameTable) (domain declaration : String) (p : Property)
    (f : RecordField) : Prop where
  wireName : f.wireName = p.name
  ident : IsWord f.ident
  type : fieldType? table domain declaration p = .ok f.type

/-- **A record has one field for each property**, in the same order. -/
theorem Record.forall₂_carries {table : NameTable} {domain declaration : String}
    {properties : List Property} {taken : List String} {fields : List RecordField}
    (h : fieldsFrom? table domain declaration taken properties = .ok fields) :
    List.Forall₂ (Carries table domain declaration) properties fields := by
  induction properties generalizing taken fields with
  | nil =>
    obtain rfl := Except.ok.inj h
    exact .nil
  | cons p rest ih =>
    rw [fieldsFrom?] at h
    obtain ⟨type, htype, h⟩ := Except.bind_eq_ok_iff.mp h
    obtain ⟨later, hlater, h⟩ := Except.bind_eq_ok_iff.mp h
    obtain rfl := Except.ok.inj h
    refine .cons ⟨rfl, ?_, htype⟩ (ih hlater)
    exact isWord_firstUnused _ (isWord_fieldIdent _) (by decide)

theorem Record.wireNames_eq {table : NameTable} {domain declaration : String}
    {properties : List Property} {fields : List RecordField}
    (h : List.Forall₂ (Carries table domain declaration) properties fields) :
    fields.map (·.wireName) = properties.map (·.name) := by
  induction h with
  | nil => rfl
  | cons hfirst _ ih => rw [List.map_cons, List.map_cons, hfirst.wireName, ih]

end Bindery
