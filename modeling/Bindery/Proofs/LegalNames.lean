import Bindery.Proofs.Words

/-!
# Names that the generated code can use

A name made up for an ASCII text is an identifier of the generated code (`Naming.names_legal`):
behind the mark of a raw identifier, if it has one, it consists of letters, digits and underscores
and starts with no digit; it is no keyword, and the mark stands in front of none of the names that
it cannot make an identifier. Nor is it the underscore, which is not an identifier but a pattern,
unless the text holds no letter and no digit: changing the case of a text and marking the borders of
its words keeps its letters and digits, so that there is something left for sanitizing to keep. The
three passes have to come in this order. Taking separators out can leave a keyword, a digit in front
or nothing at all, and the last two passes mend that.
-/

namespace Bindery.Naming

open Text

/-! ## What an identifier is -/

/-- The keywords in use. -/
def strictKeywords : List String :=
  ["as", "async", "await", "break", "const", "continue", "crate", "dyn", "else", "enum", "extern",
    "false", "fn", "for", "if", "impl", "in", "let", "loop", "match", "mod", "move", "mut", "pub",
    "ref", "return", "self", "Self", "static", "struct", "super", "trait", "true", "type", "unsafe",
    "use", "where", "while"]

/-- The keywords that are not in use yet. -/
def reservedKeywords : List String :=
  ["abstract", "become", "box", "do", "final", "gen", "macro", "override", "priv", "try", "typeof",
    "unsized", "virtual", "yield"]

/-- The names that are keywords even with the mark of a raw identifier in front. -/
def unmarkedKeywords : List String := ["crate", "self", "Self", "super"]

/-- Characters of which an identifier can consist: letters, digits and underscores, with no digit in
front. -/
def IsIdentChars (cs : List Char) : Prop :=
  ∃ first rest, cs = first :: rest ∧ first.isDigit = false ∧ ∀ c ∈ cs, isPlain c = true

/-- An identifier of the generated code that is made up for a text. -/
structure IsLegalFor (text ident : String) : Prop where
  chars : IsIdentChars (bareName ident.toList)
  not_keyword : ident ∉ strictKeywords ++ reservedKeywords
  not_marked : ∀ keyword ∈ unmarkedKeywords, ident ≠ "r#" ++ keyword
  underscore : ident = "_" → ∀ c ∈ text.toList, c.isAlphanum = false

theorem isPlain_of_isAlphanum {c : Char} (h : c.isAlphanum = true) : isPlain c = true := by
  rw [isPlain, h, Bool.true_or]

/-! ## Letters and digits are kept -/

theorem isAlphanum_recased {c : Char} (hascii : c.toNat < 128) :
    c.isAlphanum = true → c.toUpper.isAlphanum = true ∧ c.toLower.isAlphanum = true :=
  forall_ascii (p := fun c => c.isAlphanum = true →
    c.toUpper.isAlphanum = true ∧ c.toLower.isAlphanum = true) (by decide) hascii

/-- A letter or digit keeps one when its case is changed. -/
theorem exists_isAlphanum_recased {c : Char} (h : c.isAlphanum = true) :
    (∃ d ∈ toUpper c, d.isAlphanum = true) ∧ ∃ d ∈ toLower c, d.isAlphanum = true := by
  have hascii := toNat_lt_of_isPlain (isPlain_of_isAlphanum h)
  have hrecased := isAlphanum_recased hascii h
  rw [toUpper_of_ascii hascii, toLower_of_ascii hascii]
  exact ⟨⟨_, List.mem_singleton_self _, hrecased.1⟩, ⟨_, List.mem_singleton_self _, hrecased.2⟩⟩

/-- A letter or digit has a letter or digit in the snake-case spelling. -/
theorem exists_isAlphanum_snakeCharsFrom {cs : List Char} {c : Char} (hc : c ∈ cs)
    (h : c.isAlphanum = true) (before : Option Char) (out : List Char) :
    ∃ d ∈ snakeCharsFrom before out cs, d.isAlphanum = true := by
  have hwritten : ∃ d ∈ written c, d.isAlphanum = true := by
    unfold written
    split
    · rename_i hseparator
      rw [isWordSeparator_eq_false h] at hseparator
      cases hseparator
    · split
      · exact (exists_isAlphanum_recased h).2
      · exact ⟨c, List.mem_singleton_self c, h⟩
  obtain ⟨d, hd, halnum⟩ := hwritten
  have hmem := mem_snakeCharsFrom_iff (ne_of_isAlphanum halnum rfl) before out cs
  exact ⟨d, hmem.mpr (.inr ⟨c, hc, hd⟩), halnum⟩

/-- A letter or digit has a letter or digit in the transliteration. -/
theorem exists_isAlphanum_constCharsFrom {cs : List Char} {c : Char} (hc : c ∈ cs)
    (h : c.isAlphanum = true) (start : Bool) :
    ∃ d ∈ constCharsFrom start cs, d.isAlphanum = true := by
  have hne : c ≠ '-' := by
    rintro rfl
    cases h
  fun_induction constCharsFrom start cs with
  | case1 => exact absurd hc List.not_mem_nil
  | case2 cs ih =>
    obtain ⟨d, hd, halnum⟩ := ih (List.mem_of_ne_of_mem hne hc)
    exact ⟨d, List.mem_cons_of_mem _ hd, halnum⟩
  | case3 start cs hstart ih => exact ih (List.mem_of_ne_of_mem hne hc)
  | case4 start first cs hhyphen ih =>
    rcases List.mem_cons.mp hc with rfl | hc
    · suffices hfirst : ∃ d ∈ if start = true then toUpper c else [c], d.isAlphanum = true by
        obtain ⟨d, hd, halnum⟩ := hfirst
        exact ⟨d, List.mem_append_left _ hd, halnum⟩
      split
      · exact (exists_isAlphanum_recased h).1
      · exact ⟨c, List.mem_singleton_self c, h⟩
    · obtain ⟨d, hd, halnum⟩ := ih hc
      exact ⟨d, List.mem_append_right _ hd, halnum⟩

/-! ## ASCII stays ASCII -/

theorem recased_ascii {c : Char} (hascii : c.toNat < 128) :
    c.toUpper.toNat < 128 ∧ c.toLower.toNat < 128 :=
  forall_ascii (p := fun c => c.toUpper.toNat < 128 ∧ c.toLower.toNat < 128) (by decide) hascii

theorem ascii_of_mem_recased {c d : Char} (hc : c.toNat < 128)
    (hd : d ∈ toUpper c ∨ d ∈ toLower c) : d.toNat < 128 := by
  have hrecased := recased_ascii hc
  rw [toUpper_of_ascii hc, toLower_of_ascii hc, List.mem_singleton, List.mem_singleton] at hd
  rcases hd with rfl | rfl
  · exact hrecased.1
  · exact hrecased.2

theorem ascii_of_mem_constCharsFrom {cs : List Char} (hcs : ∀ c ∈ cs, c.toNat < 128)
    (start : Bool) : ∀ c ∈ constCharsFrom start cs, c.toNat < 128 := by
  fun_induction constCharsFrom start cs with
  | case1 => exact hcs
  | case2 cs ih => exact List.forall_mem_cons.mpr ⟨by decide, ih (List.forall_mem_cons.mp hcs).2⟩
  | case3 start cs hstart ih => exact ih (List.forall_mem_cons.mp hcs).2
  | case4 start first cs hhyphen ih =>
    obtain ⟨hfirst, hrest⟩ := List.forall_mem_cons.mp hcs
    intro d hd
    rcases List.mem_append.mp hd with hd | hd
    · split at hd
      · exact ascii_of_mem_recased hfirst (.inl hd)
      · rwa [List.mem_singleton.mp hd]
    · exact ih hrest d hd

/-! ## Sanitizing -/

/-- Of an ASCII text, sanitizing leaves what an identifier can consist of, and more than the
underscore if the text holds a letter or a digit. -/
theorem sanitizeChars_ascii {cs : List Char} (hcs : ∀ c ∈ cs, c.toNat < 128) :
    IsIdentChars (sanitizeChars cs) ∧
      (sanitizeChars cs = ['_'] → ∀ c ∈ cs, c.isAlphanum = false) := by
  have hplain : ∀ c ∈ cs.map fun c => if isIdentChar c then c else '_', isPlain c = true := by
    intro d hd
    obtain ⟨c, hc, rfl⟩ := List.mem_map.mp hd
    split
    · rename_i hident
      rwa [isIdentChar, isAlphanumeric_of_ascii (hcs c hc)] at hident
    · decide
  have hkept : ∀ c ∈ cs, c.isAlphanum = true →
      c ∈ cs.map fun c => if isIdentChar c then c else '_' := fun c hc halnum =>
    List.mem_map.mpr ⟨c, hc, if_pos (isIdentChar_of_isPlain (isPlain_of_isAlphanum halnum))⟩
  unfold sanitizeChars
  generalize (cs.map fun c => if isIdentChar c then c else '_') = kept at hplain hkept
  have hnone : kept = [] ∨ kept = ['_'] → ∀ c ∈ cs, c.isAlphanum = false := by
    intro hends c hc
    by_contra halnum
    have halnum : c.isAlphanum = true := by simpa using halnum
    have hmem := hkept c hc halnum
    rcases hends with rfl | rfl
    · exact absurd hmem List.not_mem_nil
    · exact ne_of_isAlphanum halnum rfl (List.mem_singleton.mp hmem)
  cases kept with
  | nil => exact ⟨⟨'_', [], rfl, rfl, List.forall_mem_singleton.mpr rfl⟩, fun _ => hnone (.inl rfl)⟩
  | cons first rest =>
    show IsIdentChars (if first.isDigit then _ else _) ∧ ((if first.isDigit then _ else _) = _ → _)
    split
    · refine ⟨⟨'_', first :: rest, rfl, by decide, ?_⟩, fun heq => ?_⟩
      · exact List.forall_mem_cons.mpr ⟨by decide, hplain⟩
      · exact absurd (List.cons.inj heq).2 (List.cons_ne_nil _ _)
    · rename_i hdigit
      exact ⟨⟨first, rest, rfl, Bool.eq_false_iff.mpr hdigit, hplain⟩, fun heq => hnone (.inr heq)⟩

/-! ## Escaping -/

theorem not_isPlain_hash : isPlain '#' = false := by decide

theorem IsIdentChars.hash_not_mem {cs : List Char} (h : IsIdentChars cs) : '#' ∉ cs := by
  obtain ⟨first, rest, -, -, hplain⟩ := h
  intro hmem
  exact Bool.false_ne_true (not_isPlain_hash.symm.trans (hplain _ hmem))

/-- Escaping covers every keyword. -/
theorem mem_keywords_or_of_mem {word : String} (h : word ∈ strictKeywords ++ reservedKeywords) :
    word ∈ keywords ∨ word ∈ pathKeywords := by
  have hall : ∀ word ∈ strictKeywords ++ reservedKeywords,
      word ∈ keywords ∨ word ∈ pathKeywords := by
    decide
  exact hall word h

/-- What does not start with a mark is not a marked keyword. -/
theorem ne_marked_of_hash_not_mem {name : String} (h : '#' ∉ name.toList) (keyword : String) :
    name ≠ "r#" ++ keyword := by
  rintro rfl
  rw [String.toList_append] at h
  exact h (List.mem_append_left _ (by decide))

/-- Escaping makes an identifier of what consists of the right characters. -/
theorem isLegalFor_escapeKeyword {text name : String} (hchars : IsIdentChars name.toList)
    (hunderscore : name = "_" → ∀ c ∈ text.toList, c.isAlphanum = false) :
    IsLegalFor text (escapeKeyword name) := by
  rcases escapeKeyword_cases name with ⟨hpath, heq⟩ | ⟨hkeyword, hpath, heq⟩ | ⟨hnone, hpath, heq⟩
  · have hescaped : ∀ path ∈ pathKeywords, path ++ "_" ∉ strictKeywords ++ reservedKeywords ∧
        '#' ∉ (path ++ "_").toList ∧ path ++ "_" ≠ "_" := by
      decide
    obtain ⟨hkeyword, hhash, hne⟩ := hescaped name hpath
    obtain ⟨first, rest, hfirst, hdigit, hplain⟩ := hchars
    rw [heq]
    refine ⟨?_, hkeyword, fun keyword _ => ne_marked_of_hash_not_mem hhash keyword,
      fun h => absurd h hne⟩
    rw [bareName_of_not_mem hhash, String.toList_append, hfirst]
    refine ⟨first, rest ++ ['_'], rfl, hdigit, fun c hc => ?_⟩
    rw [← hfirst] at hc
    rcases List.mem_append.mp hc with hc | hc
    · exact hplain c hc
    · rw [List.mem_singleton.mp hc]
      decide
  · have hescaped : ∀ keyword ∈ keywords, "r#" ++ keyword ∉ strictKeywords ++ reservedKeywords ∧
        "r#" ++ keyword ≠ "_" := by
      decide
    obtain ⟨hnot, hne⟩ := hescaped name hkeyword
    rw [heq]
    refine ⟨?_, hnot, fun keyword hmarked hraw => ?_, fun h => absurd h hne⟩
    · rw [bareName_raw]
      exact hchars
    · -- The names that the mark does not help are those that got an underscore instead.
      rw [← String.append_right_inj "r#" |>.mp hraw] at hmarked
      exact hpath hmarked
  · rw [heq]
    refine ⟨?_, fun hmem => ?_, fun keyword _ => ?_, hunderscore⟩
    · rwa [bareName_of_not_mem hchars.hash_not_mem]
    · exact (mem_keywords_or_of_mem hmem).elim hnone hpath
    · exact ne_marked_of_hash_not_mem hchars.hash_not_mem keyword

/-! ## Numbering -/

/-- The mark of a raw identifier does not reach over an underscore. -/
theorem bareName_append (name rest : List Char) :
    bareName (name ++ '_' :: rest) = bareName name ++ '_' :: rest := by
  by_cases hraw : "r#".toList <+: name
  · obtain ⟨bare, rfl⟩ := hraw
    rfl
  · rw [bareName_eq_self_iff.mpr hraw, bareName_eq_self_iff]
    intro hprefix
    have hmark : "r#".toList = ['r', '#'] := rfl
    match name with
    | [] => simp [hmark] at hprefix
    | [c] => simp [hmark] at hprefix
    | c :: d :: name => exact hraw (by simpa [hmark] using hprefix)

/-- A number behind an identifier makes another identifier. -/
theorem IsLegalFor.numbered {text ident : String} (h : IsLegalFor text ident) (k : Nat) :
    IsLegalFor text (ident ++ "_" ++ toString k) := by
  have hunbroken : ∀ word ∈ strictKeywords ++ reservedKeywords ++ unmarkedKeywords,
      '_' ∉ word.toList := by
    decide
  have htoList : (ident ++ "_" ++ toString k).toList =
      ident.toList ++ '_' :: (toString k).toList := by
    simp
  have hmem : '_' ∈ (ident ++ "_" ++ toString k).toList := by
    rw [htoList]
    exact List.mem_append_right _ List.mem_cons_self
  obtain ⟨first, rest, hbare, hdigit, hplain⟩ := h.chars
  have hnumbered : bareName (ident ++ "_" ++ toString k).toList =
      first :: (rest ++ '_' :: (toString k).toList) := by
    rw [htoList, bareName_append, hbare]
    rfl
  refine ⟨⟨first, _, hnumbered, hdigit, ?_⟩, fun hkeyword => ?_, fun keyword hkeyword heq => ?_,
    fun heq => ?_⟩
  · rw [htoList, bareName_append]
    intro c hc
    rcases List.mem_append.mp hc with hc | hc
    · exact hplain c hc
    · rcases List.mem_cons.mp hc with rfl | hc
      · decide
      · exact isPlain_of_isAlphanum (by simp [Char.isAlphanum, isDigit_of_mem_toString hc])
  · exact hunbroken _ (List.mem_append_left _ hkeyword) hmem
  · rw [heq, String.toList_append] at hmem
    rcases List.mem_append.mp hmem with hmark | hmem
    · exact absurd hmark (by decide)
    · exact hunbroken _ (List.mem_append_right _ hkeyword) hmem
  · rw [heq] at hnumbered
    have hlength := congrArg List.length hnumbered
    simp [bareName] at hlength

/-- **Every name is legal.** Whatever ASCII text a field, a numbered field or a constant is named
after, the generated code can use the name as an identifier. -/
theorem names_legal {text : String} (hascii : ∀ c ∈ text.toList, c.toNat < 128) :
    IsLegalFor text (fieldIdent text) ∧
      IsLegalFor text (escapeKeyword (enumConstIdent text)) ∧
      ∀ k : Nat, IsLegalFor text (fieldIdent text ++ "_" ++ toString k) := by
  have hlegal : ∀ cs : List Char, (∀ c ∈ cs, c.toNat < 128) →
      (∀ c ∈ text.toList, c.isAlphanum = true → ∃ d ∈ cs, d.isAlphanum = true) →
      IsLegalFor text (escapeKeyword (String.ofList (sanitizeChars cs))) := by
    intro cs hcs hkept
    obtain ⟨hchars, hunderscore⟩ := sanitizeChars_ascii hcs
    refine isLegalFor_escapeKeyword (by rwa [String.toList_ofList]) fun hname c hc => ?_
    have hnone := hunderscore (by rw [← String.toList_ofList (l := sanitizeChars cs), hname]; rfl)
    by_contra halnum
    obtain ⟨d, hd, hdalnum⟩ := hkept c hc (by simpa using halnum)
    rw [hnone d hd] at hdalnum
    cases hdalnum
  have hfield : IsLegalFor text (fieldIdent text) := by
    refine hlegal _ ?_ fun c hc halnum => exists_isAlphanum_snakeCharsFrom hc halnum none []
    exact forall_mem_snakeCharsFrom (by decide) (fun c hc d hd => ascii_of_mem_recased hc (.inr hd))
      hascii
  have hconstant : IsLegalFor text (escapeKeyword (enumConstIdent text)) :=
    hlegal _ (ascii_of_mem_constCharsFrom hascii true)
      fun c hc halnum => exists_isAlphanum_constCharsFrom hc halnum true
  exact ⟨hfield, hconstant, hfield.numbered⟩

/-- The three passes meet in these: sanitizing leaves nothing but underscores, puts one in front of
a digit, and makes keywords of texts that are none. -/
theorem names_legal_of_awkward :
    IsLegalFor "-" (fieldIdent "-") ∧ IsLegalFor "3-d" (escapeKeyword (enumConstIdent "3-d")) ∧
      IsLegalFor "Type" (fieldIdent "Type") ∧ fieldIdent "Type" = "r#type" ∧
      IsLegalFor "-self" (escapeKeyword (enumConstIdent "-self")) ∧
      IsLegalFor "SELF" (fieldIdent "SELF" ++ "_" ++ toString 2) :=
  ⟨(names_legal (by simp)).1, (names_legal (by simp)).2.1, (names_legal (by simp)).1, by decide,
    (names_legal (by simp)).2.1, (names_legal (by simp)).2.2 2⟩

end Bindery.Naming
