import Bindery.Proofs.Words

/-!
# Names in camel case

Snake case keeps apart what camel case keeps apart: of names in which every word starts with its
only capital (`isCamel`), no two have the same snake-case spelling (`snakeCase_inj`), nor the same
function identifier, as the marks that keywords are escaped with do not occur (`fnIdent_inj`). Runs
of capitals are one word, so `getURL` and `getUrl` are not told apart, and the first of the two is
not in camel case here.
-/

namespace Bindery.Naming

open Text

/-- Letters and digits, with no capital right behind another, given the character before them. -/
def isCamelFrom (before : Char) : List Char → Bool
  | [] => true
  | c :: cs => c.isAlphanum && !(before.isUpper && c.isUpper) && isCamelFrom c cs

/-- A capital, then letters and digits, with no capital right behind another. -/
def isCamelChars : List Char → Bool
  | [] => false
  | c :: cs => c.isUpper && isCamelFrom c cs

/-- An identifier in camel case. -/
def IsCamel (s : String) : Prop := isCamelChars s.toList = true

instance (s : String) : Decidable (IsCamel s) := inferInstanceAs (Decidable (_ = true))

/-- The snake-case spelling behind the first character: an underscore in front of each capital. -/
def underscored : List Char → List Char
  | [] => []
  | c :: cs => if c.isUpper then '_' :: c.toLower :: underscored cs else c :: underscored cs

/-! ## Characters -/

theorem isAlphanum_of_isUpper {c : Char} (h : c.isUpper = true) : c.isAlphanum = true := by
  show (c.isUpper || c.isLower || c.isDigit) = true
  rw [h, Bool.true_or, Bool.true_or]

theorem lt_of_isAlphanum {c : Char} (h : c.isAlphanum = true) : c.toNat < 128 :=
  toNat_lt_of_isPlain (by rw [isPlain, h, Bool.true_or])

theorem isAlphanum_cases_ascii {c : Char} (hascii : c.toNat < 128) :
    c.isAlphanum = true → c.isUpper = false → (c.isLower || c.isDigit) = true :=
  forall_ascii (p := fun c => c.isAlphanum = true → c.isUpper = false →
    (c.isLower || c.isDigit) = true) (by decide) hascii

theorem toLower_ascii {c : Char} (hascii : c.toNat < 128) :
    c.isUpper = true → c.toLower.toNat = c.toNat + 32 ∧ c.toLower.isAlphanum = true :=
  forall_ascii (p := fun c => c.isUpper = true →
    c.toLower.toNat = c.toNat + 32 ∧ c.toLower.isAlphanum = true) (by decide) hascii

/-- The small letter of a capital. -/
theorem toLower_of_isUpper {c : Char} (h : c.isUpper = true) :
    c.toLower.toNat = c.toNat + 32 ∧ c.toLower.isAlphanum = true :=
  toLower_ascii (lt_of_isAlphanum (isAlphanum_of_isUpper h)) h

theorem toLower_inj {c d : Char} (hc : c.isUpper = true) (hd : d.isUpper = true)
    (h : c.toLower = d.toLower) : c = d := by
  have hcode := congrArg Char.toNat h
  rw [(toLower_of_isUpper hc).1, (toLower_of_isUpper hd).1] at hcode
  exact Char.toNat_inj.mp (by omega)

theorem toLower_ne_underscore {c : Char} (h : c.isUpper = true) : c.toLower ≠ '_' :=
  ne_of_isAlphanum (toLower_of_isUpper h).2 (by decide)

/-! ## Spellings -/

theorem isAlphanum_of_isCamelFrom {before : Char} {cs : List Char}
    (h : isCamelFrom before cs = true) : ∀ c ∈ cs, c.isAlphanum = true := by
  induction cs generalizing before with
  | nil =>
    intro c hc
    exact absurd hc List.not_mem_nil
  | cons c cs ih =>
    simp only [isCamelFrom, Bool.and_eq_true] at h
    exact List.forall_mem_cons.mpr ⟨h.1.1, ih h.2⟩

/-- In camel case every capital but the first starts a word, and nothing else does. -/
theorem snakeCharsFrom_eq {cs : List Char} {before last : Char} {out : List Char}
    (hbefore : before.isAlphanum = true) (hcs : isCamelFrom before cs = true) (hlast : last ≠ '_') :
    snakeCharsFrom (some before) (last :: out) cs = (last :: out).reverse ++ underscored cs := by
  -- for any output so far and any character before, as both go along with the text
  induction cs generalizing before last out with
  | nil => rw [snakeCharsFrom, underscored, List.append_nil]
  | cons c cs ih =>
    simp only [isCamelFrom, Bool.and_eq_true, Bool.not_eq_true', Bool.and_eq_false_iff] at hcs
    obtain ⟨⟨halnum, hcapitals⟩, hrest⟩ := hcs
    rw [snakeCharsFrom, if_neg (by rw [isWordSeparator_eq_false halnum]; decide), underscored,
      isUppercase_of_ascii (lt_of_isAlphanum halnum)]
    cases hupper : c.isUpper with
    | true =>
      have hword : startsWord (some before) cs.head? = true := by
        have hsmall : before.isUpper = false := by
          rcases hcapitals with h | h
          · exact h
          · rw [hupper] at h
            cases h
        have hascii := lt_of_isAlphanum hbefore
        have hcases := isAlphanum_cases_ascii hascii hbefore hsmall
        rw [startsWord, isLowercase_of_ascii hascii, hcases, if_pos rfl]
      have hunderscore : withUnderscore (last :: out) = '_' :: last :: out := by
        unfold withUnderscore
        split
        · rename_i heq
          cases heq
        · rename_i heq
          exact absurd (List.cons.inj heq).1 hlast
        · rfl
      rw [if_pos rfl, if_pos hword, hunderscore, toLower_of_ascii (lt_of_isAlphanum halnum)]
      have hnext : snakeCharsFrom (some c) (c.toLower :: '_' :: last :: out) cs =
          (c.toLower :: '_' :: last :: out).reverse ++ underscored cs :=
        ih halnum hrest (toLower_ne_underscore hupper)
      simpa using hnext
    | false =>
      have hnext : snakeCharsFrom (some c) (c :: last :: out) cs =
          (c :: last :: out).reverse ++ underscored cs :=
        ih halnum hrest (ne_of_isAlphanum halnum (by decide))
      simpa using hnext

theorem snakeCase_of_isCamel {s : String} (h : IsCamel s) :
    ∃ c cs, s.toList = c :: cs ∧ c.isUpper = true ∧ (∀ d ∈ cs, d.isAlphanum = true) ∧
      (snakeCase s).toList = c.toLower :: underscored cs := by
  unfold IsCamel at h
  cases hs : s.toList with
  | nil =>
    rw [hs] at h
    cases h
  | cons c cs =>
    rw [hs] at h
    obtain ⟨hupper, hcs⟩ := Bool.and_eq_true_iff.mp h
    have halnum := isAlphanum_of_isUpper hupper
    have hascii := lt_of_isAlphanum halnum
    refine ⟨c, cs, rfl, hupper, isAlphanum_of_isCamelFrom hcs, ?_⟩
    rw [snakeCase, String.toList_ofList, hs, snakeCharsFrom,
      if_neg (by rw [isWordSeparator_eq_false halnum]; decide), isUppercase_of_ascii hascii,
      if_pos hupper, toLower_of_ascii hascii]
    exact snakeCharsFrom_eq halnum hcs (toLower_ne_underscore hupper)

theorem underscored_inj {cs ds : List Char} (hcs : ∀ c ∈ cs, c.isAlphanum = true)
    (hds : ∀ d ∈ ds, d.isAlphanum = true) (h : underscored cs = underscored ds) : cs = ds := by
  induction cs generalizing ds with
  | nil =>
    cases ds with
    | nil => rfl
    | cons d ds =>
      rw [underscored, underscored] at h
      split at h <;> cases h
  | cons c cs ih =>
    obtain ⟨hc, hcs⟩ := List.forall_mem_cons.mp hcs
    -- an underscore shows which of the two starts a word, since neither text holds one
    cases ds with
    | nil =>
      rw [underscored, underscored] at h
      split at h <;> cases h
    | cons d ds =>
      obtain ⟨hd, hds⟩ := List.forall_mem_cons.mp hds
      rw [underscored, underscored] at h
      split at h
      · rename_i hupper
        split at h
        · rename_i hupper'
          obtain ⟨hhead, hrest⟩ := List.cons.inj (List.cons.inj h).2
          rw [toLower_inj hupper hupper' hhead, ih hcs hds hrest]
        · exact absurd (List.cons.inj h).1.symm (ne_of_isAlphanum hd (by decide))
      · split at h
        · exact absurd (List.cons.inj h).1 (ne_of_isAlphanum hc (by decide))
        · obtain ⟨hhead, hrest⟩ := List.cons.inj h
          rw [hhead, ih hcs hds hrest]

/-- **Snake case tells names in camel case apart.** -/
theorem snakeCase_inj {a b : String} (ha : IsCamel a) (hb : IsCamel b) :
    snakeCase a = snakeCase b ↔ a = b := by
  obtain ⟨c, cs, hacs, hc, hcs, ha⟩ := snakeCase_of_isCamel ha
  obtain ⟨d, ds, hbds, hd, hds, hb⟩ := snakeCase_of_isCamel hb
  rw [← String.toList_inj, ← String.toList_inj, ha, hb, hacs, hbds]
  constructor
  · intro h
    obtain ⟨hhead, hrest⟩ := List.cons.inj h
    rw [toLower_inj hc hd hhead, underscored_inj hcs hds hrest]
  · intro h
    obtain ⟨rfl, rfl⟩ := List.cons.inj h
    rfl

/-- A name has the spelling of another one behind `on_` only if it is that name behind `On`. -/
theorem snakeCase_eq_on_iff {a b : String} (ha : IsCamel a) (hb : IsCamel b) :
    snakeCase a = "on_" ++ snakeCase b ↔ a = "On" ++ b := by
  obtain ⟨c, cs, hacs, hc, hcs, ha⟩ := snakeCase_of_isCamel ha
  obtain ⟨d, ds, hbds, hd, hds, hb⟩ := snakeCase_of_isCamel hb
  have hon : ("on_" ++ snakeCase b).toList = 'O'.toLower :: underscored ('n' :: d :: ds) := by
    rw [String.toList_append, hb, underscored, underscored, if_neg (by decide), if_pos hd]
    rfl
  rw [← String.toList_inj, ← String.toList_inj, ha, hon, hacs, String.toList_append, hbds]
  constructor
  · intro h
    obtain ⟨hhead, hrest⟩ := List.cons.inj h
    have hdds : ∀ x ∈ 'n' :: d :: ds, x.isAlphanum = true :=
      List.forall_mem_cons.mpr ⟨by decide, List.forall_mem_cons.mpr ⟨isAlphanum_of_isUpper hd, hds⟩⟩
    rw [toLower_inj hc (by decide) hhead, underscored_inj hcs hdds hrest]
    rfl
  · intro h
    obtain ⟨rfl, rfl⟩ := List.cons.inj h
    rfl

/-! ## Function identifiers -/

theorem forall_mem_underscored {cs : List Char} (h : ∀ c ∈ cs, c.isAlphanum = true) :
    ∀ d ∈ underscored cs, d.isAlphanum = true ∨ d = '_' := by
  induction cs with
  | nil =>
    intro d hd
    exact absurd hd List.not_mem_nil
  | cons c cs ih =>
    obtain ⟨hc, hcs⟩ := List.forall_mem_cons.mp h
    rw [underscored]
    split
    · rename_i hupper
      exact List.forall_mem_cons.mpr ⟨.inr rfl,
        List.forall_mem_cons.mpr ⟨.inl (toLower_of_isUpper hupper).2, ih hcs⟩⟩
    · exact List.forall_mem_cons.mpr ⟨.inl hc, ih hcs⟩

/-- No underscore comes last, as each has a letter behind it. -/
theorem getLast?_underscored {cs : List Char} (h : ∀ c ∈ cs, c.isAlphanum = true) {first : Char}
    (hfirst : first ≠ '_') : (first :: underscored cs).getLast? ≠ some '_' := by
  induction cs generalizing first with
  | nil => simpa [underscored] using hfirst
  | cons c cs ih =>
    obtain ⟨hc, hcs⟩ := List.forall_mem_cons.mp h
    rw [underscored]
    split
    · rename_i hupper
      rw [List.getLast?_cons_cons, List.getLast?_cons_cons]
      exact ih hcs (toLower_ne_underscore hupper)
    · rw [List.getLast?_cons_cons]
      exact ih hcs (ne_of_isAlphanum hc (by decide))

/-- An identifier without the mark that it carries in place of a keyword. -/
def unescape : List Char → List Char
  | 'r' :: '#' :: cs => cs
  | cs => if cs.getLast? = some '_' then cs.dropLast else cs

theorem unescape_escapeKeyword {s : String} (hraw : '#' ∉ s.toList)
    (hlast : s.toList.getLast? ≠ some '_') : unescape (escapeKeyword s).toList = s.toList := by
  rcases escapeKeyword_cases s with ⟨hpath, heq⟩ | ⟨-, -, heq⟩ | ⟨-, -, heq⟩
  · have hescaped : ∀ k ∈ pathKeywords, unescape (k ++ "_").toList = k.toList := by decide
    rw [heq]
    exact hescaped s hpath
  · rw [heq, String.toList_append]
    rfl
  · rw [heq]
    unfold unescape
    split
    · rename_i cs hs
      rw [hs] at hraw
      exact absurd (List.mem_cons_of_mem _ List.mem_cons_self) hraw
    · rw [if_neg hlast]

/-- **Functions of names in camel case are told apart.** -/
theorem fnIdent_inj {a b : String} (ha : IsCamel a) (hb : IsCamel b) :
    fnIdent a = fnIdent b ↔ a = b := by
  have hread {s : String} (hs : IsCamel s) :
      unescape (fnIdent s).toList = (snakeCase s).toList := by
    obtain ⟨c, cs, -, hc, hcs, hsnake⟩ := snakeCase_of_isCamel hs
    refine unescape_escapeKeyword ?_ ?_
    · rw [hsnake, List.mem_cons, not_or]
      refine ⟨(ne_of_isAlphanum (toLower_of_isUpper hc).2 (by decide)).symm, fun hmem => ?_⟩
      rcases forall_mem_underscored hcs _ hmem with h | h
      · exact absurd h (by decide)
      · exact absurd h (by decide)
    · rw [hsnake]
      exact getLast?_underscored hcs (toLower_ne_underscore hc)
  constructor
  · intro h
    refine (snakeCase_inj ha hb).mp (String.toList_inj.mp ?_)
    rw [← hread ha, ← hread hb, h]
  · rintro rfl
    rfl

/-- No keyword starts with `on_`, nor does what stands in place of one. -/
theorem escapeKeyword_eq_on_iff {s t : String} : escapeKeyword s = "on_" ++ t ↔ s = "on_" ++ t := by
  have hkeyword : ∀ k ∈ keywords, ¬ "on_".toList <+: k.toList := by decide
  have hpath : ∀ k ∈ pathKeywords, ¬ "on_".toList <+: k.toList := by decide
  have hunderscored : ∀ k ∈ pathKeywords, (k ++ "_").toList.head? ≠ some 'o' := by decide
  have hprefix : "on_".toList <+: ("on_" ++ t).toList := ⟨t.toList, by rw [String.toList_append]⟩
  have hhead : ("on_" ++ t).toList.head? = some 'o' := by
    rw [String.toList_append]
    rfl
  rcases escapeKeyword_cases s with ⟨hmem, heq⟩ | ⟨hmem, -, heq⟩ | ⟨-, -, heq⟩
  · rw [heq]
    constructor
    · intro h
      rw [← h] at hhead
      exact absurd hhead (hunderscored s hmem)
    · rintro rfl
      exact absurd hprefix (hpath _ hmem)
  · rw [heq]
    constructor
    · intro h
      rw [← h, String.toList_append] at hhead
      cases hhead
    · rintro rfl
      exact absurd hprefix (hkeyword _ hmem)
  · rw [heq]

end Bindery.Naming
