import Bindery.Naming

/-!
# What snake case keeps

Snake case changes nothing of a name but the case of its letters, the characters that separate its
words, and the underscores between these. What a character of the name comes to is `Naming.written`;
the loop puts nothing but underscores in between (`Naming.snakeCharsFrom_unseen`), and none in front
(`Naming.head?_snakeCharsFrom`). A spelling in snake case is left as it is when it is spelled in
snake case again, since it holds nothing that the loop would change
(`Naming.snakeCharsFrom_of_plain`).
-/

namespace Bindery.Naming

open Text

theorem ne_of_isAlphanum {c d : Char} (h : c.isAlphanum = true) (hd : d.isAlphanum = false) :
    c ≠ d := by
  rintro rfl
  rw [h] at hd
  cases hd

/-- Letters and digits separate no words. -/
theorem isWordSeparator_eq_false {c : Char} (h : c.isAlphanum = true) :
    isWordSeparator c = false := by
  simp only [isWordSeparator, Bool.or_eq_false_iff, beq_eq_false_iff_ne]
  exact ⟨⟨ne_of_isAlphanum h rfl, ne_of_isAlphanum h rfl⟩, ne_of_isAlphanum h rfl⟩

/-- What a character comes to in snake case, underscores in front of words apart. -/
def written (c : Char) : List Char :=
  if isWordSeparator c then [] else if isUppercase c then toLower c else [c]

/-- A property that no change to lower case takes away passes to what a character comes to. -/
theorem forall_mem_written {p : Char → Prop} (hlower : ∀ c, p c → ∀ d ∈ toLower c, p d) {c : Char}
    (hc : p c) : ∀ d ∈ written c, p d := by
  intro d hd
  unfold written at hd
  split at hd
  · exact absurd hd List.not_mem_nil
  · split at hd
    · exact hlower c hc d hd
    · rwa [List.mem_singleton.mp hd]

/-! ## The loop -/

/-- An underscore is added behind a text that is not empty, or none is. -/
theorem reverse_withUnderscore (out : List Char) :
    (withUnderscore out).reverse = out.reverse ∨
      out ≠ [] ∧ (withUnderscore out).reverse = out.reverse ++ ['_'] := by
  unfold withUnderscore
  split
  · exact .inl rfl
  · exact .inl rfl
  · rename_i out hne _
    exact .inr ⟨hne, List.reverse_cons⟩

/-- **Only underscores come in between.** Whatever does not see an underscore behind a text that the
loop has written sees what the characters come to, one after the other. -/
theorem snakeCharsFrom_unseen {α : Type} (f : List Char → α)
    (hunseen : ∀ out rest, f ((withUnderscore out).reverse ++ rest) = f (out.reverse ++ rest))
    (before : Option Char) (out cs : List Char) :
    f (snakeCharsFrom before out cs) = f (out.reverse ++ cs.flatMap written) := by
  fun_induction snakeCharsFrom before out cs with
  | case1 before out => rw [List.flatMap_nil, List.append_nil]
  | case2 before out c cs hseparator ih =>
    have hwritten : written c = [] := if_pos hseparator
    rw [ih, List.flatMap_cons, hwritten, List.nil_append, hunseen]
  | case3 before old c cs hletter hupper out ih =>
    have hwritten : written c = toLower c := by rw [written, if_neg hletter, if_pos hupper]
    rw [ih, List.flatMap_cons, hwritten, List.reverse_append, List.reverse_reverse,
      List.append_assoc]
    show f ((if startsWord before cs.head? then withUnderscore old else old).reverse ++ _) = _
    split
    · exact hunseen old _
    · rfl
  | case4 before out c cs hletter hlower ih =>
    have hwritten : written c = [c] := by rw [written, if_neg hletter, if_neg hlower]
    rw [ih, List.flatMap_cons, hwritten, List.reverse_cons, List.append_assoc]

/-- Without its underscores the spelling is what the characters come to, without theirs. -/
theorem filter_snakeCharsFrom (before : Option Char) (out cs : List Char) :
    (snakeCharsFrom before out cs).filter (· != '_') =
      (out.reverse ++ cs.flatMap written).filter (· != '_') := by
  refine snakeCharsFrom_unseen (List.filter (· != '_')) (fun out rest => ?_) before out cs
  rcases reverse_withUnderscore out with h | ⟨-, h⟩
  · rw [h]
  · rw [h, List.filter_append, List.filter_append, List.filter_append]
    exact congrArg (· ++ _) (List.append_nil _)

/-- The spelling starts with what the characters come to: no underscore comes in front. -/
theorem head?_snakeCharsFrom (before : Option Char) (out cs : List Char) :
    (snakeCharsFrom before out cs).head? = (out.reverse ++ cs.flatMap written).head? := by
  refine snakeCharsFrom_unseen List.head? (fun out rest => ?_) before out cs
  rcases reverse_withUnderscore out with h | ⟨hne, h⟩
  · rw [h]
  · obtain ⟨first, others, hout⟩ :=
      List.exists_cons_of_ne_nil fun hnil => hne (List.reverse_eq_nil_iff.mp hnil)
    rw [h, hout]
    rfl

/-- The characters of a spelling, underscores apart. -/
theorem mem_snakeCharsFrom_iff {d : Char} (hd : d ≠ '_') (before : Option Char)
    (out cs : List Char) :
    d ∈ snakeCharsFrom before out cs ↔ d ∈ out ∨ ∃ c ∈ cs, d ∈ written c := by
  have hkept (l : List Char) : d ∈ l ↔ d ∈ l.filter (· != '_') := by
    rw [List.mem_filter, bne_iff_ne, and_iff_left hd]
  rw [hkept, filter_snakeCharsFrom, ← hkept, List.mem_append, List.mem_reverse, List.mem_flatMap]

/-- A text without separators and capitals is left as it is. -/
theorem snakeCharsFrom_of_plain {cs : List Char}
    (hplain : ∀ c ∈ cs, isWordSeparator c = false ∧ isUppercase c = false) (before : Option Char)
    (out : List Char) : snakeCharsFrom before out cs = out.reverse ++ cs := by
  induction cs generalizing before out with
  | nil => rw [snakeCharsFrom, List.append_nil]
  | cons c cs ih =>
    obtain ⟨⟨hletter, hlower⟩, hrest⟩ := List.forall_mem_cons.mp hplain
    rw [snakeCharsFrom, hletter, hlower, if_neg Bool.false_ne_true, if_neg Bool.false_ne_true,
      ih hrest, List.reverse_cons, List.append_assoc]
    rfl

/-! ## ASCII names -/

/-- Lower case makes no capital, separator or underscore of an ASCII character that is none, and
leaves what is no capital as it is. -/
theorem lowered_of_ascii {c : Char} (hascii : c.toNat < 128) :
    c.toLower.isUpper = false ∧ c.toLower.toNat < 128 ∧
      isWordSeparator c.toLower = isWordSeparator c ∧ (c.toLower = '_' ↔ c = '_') ∧
      (c.isUpper = false → c.toLower = c) :=
  forall_ascii (p := fun c => c.toLower.isUpper = false ∧ c.toLower.toNat < 128 ∧
    isWordSeparator c.toLower = isWordSeparator c ∧ (c.toLower = '_' ↔ c = '_') ∧
    (c.isUpper = false → c.toLower = c)) (by decide) hascii

/-- A character of lower-cased ASCII text that does not separate words. -/
structure IsLowered (c : Char) : Prop where
  ascii : c.toNat < 128
  not_upper : c.isUpper = false
  not_separator : isWordSeparator c = false

theorem isLowered_underscore : IsLowered '_' := ⟨by decide, by decide, by decide⟩

theorem isLowered_toLower {c : Char} (hascii : c.toNat < 128)
    (hseparator : isWordSeparator c = false) : IsLowered c.toLower := by
  obtain ⟨hupper, hrange, hsame, -, -⟩ := lowered_of_ascii hascii
  exact ⟨hrange, hupper, hsame.trans hseparator⟩

/-- An ASCII character comes to its lower case, unless it separates words. -/
theorem written_of_ascii {c : Char} (h : c.toNat < 128) :
    written c = if isWordSeparator c then [] else [c.toLower] := by
  obtain ⟨-, -, -, -, hsame⟩ := lowered_of_ascii h
  rw [written, isUppercase_of_ascii h, toLower_of_ascii h]
  cases hupper : c.isUpper with
  | true => rfl
  | false => rw [hsame hupper]; rfl

/-- An ASCII name comes to the lower case of what is left of it without its separators. -/
theorem flatMap_written_of_ascii {cs : List Char} (hascii : ∀ c ∈ cs, c.toNat < 128) :
    cs.flatMap written = (cs.filter (!isWordSeparator ·)).map Char.toLower := by
  induction cs with
  | nil => rfl
  | cons c cs ih =>
    obtain ⟨hc, hrest⟩ := List.forall_mem_cons.mp hascii
    rw [List.flatMap_cons, written_of_ascii hc, ih hrest, List.filter_cons]
    cases isWordSeparator c <;> rfl

/-- The spelling of an ASCII name holds no capital and no separator. -/
theorem isLowered_of_mem_snakeCharsFrom {cs : List Char} (hascii : ∀ c ∈ cs, c.toNat < 128)
    {before : Option Char} {d : Char} (hd : d ∈ snakeCharsFrom before [] cs) : IsLowered d := by
  by_cases hunderscore : d = '_'
  · rw [hunderscore]
    exact isLowered_underscore
  · -- what is no underscore is what some character of the name comes to
    have hmem := (mem_snakeCharsFrom_iff hunderscore before [] cs).mp hd
    obtain ⟨c, hc, hwritten⟩ := hmem.resolve_left List.not_mem_nil
    rw [written_of_ascii (hascii c hc)] at hwritten
    cases hseparator : isWordSeparator c with
    | true =>
      rw [hseparator, if_pos rfl] at hwritten
      exact absurd hwritten List.not_mem_nil
    | false =>
      rw [hseparator, if_neg Bool.false_ne_true] at hwritten
      rw [List.mem_singleton.mp hwritten]
      exact isLowered_toLower (hascii c hc) hseparator

theorem isWordSeparator_eq_decide (c : Char) :
    isWordSeparator c = decide (c ∈ ['-', '.', ' ']) :=
  Bool.eq_iff_iff.mpr (by simp [isWordSeparator, or_assoc])

/-- Lower case takes none of the separators and underscores away, and adds none. -/
theorem filter_map_toLower {cs : List Char} (hascii : ∀ c ∈ cs, c.toNat < 128) :
    ((cs.filter (!isWordSeparator ·)).map Char.toLower).filter (· != '_') =
      (cs.map Char.toLower).filter (· ∉ ['-', '.', ' ', '_']) := by
  rw [List.filter_map, List.filter_map, List.filter_filter]
  refine congrArg _ (List.filter_congr fun c hc => ?_)
  obtain ⟨-, -, hsame, -, -⟩ := lowered_of_ascii (hascii c hc)
  show (c.toLower != '_' && !isWordSeparator c) = decide (c.toLower ∉ ['-', '.', ' ', '_'])
  rw [← hsame, isWordSeparator_eq_decide]
  grind

/-- **Snake case keeps the letters.** The spelling of an ASCII name holds no capital and none of the
separators; without its underscores it is the name in lower case without separators and underscores;
it starts with an underscore only if the name does, separators apart; and spelling it again changes
nothing. -/
theorem snakeCase_keeps_letters {text : String} (hascii : ∀ c ∈ text.toList, c.toNat < 128) :
    (∀ c ∈ (snakeCase text).toList, c.isUpper = false ∧ c ∉ ['-', '.', ' ']) ∧
    (snakeCase text).toList.filter (· != '_') =
      (text.toList.map Char.toLower).filter (· ∉ ['-', '.', ' ', '_']) ∧
    ((snakeCase text).toList.head? = some '_' →
      text.toList.find? (· ∉ ['-', '.', ' ']) = some '_') ∧
    snakeCase (snakeCase text) = snakeCase text := by
  have hspelling : (snakeCase text).toList = snakeCharsFrom none [] text.toList :=
    String.toList_ofList
  have hlowered : ∀ c ∈ (snakeCase text).toList, IsLowered c := by
    rw [hspelling]
    exact fun c hc => isLowered_of_mem_snakeCharsFrom hascii hc
  refine ⟨fun c hc => ?letters, ?kept, fun hfirst => ?front, ?again⟩
  case letters =>
    have hseparator := (hlowered c hc).not_separator
    rw [isWordSeparator_eq_decide] at hseparator
    exact ⟨(hlowered c hc).not_upper, of_decide_eq_false hseparator⟩
  case kept =>
    rw [hspelling, filter_snakeCharsFrom, flatMap_written_of_ascii hascii]
    exact filter_map_toLower hascii
  case front =>
    rw [hspelling, head?_snakeCharsFrom, flatMap_written_of_ascii hascii] at hfirst
    have hfound : (text.toList.find? (!isWordSeparator ·)).map Char.toLower = some '_' := by
      rw [← List.head?_filter, ← List.head?_map]
      exact hfirst
    obtain ⟨c, hc, hunderscore⟩ := Option.map_eq_some_iff.mp hfound
    obtain ⟨-, -, -, hsame, -⟩ := lowered_of_ascii (hascii c (List.mem_of_find?_eq_some hc))
    rw [hsame.mp hunderscore] at hc
    simpa only [isWordSeparator_eq_decide, decide_not] using hc
  case again =>
    have hplain : ∀ c ∈ (snakeCase text).toList,
        isWordSeparator c = false ∧ isUppercase c = false := fun c hc =>
      ⟨(hlowered c hc).not_separator,
        (isUppercase_of_ascii (hlowered c hc).ascii).trans (hlowered c hc).not_upper⟩
    rw [snakeCase, snakeCharsFrom_of_plain hplain]
    exact String.ofList_toList

/-- Separators in front, an underscore that was there, a run of capitals that ends in a word, and
separators that follow each other. -/
theorem snakeCase_keeps_letters_of_mixed :
    snakeCase ".-_DOMNode2D--toURL. x" = "_dom_node2_d_to_url_x" ∧
    snakeCase "_dom_node2_d_to_url_x" = "_dom_node2_d_to_url_x" ∧
    (snakeCase ".-_DOMNode2D--toURL. x").toList.filter (· != '_') = "domnode2dtourlx".toList ∧
    ".-_DOMNode2D--toURL. x".toList.find? (· ∉ ['-', '.', ' ']) = some '_' := by
  have hspelling : snakeCase ".-_DOMNode2D--toURL. x" = "_dom_node2_d_to_url_x" := by decide
  obtain ⟨-, hkept, hfront, hagain⟩ :=
    @snakeCase_keeps_letters ".-_DOMNode2D--toURL. x" (by simp)
  rw [hspelling] at hkept hfront hagain ⊢
  exact ⟨rfl, hagain, hkept.trans (by decide), hfront rfl⟩

end Bindery.Naming
