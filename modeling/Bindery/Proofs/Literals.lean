import Bindery.Proofs.Lines
import Bindery.Text.Quoted
import Mathlib.Data.List.TakeWhile

/-!
# String literals

`quote` writes any text as a string literal. This module says what a string literal of the generated
code denotes, by a reader that follows the whole grammar (`readLiteral?`), and shows that whatever a
text consists of, its literal stays on one line, ends at its last quote and not before, and is read
as the text again, whatever stands behind it (`readLiteral?_quote`).
-/

namespace Bindery.Text

/-! ## Reading literals -/

/-- The number that hexadecimal digits spell. -/
def hexNumber? (digits : List Char) : Option Nat :=
  digits.foldlM (fun value c => (value * 16 + ·) <$> hexValue? c) 0

/-- The character that the inside of a numbered escape stands for: one to six hexadecimal digits,
each of which underscores may follow. -/
def numbered? (inside : List Char) : Option Char :=
  let digits := inside.filter (· != '_')
  if inside.head? = some '_' || digits.isEmpty || 6 < digits.length then none
  else do
    let code ← hexNumber? digits
    if code.isValidChar then some (Char.ofNat code) else none

/-- The character that an escape of a single letter stands for. -/
def namedEscape? : Char → Option Char
  | '0' => some '\x00'
  | 't' => some '\t'
  | 'n' => some '\n'
  | 'r' => some '\r'
  | '"' => some '"'
  | '\'' => some '\''
  | '\\' => some '\\'
  | _ => none

/-- What an escape denotes, given the text behind its backslash, and the text behind the escape. A
backslash at the end of a line denotes nothing, and takes the blanks in front of the next line
away. -/
def readEscape? : List Char → Option (List Char × List Char)
  | 'x' :: high :: low :: rest => do
    let code ← hexNumber? [high, low]
    if code < 128 then some ([Char.ofNat code], rest) else none
  | 'u' :: '\x7b' :: rest => do
    let c ← numbered? (rest.takeWhile (· != '\x7d'))
    match rest.dropWhile (· != '\x7d') with
    | _ :: after => some ([c], after)
    | [] => none
  | '\n' :: rest => some ([], rest.dropWhile fun c => c == ' ' || c == '\t' || c == '\n')
  | c :: rest => do
    let denoted ← namedEscape? c
    return ([denoted], rest)
  | [] => none

theorem readEscape?_length {cs denoted rest : List Char}
    (h : readEscape? cs = some (denoted, rest)) : rest.length < cs.length := by
  unfold readEscape? at h
  split at h
  · obtain ⟨code, -, h⟩ := Option.bind_eq_some_iff.mp h
    split at h
    · obtain ⟨-, rfl⟩ := Prod.mk.inj (Option.some.inj h)
      simp only [List.length_cons]
      omega
    · cases h
  · rename_i inside
    obtain ⟨c, -, h⟩ := Option.bind_eq_some_iff.mp h
    have hdrop := (List.dropWhile_suffix (l := inside) (· != '\x7d')).length_le
    split at h
    · rename_i heq
      obtain ⟨-, rfl⟩ := Prod.mk.inj (Option.some.inj h)
      rw [heq, List.length_cons] at hdrop
      simp only [List.length_cons]
      omega
    · cases h
  · rename_i below
    obtain ⟨-, rfl⟩ := Prod.mk.inj (Option.some.inj h)
    have hdrop := (List.dropWhile_suffix (l := below)
      (fun c => c == ' ' || c == '\t' || c == '\n')).length_le
    rw [List.length_cons]
    omega
  · obtain ⟨c, -, h⟩ := Option.bind_eq_some_iff.mp h
    obtain ⟨-, rfl⟩ := Prod.mk.inj (Option.some.inj h)
    rw [List.length_cons]
    omega
  · cases h

/-- What a string literal denotes, given the text behind its opening quote, and the text behind its
closing quote. Any character may stand for itself but a quote, a backslash and a carriage return. -/
def readBody? : List Char → Option (List Char × List Char)
  | [] => none
  | c :: rest =>
    if c = '"' then some ([], rest)
    else if c = '\r' then none
    else if c = '\\' then
      match h : readEscape? rest with
      | some (denoted, after) =>
        have : after.length < rest.length := readEscape?_length h
        (readBody? after).map fun (text, behind) => (denoted ++ text, behind)
      | none => none
    else (readBody? rest).map fun (text, behind) => (c :: text, behind)
termination_by cs => cs.length
decreasing_by all_goals (simp_wf; try omega)

/-- What the string literal at the start of a text denotes, and the text behind it. -/
def readLiteral? : List Char → Option (List Char × List Char)
  | '"' :: rest => readBody? rest
  | _ => none

/-- Some quote of a text has no backslash in front that escapes it. -/
def hasBareQuote : List Char → Bool
  | [] => false
  | ['\\'] => false
  | '\\' :: _ :: rest => hasBareQuote rest
  | c :: rest => c == '"' || hasBareQuote rest

/-! ## Digits -/

theorem hexValue?_digitChar : ∀ d < 16, hexValue? d.digitChar = some d := by decide

theorem hexDigits_of_lt {n : Nat} (h : n < 16) : hexDigits n = [n.digitChar] :=
  Nat.toDigits_of_lt_base h

theorem hexDigits_of_le {n : Nat} (h : 16 ≤ n) :
    hexDigits n = hexDigits (n / 16) ++ [(n % 16).digitChar] :=
  Nat.toDigits_of_base_le (by decide) h

theorem hexNumber?_append_singleton {digits : List Char} {c : Char} {n d : Nat}
    (hdigits : hexNumber? digits = some n) (hc : hexValue? c = some d) :
    hexNumber? (digits ++ [c]) = some (n * 16 + d) := by
  unfold hexNumber? at hdigits ⊢
  rw [List.foldlM_append, hdigits, Option.bind_eq_bind, Option.bind_some, List.foldlM_cons, hc]
  rfl

/-- The digits of a number spell it. -/
theorem hexNumber?_hexDigits (n : Nat) : hexNumber? (hexDigits n) = some n := by
  -- the last digit is what the division by the base leaves
  induction n using Nat.strongRecOn with
  | ind n ih =>
    by_cases hn : n < 16
    · have hdigit : hexNumber? ([] ++ [n.digitChar]) = some (0 * 16 + n) :=
        hexNumber?_append_singleton rfl (hexValue?_digitChar n hn)
      rw [hexDigits_of_lt hn]
      simpa using hdigit
    · have hle : 16 ≤ n := by omega
      have hlast := hexValue?_digitChar (n % 16) (by omega)
      rw [hexDigits_of_le hle, hexNumber?_append_singleton (ih (n / 16) (by omega)) hlast]
      congr 1
      omega

theorem mem_hexDigits {n : Nat} {c : Char} (h : c ∈ hexDigits n) :
    ∃ d < 16, c = d.digitChar := by
  induction n using Nat.strongRecOn with
  | ind n ih =>
    by_cases hn : n < 16
    · rw [hexDigits_of_lt hn] at h
      exact ⟨n, hn, List.mem_singleton.mp h⟩
    · have hle : 16 ≤ n := by omega
      rw [hexDigits_of_le hle] at h
      rcases List.mem_append.mp h with h | h
      · exact ih (n / 16) (by omega) h
      · exact ⟨n % 16, by omega, List.mem_singleton.mp h⟩

/-- A property of all sixteen digits holds for the digits of every number. -/
theorem forall_mem_hexDigits {p : Char → Prop} (h : ∀ d < 16, p d.digitChar) (n : Nat) :
    ∀ c ∈ hexDigits n, p c := by
  intro c hc
  obtain ⟨d, hd, rfl⟩ := mem_hexDigits hc
  exact h d hd

/-- The code point of a character has one to six digits. -/
theorem length_hexDigits (c : Char) : (hexDigits c.toNat).length ≤ 6 := by
  have hvalid := c.valid
  simp only [UInt32.isValidChar, Nat.isValidChar] at hvalid
  refine (Nat.length_toDigits_le_iff (by decide) (by decide)).mpr ?_
  show c.val.toNat < 16 ^ 6
  omega

theorem numbered?_hexDigits (c : Char) : numbered? (hexDigits c.toNat) = some c := by
  have hkept : (hexDigits c.toNat).filter (· != '_') = hexDigits c.toNat :=
    List.filter_eq_self.mpr (forall_mem_hexDigits (by decide) _)
  have hhead : (hexDigits c.toNat).head? ≠ some '_' := by
    intro hhead
    exact forall_mem_hexDigits (p := (· ≠ '_')) (by decide) _ _ (List.mem_of_head? hhead) rfl
  have hnonempty : hexDigits c.toNat ≠ [] := Nat.toDigits_ne_nil
  have hlength := length_hexDigits c
  have hvalid : c.toNat.isValidChar := c.valid
  unfold numbered?
  simp [hkept, hhead, hnonempty, hexNumber?_hexDigits, hvalid, hlength]

/-! ## Reading what was quoted -/

theorem readEscape?_numbered (c : Char) (rest : List Char) :
    readEscape? ('u' :: '\x7b' :: hexDigits c.toNat ++ '\x7d' :: rest) = some ([c], rest) := by
  have hinside : ∀ d ∈ hexDigits c.toNat, (d != '\x7d') = true :=
    forall_mem_hexDigits (by decide) _
  have htake : (hexDigits c.toNat ++ '\x7d' :: rest).takeWhile (· != '\x7d') =
      hexDigits c.toNat := by
    rw [List.takeWhile_append_of_pos hinside]
    simp
  have hdrop : (hexDigits c.toNat ++ '\x7d' :: rest).dropWhile (· != '\x7d') = '\x7d' :: rest := by
    rw [List.dropWhile_append_of_pos hinside]
    simp
  rw [List.cons_append, List.cons_append, readEscape?, htake, hdrop, numbered?_hexDigits]
  rfl

theorem readBody?_escape {cs rest : List Char} {c : Char} (h : readEscape? cs = some ([c], rest)) :
    readBody? ('\\' :: cs) = (readBody? rest).map fun (text, behind) => (c :: text, behind) := by
  rw [readBody?]
  simp only [↓reduceIte, Char.reduceEq]
  split
  · rename_i heq
    rw [h] at heq
    obtain ⟨rfl, rfl⟩ := Prod.mk.inj (Option.some.inj heq)
    rfl
  · rename_i heq
    rw [h] at heq
    cases heq

/-- A character inside quotes is read as itself. -/
theorem readBody?_quoteChar (c : Char) (rest : List Char) :
    readBody? (quoteChar c ++ rest) =
      (readBody? rest).map fun (text, behind) => (c :: text, behind) := by
  unfold quoteChar
  split
  case h_7 hzero htab hreturn hnewline hquote hbackslash =>
    split
    · rw [numberedEscape]
      simp only [List.cons_append, List.append_assoc, List.nil_append]
      exact readBody?_escape (readEscape?_numbered c rest)
    · -- what stands for itself is none of the characters with escapes
      rw [List.cons_append, List.nil_append, readBody?, if_neg hquote, if_neg hreturn,
        if_neg hbackslash]
  all_goals exact readBody?_escape rfl

theorem readBody?_flatMap_quoteChar (cs rest : List Char) :
    readBody? (cs.flatMap quoteChar ++ '"' :: rest) = some (cs, rest) := by
  induction cs with
  | nil => rw [List.flatMap_nil, List.nil_append, readBody?, if_pos rfl]
  | cons c cs ih =>
    rw [List.flatMap_cons, List.append_assoc, readBody?_quoteChar, ih]
    rfl

/-- **A literal denotes the text that was quoted**, whatever follows it. -/
theorem readLiteral?_quote (s : String) (rest : List Char) :
    readLiteral? ((quote s).toList ++ rest) = some (s.toList, rest) := by
  rw [quote, String.toList_ofList, quoteChars, List.cons_append, List.cons_append, readLiteral?,
    List.append_assoc, List.singleton_append, readBody?_flatMap_quoteChar]

/-! ## The form of literals -/

theorem newline_not_mem_quoteChar (c : Char) : '\n' ∉ quoteChar c ∧ '\r' ∉ quoteChar c := by
  unfold quoteChar
  split
  case h_7 hzero htab hreturn hnewline hquote hbackslash =>
    split
    · have hnewline : '\n' ∉ hexDigits c.toNat := fun hmem =>
        forall_mem_hexDigits (p := (· ≠ '\n')) (by decide) _ _ hmem rfl
      have hreturn : '\r' ∉ hexDigits c.toNat := fun hmem =>
        forall_mem_hexDigits (p := (· ≠ '\r')) (by decide) _ _ hmem rfl
      simp [numberedEscape, hnewline, hreturn]
    · simp [Ne.symm hnewline, Ne.symm hreturn]
  all_goals decide

theorem hasBareQuote_append {cs : List Char} (h : ∀ c ∈ cs, c ≠ '"' ∧ c ≠ '\\')
    (rest : List Char) : hasBareQuote (cs ++ rest) = hasBareQuote rest := by
  induction cs with
  | nil => rfl
  | cons c cs ih =>
    obtain ⟨hquote, hbackslash⟩ := h c List.mem_cons_self
    rw [List.cons_append, hasBareQuote, ih fun d hd => h d (List.mem_cons_of_mem _ hd)]
    · simp [hquote]
    · intro heq
      exact absurd heq hbackslash
    · intro d tail heq
      exact absurd heq hbackslash

/-- Behind its first two characters, a numbered escape holds neither quotes nor backslashes. -/
theorem forall_mem_numbered (n : Nat) :
    ∀ d ∈ '\x7b' :: hexDigits n ++ ['\x7d'], d ≠ '"' ∧ d ≠ '\\' := by
  intro d hd
  rcases List.mem_append.mp hd with hd | hd
  · rcases List.mem_cons.mp hd with rfl | hd
    · decide
    · exact forall_mem_hexDigits (p := fun d => d ≠ '"' ∧ d ≠ '\\') (by decide) _ d hd
  · obtain rfl := List.mem_singleton.mp hd
    decide

theorem hasBareQuote_quoteChar (c : Char) (rest : List Char) :
    hasBareQuote (quoteChar c ++ rest) = hasBareQuote rest := by
  unfold quoteChar
  split
  case h_7 hzero htab hreturn hnewline hquote hbackslash =>
    split
    · exact hasBareQuote_append (forall_mem_numbered c.toNat) rest
    · refine hasBareQuote_append (fun d hd => ?_) rest
      obtain rfl := List.mem_singleton.mp hd
      exact ⟨hquote, hbackslash⟩
  all_goals rfl

/-- A literal is one line between two quotes, and no quote inside ends it early. -/
theorem quote_form (s : String) : ∃ body, (quote s).toList = '"' :: body ++ ['"'] ∧
    '\n' ∉ body ∧ '\r' ∉ body ∧ hasBareQuote body = false := by
  refine ⟨s.toList.flatMap quoteChar, by rw [quote, String.toList_ofList, quoteChars], ?_⟩
  induction s.toList with
  | nil => exact ⟨List.not_mem_nil, List.not_mem_nil, rfl⟩
  | cons c cs ih =>
    obtain ⟨hnewline, hreturn⟩ := newline_not_mem_quoteChar c
    rw [List.flatMap_cons, List.mem_append, List.mem_append, hasBareQuote_quoteChar]
    exact ⟨not_or.mpr ⟨hnewline, ih.1⟩, not_or.mpr ⟨hreturn, ih.2.1⟩, ih.2.2⟩

theorem Starts.quote (s : String) : Starts (quote s) ['"'] := by
  obtain ⟨body, hbody, -⟩ := quote_form s
  exact ⟨body ++ ['"'], hbody⟩

end Bindery.Text
