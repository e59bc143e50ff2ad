import Bindery.Json.Encode
import Bindery.Proofs.Json.Fields
import Bindery.Proofs.Json.Grammar

/-!
# Strings, integers and raw texts

What is written for a string, for an integer of 64 bits and for a text that is JSON already is JSON,
and the decoder of each gives back what was written: `decodeString_escape`, `decodeInt_intChars`,
`decodeWord_intChars`, `decodeRaw_doc`. A string may be spelled in many ways; `Spells` says that one
of them denotes a given text.
-/

namespace Bindery.Json

/-! ## Strings -/

theorem isHexDigit_hexDigit : ∀ n < 16, isHexDigit (hexDigit n) = true := by decide

theorem hexDigitValue_hexDigit : ∀ n < 16, hexDigitValue (hexDigit n) = n := by decide

/-- How a character is written: by a letter behind a backslash, by its number, or as it is. -/
theorem escapeChar_cases (c : Char) :
    (∃ e, escapeChar c = ['\\', e] ∧ isEscapeLetter e = true ∧ escapedLetter e = c) ∨
    (c.toNat < 32 ∧ escapeChar c =
      ['\\', 'u', '0', '0', hexDigit (c.toNat / 16), hexDigit (c.toNat % 16)]) ∨
    (escapeChar c = [c] ∧ c ≠ '"' ∧ c ≠ '\\' ∧ 32 ≤ c.toNat) := by
  unfold escapeChar
  split
  case h_8 c hquote hbackslash _ _ _ _ _ =>
    split
    · rename_i hcontrol
      exact .inr (.inl ⟨hcontrol, rfl⟩)
    · rename_i hplain
      exact .inr (.inr ⟨rfl, hquote, hbackslash, Nat.le_of_not_lt hplain⟩)
  all_goals exact .inl ⟨_, rfl, by decide, by decide⟩

theorem isBody_escape (cs : List Char) : IsBody (escape cs) := by
  induction cs with
  | nil => exact .nil
  | cons c cs ih =>
    show IsBody (escapeChar c ++ escape cs)
    rcases escapeChar_cases c with ⟨e, heq, hletter, -⟩ | ⟨hcontrol, heq⟩ |
      ⟨heq, hquote, hbackslash, hcontrol⟩
    · rw [heq]
      exact .letter hletter ih
    · have hzero : isHexDigit '0' = true := rfl
      have hhigh := isHexDigit_hexDigit (c.toNat / 16) (by omega)
      have hlow := isHexDigit_hexDigit (c.toNat % 16) (by omega)
      rw [heq]
      exact .unit (by rw [hzero, hhigh, hlow]; rfl) ih
    · rw [heq]
      exact .plain hquote hbackslash hcontrol ih

/-- A numbered escape that is no surrogate denotes the character of its number. -/
theorem unescape_unit {a b c d : Char} {rest : List Char} (h : unitValue a b c d < 0xD800) :
    unescape ('\\' :: 'u' :: a :: b :: c :: d :: rest) =
      (unescape rest).map (Char.ofNat (unitValue a b c d) :: ·) := by
  have htrailing : isTrailingSurrogate (unitValue a b c d) = false := by
    simp only [isTrailingSurrogate, Bool.and_eq_false_iff, decide_eq_false_iff_not]
    omega
  have hleading : isLeadingSurrogate (unitValue a b c d) = false := by
    simp only [isLeadingSurrogate, Bool.and_eq_false_iff, decide_eq_false_iff_not]
    omega
  rw [unescape.eq_def]
  simp only [htrailing, hleading]
  rfl

theorem unescape_letter {e : Char} {rest : List Char} (h : isEscapeLetter e = true) :
    unescape ('\\' :: e :: rest) = (unescape rest).map (escapedLetter e :: ·) := by
  have hne : e ≠ 'u' := by
    rintro rfl
    cases h
  rw [unescape]
  intro a b c d rest' heq
  exact absurd heq hne

theorem unescape_plain {c : Char} {rest : List Char} (h : c ≠ '\\') :
    unescape (c :: rest) = (unescape rest).map (c :: ·) := by
  rw [unescape]
  · intro a b c' d rest' heq
    exact absurd heq h
  · intro e rest' heq
    exact absurd heq h

/-- **Escapes denote what was escaped.** -/
theorem unescape_escape (cs : List Char) : unescape (escape cs) = some cs := by
  induction cs with
  | nil => rfl
  | cons c cs ih =>
    show unescape (escapeChar c ++ escape cs) = some (c :: cs)
    rcases escapeChar_cases c with ⟨e, heq, hletter, hc⟩ | ⟨hcontrol, heq⟩ |
      ⟨heq, -, hbackslash, -⟩
    · rw [heq, List.cons_append, List.singleton_append, unescape_letter hletter, ih, hc]
      rfl
    · have hvalue : unitValue '0' '0' (hexDigit (c.toNat / 16)) (hexDigit (c.toNat % 16)) =
          c.toNat := by
        have hhigh := hexDigitValue_hexDigit (c.toNat / 16) (by omega)
        have hlow := hexDigitValue_hexDigit (c.toNat % 16) (by omega)
        have hzero : hexDigitValue '0' = 0 := rfl
        rw [unitValue, hhigh, hlow, hzero]
        omega
      rw [heq]
      simp only [List.cons_append, List.nil_append]
      rw [unescape_unit (by omega), hvalue, ih, Char.ofNat_toNat]
      rfl
    · rw [heq, List.singleton_append, unescape_plain hbackslash, ih]
      rfl

/-- The text is the JSON string, in one of its spellings, that denotes `s`. -/
def Spells (text : List Char) (s : String) : Prop :=
  ∃ body, IsBody body ∧ unescape body = some s.toList ∧ text = '"' :: body ++ ['"']

theorem spells_stringText (s : String) : Spells (stringText s).toList s :=
  ⟨escape s.toList, isBody_escape _, unescape_escape _, by simp [stringText]⟩

theorem stringText?_of_unescape {body : List Char} {s : String}
    (h : unescape body = some s.toList) : stringText? body = .ok s := by
  rw [stringText?, h]
  exact congrArg Except.ok String.ofList_toList

theorem decodeString_body {scope : Scope} {body : List Char} {s : String}
    (h : unescape body = some s.toList) : decodeString scope (.string body) = .ok s :=
  stringText?_of_unescape h

theorem decodeString_escape (scope : Scope) (s : String) :
    decodeString scope (.string (escape s.toList)) = .ok s :=
  decodeString_body (unescape_escape _)

/-! ## Integers -/

theorem natChars_eq (n : Nat) : (toString n).toList = Nat.toDigits 10 n := by
  rw [Nat.toString_eq_ofList_toDigits, String.toList_ofList]

theorem isDigits_toDigits (n : Nat) : IsDigits (Nat.toDigits 10 n) :=
  ⟨Nat.toDigits_ne_nil, fun _ hc => Nat.isDigit_of_mem_toDigits (by decide) (by decide) hc⟩

theorem digitsValue_toDigits (n : Nat) : digitsValue (Nat.toDigits 10 n) = n := by
  have hvalue : digitsValue (Nat.toDigits 10 n) = Nat.ofDigitChars 10 (Nat.toDigits 10 n) 0 := by
    unfold digitsValue Nat.ofDigitChars digitValue
    congr 1
    funext m c
    rw [Nat.mul_comm]
    rfl
  rw [hvalue, Nat.ofDigitChars_toDigits (by decide) (by decide)]

/-- A number is written without zeros in front. -/
theorem isWhole_toDigits (n : Nat) : IsWhole (Nat.toDigits 10 n) := by
  refine ⟨isDigits_toDigits n, ?_⟩
  -- the digits of a number are those of its tenth, and one more
  induction n using Nat.strongRecOn with
  | ind n ih =>
    intro rest hrest
    rw [Nat.toDigits_eq_if (by decide)] at hrest
    split at hrest
    · exact (List.cons.inj hrest).2.symm
    · rename_i hten
      obtain ⟨d, ds, hds⟩ :=
        List.exists_cons_of_ne_nil (Nat.toDigits_ne_nil (n := n / 10) (b := 10))
      rw [hds, List.cons_append] at hrest
      obtain ⟨rfl, -⟩ := List.cons.inj hrest
      obtain rfl := ih (n / 10) (by omega) ds hds
      have hvalue := digitsValue_toDigits (n / 10)
      rw [hds] at hvalue
      have hzero : digitsValue ['0'] = 0 := rfl
      omega

theorem intChars_ofNat (n : Nat) : intChars n = Nat.toDigits 10 n := natChars_eq n

theorem intChars_negSucc (n : Nat) : intChars (Int.negSucc n) = '-' :: Nat.toDigits 10 (n + 1) := by
  have htext : toString (Int.negSucc n) = "-" ++ toString (n + 1) := rfl
  rw [intChars, htext, String.toList_append, natChars_eq]
  rfl

theorem isNumber_intChars (n : Int) : IsNumber (intChars n) := by
  have hunsigned (m : Nat) : IsUnsigned (Nat.toDigits 10 m) :=
    ⟨_, [], [], isWhole_toDigits m, .inl rfl, .inl rfl, by simp⟩
  cases n with
  | ofNat n =>
    rw [Int.ofNat_eq_natCast, intChars_ofNat]
    exact .inl (hunsigned n)
  | negSucc n =>
    rw [intChars_negSucc]
    exact .inr ⟨_, hunsigned (n + 1), rfl⟩

/-- Digits alone are the whole part of a number. -/
theorem Parts.ofLexeme_digits {digits : List Char} (h : IsDigits digits) :
    Parts.ofLexeme digits = ⟨false, digits, none, none⟩ ∧
      Parts.ofLexeme ('-' :: digits) = ⟨true, digits, none, none⟩ := by
  have htake : takeDigits digits = (digits, []) := by
    have hend : NoDigit [] := fun c hc => nomatch hc
    simpa using takeDigits_append h.digits hend
  constructor
  · obtain ⟨d, ds, rfl⟩ := List.exists_cons_of_ne_nil h.ne_nil
    have hsign : d ≠ '-' := by
      rintro rfl
      cases h.digits '-' List.mem_cons_self
    have hunsigned : Parts.ofLexeme (d :: ds) = ⟨false, d :: ds, none, none⟩ := by
      simp only [Parts.ofLexeme]
      split
      · rename_i heq
        exact absurd (List.cons.inj heq).1 hsign
      · simp [htake]
    exact hunsigned
  · unfold Parts.ofLexeme
    simp [htake]

theorem Number.ofLexeme_natChars {n : Nat} (h : n ≤ maxWord) :
    Number.ofLexeme (Nat.toDigits 10 n) = some (.nonneg n) := by
  unfold Number.ofLexeme
  rw [(Parts.ofLexeme_digits (isDigits_toDigits n)).1]
  simp [digitsValue_toDigits, h]

theorem Number.ofLexeme_negated {n : Nat} (hpos : n ≠ 0) (h : n ≤ maxNegated) :
    Number.ofLexeme ('-' :: Nat.toDigits 10 n) = some (.negative (-n)) := by
  have hword : n ≤ maxWord := Nat.le_trans h (by decide)
  unfold Number.ofLexeme
  rw [(Parts.ofLexeme_digits (isDigits_toDigits n)).2]
  simp [digitsValue_toDigits, hword, hpos, Nat.not_lt.mpr h]

/-- An integer that is written in digits is found to be what it is, as long as the type of the
reader holds it. -/
theorem decodeInteger_intChars {low high n : Int} (expected : String) (scope : Scope)
    (hlow : low ≤ n) (hhigh : n ≤ high) (hleast : -(maxNegated : Int) ≤ low)
    (hgreatest : high ≤ (maxWord : Int)) :
    decodeInteger low high expected scope (.number (intChars n)) = .ok n := by
  cases n with
  | ofNat m =>
    have hle : (m : Int) ≤ high := hhigh
    have hword : m ≤ maxWord := Int.ofNat_le.mp (Int.le_trans hhigh hgreatest)
    have hread : number? (intChars (Int.ofNat m)) = .ok (.nonneg m) := by
      rw [Int.ofNat_eq_natCast, intChars_ofNat, number?, Number.ofLexeme_natChars hword]
    unfold decodeInteger
    simp only [hread]
    show (if (m : Int) ≤ high then Except.ok (m : Int) else _) = .ok (Int.ofNat m)
    rw [if_pos hle]
    rfl
  | negSucc m =>
    have hnegated : m + 1 ≤ maxNegated := by omega
    have hread : number? (intChars (Int.negSucc m)) = .ok (.negative (Int.negSucc m)) := by
      rw [intChars_negSucc, number?, Number.ofLexeme_negated (Nat.succ_ne_zero m) hnegated]
      rfl
    unfold decodeInteger
    simp only [hread]
    show (if low ≤ Int.negSucc m then Except.ok (Int.negSucc m) else _) = .ok (Int.negSucc m)
    rw [if_pos hlow]

theorem decodeInt_intChars (scope : Scope) (n : Int64) :
    decodeInt scope (.number (intChars n.toInt)) = .ok n.toInt :=
  decodeInteger_intChars "i64" scope n.minValue_le_toInt n.toInt_le (by decide) (by decide)

theorem decodeWord_intChars (scope : Scope) (n : UInt64) :
    decodeWord scope (.number (intChars n.toNat)) = .ok n.toNat := by
  have hhigh : (n.toNat : Int) ≤ (UInt64.size - 1 : Nat) := by
    have hlt := n.toNat_lt
    have hsize : UInt64.size = 2 ^ 64 := rfl
    omega
  have hread := decodeInteger_intChars "u64" scope (Int.natCast_nonneg n.toNat) hhigh (by decide)
    (Int.le_refl _)
  unfold decodeWord
  rw [hread]
  rfl

/-! ## Texts that are JSON already -/

namespace RawText

/-- The text is that of a value other than null, without white space around it. -/
def IsValue (raw : RawText) : Prop :=
  ∃ doc : Doc, doc.WellFormed ∧ doc ≠ .null ∧ raw.chars = doc.text

/-- The document of a raw text. -/
def doc (raw : RawText) : Doc := (parse raw.text).doc

theorem IsValue.doc_spec {raw : RawText} (h : raw.IsValue) :
    raw.doc.WellFormed ∧ raw.doc ≠ .null ∧ raw.doc.text = raw.chars := by
  obtain ⟨doc, hdoc, hnull, htext⟩ := h
  obtain rfl : raw.doc = doc := (isTextOf_iff.mp (hdoc.isTextOf htext)).1
  exact ⟨hdoc, hnull, htext.symm⟩

/-- Whether a text is that of a value is seen by reading it. -/
theorem isValue_iff {raw : RawText} :
    raw.IsValue ↔ (raw.doc.isSound = true ∧ raw.doc ≠ .null) ∧ raw.doc.text = raw.chars := by
  constructor
  · intro h
    obtain ⟨hdoc, hnull, htext⟩ := h.doc_spec
    exact ⟨⟨hdoc.isSound, hnull⟩, htext⟩
  · rintro ⟨⟨hsound, hnull⟩, htext⟩
    have hread : readDoc (raw.text.toList.length + 1) (takeSpace raw.text.toList).2 =
        (raw.doc, _) := rfl
    exact ⟨raw.doc, wellFormed_of_readDoc hread hsound, hnull, htext.symm⟩

instance (raw : RawText) : Decidable raw.IsValue :=
  have : Decidable (raw.doc ≠ .null) :=
    match raw.doc with
    | .null => .isFalse fun h => h rfl
    | .bool _ | .number _ | .string _ | .array _ | .object _ | .fault => .isTrue nofun
  decidable_of_iff _ isValue_iff.symm

end RawText

/-- **A raw text is kept character for character.** -/
theorem decodeRaw_doc {raw : RawText} (h : raw.IsValue) (scope : Scope) :
    decodeRaw scope raw.doc = .ok raw := by
  obtain ⟨hdoc, -, htext⟩ := h.doc_spec
  refine decodeRaw_eq_ok_iff.mpr ⟨hdoc.isSound, ?_⟩
  rw [htext, RawText.chars, String.ofList_toList]

/-- A value other than null is present. -/
theorem decodeOption_of_ne_null {α : Type} {decode : Decoder α} {scope : Scope} {doc : Doc} {x : α}
    (hnull : doc ≠ .null) (h : decode scope doc = .ok x) :
    decodeOption decode scope doc = .ok (some x) :=
  decodeOption_eq_ok_iff.mpr (.inr ⟨hnull, x, h, rfl⟩)

end Bindery.Json
