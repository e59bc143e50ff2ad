import Bindery.Proofs.Json.Text

/-!
# The grammar of JSON

Which documents are JSON, said without a reader: what the inside of a string, a number and the text
between two values may be (`IsBody`, `IsNumber`, `IsSeparator`), and from these which documents are
well formed (`Doc.WellFormed`). Reading finds exactly these documents:

* the text of a well-formed document is read as this document, and what stands behind it is left
  (`readDoc_text`);
* what is read without a fault is well formed (`wellFormed_of_readDoc`).

So a text is JSON as a whole exactly if it is the text of a well-formed document with white space
around it (`isTextOf_iff`).
-/

namespace Bindery.Json

/-! ## Strings -/

/-- The inside of a string: escapes, and characters that need none. -/
inductive IsBody : List Char → Prop where
  | nil : IsBody []
  | unit {a b c d : Char} {body : List Char}
      (hhex : (isHexDigit a && isHexDigit b && isHexDigit c && isHexDigit d) = true)
      (hbody : IsBody body) : IsBody ('\\' :: 'u' :: a :: b :: c :: d :: body)
  | letter {e : Char} {body : List Char} (hletter : isEscapeLetter e = true)
      (hbody : IsBody body) : IsBody ('\\' :: e :: body)
  | plain {c : Char} {body : List Char} (hquote : c ≠ '"') (hbackslash : c ≠ '\\')
      (hcontrol : 32 ≤ c.toNat) (hbody : IsBody body) : IsBody (c :: body)

/-- A string ends at the first quote that is not escaped. -/
theorem readString_body {body : List Char} (h : IsBody body) (rest : List Char) :
    readString (body ++ '"' :: rest) = some (body, rest) := by
  induction h with
  | nil => simp [readString]
  | unit hhex _ ih =>
    simp only [List.cons_append]
    rw [readString, if_pos hhex, ih]
    rfl
  | @letter e body hletter _ ih =>
    have hne : e ≠ 'u' := by
      rintro rfl
      cases hletter
    simp only [List.cons_append]
    rw [readString, if_pos hletter, ih]
    · rfl
    · intro a b c d rest' heq
      exact absurd heq hne
  | @plain c body hquote hbackslash hcontrol _ ih =>
    simp only [List.cons_append]
    rw [readString, ih]
    · simp [hbackslash, hcontrol]
    · exact hquote
    · intro a b c' d rest' heq
      exact absurd heq hbackslash
    · intro e rest' heq
      exact absurd heq hbackslash

theorem isBody_of_readString {cs body rest : List Char} (h : readString cs = some (body, rest)) :
    IsBody body := by
  fun_induction readString cs generalizing body rest with
  | case1 | case4 | case6 | case7 => cases h
  | case2 after =>
    cases h
    exact .nil
  | case3 a b c d after hhex ih =>
    obtain ⟨⟨body', rest'⟩, hread, heq⟩ := Option.map_eq_some_iff.mp h
    cases heq
    exact .unit hhex (ih hread)
  | case5 e after _ hletter ih =>
    obtain ⟨⟨body', rest'⟩, hread, heq⟩ := Option.map_eq_some_iff.mp h
    cases heq
    exact .letter hletter (ih hread)
  | case8 c after hquote _ hescape hplain ih =>
    obtain ⟨⟨body', rest'⟩, hread, heq⟩ := Option.map_eq_some_iff.mp h
    cases heq
    simp only [Bool.or_eq_true, beq_iff_eq, decide_eq_true_eq, not_or, Nat.not_lt] at hplain
    exact .plain (fun hc => hquote hc) hplain.1 hplain.2 (ih hread)

/-! ## Numbers -/

/-- At least one digit, and nothing else. -/
structure IsDigits (cs : List Char) : Prop where
  ne_nil : cs ≠ []
  digits : ∀ c ∈ cs, c.isDigit = true

/-- The whole part of a number: digits, a zero in front only where it stands alone. -/
def IsWhole (cs : List Char) : Prop :=
  IsDigits cs ∧ ∀ rest, cs = '0' :: rest → rest = []

/-- The fraction of a number, which may be absent. -/
def IsFraction (cs : List Char) : Prop :=
  cs = [] ∨ ∃ digits, IsDigits digits ∧ cs = '.' :: digits

/-- The exponent of a number, which may be absent. -/
def IsExponent (cs : List Char) : Prop :=
  cs = [] ∨ ∃ e sign digits, (e = 'e' ∨ e = 'E') ∧ (sign = [] ∨ sign = ['+'] ∨ sign = ['-']) ∧
    IsDigits digits ∧ cs = e :: (sign ++ digits)

/-- A number without its sign. -/
def IsUnsigned (cs : List Char) : Prop :=
  ∃ whole fraction exponent, IsWhole whole ∧ IsFraction fraction ∧ IsExponent exponent ∧
    cs = whole ++ fraction ++ exponent

/-- A number as it is written. -/
def IsNumber (lexeme : List Char) : Prop :=
  IsUnsigned lexeme ∨ ∃ rest, IsUnsigned rest ∧ lexeme = '-' :: rest

/-- No digit stands in front, so that digits end here. -/
def NoDigit (rest : List Char) : Prop := ∀ c ∈ rest.head?, c.isDigit = false

/-- Nothing stands in front that a number could go on with. -/
def NoNumber (rest : List Char) : Prop :=
  ∀ c ∈ rest.head?, c.isDigit = false ∧ c ≠ '.' ∧ c ≠ 'e' ∧ c ≠ 'E'

theorem NoNumber.noDigit {rest : List Char} (h : NoNumber rest) : NoDigit rest :=
  fun c hc => (h c hc).1

theorem takeDigits_append {digits rest : List Char} (h : ∀ c ∈ digits, c.isDigit = true)
    (hrest : NoDigit rest) : takeDigits (digits ++ rest) = (digits, rest) := by
  have hnone : rest.takeWhile Char.isDigit = [] ∧ rest.dropWhile Char.isDigit = rest := by
    cases rest with
    | nil => exact ⟨rfl, rfl⟩
    | cons c cs =>
      have hc : c.isDigit = false := hrest c rfl
      exact ⟨by simp [hc], by simp [hc]⟩
  rw [takeDigits, List.takeWhile_append_of_pos h, List.dropWhile_append_of_pos h, hnone.1, hnone.2,
    List.append_nil]

theorem readDigits_append {digits rest : List Char} (h : IsDigits digits) (hrest : NoDigit rest) :
    readDigits (digits ++ rest) = some (digits, rest) := by
  unfold readDigits
  rw [takeDigits_append h.digits hrest]
  split
  · rename_i heq
    exact absurd (Prod.mk.inj heq).1 h.ne_nil
  · rfl

theorem isDigits_of_readDigits {cs digits rest : List Char}
    (h : readDigits cs = some (digits, rest)) : IsDigits digits := by
  unfold readDigits at h
  split at h
  · cases h
  · rename_i hne
    obtain ⟨rfl, rfl⟩ := Prod.mk.inj (Option.some.inj h)
    refine ⟨fun hnil => ?_, fun c hc => ?_⟩
    · exact hne _ (Prod.ext hnil rfl)
    · exact List.all_eq_true.mp List.all_takeWhile c hc

theorem readWhole_append {whole rest : List Char} (h : IsWhole whole) (hrest : NoDigit rest) :
    readWhole (whole ++ rest) = some (whole, rest) := by
  unfold readWhole
  rw [readDigits_append h.1 hrest]
  split
  · rename_i heq
    obtain ⟨hwhole, -⟩ := Prod.mk.inj (Option.some.inj heq)
    exact absurd (h.2 _ hwhole) (List.cons_ne_nil _ _)
  · rfl

theorem isWhole_of_readWhole {cs whole rest : List Char} (h : readWhole cs = some (whole, rest)) :
    IsWhole whole := by
  unfold readWhole at h
  split at h
  · cases h
  · rename_i hzero
    refine ⟨isDigits_of_readDigits h, ?_⟩
    rintro rest' rfl
    cases rest' with
    | nil => rfl
    | cons d ds => exact absurd h (hzero d ds rest)

theorem readFraction_append {fraction rest : List Char} (h : IsFraction fraction)
    (hrest : NoDigit rest) (hpoint : ∀ c ∈ rest.head?, c ≠ '.') :
    readFraction (fraction ++ rest) = some (fraction, rest) := by
  rcases h with rfl | ⟨digits, hdigits, rfl⟩
  · show readFraction rest = some ([], rest)
    unfold readFraction
    split
    · exact absurd rfl (hpoint '.' rfl)
    · rfl
  · show readFraction ('.' :: (digits ++ rest)) = some ('.' :: digits, rest)
    rw [readFraction, readDigits_append hdigits hrest]
    rfl

theorem isFraction_of_readFraction {cs fraction rest : List Char}
    (h : readFraction cs = some (fraction, rest)) : IsFraction fraction := by
  unfold readFraction at h
  split at h
  · obtain ⟨⟨digits, rest'⟩, hread, heq⟩ := Option.map_eq_some_iff.mp h
    cases heq
    exact .inr ⟨digits, isDigits_of_readDigits hread, rfl⟩
  · cases h
    exact .inl rfl

theorem not_isDigit_sign {c : Char} (h : (c == '+' || c == '-') = true) : c.isDigit = false := by
  simp only [Bool.or_eq_true, beq_iff_eq] at h
  rcases h with rfl | rfl <;> rfl

theorem readExponent_append {exponent rest : List Char} (h : IsExponent exponent)
    (hrest : NoNumber rest) : readExponent (exponent ++ rest) = some (exponent, rest) := by
  rcases h with rfl | ⟨e, sign, digits, he, hsign, hdigits, rfl⟩
  · show readExponent rest = some ([], rest)
    cases rest with
    | nil => rfl
    | cons c cs =>
      have hc := hrest c rfl
      simp [readExponent, hc.2.2]
  · have hletter : (e == 'e' || e == 'E') = true := by simpa using he
    show readExponent (e :: (sign ++ digits ++ rest)) = some (e :: (sign ++ digits), rest)
    rcases hsign with rfl | rfl | rfl
    · -- without a sign the first character is a digit
      obtain ⟨d, ds, hd⟩ := List.exists_cons_of_ne_nil hdigits.ne_nil
      have hplain : ¬ (d == '+' || d == '-') = true := by
        intro hsign
        have hdigit := hdigits.digits d (hd ▸ List.mem_cons_self)
        rw [not_isDigit_sign hsign] at hdigit
        cases hdigit
      have hread := readDigits_append hdigits hrest.noDigit
      rw [hd, List.cons_append] at hread
      rw [List.nil_append, hd, List.cons_append, readExponent, if_pos hletter]
      simp only [if_neg hplain, hread]
      rfl
    · simp [readExponent, he, readDigits_append hdigits hrest.noDigit]
    · simp [readExponent, he, readDigits_append hdigits hrest.noDigit]

theorem isExponent_of_readExponent {cs exponent rest : List Char}
    (h : readExponent cs = some (exponent, rest)) : IsExponent exponent := by
  unfold readExponent at h
  split at h
  · rename_i e after
    split at h
    · rename_i hletter
      have he : e = 'e' ∨ e = 'E' := by simpa using hletter
      split at h
      · rename_i s ds
        split at h
        · rename_i hsign
          obtain ⟨⟨digits, rest'⟩, hread, heq⟩ := Option.map_eq_some_iff.mp h
          cases heq
          have hs : s = '+' ∨ s = '-' := by simpa using hsign
          refine .inr ⟨e, [s], digits, he, ?_, isDigits_of_readDigits hread, rfl⟩
          rcases hs with rfl | rfl <;> simp
        · obtain ⟨⟨digits, rest'⟩, hread, heq⟩ := Option.map_eq_some_iff.mp h
          cases heq
          exact .inr ⟨e, [], digits, he, .inl rfl, isDigits_of_readDigits hread, rfl⟩
      · cases h
    · cases h
      exact .inl rfl
  · cases h
    exact .inl rfl

/-- What an exponent starts with is no digit and no point. -/
theorem head_exponent {exponent rest : List Char} (h : IsExponent exponent)
    (hrest : NoNumber rest) : ∀ c ∈ (exponent ++ rest).head?, c.isDigit = false ∧ c ≠ '.' := by
  intro c hc
  rcases h with rfl | ⟨e, sign, digits, he, -, -, rfl⟩
  · exact ⟨(hrest c hc).1, (hrest c hc).2.1⟩
  · obtain rfl : e = c := Option.some.inj hc
    rcases he with rfl | rfl <;> decide

theorem readUnsigned_append {lexeme rest : List Char} (h : IsUnsigned lexeme)
    (hrest : NoNumber rest) : readUnsigned (lexeme ++ rest) = some (lexeme, rest) := by
  obtain ⟨whole, fraction, exponent, hwhole, hfraction, hexponent, rfl⟩ := h
  have hhead := head_exponent hexponent hrest
  have hafter : NoDigit (fraction ++ (exponent ++ rest)) := by
    intro c hc
    rcases hfraction with rfl | ⟨digits, -, rfl⟩
    · exact (hhead c hc).1
    · obtain rfl : '.' = c := Option.some.inj hc
      rfl
  unfold readUnsigned
  rw [List.append_assoc, List.append_assoc, readWhole_append hwhole hafter]
  simp only [Option.bind_eq_bind, Option.bind_some]
  rw [readFraction_append hfraction (fun c hc => (hhead c hc).1) (fun c hc => (hhead c hc).2)]
  simp only [Option.bind_some]
  rw [readExponent_append hexponent hrest]
  rfl

theorem isUnsigned_of_readUnsigned {cs lexeme rest : List Char}
    (h : readUnsigned cs = some (lexeme, rest)) : IsUnsigned lexeme := by
  unfold readUnsigned at h
  obtain ⟨⟨whole, after⟩, hwhole, h⟩ := Option.bind_eq_some_iff.mp h
  obtain ⟨⟨fraction, after'⟩, hfraction, h⟩ := Option.bind_eq_some_iff.mp h
  obtain ⟨⟨exponent, after''⟩, hexponent, h⟩ := Option.bind_eq_some_iff.mp h
  cases h
  exact ⟨whole, fraction, exponent, isWhole_of_readWhole hwhole,
    isFraction_of_readFraction hfraction, isExponent_of_readExponent hexponent, rfl⟩

/-- A number without its sign starts with a digit. -/
theorem IsUnsigned.head {cs : List Char} (h : IsUnsigned cs) :
    ∃ c rest, cs = c :: rest ∧ c.isDigit = true := by
  obtain ⟨whole, fraction, exponent, hwhole, -, -, rfl⟩ := h
  obtain ⟨c, rest, rfl⟩ := List.exists_cons_of_ne_nil hwhole.1.ne_nil
  exact ⟨c, rest ++ fraction ++ exponent, rfl, hwhole.1.digits c List.mem_cons_self⟩

theorem readNumber_append {lexeme rest : List Char} (h : IsNumber lexeme) (hrest : NoNumber rest) :
    readNumber (lexeme ++ rest) = some (lexeme, rest) := by
  rcases h with h | ⟨unsigned, h, rfl⟩
  · obtain ⟨c, cs, hcs, hdigit⟩ := h.head
    have hread := readUnsigned_append h hrest
    rw [hcs, List.cons_append] at hread ⊢
    unfold readNumber
    split
    · rename_i heq
      obtain ⟨rfl, -⟩ := List.cons.inj heq
      cases hdigit
    · exact hread
  · show readNumber ('-' :: (unsigned ++ rest)) = some ('-' :: unsigned, rest)
    rw [readNumber, readUnsigned_append h hrest]
    rfl

theorem isNumber_of_readNumber {cs lexeme rest : List Char}
    (h : readNumber cs = some (lexeme, rest)) : IsNumber lexeme := by
  unfold readNumber at h
  split at h
  · obtain ⟨⟨unsigned, rest'⟩, hread, heq⟩ := Option.map_eq_some_iff.mp h
    cases heq
    exact .inr ⟨unsigned, isUnsigned_of_readUnsigned hread, rfl⟩
  · exact .inl (isUnsigned_of_readUnsigned h)

/-! ## Between values -/

/-- White space only. -/
def IsSpaces (cs : List Char) : Prop := ∀ c ∈ cs, isSpace c = true

theorem isSpaces_nil : IsSpaces [] := fun _ hc => absurd hc List.not_mem_nil

/-- What stands in front of a value of an array, or in front of a member of an object: a comma
between two of them, and white space. -/
def IsSeparator : Bool → List Char → Prop
  | true, sep => IsSpaces sep
  | false, sep => ∃ before after, IsSpaces before ∧ IsSpaces after ∧ sep = before ++ ',' :: after

/-- What stands between a key and its value. -/
def IsColon (colon : List Char) : Prop :=
  ∃ before after, IsSpaces before ∧ IsSpaces after ∧ colon = before ++ ':' :: after

theorem takeSpace_cons {spaces rest : List Char} {c : Char} (h : IsSpaces spaces)
    (hc : isSpace c = false) : takeSpace (spaces ++ c :: rest) = (spaces, c :: rest) := by
  rw [takeSpace, List.takeWhile_append_of_pos h, List.dropWhile_append_of_pos h]
  simp [hc]

theorem isSpaces_takeSpace (cs : List Char) : IsSpaces (takeSpace cs).1 :=
  List.all_eq_true.mp List.all_takeWhile

/-- In front of a closing bracket stands white space only. -/
theorem readSeparator_close {first : Bool} {close : Char} {spaces : List Char}
    (h : IsSpaces spaces) (hclose : isSpace close = false) (rest : List Char) :
    readSeparator first close (spaces ++ close :: rest) = some (spaces, close :: rest) := by
  simp [readSeparator, takeSpace_cons h hclose]

theorem readSeparator_append {first : Bool} {close c : Char} {sep : List Char}
    (h : IsSeparator first sep) (hc : isSpace c = false) (hne : c ≠ close) (hclose : close ≠ ',')
    (rest : List Char) :
    readSeparator first close (sep ++ c :: rest) = some (sep, c :: rest) := by
  cases first with
  | true => simp [readSeparator, takeSpace_cons h hc]
  | false =>
    obtain ⟨before, after, hbefore, hafter, rfl⟩ := h
    have hcomma : isSpace ',' = false := rfl
    simp [readSeparator, takeSpace_cons hbefore hcomma, takeSpace_cons hafter hc, hclose.symm, hne]

/-- What is in front of the next value is a separator, unless the list is closed. -/
theorem isSeparator_of_readSeparator {first : Bool} {close : Char} {cs sep rest : List Char}
    (h : readSeparator first close cs = some (sep, rest)) :
    (rest.head? = some close ∧ IsSpaces sep) ∨
      (rest.head? ≠ some close ∧ IsSeparator first sep) := by
  unfold readSeparator at h
  simp only at h
  split at h
  · rename_i hwhich
    obtain ⟨rfl, rfl⟩ := Prod.mk.inj (Option.some.inj h)
    by_cases hclose : (takeSpace cs).2.head? = some close
    · exact .inl ⟨hclose, isSpaces_takeSpace cs⟩
    · have hfirst : first = true := by simpa [hclose] using hwhich
      subst hfirst
      exact .inr ⟨hclose, isSpaces_takeSpace cs⟩
  · rename_i hwhich
    have hfirst : first = false := by
      cases first with
      | true => exact absurd rfl hwhich
      | false => rfl
    subst hfirst
    split at h
    · rename_i after hafter
      split at h
      · cases h
      · rename_i hclose
        obtain ⟨rfl, rfl⟩ := Prod.mk.inj (Option.some.inj h)
        refine .inr ⟨by simpa using hclose, _, _, isSpaces_takeSpace cs, ?_, rfl⟩
        exact isSpaces_takeSpace after
    · cases h

theorem readColon_append {colon : List Char} {c : Char} (h : IsColon colon)
    (hc : isSpace c = false) (rest : List Char) :
    readColon (colon ++ c :: rest) = some (colon, c :: rest) := by
  obtain ⟨before, after, hbefore, hafter, rfl⟩ := h
  have hmark : isSpace ':' = false := rfl
  simp [readColon, takeSpace_cons hbefore hmark, takeSpace_cons hafter hc]

theorem isColon_of_readColon {cs colon rest : List Char} (h : readColon cs = some (colon, rest)) :
    IsColon colon := by
  have hbefore := isSpaces_takeSpace cs
  unfold readColon at h
  split at h
  · rename_i before after hfound
    rw [hfound] at hbefore
    obtain ⟨rfl, rfl⟩ := Prod.mk.inj (Option.some.inj h)
    exact ⟨before, _, hbefore, isSpaces_takeSpace after, rfl⟩
  · cases h

/-! ## Documents -/

mutual

/-- The document is JSON. -/
def Doc.WellFormed : Doc → Prop
  | .null | .bool _ => True
  | .number lexeme => IsNumber lexeme
  | .string body => IsBody body
  | .array items => items.WellFormed true
  | .object members => members.WellFormed true
  | .fault => False

/-- What follows the opening bracket of an array, or one of its values, is JSON. -/
def Items.WellFormed (first : Bool) : Items → Prop
  | .close sep => IsSpaces sep
  | .fault => False
  | .item sep value rest => IsSeparator first sep ∧ value.WellFormed ∧ rest.WellFormed false

/-- What follows the opening brace of an object, or one of its members, is JSON. -/
def Members.WellFormed (first : Bool) : Members → Prop
  | .close sep => IsSpaces sep
  | .fault => False
  | .member sep key colon value rest =>
    IsSeparator first sep ∧ IsBody key ∧ IsColon colon ∧ value.WellFormed ∧ rest.WellFormed false

end

/-- The first character of a value: not white space, no comma and no closing bracket. -/
structure IsStart (c : Char) : Prop where
  space : isSpace c = false
  bracket : c ≠ ']'
  brace : c ≠ '\x7d'

theorem isStart_of_isDigit {c : Char} (h : c.isDigit = true) : IsStart c := by
  constructor
  · apply Bool.eq_false_iff.mpr
    intro hspace
    simp only [isSpace, Bool.or_eq_true, beq_iff_eq] at hspace
    rcases hspace with ((rfl | rfl) | rfl) | rfl <;> cases h
  · rintro rfl
    cases h
  · rintro rfl
    cases h

theorem Doc.WellFormed.start {doc : Doc} (h : doc.WellFormed) :
    ∃ c cs, doc.text = c :: cs ∧ IsStart c := by
  cases doc with
  | null => exact ⟨_, _, rfl, by constructor <;> decide⟩
  | bool value => cases value <;> exact ⟨_, _, rfl, by constructor <;> decide⟩
  | number lexeme =>
    rcases h with h | ⟨rest, -, rfl⟩
    · obtain ⟨c, cs, rfl, hdigit⟩ := h.head
      exact ⟨c, cs, rfl, isStart_of_isDigit hdigit⟩
    · exact ⟨_, _, rfl, by constructor <;> decide⟩
  | string body => exact ⟨_, _, rfl, by constructor <;> decide⟩
  | array items => exact ⟨_, _, rfl, by constructor <;> decide⟩
  | object members => exact ⟨_, _, rfl, by constructor <;> decide⟩
  | fault => exact h.elim

theorem Doc.WellFormed.length_pos {doc : Doc} (h : doc.WellFormed) : 0 < doc.text.length := by
  obtain ⟨c, cs, hcs, -⟩ := h.start
  rw [hcs]
  exact Nat.succ_pos _

theorem Items.WellFormed.length_pos {first : Bool} {items : Items} (h : items.WellFormed first) :
    0 < items.text.length := by
  cases items with
  | close sep => simp [Items.text]
  | fault => exact h.elim
  | item sep value rest =>
    have hvalue := h.2.1.length_pos
    simp only [Items.text, List.length_append]
    omega

theorem Members.WellFormed.length_pos {first : Bool} {members : Members}
    (h : members.WellFormed first) : 0 < members.text.length := by
  cases members with
  | close sep => simp [Members.text]
  | fault => exact h.elim
  | member sep key colon value rest =>
    simp only [Members.text, List.length_append, List.length_cons]
    omega

/-- No number goes on with white space. -/
theorem noNumber_of_isSpaces {spaces rest : List Char} (h : IsSpaces spaces)
    (hrest : NoNumber rest) : NoNumber (spaces ++ rest) := by
  cases spaces with
  | nil => exact hrest
  | cons c spaces =>
    intro d hd
    obtain rfl : c = d := Option.some.inj hd
    have hspace := h c List.mem_cons_self
    simp only [isSpace, Bool.or_eq_true, beq_iff_eq] at hspace
    rcases hspace with ((rfl | rfl) | rfl) | rfl <;> decide

/-- Nor does it with a comma or a closing bracket. -/
theorem noNumber_of_mark {c : Char} (hc : c = ',' ∨ c = ']' ∨ c = '\x7d') (rest : List Char) :
    NoNumber (c :: rest) := by
  intro d hd
  obtain rfl : c = d := Option.some.inj hd
  rcases hc with rfl | rfl | rfl <;> decide

theorem Items.WellFormed.noNumber {items : Items} (h : items.WellFormed false)
    (rest : List Char) : NoNumber (items.text ++ rest) := by
  cases items with
  | close sep =>
    rw [Items.text, List.append_assoc]
    exact noNumber_of_isSpaces h (noNumber_of_mark (.inr (.inl rfl)) _)
  | fault => exact h.elim
  | item sep value later =>
    obtain ⟨before, after, hbefore, -, rfl⟩ := h.1
    simp only [Items.text, List.append_assoc, List.cons_append]
    exact noNumber_of_isSpaces hbefore (noNumber_of_mark (.inl rfl) _)

theorem Members.WellFormed.noNumber {members : Members} (h : members.WellFormed false)
    (rest : List Char) : NoNumber (members.text ++ rest) := by
  cases members with
  | close sep =>
    rw [Members.text, List.append_assoc]
    exact noNumber_of_isSpaces h (noNumber_of_mark (.inr (.inr rfl)) _)
  | fault => exact h.elim
  | member sep key colon value later =>
    obtain ⟨before, after, hbefore, -, rfl⟩ := h.1
    simp only [Members.text, List.append_assoc, List.cons_append]
    exact noNumber_of_isSpaces hbefore (noNumber_of_mark (.inl rfl) _)

/-! ## What is written is read -/

/-- A number is read as a number: it starts like no other value. -/
theorem readDoc_number {lexeme : List Char} (h : IsNumber lexeme) {rest : List Char}
    (hrest : NoNumber rest) (fuel : Nat) :
    readDoc (fuel + 1) (lexeme ++ rest) = (.number lexeme, rest) := by
  have hread := readNumber_append h hrest
  have hfirst : ∃ c cs, lexeme ++ rest = c :: cs ∧ (c = '-' ∨ c.isDigit = true) := by
    rcases h with h | ⟨unsigned, -, rfl⟩
    · obtain ⟨c, cs, rfl, hdigit⟩ := h.head
      exact ⟨c, cs ++ rest, rfl, .inr hdigit⟩
    · exact ⟨'-', unsigned ++ rest, rfl, .inl rfl⟩
  obtain ⟨c, cs, hcs, hc⟩ := hfirst
  rw [hcs] at hread ⊢
  unfold readDoc
  split
  -- the other values start with a letter, a quote or a bracket
  case h_7 => rw [hread]
  all_goals
    rename_i heq
    obtain ⟨rfl, -⟩ := List.cons.inj heq
    rcases hc with hc | hc <;> cases hc

theorem readItems_close {first : Bool} {sep : List Char} (h : IsSpaces sep) (fuel : Nat)
    (rest : List Char) :
    readItems (fuel + 1) first (sep ++ ']' :: rest) = (.close sep, rest) := by
  rw [readItems, readSeparator_close h rfl]
  rfl

theorem readItems_item {first : Bool} {sep cs middle rest : List Char} {c : Char} {fuel : Nat}
    {value : Doc} {later : Items} (hsep : IsSeparator first sep) (hc : IsStart c)
    (hvalue : readDoc fuel (c :: cs) = (value, middle))
    (hlater : readItems fuel false middle = (later, rest)) :
    readItems (fuel + 1) first (sep ++ c :: cs) = (.item sep value later, rest) := by
  rw [readItems, readSeparator_append hsep hc.space hc.bracket (by decide)]
  split
  · rename_i heq
    cases heq
  · rename_i heq
    cases heq
    exact absurd rfl hc.bracket
  · rename_i heq
    cases heq
    simp only [hvalue, hlater]

theorem readMembers_close {first : Bool} {sep : List Char} (h : IsSpaces sep) (fuel : Nat)
    (rest : List Char) :
    readMembers (fuel + 1) first (sep ++ '\x7d' :: rest) = (.close sep, rest) := by
  rw [readMembers, readSeparator_close h rfl]
  rfl

theorem readMembers_member {first : Bool} {sep key colon cs middle rest : List Char} {c : Char}
    {fuel : Nat} {value : Doc} {later : Members} (hsep : IsSeparator first sep) (hkey : IsBody key)
    (hcolon : IsColon colon) (hc : IsStart c) (hvalue : readDoc fuel (c :: cs) = (value, middle))
    (hlater : readMembers fuel false middle = (later, rest)) :
    readMembers (fuel + 1) first (sep ++ '"' :: (key ++ '"' :: (colon ++ c :: cs))) =
      (.member sep key colon value later, rest) := by
  rw [readMembers, readSeparator_append hsep rfl (by decide) (by decide)]
  simp only [readString_body hkey, readColon_append hcolon hc.space, hvalue, hlater]

mutual

/-- **The text of a document is read as this document**, and what stands behind it is left. -/
theorem readDoc_text : ∀ {doc : Doc}, doc.WellFormed → ∀ {fuel : Nat} {rest : List Char},
    doc.text.length ≤ fuel → NoNumber rest → readDoc fuel (doc.text ++ rest) = (doc, rest)
  | doc, h, 0, rest, hfuel, _ => absurd hfuel (Nat.not_le_of_lt h.length_pos)
  | .null, _, fuel + 1, rest, _, _ => by simp [Doc.text, readDoc]
  | .bool true, _, fuel + 1, rest, _, _ => by simp [Doc.text, readDoc]
  | .bool false, _, fuel + 1, rest, _, _ => by simp [Doc.text, readDoc]
  | .number lexeme, h, fuel + 1, rest, _, hrest => readDoc_number h hrest fuel
  | .string body, h, fuel + 1, rest, _, _ => by
    simp [Doc.text, readDoc, readString_body h rest]
  | .array items, h, fuel + 1, rest, hfuel, _ => by
    have hitems : readItems fuel true (items.text ++ rest) = (items, rest) :=
      readItems_text h (Nat.le_of_succ_le_succ hfuel)
    simp [Doc.text, readDoc, hitems]
  | .object members, h, fuel + 1, rest, hfuel, _ => by
    have hmembers : readMembers fuel true (members.text ++ rest) = (members, rest) :=
      readMembers_text h (Nat.le_of_succ_le_succ hfuel)
    simp [Doc.text, readDoc, hmembers]

theorem readItems_text : ∀ {items : Items} {first : Bool}, items.WellFormed first →
    ∀ {fuel : Nat} {rest : List Char}, items.text.length ≤ fuel →
      readItems fuel first (items.text ++ rest) = (items, rest)
  | items, first, h, 0, rest, hfuel => absurd hfuel (Nat.not_le_of_lt h.length_pos)
  | .close sep, first, h, fuel + 1, rest, _ => by
    rw [Items.text, List.append_assoc]
    exact readItems_close h fuel rest
  | .item sep value later, first, ⟨hsep, hvalue, hlater⟩, fuel + 1, rest, hfuel => by
    have hpos := hvalue.length_pos
    have hpos' := hlater.length_pos
    simp only [Items.text, List.length_append] at hfuel
    have hread : readDoc fuel (value.text ++ (later.text ++ rest)) = (value, later.text ++ rest) :=
      readDoc_text hvalue (by omega) (hlater.noNumber rest)
    have hread' : readItems fuel false (later.text ++ rest) = (later, rest) :=
      readItems_text hlater (by omega)
    obtain ⟨c, cs, hcs, hstart⟩ := hvalue.start
    rw [hcs, List.cons_append] at hread
    simp only [Items.text, List.append_assoc, hcs, List.cons_append]
    exact readItems_item hsep hstart hread hread'

theorem readMembers_text : ∀ {members : Members} {first : Bool}, members.WellFormed first →
    ∀ {fuel : Nat} {rest : List Char}, members.text.length ≤ fuel →
      readMembers fuel first (members.text ++ rest) = (members, rest)
  | members, first, h, 0, rest, hfuel => absurd hfuel (Nat.not_le_of_lt h.length_pos)
  | .close sep, first, h, fuel + 1, rest, _ => by
    rw [Members.text, List.append_assoc]
    exact readMembers_close h fuel rest
  | .member sep key colon value later, first, ⟨hsep, hkey, hcolon, hvalue, hlater⟩, fuel + 1, rest,
      hfuel => by
    have hpos' := hlater.length_pos
    simp only [Members.text, List.length_append, List.length_cons] at hfuel
    have hread : readDoc fuel (value.text ++ (later.text ++ rest)) = (value, later.text ++ rest) :=
      readDoc_text hvalue (by omega) (hlater.noNumber rest)
    have hread' : readMembers fuel false (later.text ++ rest) = (later, rest) :=
      readMembers_text hlater (by omega)
    obtain ⟨c, cs, hcs, hstart⟩ := hvalue.start
    rw [hcs, List.cons_append] at hread
    simp only [Members.text, List.append_assoc, hcs, List.cons_append]
    exact readMembers_member hsep hkey hcolon hstart hread hread'

end

/-! ## What is read is JSON -/

/-- What a reader finds with a given fuel is well formed, unless it holds a fault. -/
structure FindsJson (fuel : Nat) : Prop where
  doc {cs rest : List Char} {doc : Doc} (hread : readDoc fuel cs = (doc, rest))
    (hsound : doc.isSound = true) : doc.WellFormed
  items {first : Bool} {cs rest : List Char} {items : Items}
    (hread : readItems fuel first cs = (items, rest)) (hsound : items.isSound = true) :
    items.WellFormed first
  members {first : Bool} {cs rest : List Char} {members : Members}
    (hread : readMembers fuel first cs = (members, rest)) (hsound : members.isSound = true) :
    members.WellFormed first

theorem FindsJson.readDoc_succ {fuel : Nat} (ih : FindsJson fuel) {cs rest : List Char} {doc : Doc}
    (hread : readDoc (fuel + 1) cs = (doc, rest)) (hsound : doc.isSound = true) :
    doc.WellFormed := by
  unfold readDoc at hread
  split at hread
  · cases hread
    trivial
  · cases hread
    trivial
  · cases hread
    trivial
  · split at hread
    · rename_i body after hbody
      cases hread
      exact isBody_of_readString hbody
    · cases hread
      cases hsound
  · cases hread
    exact ih.items rfl hsound
  · cases hread
    exact ih.members rfl hsound
  · split at hread
    · rename_i lexeme after hlexeme
      cases hread
      exact isNumber_of_readNumber hlexeme
    · cases hread
      cases hsound

theorem FindsJson.readItems_succ {fuel : Nat} (ih : FindsJson fuel) {first : Bool}
    {cs rest : List Char} {items : Items} (hread : readItems (fuel + 1) first cs = (items, rest))
    (hsound : items.isSound = true) : items.WellFormed first := by
  unfold readItems at hread
  split at hread
  · cases hread
    cases hsound
  · rename_i sep after hsep
    cases hread
    rcases isSeparator_of_readSeparator hsep with ⟨-, hspaces⟩ | ⟨hclose, -⟩
    · exact hspaces
    · exact absurd rfl hclose
  · rename_i sep after hopen hsep
    cases hread
    obtain ⟨hvalue, hrest⟩ := Bool.and_eq_true_iff.mp hsound
    rcases isSeparator_of_readSeparator hsep with ⟨hclose, -⟩ | ⟨-, hseparator⟩
    · obtain ⟨rest', rfl⟩ := List.head?_eq_some_iff.mp hclose
      exact absurd rfl (hopen rest')
    · exact ⟨hseparator, ih.doc rfl hvalue, ih.items rfl hrest⟩

theorem FindsJson.readMembers_succ {fuel : Nat} (ih : FindsJson fuel) {first : Bool}
    {cs rest : List Char} {members : Members}
    (hread : readMembers (fuel + 1) first cs = (members, rest))
    (hsound : members.isSound = true) : members.WellFormed first := by
  unfold readMembers at hread
  split at hread
  · cases hread
    cases hsound
  · rename_i sep after hsep
    cases hread
    rcases isSeparator_of_readSeparator hsep with ⟨-, hspaces⟩ | ⟨hclose, -⟩
    · exact hspaces
    · exact absurd rfl hclose
  · rename_i sep after hsep
    have hseparator : IsSeparator first sep := by
      rcases isSeparator_of_readSeparator hsep with ⟨hclose, -⟩ | ⟨-, hseparator⟩
      · cases hclose
      · exact hseparator
    split at hread
    · cases hread
      cases hsound
    · rename_i key after hkey
      split at hread
      · cases hread
        cases hsound
      · rename_i colon after hcolon
        cases hread
        obtain ⟨hvalue, hrest⟩ := Bool.and_eq_true_iff.mp hsound
        exact ⟨hseparator, isBody_of_readString hkey, isColon_of_readColon hcolon,
          ih.doc rfl hvalue, ih.members rfl hrest⟩
  · cases hread
    cases hsound

theorem findsJson (fuel : Nat) : FindsJson fuel := by
  -- as for the texts, the readers go together, each with one less of the fuel
  induction fuel with
  | zero =>
    constructor
    · intro cs rest doc hread hsound
      cases hread
      cases hsound
    · intro first cs rest items hread hsound
      cases hread
      cases hsound
    · intro first cs rest members hread hsound
      cases hread
      cases hsound
  | succ fuel ih =>
    exact ⟨fun hread hsound => ih.readDoc_succ hread hsound,
      fun hread hsound => ih.readItems_succ hread hsound,
      fun hread hsound => ih.readMembers_succ hread hsound⟩

/-- **What is read without a fault is JSON.** -/
theorem wellFormed_of_readDoc {fuel : Nat} {cs rest : List Char} {doc : Doc}
    (hread : readDoc fuel cs = (doc, rest)) (hsound : doc.isSound = true) : doc.WellFormed :=
  (findsJson fuel).doc hread hsound

mutual

/-- A well-formed document holds no fault. -/
theorem Doc.WellFormed.isSound : ∀ {doc : Doc}, doc.WellFormed → doc.isSound = true
  | .null, _ | .bool _, _ | .number _, _ | .string _, _ => rfl
  | .array _, h => Items.WellFormed.isSound h
  | .object _, h => Members.WellFormed.isSound h

theorem Items.WellFormed.isSound : ∀ {items : Items} {first : Bool}, items.WellFormed first →
    items.isSound = true
  | .close _, _, _ => rfl
  | .item _ _ _, _, ⟨_, hvalue, hrest⟩ =>
    Bool.and_eq_true_iff.mpr ⟨hvalue.isSound, Items.WellFormed.isSound hrest⟩

theorem Members.WellFormed.isSound : ∀ {members : Members} {first : Bool},
    members.WellFormed first → members.isSound = true
  | .close _, _, _ => rfl
  | .member _ _ _ _ _, _, ⟨_, _, _, hvalue, hrest⟩ =>
    Bool.and_eq_true_iff.mpr ⟨hvalue.isSound, Members.WellFormed.isSound hrest⟩

end

/-! ## Whole texts -/

/-- The text is the text of a document, with white space around it. -/
def IsTextOf (s : String) (doc : Doc) : Prop :=
  doc.WellFormed ∧ ∃ before after, IsSpaces before ∧ IsSpaces after ∧
    s.toList = before ++ doc.text ++ after

theorem Doc.WellFormed.isTextOf {s : String} {doc : Doc} (h : doc.WellFormed)
    (hs : s.toList = doc.text) : IsTextOf s doc :=
  ⟨h, [], [], isSpaces_nil, isSpaces_nil, by rw [hs, List.nil_append, List.append_nil]⟩

/-- **A text is read as a whole exactly if it is JSON**, and is read as the document whose text it
is. -/
theorem isTextOf_iff {s : String} {doc : Doc} :
    IsTextOf s doc ↔
      (parse s).doc = doc ∧ (parse s).ended = true ∧ (parse s).doc.isSound = true := by
  constructor
  · rintro ⟨hdoc, before, after, hbefore, hafter, hs⟩
    obtain ⟨c, cs, hcs, hstart⟩ := hdoc.start
    have hfront : (takeSpace s.toList).2 = doc.text ++ after := by
      rw [hs, List.append_assoc, hcs, List.cons_append, takeSpace_cons hbefore hstart.space]
    have hend : NoNumber after := by
      have hnone : NoNumber [] := fun c hc => nomatch hc
      simpa using noNumber_of_isSpaces hafter hnone
    have hlength : doc.text.length ≤ s.toList.length + 1 := by
      rw [hs]
      simp only [List.length_append]
      omega
    have hread := readDoc_text hdoc hlength hend
    have hparse : parse s = ⟨doc, after.all isSpace⟩ := by
      unfold parse
      rw [hfront, hread]
    rw [hparse]
    exact ⟨rfl, List.all_eq_true.mpr hafter, hdoc.isSound⟩
  · rintro ⟨rfl, hended, hsound⟩
    obtain ⟨before, after, hbefore, hafter, hs⟩ := text_of_parse hsound hended
    have hread : readDoc (s.toList.length + 1) (takeSpace s.toList).2 = ((parse s).doc, _) := rfl
    exact ⟨wellFormed_of_readDoc hread hsound, before, after, List.all_eq_true.mp hbefore,
      List.all_eq_true.mp hafter, hs⟩

end Bindery.Json
