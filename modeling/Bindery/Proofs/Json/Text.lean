import Bindery.Json.Reader

/-!
# Documents keep their text

Reading a value takes its text off the front of what is read and nothing else: a document without a
fault, written back, is what has been read (`text_of_readDoc`). So a text that is JSON as a whole is
the text of its document, with white space around it (`text_of_parse`).
-/

namespace Bindery.Json

/-! ## Strings and numbers -/

theorem text_of_readString {cs body rest : List Char} (h : readString cs = some (body, rest)) :
    cs = body ++ '"' :: rest := by
  fun_induction readString cs generalizing body rest with
  | case1 | case4 | case6 | case7 => cases h
  | case2 after =>
    cases h
    rfl
  | case3 a b c d after hhex ih | case5 e after _ hletter ih | case8 c after _ _ _ hplain ih =>
    obtain ⟨⟨body', rest'⟩, hread, heq⟩ := Option.map_eq_some_iff.mp h
    cases heq
    rw [ih hread]
    rfl

theorem text_of_readDigits {cs digits rest : List Char} (h : readDigits cs = some (digits, rest)) :
    cs = digits ++ rest := by
  unfold readDigits at h
  split at h
  · cases h
  · have hfound : takeDigits cs = (digits, rest) := Option.some.inj h
    obtain ⟨rfl, rfl⟩ := Prod.mk.inj hfound
    exact List.takeWhile_append_dropWhile.symm

theorem text_of_readWhole {cs whole rest : List Char} (h : readWhole cs = some (whole, rest)) :
    cs = whole ++ rest := by
  unfold readWhole at h
  split at h
  · cases h
  · exact text_of_readDigits h

theorem text_of_readFraction {cs fraction rest : List Char}
    (h : readFraction cs = some (fraction, rest)) : cs = fraction ++ rest := by
  unfold readFraction at h
  split at h
  · obtain ⟨⟨digits, rest'⟩, hread, heq⟩ := Option.map_eq_some_iff.mp h
    cases heq
    rw [text_of_readDigits hread]
    rfl
  · cases h
    rfl

theorem text_of_readExponent {cs exponent rest : List Char}
    (h : readExponent cs = some (exponent, rest)) : cs = exponent ++ rest := by
  unfold readExponent at h
  split at h
  · split at h
    · split at h
      · split at h
        all_goals
          obtain ⟨⟨digits, rest'⟩, hread, heq⟩ := Option.map_eq_some_iff.mp h
          cases heq
          rw [text_of_readDigits hread]
          rfl
      · cases h
    · cases h
      rfl
  · cases h
    rfl

theorem text_of_readUnsigned {cs lexeme rest : List Char}
    (h : readUnsigned cs = some (lexeme, rest)) : cs = lexeme ++ rest := by
  unfold readUnsigned at h
  obtain ⟨⟨whole, after⟩, hwhole, h⟩ := Option.bind_eq_some_iff.mp h
  obtain ⟨⟨fraction, after'⟩, hfraction, h⟩ := Option.bind_eq_some_iff.mp h
  obtain ⟨⟨exponent, after''⟩, hexponent, h⟩ := Option.bind_eq_some_iff.mp h
  cases h
  rw [text_of_readWhole hwhole, text_of_readFraction hfraction, text_of_readExponent hexponent,
    List.append_assoc, List.append_assoc]

theorem text_of_readNumber {cs lexeme rest : List Char} (h : readNumber cs = some (lexeme, rest)) :
    cs = lexeme ++ rest := by
  unfold readNumber at h
  split at h
  · obtain ⟨⟨lexeme', rest'⟩, hread, heq⟩ := Option.map_eq_some_iff.mp h
    cases heq
    rw [text_of_readUnsigned hread]
    rfl
  · exact text_of_readUnsigned h

/-! ## Between values -/

@[simp] theorem takeSpace_append (cs : List Char) : (takeSpace cs).1 ++ (takeSpace cs).2 = cs :=
  List.takeWhile_append_dropWhile

theorem text_of_readSeparator {first : Bool} {close : Char} {cs sep rest : List Char}
    (h : readSeparator first close cs = some (sep, rest)) : cs = sep ++ rest := by
  have hspace := takeSpace_append cs
  unfold readSeparator at h
  simp only at h
  split at h
  · cases h
    exact hspace.symm
  · split at h
    · rename_i after hafter
      split at h
      · cases h
      · cases h
        rw [List.append_assoc, List.cons_append, takeSpace_append after, ← hafter, hspace]
    · cases h

theorem text_of_readColon {cs colon rest : List Char} (h : readColon cs = some (colon, rest)) :
    cs = colon ++ rest := by
  have hspace := takeSpace_append cs
  unfold readColon at h
  split at h
  · rename_i before after hfound
    cases h
    rw [hfound] at hspace
    rw [List.append_assoc, List.cons_append, List.takeWhile_append_dropWhile]
    exact hspace.symm
  · cases h

/-! ## Values -/

/-- What is read with so much fuel, as a value, as the values of an array or as the members of an
object, is the text of what comes out. -/
structure Keeps (fuel : Nat) : Prop where
  doc {cs rest : List Char} {doc : Doc} (hread : readDoc fuel cs = (doc, rest))
    (hsound : doc.isSound = true) : cs = doc.text ++ rest
  items {first : Bool} {cs rest : List Char} {items : Items}
    (hread : readItems fuel first cs = (items, rest)) (hsound : items.isSound = true) :
    cs = items.text ++ rest
  members {first : Bool} {cs rest : List Char} {members : Members}
    (hread : readMembers fuel first cs = (members, rest)) (hsound : members.isSound = true) :
    cs = members.text ++ rest

theorem Keeps.readDoc_succ {fuel : Nat} (ih : Keeps fuel) {cs rest : List Char} {doc : Doc}
    (hread : readDoc (fuel + 1) cs = (doc, rest)) (hsound : doc.isSound = true) :
    cs = doc.text ++ rest := by
  unfold readDoc at hread
  split at hread
  · cases hread
    rfl
  · cases hread
    rfl
  · cases hread
    rfl
  · split at hread
    · rename_i body after hbody
      cases hread
      rw [text_of_readString hbody]
      simp [Doc.text]
    · cases hread
      cases hsound
  · cases hread
    exact congrArg (List.cons '[') (ih.items rfl hsound)
  · cases hread
    exact congrArg (List.cons '\x7b') (ih.members rfl hsound)
  · split at hread
    · rename_i lexeme after hlexeme
      cases hread
      exact text_of_readNumber hlexeme
    · cases hread
      cases hsound

theorem Keeps.readItems_succ {fuel : Nat} (ih : Keeps fuel) {first : Bool} {cs rest : List Char}
    {items : Items} (hread : readItems (fuel + 1) first cs = (items, rest))
    (hsound : items.isSound = true) : cs = items.text ++ rest := by
  unfold readItems at hread
  split at hread
  · cases hread
    cases hsound
  · rename_i sep after hsep
    cases hread
    rw [text_of_readSeparator hsep]
    simp [Items.text]
  · rename_i sep after _ hsep
    cases hread
    obtain ⟨hvalue, hrest⟩ := Bool.and_eq_true_iff.mp hsound
    have hafter := ih.doc rfl hvalue
    have hend := ih.items rfl hrest
    rw [text_of_readSeparator hsep, Items.text, List.append_assoc, List.append_assoc, ← hend,
      ← hafter]

theorem Keeps.readMembers_succ {fuel : Nat} (ih : Keeps fuel) {first : Bool} {cs rest : List Char}
    {members : Members} (hread : readMembers (fuel + 1) first cs = (members, rest))
    (hsound : members.isSound = true) : cs = members.text ++ rest := by
  unfold readMembers at hread
  split at hread
  · cases hread
    cases hsound
  · rename_i sep after hsep
    cases hread
    rw [text_of_readSeparator hsep]
    simp [Members.text]
  · rename_i sep after hsep
    split at hread
    · cases hread
      cases hsound
    · rename_i key after hkey
      split at hread
      · cases hread
        cases hsound
      · rename_i colon after hcolon
        cases hread
        obtain ⟨hvalue, hrest⟩ := Bool.and_eq_true_iff.mp hsound
        have hafter := ih.doc rfl hvalue
        have hend := ih.members rfl hrest
        rw [text_of_readSeparator hsep, text_of_readString hkey, text_of_readColon hcolon]
        simp only [Members.text, List.append_assoc, List.cons_append]
        rw [← hend, ← hafter]
  · cases hread
    cases hsound

theorem keeps (fuel : Nat) : Keeps fuel := by
  -- the three readers call one another with one less of the fuel, so they go together
  induction fuel with
  | zero =>
    constructor
    · intro cs rest doc hread hsound
      cases hread
      cases hsound
    · intro first cs rest items hread hsound
      cases hread
      cases hsound
    · intro first cs rest members hread hsound
      cases hread
      cases hsound
  | succ fuel ih =>
    exact ⟨fun hread hsound => ih.readDoc_succ hread hsound,
      fun hread hsound => ih.readItems_succ hread hsound,
      fun hread hsound => ih.readMembers_succ hread hsound⟩

/-- **What is read is what is written.** -/
theorem text_of_readDoc {fuel : Nat} {cs rest : List Char} {doc : Doc}
    (hread : readDoc fuel cs = (doc, rest)) (hsound : doc.isSound = true) :
    cs = doc.text ++ rest :=
  (keeps fuel).doc hread hsound

/-- A text that is JSON as a whole is the text of its document, with white space around it. -/
theorem text_of_parse {s : String} (hsound : (parse s).doc.isSound = true)
    (hended : (parse s).ended = true) : ∃ before after, before.all isSpace = true ∧
      after.all isSpace = true ∧ s.toList = before ++ (parse s).doc.text ++ after := by
  obtain ⟨rest, hread, hrest⟩ : ∃ rest, readDoc (s.toList.length + 1) (takeSpace s.toList).2 =
      ((parse s).doc, rest) ∧ (parse s).ended = rest.all isSpace := ⟨_, rfl, rfl⟩
  refine ⟨(takeSpace s.toList).1, rest, List.all_takeWhile, hrest ▸ hended, ?_⟩
  rw [List.append_assoc, ← text_of_readDoc hread hsound, takeSpace_append]

end Bindery.Json
