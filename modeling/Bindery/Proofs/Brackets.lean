import Bindery.Proofs.Comments
import Bindery.Proofs.Literals
import Bindery.Proofs.Words

/-!
# Brackets

Whether the brackets of a code match is said here as a reader would check it: comment lines are
dropped, then string literals are, and what is left is read with a stack of the brackets that are
open (`WellNested`). `Brackets s bs` says of a text that it leaves the same brackets open or closed
as the characters `bs`, so a line is judged by the few characters that matter in it, whatever names
and literals are filled in. Layouts are judged line by line (`Matched`), and a group is matched if
its last line closes what its first line opens (`Matched.group`).
-/

namespace Bindery.Text

/-! ## Reading brackets -/

/-- Where a reader of code is. -/
inductive ReadMode where
  | code
  | literal
  /-- Behind a backslash in a literal. -/
  | escaped

/-- Code without its string literals, if each of them is closed. -/
def dropLiterals? : ReadMode → List Char → Option (List Char)
  | .code, [] => some []
  | .literal, [] => none
  | .escaped, [] => none
  | .code, '"' :: cs => dropLiterals? .literal cs
  | .code, c :: cs => (dropLiterals? .code cs).map (c :: ·)
  | .literal, '"' :: cs => dropLiterals? .code cs
  | .literal, '\\' :: cs => dropLiterals? .escaped cs
  | .literal, _ :: cs => dropLiterals? .literal cs
  | .escaped, _ :: cs => dropLiterals? .literal cs

/-- The bracket that closes a bracket. -/
def closing? : Char → Option Char
  | '(' => some ')'
  | '[' => some ']'
  | '\x7b' => some '\x7d'
  | _ => none

def isClosing (c : Char) : Bool := c == ')' || c == ']' || c == '\x7d'

/-- Reads a character while some brackets are open, given by those that close them, the innermost
first. A bracket that closes one has to close the innermost. -/
def nestStep? (opened : List Char) (c : Char) : Option (List Char) :=
  match closing? c with
  | some closing => some (closing :: opened)
  | none =>
    if isClosing c then
      match opened with
      | [] => none
      | innermost :: others => if innermost = c then some others else none
    else some opened

/-- Reads code while some brackets are open. The result is what is open at its end. -/
def nest? (opened : List Char) (code : List Char) : Option (List Char) :=
  code.foldlM nestStep? opened

/-- A text without its comment lines. -/
def withoutComments (text : List Char) : List Char :=
  ((splitNewlines text).filter (!isComment ·)).flatMap (· ++ ['\n'])

/-- The brackets of a text are matched and properly nested, once comment lines and then string
literals are removed. -/
def WellNested (text : String) : Prop :=
  ∃ code, dropLiterals? .code (withoutComments text.toList) = some code ∧ nest? [] code = some []

/-! ## Laws of reading -/

@[simp] theorem nest?_append (opened cs ds : List Char) :
    nest? opened (cs ++ ds) = (nest? opened cs).bind fun opened => nest? opened ds :=
  List.foldlM_append

theorem nestStep?_below {opened opened' : List Char} {c : Char}
    (h : nestStep? opened c = some opened') (below : List Char) :
    nestStep? (opened ++ below) c = some (opened' ++ below) := by
  unfold nestStep? at h ⊢
  split
  · rename_i closing hclosing
    rw [hclosing] at h
    obtain rfl := Option.some.inj h
    rfl
  · rename_i hnone
    rw [hnone] at h
    simp only at h
    by_cases hclosing : isClosing c = true
    · -- it closes the innermost bracket, which is not among those below
      rw [if_pos hclosing] at h ⊢
      cases opened with
      | nil => cases h
      | cons innermost others =>
        simp only [List.cons_append] at h ⊢
        by_cases hsame : innermost = c
        · rw [if_pos hsame] at h ⊢
          obtain rfl := Option.some.inj h
          rfl
        · rw [if_neg hsame] at h
          cases h
    · rw [if_neg hclosing] at h ⊢
      obtain rfl := Option.some.inj h
      rfl

/-- What is open around the innermost brackets makes no difference. -/
theorem nest?_below {opened opened' cs : List Char} (h : nest? opened cs = some opened')
    (below : List Char) : nest? (opened ++ below) cs = some (opened' ++ below) := by
  induction cs generalizing opened with
  | nil =>
    obtain rfl := Option.some.inj h
    rfl
  | cons c cs ih =>
    unfold nest? at h ⊢
    rw [List.foldlM_cons] at h ⊢
    obtain ⟨middle, hstep, h⟩ := Option.bind_eq_some_iff.mp h
    rw [nestStep?_below hstep]
    exact ih h

/-- Code that leaves nothing open changes nothing. -/
theorem nest?_closed {cs : List Char} (h : nest? [] cs = some []) (opened : List Char) :
    nest? opened cs = some opened :=
  nest?_below h opened

/-- What stands behind a text that ends outside of literals is read as code. -/
theorem dropLiterals?_append {mode : ReadMode} {cs kept : List Char}
    (h : dropLiterals? mode cs = some kept) (rest : List Char) :
    dropLiterals? mode (cs ++ rest) = (dropLiterals? .code rest).map (kept ++ ·) := by
  fun_induction dropLiterals? mode cs generalizing kept with
  | case1 =>
    obtain rfl := Option.some.inj h
    simp
  | case2 => cases h
  | case3 => cases h
  | case4 cs ih => exact ih h
  | case5 c cs hquote ih =>
    obtain ⟨later, hlater, rfl⟩ := Option.map_eq_some_iff.mp h
    rw [List.cons_append, dropLiterals?, ih hlater, Option.map_map]
    · rfl
    · exact hquote
  | case6 cs ih => exact ih h
  | case7 cs ih => exact ih h
  | case8 c cs hquote hbackslash ih =>
    rw [List.cons_append, dropLiterals?]
    · exact ih h
    · exact hquote
    · exact hbackslash
  | case9 c cs ih => exact ih h

/-! ## Texts by their brackets -/

/-- On one line, and outside of its string literals, a text opens and closes what `bs` does. -/
structure Brackets (s : String) (bs : List Char) : Prop where
  line : '\n' ∉ s.toList
  kept : ∃ kept, dropLiterals? .code s.toList = some kept ∧
    ∀ opened, nest? opened kept = nest? opened bs

def isBracket (c : Char) : Bool := (closing? c).isSome || isClosing c

/-- The brackets of a line outside of its literals. -/
def brackets? (line : List Char) : Option (List Char) :=
  if '\n' ∈ line then none else (dropLiterals? .code line).map (·.filter isBracket)

/-- Other characters leave everything as it is. -/
theorem nest?_filter (opened cs : List Char) :
    nest? opened (cs.filter isBracket) = nest? opened cs := by
  induction cs generalizing opened with
  | nil => rfl
  | cons c cs ih =>
    rw [List.filter_cons]
    cases hbracket : isBracket c with
    | true =>
      unfold nest? at ih ⊢
      rw [if_pos rfl, List.foldlM_cons, List.foldlM_cons]
      exact congrArg (Option.bind _) (funext ih)
    | false =>
      obtain ⟨hopening, hclosing⟩ := Bool.or_eq_false_iff.mp hbracket
      have hstep : nestStep? opened c = some opened := by
        unfold nestStep?
        rw [Option.isSome_eq_false_iff, Option.isNone_iff_eq_none] at hopening
        rw [hopening]
        simp [hclosing]
      rw [if_neg (by decide), ih]
      unfold nest?
      rw [List.foldlM_cons, hstep]
      rfl

theorem dropLiterals?_of_no_quote {cs : List Char} (h : '"' ∉ cs) :
    dropLiterals? .code cs = some cs := by
  induction cs with
  | nil => rfl
  | cons c cs ih =>
    rw [List.mem_cons, not_or] at h
    rw [dropLiterals?, ih h.2]
    · rfl
    · exact fun hquote => h.1 hquote.symm

/-- Inside of literals, only quotes and backslashes count. -/
theorem dropLiterals?_literal_append {cs : List Char} (h : ∀ c ∈ cs, c ≠ '"' ∧ c ≠ '\\')
    (rest : List Char) : dropLiterals? .literal (cs ++ rest) = dropLiterals? .literal rest := by
  induction cs with
  | nil => rfl
  | cons c cs ih =>
    obtain ⟨hquote, hbackslash⟩ := h c List.mem_cons_self
    rw [List.cons_append, dropLiterals?, ih fun d hd => h d (List.mem_cons_of_mem _ hd)]
    · exact hquote
    · exact hbackslash

theorem dropLiterals?_quoteChar (c : Char) (rest : List Char) :
    dropLiterals? .literal (quoteChar c ++ rest) = dropLiterals? .literal rest := by
  unfold quoteChar
  split
  case h_7 hzero htab hreturn hnewline hquote hbackslash =>
    split
    · exact dropLiterals?_literal_append (forall_mem_numbered c.toNat) rest
    · refine dropLiterals?_literal_append (fun d hd => ?_) rest
      obtain rfl := List.mem_singleton.mp hd
      exact ⟨hquote, hbackslash⟩
  all_goals rfl

namespace Brackets

theorem append {s t : String} {as bs : List Char} (hs : Brackets s as) (ht : Brackets t bs) :
    Brackets (s ++ t) (as ++ bs) := by
  obtain ⟨kept, hkept, hnest⟩ := hs.kept
  obtain ⟨kept', hkept', hnest'⟩ := ht.kept
  refine ⟨?_, kept ++ kept', ?_, fun opened => ?_⟩
  · rw [String.toList_append, List.mem_append, not_or]
    exact ⟨hs.line, ht.line⟩
  · rw [String.toList_append, dropLiterals?_append hkept, hkept']
    rfl
  · rw [nest?_append, nest?_append, hnest]
    exact congrArg (Option.bind _) (funext hnest')

/-- A fixed text has the brackets that are found in it. -/
theorem lit {cs bs : List Char} (h : brackets? cs = some bs) : Brackets (String.ofList cs) bs := by
  unfold brackets? at h
  split at h
  · cases h
  rename_i hline
  obtain ⟨kept, hkept, rfl⟩ := Option.map_eq_some_iff.mp h
  refine ⟨?_, kept, ?_, fun opened => ?_⟩
  · rwa [String.toList_ofList]
  · rwa [String.toList_ofList]
  · rw [nest?_filter]

/-- Text that leaves nothing open counts for nothing. -/
theorem closed {s : String} {bs : List Char} (h : Brackets s bs) (hbs : nest? [] bs = some []) :
    Brackets s [] := by
  obtain ⟨kept, hkept, hnest⟩ := h.kept
  refine ⟨h.line, kept, hkept, fun opened => ?_⟩
  rw [hnest, nest?_closed hbs]
  rfl

/-- Words have no brackets. -/
theorem word {s : String} (h : IsWord s) : Brackets s [] := by
  have hother {c : Char} (hc : c ∈ s.toList) {d : Char}
      (hd : Naming.isIdentChar d = false ∧ d ≠ '#') : c ≠ d := by
    rintro rfl
    exact h.not_mem hd hc
  refine ⟨h.not_mem ⟨by decide, by decide⟩, s.toList, ?_, fun opened => ?_⟩
  · exact dropLiterals?_of_no_quote (h.not_mem ⟨by decide, by decide⟩)
  · have hnone : s.toList.filter isBracket = [] := by
      refine List.filter_eq_nil_iff.mpr fun c hc hbracket => ?_
      unfold isBracket closing? isClosing at hbracket
      -- no bracket is a character of an identifier
      have hmarks : ['(', ')', '[', ']', '\x7b', '\x7d'].all
          (fun d => !Naming.isIdentChar d && d != '#') = true := by decide
      have hbrackets : ∀ d ∈ ['(', ')', '[', ']', '\x7b', '\x7d'], c ≠ d := by
        intro d hd
        exact hother hc (by simpa using List.all_eq_true.mp hmarks d hd)
      simp only [List.mem_cons, List.not_mem_nil, or_false, forall_eq_or_imp,
        forall_eq] at hbrackets
      split at hbracket <;> simp_all
    rw [← nest?_filter, hnone]

/-- Nor have literals, whatever they denote. -/
theorem quote (s : String) : Brackets (quote s) [] := by
  obtain ⟨body, hbody, hline, -⟩ := quote_form s
  have hdrop : dropLiterals? .code (Text.quote s).toList = some [] := by
    have hinside : ∀ cs : List Char,
        dropLiterals? .literal (cs.flatMap quoteChar ++ ['"']) = some [] := by
      intro cs
      induction cs with
      | nil => rfl
      | cons c cs ih => rw [List.flatMap_cons, List.append_assoc, dropLiterals?_quoteChar, ih]
    rw [Text.quote, String.toList_ofList, quoteChars]
    exact hinside s.toList
  refine ⟨?_, [], hdrop, fun opened => rfl⟩
  rw [hbody]
  simpa using hline

end Brackets

/-- No text that matters stands in front of a line, whatever the depth. -/
theorem Brackets.indented {content : String} {bs : List Char} (h : Brackets content bs)
    (depth : Nat) : Brackets (Layout.indented depth content) bs := by
  unfold Layout.indented
  split
  · rename_i hempty
    rwa [String.isEmpty_iff.mp hempty] at h
  · have hspaces : Brackets (Layout.indentation depth) [] := by
      have hspace {c : Char} (hc : c ∈ List.replicate (4 * depth) ' ') : c = ' ' :=
        List.eq_of_mem_replicate hc
      have hnone : (List.replicate (4 * depth) ' ').filter isBracket = [] :=
        List.filter_eq_nil_iff.mpr fun c hc => by rw [hspace hc]; decide
      refine lit ?_
      rw [brackets?, if_neg fun hmem => absurd (hspace hmem) (by decide),
        dropLiterals?_of_no_quote fun hmem => absurd (hspace hmem) (by decide)]
      exact congrArg some hnone
    exact hspaces.append h

/-! ## Lines by their brackets -/

/-- The lines hold no newlines, and those that are no comments have, one after the other, the
brackets `bs`. -/
inductive LineBrackets : List String → List Char → Prop where
  | nil : LineBrackets [] []
  | comment {line : String} {ls : List String} {bs : List Char} (hline : '\n' ∉ line.toList)
    (hcomment : isComment line.toList = true) (hls : LineBrackets ls bs) :
    LineBrackets (line :: ls) bs
  | code {line : String} {ls : List String} {as bs : List Char} (h : Brackets line as)
    (hcode : isComment line.toList = false) (hls : LineBrackets ls bs) :
    LineBrackets (line :: ls) (as ++ bs)

namespace LineBrackets

theorem append {xs ys : List String} {as bs : List Char} (hxs : LineBrackets xs as)
    (hys : LineBrackets ys bs) : LineBrackets (xs ++ ys) (as ++ bs) := by
  induction hxs with
  | nil => exact hys
  | comment hline hcomment _ ih => exact .comment hline hcomment ih
  | code h hcode _ ih =>
    rw [List.append_assoc]
    exact .code h hcode ih

theorem newline_not_mem {ls : List String} {bs : List Char} (h : LineBrackets ls bs) :
    ∀ line ∈ ls, '\n' ∉ line.toList := by
  induction h with
  | nil =>
    intro line hline
    exact absurd hline List.not_mem_nil
  | comment hline _ _ ih => exact List.forall_mem_cons.mpr ⟨hline, ih⟩
  | code h _ _ ih => exact List.forall_mem_cons.mpr ⟨h.line, ih⟩

/-- What a reader keeps of the lines, comments and literals gone, has their brackets. -/
theorem kept {ls : List String} {bs : List Char} (h : LineBrackets ls bs) :
    ∃ kept, dropLiterals? .code
        (((ls.map String.toList).filter (!isComment ·)).flatMap (· ++ ['\n'])) = some kept ∧
      ∀ opened, nest? opened kept = nest? opened bs := by
  induction h with
  | nil => exact ⟨[], rfl, fun opened => rfl⟩
  | comment _ hcomment _ ih =>
    rw [List.map_cons, List.filter_cons, hcomment]
    exact ih
  | @code line ls as bs h hcode _ ih =>
    obtain ⟨front, hfront, hnest⟩ := h.kept
    obtain ⟨rest, hrest, hnest'⟩ := ih
    refine ⟨front ++ '\n' :: rest, ?_, fun opened => ?_⟩
    · rw [List.map_cons, List.filter_cons, hcode, if_pos (by decide), List.flatMap_cons,
        List.append_assoc, dropLiterals?_append hfront, List.singleton_append, dropLiterals?, hrest]
      · rfl
      · decide
    · have hnewline : nest? opened (front ++ '\n' :: rest) = nest? opened (front ++ rest) := by
        rw [← nest?_filter, List.filter_append, List.filter_cons, if_neg (by decide),
          ← List.filter_append, nest?_filter]
      rw [hnewline, nest?_append, nest?_append, hnest]
      exact congrArg (Option.bind _) (funext hnest')

/-- Lines whose brackets match make a text whose brackets match. -/
theorem wellNested {ls : List String} {bs : List Char} (h : LineBrackets ls bs)
    (hbs : nest? [] bs = some []) : WellNested (joinLines ls) := by
  obtain ⟨kept, hkept, hnest⟩ := h.kept
  refine ⟨kept ++ ['\n'], ?_, ?_⟩
  · rw [withoutComments, splitNewlines_joinLines h.newline_not_mem, List.filter_append,
      List.flatMap_append, dropLiterals?_append hkept]
    rfl
  · rw [nest?_append, hnest, hbs]
    rfl

end LineBrackets

/-! ## Layouts by their brackets -/

theorem Starts.not_isComment {s : String} {c : Char} {cs : List Char} (h : Starts s (c :: cs))
    (hc : c ≠ ' ' ∧ c ≠ '/') : isComment s.toList = false := by
  obtain ⟨rest, h⟩ := h
  rw [h, isComment, List.cons_append, List.dropWhile_cons_of_neg (by simpa using hc.1)]
  have hslash : ('/' == c) = false := by simpa using Ne.symm hc.2
  show ('/' == c && _) = false
  rw [hslash, Bool.false_and]

/-- The brackets in the lines of layouts match, at whatever depth they stand. -/
def Matched (ls : List Layout) : Prop :=
  ∀ depth, ∃ bs, LineBrackets (Layout.allLinesAt depth ls) bs ∧ nest? [] bs = some []

namespace Matched

theorem nil : Matched [] := fun _ => ⟨[], .nil, rfl⟩

theorem append {xs ys : List Layout} (hxs : Matched xs) (hys : Matched ys) :
    Matched (xs ++ ys) := by
  intro depth
  obtain ⟨as, has, hnest⟩ := hxs depth
  obtain ⟨bs, hbs, hnest'⟩ := hys depth
  rw [Layout.allLinesAt_append]
  refine ⟨as ++ bs, has.append hbs, ?_⟩
  rw [nest?_append, hnest]
  exact hnest'

theorem cons {l : Layout} {ls : List Layout} (hl : Matched [l]) (hls : Matched ls) :
    Matched (l :: ls) :=
  hl.append hls

theorem flatMap {α : Type} {f : α → List Layout} {xs : List α} (h : ∀ x ∈ xs, Matched (f x)) :
    Matched (xs.flatMap f) := by
  induction xs with
  | nil => exact nil
  | cons x xs ih =>
    exact (h x List.mem_cons_self).append (ih fun y hy => h y (List.mem_cons_of_mem _ hy))

theorem line {content : String} {bs : List Char} (h : Brackets content bs)
    (hbs : nest? [] bs = some []) : Matched [.line content] := by
  intro depth
  have hline := h.indented depth
  rw [Layout.allLinesAt, Layout.allLinesAt, Layout.linesAt, List.append_nil]
  cases hcomment : isComment (Layout.indented depth content).toList with
  | true => exact ⟨[], .comment hline.line hcomment .nil, rfl⟩
  | false =>
    refine ⟨bs ++ [], .code hline hcomment .nil, ?_⟩
    rwa [List.append_nil]

theorem blank : Matched [.blank] := line (.lit rfl) rfl

/-- Descriptions may hold any brackets, as all of them are comments. -/
theorem doc (mark : DocMark) (description : Option String) (experimental : Bool) :
    Matched [.doc mark description experimental] := by
  intro depth
  refine ⟨[], ?_, rfl⟩
  rw [Layout.allLinesAt, Layout.allLinesAt, Layout.linesAt, List.append_nil]
  have hall := fun line (hline : line ∈ docLines mark description experimental) =>
    And.intro (newline_not_mem_docLines hline) (opensComment_of_mem_docLines hline)
  generalize docLines mark description experimental = contents at hall
  induction contents with
  | nil => exact .nil
  | cons line rest ih =>
    obtain ⟨hnewline, hopens⟩ := hall line List.mem_cons_self
    refine .comment (Layout.newline_not_mem_indented hnewline) ?_
      (ih fun l hl => hall l (List.mem_cons_of_mem _ hl))
    rw [Layout.isComment_indented]
    exact Layout.isComment_of_opensComment hopens

/-- The last line of a group closes what the first line opens. -/
theorem group {header close : String} {body : List Layout} {bs cs opened : List Char} {c d : Char}
    {front front' : List Char} (hheader : Brackets header bs) (hclose : Brackets close cs)
    (hbody : Matched body) (hopen : nest? [] bs = some opened) (hshut : nest? opened cs = some [])
    (hstart : Starts header (c :: front)) (hc : c ≠ ' ' ∧ c ≠ '/')
    (hstart' : Starts close (d :: front')) (hd : d ≠ ' ' ∧ d ≠ '/') :
    Matched [.group header close body] := by
  intro depth
  obtain ⟨inside, hinside, hnest⟩ := hbody (depth + 1)
  have hcode : isComment (Layout.indented depth header).toList = false := by
    rw [Layout.isComment_indented, hstart.not_isComment hc]
  have hcode' : isComment (Layout.indented depth close).toList = false := by
    rw [Layout.isComment_indented, hstart'.not_isComment hd]
  rw [Layout.allLinesAt, Layout.allLinesAt, Layout.linesAt, List.append_nil]
  -- what stands inside leaves nothing open, so the close finds what the header has opened
  refine ⟨bs ++ (inside ++ (cs ++ [])), ?_, ?_⟩
  · exact .code (hheader.indented depth) hcode
      (hinside.append (.code (hclose.indented depth) hcode' .nil))
  · rw [nest?_append, hopen, Option.bind_some, nest?_append, nest?_closed hnest, Option.bind_some,
      List.append_nil, hshut]

/-- A group in braces. -/
theorem block {header : String} {body : List Layout} {bs : List Char} {c : Char}
    {front : List Char} (h : Brackets header bs) (hbs : nest? [] bs = some [])
    (hstart : Starts header (c :: front)) (hc : c ≠ ' ' ∧ c ≠ '/') (hbody : Matched body) :
    Matched [.block header "" body] := by
  have hheader : Brackets (header ++ " \x7b") (bs ++ ['\x7b']) := h.append (.lit rfl)
  have hclose : Brackets ("\x7d" ++ "") (['\x7d'] ++ []) := .append (.lit rfl) (.lit rfl)
  have hopen : nest? [] (bs ++ ['\x7b']) = some ['\x7d'] := by
    rw [nest?_append, hbs]
    rfl
  exact group hheader hclose hbody hopen rfl hstart.append hc (.append .lit) (by decide)

end Matched

end Bindery.Text
