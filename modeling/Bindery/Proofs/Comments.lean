import Bindery.Proofs.Lines

/-!
# Comments and code

A line of a text is a comment if two slashes stand first in it, and the rest of its lines, less the
blank ones, are its code. Descriptions reach generated code as doc comments only, and whatever a
description is, all of it is comment: every line that it contributes opens with slashes and holds no
newline of its own (`opensComment_of_mem_docLines`, `newline_not_mem_docLines`). So the code of a
layout is that of its other lines (`Layout.codeLines_textAll`).
-/

namespace Bindery.Text

/-- A line whose first characters, behind spaces, are two slashes. -/
def isComment (line : List Char) : Bool :=
  "//".toList.isPrefixOf (line.dropWhile (· == ' '))

/-- The lines of a text that hold code, neither blank nor comments. -/
def codeLines (text : List Char) : List (List Char) :=
  (splitNewlines text).filter fun line => !allBlank line && !isComment line

theorem codeLines_append_newline (above below : List Char) :
    codeLines (above ++ '\n' :: below) = codeLines above ++ codeLines below := by
  unfold codeLines
  rw [splitNewlines_append_newline, List.filter_append]

/-- A comment of one line is no code. -/
theorem codeLines_eq_nil {line : List Char} (hnewline : '\n' ∉ line)
    (hcomment : isComment line = true) : codeLines line = [] := by
  unfold codeLines
  rw [splitNewlines_of_no_newline hnewline]
  simp [hcomment]

theorem codeLines_joinLines_append (ls : List String) (rest : List Char) :
    codeLines ((joinLines ls).toList ++ rest) =
      ls.flatMap (fun line => codeLines line.toList) ++ codeLines rest := by
  induction ls with
  | nil => rfl
  | cons line ls ih =>
    rw [toList_joinLines_cons, List.append_assoc, List.cons_append, codeLines_append_newline, ih,
      List.flatMap_cons, List.append_assoc]

/-! ## Doc comments -/

theorem newline_not_mem_of_mem_lines {cs line : List Char} (h : line ∈ lines cs) :
    '\n' ∉ line := by
  have hsplit : ∀ piece ∈ splitNewlines cs, '\n' ∉ piece := newline_not_mem_of_mem_splitNewlines
  have hended : ∀ piece ∈ (splitNewlines cs).dropLast.map dropReturn, '\n' ∉ piece := by
    intro piece hpiece
    obtain ⟨whole, hwhole, rfl⟩ := List.mem_map.mp hpiece
    have hno := hsplit whole ((List.dropLast_sublist _).mem hwhole)
    unfold dropReturn
    split
    · exact fun hmem => hno ((List.dropLast_sublist _).mem hmem)
    · exact hno
  unfold lines at h
  simp only at h
  split at h
  · exact hended line h
  · exact hended line h
  · -- the text behind the last newline is one of the pieces as well
    rename_i last _ hlast
    rcases List.mem_append.mp h with h | h
    · exact hended line h
    · obtain rfl := List.mem_singleton.mp h
      exact hsplit line (List.mem_of_getLast? hlast)

theorem mem_of_mem_trimEnd {cs : List Char} {c : Char} (h : c ∈ trimEnd cs) : c ∈ cs := by
  unfold trimEnd at h
  exact List.mem_reverse.mp ((List.dropWhile_sublist _).mem (List.mem_reverse.mp h))

/-- A text that opens a comment. -/
def OpensComment (line : String) : Prop := ∃ rest, line.toList = '/' :: '/' :: rest

namespace DocMark

theorem opensComment_opening (mark : DocMark) : OpensComment mark.opening := by
  cases mark with
  | item => exact ⟨['/'], rfl⟩
  | enclosing => exact ⟨['!'], rfl⟩

theorem newline_not_mem_opening (mark : DocMark) : '\n' ∉ mark.opening.toList := by
  cases mark <;> decide

theorem line_eq (mark : DocMark) (content : List Char) :
    mark.line content = mark.opening ∨
      mark.line content = mark.opening ++ " " ++ String.ofList (trimEnd content) := by
  unfold line
  split
  · exact .inl rfl
  · exact .inr rfl

end DocMark

theorem OpensComment.append {line : String} (h : OpensComment line) (rest : String) :
    OpensComment (line ++ rest) := by
  obtain ⟨tail, htail⟩ := h
  exact ⟨tail ++ rest.toList, by rw [String.toList_append, htail]; rfl⟩

/-- The lines of a doc comment: the mark stands in front of each, and what follows it is a line of
the description, or the note on what is experimental. -/
theorem mem_docLines {mark : DocMark} {description : Option String} {experimental : Bool}
    {line : String} (h : line ∈ docLines mark description experimental) :
    line = mark.opening ∨ ∃ rest : String, line = mark.opening ++ rest ∧ '\n' ∉ rest.toList := by
  rcases List.mem_append.mp h with hdescribed | hmarker
  · unfold describedLines at hdescribed
    split at hdescribed
    · rename_i text
      split at hdescribed
      · exact absurd hdescribed List.not_mem_nil
      · obtain ⟨content, hcontent, rfl⟩ := List.mem_map.mp hdescribed
        have hno : '\n' ∉ trimEnd content := fun hmem =>
          newline_not_mem_of_mem_lines hcontent (mem_of_mem_trimEnd hmem)
        rcases mark.line_eq content with heq | heq
        · exact .inl heq
        · refine .inr ⟨" " ++ String.ofList (trimEnd content), ?_, ?_⟩
          · rw [heq, String.append_assoc]
          · simpa using hno
    · exact absurd hdescribed List.not_mem_nil
  · have hnote : '\n' ∉ " **Experimental.**".toList := by decide
    split at hmarker
    · split at hmarker
      · rcases List.mem_cons.mp hmarker with rfl | hmarker
        · exact .inl rfl
        · exact .inr ⟨_, List.mem_singleton.mp hmarker, hnote⟩
      · exact .inr ⟨_, List.mem_singleton.mp hmarker, hnote⟩
    · exact absurd hmarker List.not_mem_nil

/-- **Every line of a doc comment is a comment.** -/
theorem opensComment_of_mem_docLines {mark : DocMark} {description : Option String}
    {experimental : Bool} {line : String} (h : line ∈ docLines mark description experimental) :
    OpensComment line := by
  rcases mem_docLines h with rfl | ⟨rest, rfl, -⟩
  · exact mark.opensComment_opening
  · exact mark.opensComment_opening.append rest

theorem newline_not_mem_docLines {mark : DocMark} {description : Option String}
    {experimental : Bool} {line : String} (h : line ∈ docLines mark description experimental) :
    '\n' ∉ line.toList := by
  rcases mem_docLines h with rfl | ⟨rest, rfl, hrest⟩
  · exact mark.newline_not_mem_opening
  · rw [String.toList_append, List.mem_append, not_or]
    exact ⟨mark.newline_not_mem_opening, hrest⟩

namespace Layout

/-- Indentation makes no difference to whether a line is a comment. -/
theorem isComment_indented (depth : Nat) (content : String) :
    isComment (indented depth content).toList = isComment content.toList :=
  congrArg ("//".toList.isPrefixOf ·) (unindent_indented depth content)

theorem isComment_of_opensComment {content : String} (h : OpensComment content) :
    isComment content.toList = true := by
  obtain ⟨rest, hrest⟩ := h
  rw [hrest]
  rfl

theorem newline_not_mem_indented {depth : Nat} {content : String} (h : '\n' ∉ content.toList) :
    '\n' ∉ (indented depth content).toList := by
  unfold indented
  split
  · exact List.not_mem_nil
  · rw [String.toList_append, List.mem_append, not_or]
    refine ⟨fun hmem => ?_, h⟩
    rw [indentation, String.toList_ofList] at hmem
    exact absurd (List.eq_of_mem_replicate hmem) (by decide)

/-! ## The code of layouts -/

mutual

/-- The lines of code of a layout at a depth: those of its lines, but for doc comments. -/
def codeAt (depth : Nat) : Layout → List (List Char)
  | .line content => codeLines (indented depth content).toList
  | .doc _ _ _ => []
  | .group header close body =>
    codeLines (indented depth header).toList ++ allCodeAt (depth + 1) body ++
      codeLines (indented depth close).toList

/-- The lines of code of layouts that follow one another. -/
def allCodeAt (depth : Nat) : List Layout → List (List Char)
  | [] => []
  | l :: ls => codeAt depth l ++ allCodeAt depth ls

end

@[simp] theorem allCodeAt_append (depth : Nat) (xs ys : List Layout) :
    allCodeAt depth (xs ++ ys) = allCodeAt depth xs ++ allCodeAt depth ys := by
  induction xs with
  | nil => rfl
  | cons x xs ih => rw [List.cons_append, allCodeAt, allCodeAt, ih, List.append_assoc]

mutual

theorem flatMap_codeLines_linesAt (depth : Nat) :
    ∀ l : Layout, (l.linesAt depth).flatMap (fun line => codeLines line.toList) = l.codeAt depth
  | .line content => List.flatMap_singleton _ _
  | .doc mark description experimental => by
    rw [codeAt, List.flatMap_eq_nil_iff]
    intro line hline
    obtain ⟨content, hcontent, rfl⟩ := List.mem_map.mp hline
    refine codeLines_eq_nil (newline_not_mem_indented (newline_not_mem_docLines hcontent)) ?_
    rw [isComment_indented]
    exact isComment_of_opensComment (opensComment_of_mem_docLines hcontent)
  | .group header close body => by
    rw [linesAt, codeAt, List.flatMap_cons, List.flatMap_append, List.flatMap_singleton,
      flatMap_codeLines_allLinesAt (depth + 1) body, List.append_assoc]

theorem flatMap_codeLines_allLinesAt (depth : Nat) :
    ∀ ls : List Layout,
      (allLinesAt depth ls).flatMap (fun line => codeLines line.toList) = allCodeAt depth ls
  | [] => rfl
  | l :: ls => by
    rw [allLinesAt, allCodeAt, List.flatMap_append, flatMap_codeLines_linesAt depth l,
      flatMap_codeLines_allLinesAt depth ls]

end

/-- **Doc comments are no code**, whatever text follows the layouts. -/
theorem codeLines_textAll_append (depth : Nat) (ls : List Layout) (rest : List Char) :
    codeLines ((textAll depth ls).toList ++ rest) = allCodeAt depth ls ++ codeLines rest := by
  rw [textAll_eq_joinLines, codeLines_joinLines_append, flatMap_codeLines_allLinesAt]

theorem codeLines_textAll (depth : Nat) (ls : List Layout) :
    codeLines (textAll depth ls).toList = allCodeAt depth ls := by
  have hall := codeLines_textAll_append depth ls []
  rwa [List.append_nil, show codeLines [] = [] from rfl, List.append_nil] at hall

end Layout

end Bindery.Text
