import Bindery.Text.Layout
import Mathlib.Data.List.TakeWhile

/-!
# The lines of a layout

The text of a layout is made of whole lines: `Layout.linesAt` gives them, and
`Layout.text_eq_joinLines` says that they are all there is. So what stands somewhere in a layout
stands in its text as a line of its own (`Layout.hasLine_textAll`). A text that is cut at its
newlines gives its lines back (`splitNewlines_joinLines`), and behind their indentation these are
what the layout holds, at whatever depth it stands (`Layout.map_unindent_allLinesAt`).
-/

namespace Bindery.Text

/-- A text has a line: it starts where the text starts or after a newline, and a newline ends it. -/
def HasLine (text line : String) : Prop :=
  ∃ before after : String, text = before ++ line ++ "\n" ++ after ∧
    (before = "" ∨ ∃ start, before = start ++ "\n")

/-- Lines one below the other. -/
def joinLines (lines : List String) : String :=
  String.join (lines.map (· ++ "\n"))

@[simp] theorem joinLines_append (xs ys : List String) :
    joinLines (xs ++ ys) = joinLines xs ++ joinLines ys := by
  unfold joinLines
  rw [List.map_append, String.join_append]

theorem joinLines_cons (line : String) (rest : List String) :
    joinLines (line :: rest) = line ++ "\n" ++ joinLines rest := by
  unfold joinLines
  rw [List.map_cons, String.join_cons]

theorem hasLine_joinLines {lines : List String} {line : String} (h : line ∈ lines) :
    HasLine (joinLines lines) line := by
  obtain ⟨above, below, rfl⟩ := List.append_of_mem h
  refine ⟨joinLines above, joinLines below, ?_, ?_⟩
  · rw [joinLines_append, joinLines_cons]
    simp only [String.append_assoc]
  · rcases List.eq_nil_or_concat above with rfl | ⟨start, last, rfl⟩
    · exact .inl rfl
    · refine .inr ⟨joinLines start ++ last, ?_⟩
      rw [List.concat_eq_append, joinLines_append, joinLines_cons]
      simp [joinLines, String.append_assoc]

/-! ## Cutting a text at its newlines -/

theorem splitNewlines_ne_nil (cs : List Char) : splitNewlines cs ≠ [] := by
  cases cs with
  | nil => simp [splitNewlines]
  | cons c cs =>
    unfold splitNewlines
    split <;> simp

theorem splitNewlines_cons {c : Char} {cs piece : List Char} {pieces : List (List Char)}
    (hc : c ≠ '\n') (hcs : splitNewlines cs = piece :: pieces) :
    splitNewlines (c :: cs) = (c :: piece) :: pieces := by
  unfold splitNewlines
  rw [hcs]
  split
  · exact absurd rfl hc
  · rename_i heq
    cases heq
  · rename_i heq
    cases heq
    rfl

/-- A newline ends the pieces before it. -/
theorem splitNewlines_append_newline (above below : List Char) :
    splitNewlines (above ++ '\n' :: below) = splitNewlines above ++ splitNewlines below := by
  induction above with
  | nil => rfl
  | cons c above ih =>
    by_cases hc : c = '\n'
    · subst hc
      show [] :: splitNewlines (above ++ '\n' :: below) = _
      rw [ih]
      rfl
    · obtain ⟨piece, pieces, hpieces⟩ := List.exists_cons_of_ne_nil (splitNewlines_ne_nil above)
      rw [hpieces] at ih
      rw [List.cons_append, splitNewlines_cons hc ih, splitNewlines_cons hc hpieces]
      rfl

/-- A line without newlines is a piece of its own. -/
theorem splitNewlines_of_no_newline {line : List Char} (h : '\n' ∉ line) :
    splitNewlines line = [line] := by
  induction line with
  | nil => rfl
  | cons c line ih =>
    rw [List.mem_cons, not_or] at h
    exact splitNewlines_cons (Ne.symm h.1) (ih h.2)

theorem newline_not_mem_of_mem_splitNewlines {cs : List Char} :
    ∀ piece ∈ splitNewlines cs, '\n' ∉ piece := by
  induction cs with
  | nil =>
    intro piece hpiece
    obtain rfl := List.mem_singleton.mp hpiece
    exact List.not_mem_nil
  | cons c cs ih =>
    by_cases hc : c = '\n'
    · subst hc
      intro piece hpiece
      rcases List.mem_cons.mp hpiece with rfl | hrest
      · exact List.not_mem_nil
      · exact ih piece hrest
    · obtain ⟨first, rest, hsplit⟩ := List.exists_cons_of_ne_nil (splitNewlines_ne_nil cs)
      rw [hsplit] at ih
      rw [splitNewlines_cons hc hsplit]
      intro piece hpiece
      rcases List.mem_cons.mp hpiece with rfl | hrest
      · rw [List.mem_cons, not_or]
        exact ⟨Ne.symm hc, ih first List.mem_cons_self⟩
      · exact ih piece (List.mem_cons_of_mem _ hrest)

theorem toList_joinLines_cons (line : String) (rest : List String) :
    (joinLines (line :: rest)).toList = line.toList ++ '\n' :: (joinLines rest).toList := by
  rw [joinLines_cons]
  simp

theorem splitNewlines_joinLines {ls : List String} (h : ∀ line ∈ ls, '\n' ∉ line.toList) :
    splitNewlines (joinLines ls).toList = ls.map String.toList ++ [[]] := by
  induction ls with
  | nil => rfl
  | cons line rest ih =>
    rw [toList_joinLines_cons, splitNewlines_append_newline,
      splitNewlines_of_no_newline (h line List.mem_cons_self),
      ih fun l hl => h l (List.mem_cons_of_mem _ hl)]
    rfl

/-- The lines that are read in a text which ends each of its lines: behind the last newline there is
an empty one. -/
theorem map_splitNewlines_joinLines {lines : List String}
    (h : ∀ line ∈ lines, '\n' ∉ line.toList) :
    (splitNewlines (joinLines lines).toList).map String.ofList = lines ++ [""] := by
  rw [splitNewlines_joinLines h, List.map_append, List.map_map]
  simp [Function.comp_def]

namespace Layout

/-! ## The lines of layouts -/

/-- A line at a depth, without the newline that ends it. -/
def indented (depth : Nat) (content : String) : String :=
  if content.isEmpty then "" else indentation depth ++ content

@[simp] theorem indented_zero (content : String) : indented 0 content = content := by
  unfold indented
  split
  · rename_i hempty
    rw [String.isEmpty_iff.mp hempty]
  · exact String.empty_append

theorem lineText_eq (depth : Nat) (content : String) :
    lineText depth content = indented depth content ++ "\n" := by
  unfold lineText indented
  split <;> rfl

mutual

/-- The lines of a layout at a depth. -/
def linesAt (depth : Nat) : Layout → List String
  | .line content => [indented depth content]
  | .doc mark description experimental =>
    (docLines mark description experimental).map (indented depth)
  | .group header close body =>
    indented depth header :: (allLinesAt (depth + 1) body ++ [indented depth close])

/-- The lines of layouts that follow one another at a depth. -/
def allLinesAt (depth : Nat) : List Layout → List String
  | [] => []
  | l :: ls => linesAt depth l ++ allLinesAt depth ls

end

mutual

theorem text_eq_joinLines (depth : Nat) : ∀ l : Layout, l.text depth = joinLines (l.linesAt depth)
  | .line content => by
    rw [text, linesAt, lineText_eq, joinLines_cons]
    exact String.append_empty.symm
  | .doc mark description experimental => by
    have hlines : lineText depth = fun content => indented depth content ++ "\n" :=
      funext (lineText_eq depth)
    rw [text, linesAt, joinLines, List.map_map, hlines]
    rfl
  | .group header close body => by
    rw [text, linesAt, textAll_eq_joinLines (depth + 1) body, joinLines_cons, joinLines_append,
      lineText_eq, lineText_eq, joinLines_cons]
    simp [joinLines, String.append_assoc]

theorem textAll_eq_joinLines (depth : Nat) :
    ∀ ls : List Layout, textAll depth ls = joinLines (allLinesAt depth ls)
  | [] => rfl
  | l :: ls => by
    rw [textAll, allLinesAt, joinLines_append, text_eq_joinLines depth l,
      textAll_eq_joinLines depth ls]

end

@[simp] theorem allLinesAt_nil (depth : Nat) : allLinesAt depth [] = [] := rfl

@[simp] theorem allLinesAt_cons (depth : Nat) (l : Layout) (ls : List Layout) :
    allLinesAt depth (l :: ls) = linesAt depth l ++ allLinesAt depth ls := rfl

theorem mem_allLinesAt {depth : Nat} {line : String} {ls : List Layout} :
    line ∈ allLinesAt depth ls ↔ ∃ l ∈ ls, line ∈ l.linesAt depth := by
  induction ls with
  | nil => simp
  | cons l ls ih => simp [ih]

@[simp] theorem allLinesAt_append (depth : Nat) (xs ys : List Layout) :
    allLinesAt depth (xs ++ ys) = allLinesAt depth xs ++ allLinesAt depth ys := by
  induction xs with
  | nil => rfl
  | cons x xs ih => simp [ih]

@[simp] theorem linesAt_line_zero (content : String) : linesAt 0 (.line content) = [content] := by
  rw [linesAt, indented_zero]

@[simp] theorem linesAt_blank_zero : linesAt 0 .blank = [""] := linesAt_line_zero ""

theorem linesAt_line_one {content : String} (hcontent : content ≠ "") :
    linesAt 1 (.line content) = ["    " ++ content] := by
  rw [linesAt, indented, if_neg (by rwa [String.isEmpty_iff])]
  rfl

@[simp] theorem linesAt_block_zero (header close : String) (body : List Layout) :
    linesAt 0 (.block header close body) =
      (header ++ " \x7b") :: (allLinesAt 1 body ++ ["\x7d" ++ close]) := by
  rw [block, linesAt, indented_zero, indented_zero]

/-- Every line of one of the layouts stands in the text of all. -/
theorem hasLine_textAll {depth : Nat} {ls : List Layout} {l : Layout} {line : String}
    (hl : l ∈ ls) (hline : line ∈ l.linesAt depth) : HasLine (textAll depth ls) line := by
  rw [textAll_eq_joinLines]
  exact hasLine_joinLines (mem_allLinesAt.mpr ⟨l, hl, hline⟩)

/-! ## Lines without their indentation -/

mutual

/-- What the lines of a layout hold, behind their indentation. -/
def contents : Layout → List String
  | .line content => [content]
  | .doc mark description experimental => docLines mark description experimental
  | .group header close body => header :: (allContents body ++ [close])

/-- What the lines of layouts that follow one another hold. -/
def allContents : List Layout → List String
  | [] => []
  | l :: ls => contents l ++ allContents ls

end

@[simp] theorem contents_line (content : String) : contents (.line content) = [content] := rfl

@[simp] theorem contents_doc (mark : DocMark) (description : Option String)
    (experimental : Bool) :
    contents (.doc mark description experimental) = docLines mark description experimental := rfl

@[simp] theorem contents_group (header close : String) (body : List Layout) :
    contents (.group header close body) = header :: (allContents body ++ [close]) := rfl

@[simp] theorem allContents_nil : allContents [] = [] := rfl

@[simp] theorem allContents_cons (l : Layout) (ls : List Layout) :
    allContents (l :: ls) = contents l ++ allContents ls := rfl

@[simp] theorem allContents_append (xs ys : List Layout) :
    allContents (xs ++ ys) = allContents xs ++ allContents ys := by
  induction xs with
  | nil => rfl
  | cons x xs ih => simp [ih]

/-- A line without the spaces in front of it. -/
def unindent (line : String) : List Char := line.toList.dropWhile (· == ' ')

theorem unindent_indented (depth : Nat) (content : String) :
    unindent (indented depth content) = unindent content := by
  unfold indented
  split
  · rename_i hempty
    rw [String.isEmpty_iff.mp hempty]
  · unfold unindent
    rw [String.toList_append, indentation, String.toList_ofList]
    refine List.dropWhile_append_of_pos fun c hc => ?_
    rw [List.eq_of_mem_replicate hc]
    rfl

theorem map_unindent_map_indented (depth : Nat) (contents : List String) :
    (contents.map (indented depth)).map unindent = contents.map unindent := by
  rw [List.map_map]
  exact List.map_congr_left fun content _ => unindent_indented depth content

mutual

theorem map_unindent_linesAt (depth : Nat) :
    ∀ l : Layout, (linesAt depth l).map unindent = (contents l).map unindent
  | .line content => map_unindent_map_indented depth [content]
  | .doc mark description experimental => map_unindent_map_indented depth _
  | .group header close body => by
    have hbody := map_unindent_allLinesAt (depth + 1) body
    simp [linesAt, hbody, unindent_indented]

/-- Behind their indentation, the lines are the same at every depth. -/
theorem map_unindent_allLinesAt (depth : Nat) :
    ∀ ls : List Layout, (allLinesAt depth ls).map unindent = (allContents ls).map unindent
  | [] => rfl
  | l :: ls => by
    simp [map_unindent_linesAt depth l, map_unindent_allLinesAt depth ls]

end

end Layout

/-! ## How texts start -/

/-- A text starts with the given characters. -/
def Starts (s : String) (cs : List Char) : Prop := ∃ rest, s.toList = cs ++ rest

namespace Starts

theorem lit {cs : List Char} : Starts (String.ofList cs) cs :=
  ⟨[], by rw [String.toList_ofList, List.append_nil]⟩

theorem self {s : String} : Starts s s.toList := ⟨[], (List.append_nil _).symm⟩

theorem append {s t : String} {cs : List Char} (h : Starts s cs) : Starts (s ++ t) cs := by
  obtain ⟨rest, h⟩ := h
  exact ⟨rest ++ t.toList, by rw [String.toList_append, h, List.append_assoc]⟩

theorem unindent_eq {s : String} {c : Char} {cs : List Char} (h : Starts s (c :: cs))
    (hc : c ≠ ' ') : Layout.unindent s = s.toList := by
  obtain ⟨rest, h⟩ := h
  rw [Layout.unindent, h, List.cons_append, List.dropWhile_cons_of_neg (by simpa using hc)]

end Starts

end Bindery.Text
