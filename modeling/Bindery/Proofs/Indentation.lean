import Bindery.Proofs.Comments
import Bindery.Proofs.Emission

/-!
# One level deeper

A layout that stands one level deeper has the text it had before, with four spaces in front of every
line that is not empty: `Layout.indentation_law`. How often its groups are nested makes no
difference, since going deeper by one level and writing the lines of a group commute
(`Layout.allLinesAt_succ`). What a line is can be seen from the text, as long as no newline stands
inside what is meant as one line (`Layout.AllOneLine`); descriptions may hold any text, because a
doc comment takes them apart at their newlines.
-/

namespace Bindery.Text

/-- Four spaces in front of every line that is not empty; `start` says that a line starts here. -/
def indentFrom (start : Bool) : List Char → List Char
  | [] => []
  | '\n' :: cs => '\n' :: indentFrom true cs
  | c :: cs => (if start then [' ', ' ', ' ', ' '] else []) ++ c :: indentFrom false cs

/-- A text with four spaces in front of every line that is not empty. -/
def indentLines (text : String) : String :=
  String.ofList (indentFrom true text.toList)

theorem indentFrom_cons {c : Char} (hc : c ≠ '\n') (start : Bool) (cs : List Char) :
    indentFrom start (c :: cs) =
      (if start then [' ', ' ', ' ', ' '] else []) ++ c :: indentFrom false cs := by
  rw [indentFrom]
  exact hc

/-- Inside a line nothing is put in front, up to the newline that ends it. -/
theorem indentFrom_false_append {line : List Char} (hline : '\n' ∉ line) (rest : List Char) :
    indentFrom false (line ++ '\n' :: rest) = line ++ '\n' :: indentFrom true rest := by
  induction line with
  | nil => rfl
  | cons c line ih =>
    rw [List.mem_cons, not_or] at hline
    rw [List.cons_append, indentFrom_cons (Ne.symm hline.1), ih hline.2]
    rfl

namespace Layout

/-- One line is indented as a line of a layout one level deep. -/
theorem indentFrom_line {line : String} (hline : '\n' ∉ line.toList) (rest : List Char) :
    indentFrom true (line.toList ++ '\n' :: rest) =
      (indented 1 line).toList ++ '\n' :: indentFrom true rest := by
  unfold indented
  split
  · rename_i hempty
    rw [String.isEmpty_iff.mp hempty]
    rfl
  · rename_i hfull
    obtain ⟨c, cs, hcs⟩ := List.exists_cons_of_ne_nil (l := line.toList) fun hnil =>
      hfull (String.isEmpty_iff.mpr (String.toList_eq_nil_iff.mp hnil))
    rw [hcs, List.mem_cons, not_or] at hline
    rw [String.toList_append, hcs, List.cons_append, indentFrom_cons (Ne.symm hline.1),
      indentFrom_false_append hline.2]
    rfl

/-- A text made of lines is indented line by line. -/
theorem indentLines_joinLines {ls : List String} (h : ∀ line ∈ ls, '\n' ∉ line.toList) :
    indentLines (joinLines ls) = joinLines (ls.map (indented 1)) := by
  induction ls with
  | nil => rfl
  | cons line rest ih =>
    obtain ⟨hline, hrest⟩ := List.forall_mem_cons.mp h
    refine String.toList_inj.mp ?_
    have ih := String.toList_inj.mpr (ih hrest)
    unfold indentLines at ih ⊢
    rw [String.toList_ofList] at ih ⊢
    rw [toList_joinLines_cons, indentFrom_line hline, ih, List.map_cons, toList_joinLines_cons]

/-! ## Going deeper by one level -/

theorem isEmpty_indented (depth : Nat) (content : String) :
    (indented depth content).isEmpty = content.isEmpty := by
  unfold indented
  split
  · rename_i hempty
    rw [hempty]
    rfl
  · rename_i hfull
    rw [Bool.eq_false_iff.mpr hfull, Bool.eq_false_iff, ne_eq, String.isEmpty_iff,
      String.append_eq_empty_iff, ← String.isEmpty_iff (s := content)]
    exact fun h => hfull h.2

theorem indentation_succ (depth : Nat) : indentation (depth + 1) = "    " ++ indentation depth := by
  have hreplicate : List.replicate (4 * (depth + 1)) ' ' =
      [' ', ' ', ' ', ' '] ++ List.replicate (4 * depth) ' ' := by
    rw [show 4 * (depth + 1) = 4 + 4 * depth by omega, List.replicate_add]
    rfl
  rw [indentation, indentation, hreplicate, String.ofList_append]

/-- An empty line stays empty at every depth, and any other one moves by four spaces. -/
theorem indented_succ (depth : Nat) (content : String) :
    indented (depth + 1) content = indented 1 (indented depth content) := by
  have hkept := isEmpty_indented depth content
  by_cases hempty : content.isEmpty = true
  · rw [indented, if_pos hempty, indented, if_pos (hkept.trans hempty)]
  · have hinner : indented depth content = indentation depth ++ content := if_neg hempty
    rw [indented, if_neg hempty, indented, hkept, if_neg hempty, hinner, indentation_succ,
      String.append_assoc]
    rfl

theorem map_indented_succ (depth : Nat) (contents : List String) :
    contents.map (indented (depth + 1)) = (contents.map (indented depth)).map (indented 1) := by
  rw [List.map_map]
  exact List.map_congr_left fun content _ => indented_succ depth content

mutual

theorem linesAt_succ (depth : Nat) :
    ∀ l : Layout, linesAt (depth + 1) l = (linesAt depth l).map (indented 1)
  | .line content => map_indented_succ depth [content]
  | .doc mark description experimental => map_indented_succ depth _
  | .group header close body => by
    rw [linesAt, linesAt, allLinesAt_succ (depth + 1) body, indented_succ depth header,
      indented_succ depth close]
    simp

/-- **The lines of a layout move together**, those of its groups like its own. -/
theorem allLinesAt_succ (depth : Nat) :
    ∀ ls : List Layout, allLinesAt (depth + 1) ls = (allLinesAt depth ls).map (indented 1)
  | [] => rfl
  | l :: ls => by
    rw [allLinesAt, allLinesAt, List.map_append, linesAt_succ depth l, allLinesAt_succ depth ls]

end

/-! ## Lines that are lines -/

mutual

/-- What stands for one line holds no newline: lines, and what opens and closes a group. -/
def OneLine : Layout → Prop
  | .line content => '\n' ∉ content.toList
  | .doc _ _ _ => True
  | .group header close body => '\n' ∉ header.toList ∧ '\n' ∉ close.toList ∧ AllOneLine body

/-- What stands for one line in layouts that follow one another holds no newline. -/
def AllOneLine : List Layout → Prop
  | [] => True
  | l :: ls => OneLine l ∧ AllOneLine ls

end

mutual

theorem OneLine.newline_not_mem {depth : Nat} : ∀ {l : Layout}, l.OneLine →
    ∀ s ∈ l.linesAt depth, '\n' ∉ s.toList
  | .line content, h, s, hs => by
    obtain rfl := List.mem_singleton.mp hs
    exact newline_not_mem_indented h
  | .doc mark description experimental, _, s, hs => by
    obtain ⟨content, hcontent, rfl⟩ := List.mem_map.mp hs
    exact newline_not_mem_indented (newline_not_mem_docLines hcontent)
  | .group header close body, ⟨hheader, hclose, hbody⟩, s, hs => by
    rcases List.mem_cons.mp hs with rfl | hs
    · exact newline_not_mem_indented hheader
    · rcases List.mem_append.mp hs with hs | hs
      · exact AllOneLine.newline_not_mem hbody s hs
      · obtain rfl := List.mem_singleton.mp hs
        exact newline_not_mem_indented hclose

theorem AllOneLine.newline_not_mem {depth : Nat} : ∀ {ls : List Layout}, AllOneLine ls →
    ∀ s ∈ allLinesAt depth ls, '\n' ∉ s.toList
  | [], _, s, hs => absurd hs List.not_mem_nil
  | l :: ls, ⟨hfirst, hrest⟩, s, hs => by
    rcases List.mem_append.mp hs with hs | hs
    · exact hfirst.newline_not_mem s hs
    · exact AllOneLine.newline_not_mem hrest s hs

end

/-- **Layouts are indented as a whole.** A writer of any depth writes them behind what it has
written and keeps its depth; and what it writes one level deeper is what it writes here, with four
spaces in front of every line that is not empty. -/
theorem indentation_law {ls : List Layout} (h : AllOneLine ls) :
    (∀ w : Writer, w.writeAll ls = { w with text := w.text ++ textAll w.depth ls }) ∧
      ∀ depth, textAll (depth + 1) ls = indentLines (textAll depth ls) := by
  refine ⟨fun w => w.writeAll_eq ls, fun depth => ?_⟩
  rw [textAll_eq_joinLines, textAll_eq_joinLines, indentLines_joinLines h.newline_not_mem,
    allLinesAt_succ]

/-- A module with a described record, an empty line and a call over several lines. -/
def nestedSteps : List Layout :=
  [.doc .enclosing (some "Documents.\r\n\n <code>Node</code>") true,
    .block "pub mod dom" "" [.doc .item (some "  ") false, .blank,
      .block "pub struct Node" "" [.line "pub id: i64,"],
      .group "call(" ");" [.line "first,", .blank]],
    .group "" "" []]

theorem indentation_law_of_nestedSteps :
    AllOneLine nestedSteps ∧
      (Writer.mk "use super::*;\n" 1).writeAll nestedSteps =
        ⟨"use super::*;\n" ++ textAll 1 nestedSteps, 1⟩ ∧
      textAll 1 nestedSteps = indentLines (textAll 0 nestedSteps) := by
  have hlines : AllOneLine nestedSteps := by
    simp [nestedSteps, AllOneLine, OneLine, block, blank]
  obtain ⟨hwritten, hindented⟩ := indentation_law hlines
  exact ⟨hlines, hwritten _, hindented 0⟩

end Layout

end Bindery.Text
