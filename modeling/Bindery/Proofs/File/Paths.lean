import Bindery.File.Tree

/-!
# Where paths lead

The steps of a path read off its text: the piece after the last slash is the last step
(`Path.steps_append_piece`), so that a path whose text ends in an extension ends in a name with that
extension (`Path.steps_of_extension`). `landing` is where the steps of a path lead when every place
on the way is a directory.
-/

namespace Bindery

namespace Path

theorem splitSlashes_of_no_slash : ∀ {piece : List Char}, '/' ∉ piece → splitSlashes piece = [piece]
  | [], _ => rfl
  | c :: cs, h => by
    have hc : c ≠ '/' := by
      rintro rfl
      exact h List.mem_cons_self
    have hcs : '/' ∉ cs := fun hmem => h (List.mem_cons_of_mem _ hmem)
    rw [splitSlashes, if_neg hc, splitSlashes_of_no_slash hcs]

/-- A text without a slash lengthens the last piece of the text before it. -/
theorem splitSlashes_append {tail : List Char} (h : '/' ∉ tail) :
    ∀ cs : List Char, ∃ init last, splitSlashes cs = init ++ [last] ∧
      splitSlashes (cs ++ tail) = init ++ [last ++ tail]
  | [] => ⟨[], [], rfl, splitSlashes_of_no_slash h⟩
  | c :: cs => by
    obtain ⟨init, last, hcs, hall⟩ := splitSlashes_append h cs
    rw [List.cons_append, splitSlashes, splitSlashes, hcs, hall]
    by_cases hc : c = '/'
    · rw [if_pos hc, if_pos hc]
      exact ⟨[] :: init, last, rfl, rfl⟩
    · rw [if_neg hc, if_neg hc]
      cases init with
      | nil => exact ⟨[], c :: last, rfl, rfl⟩
      | cons piece init => exact ⟨(c :: piece) :: init, last, rfl, rfl⟩

@[simp] theorem splitSlashes_append_slash : ∀ cs : List Char,
    splitSlashes (cs ++ ['/']) = splitSlashes cs ++ [[]]
  | [] => rfl
  | c :: cs => by
    rw [List.cons_append, splitSlashes, splitSlashes, splitSlashes_append_slash cs]
    by_cases hc : c = '/'
    · rw [if_pos hc, if_pos hc]
      rfl
    · obtain ⟨init, last, hcs, -⟩ := splitSlashes_append List.not_mem_nil cs
      rw [if_neg hc, if_neg hc, hcs]
      cases init <;> rfl

/-- A piece with another character than dots is a name. -/
theorem Step.ofPiece?_eq_name {piece : List Char} {c : Char} (hc : c ∈ piece) (hdot : c ≠ '.') :
    Step.ofPiece? piece = some (.name (String.ofList piece)) := by
  unfold ofPiece?
  split
  · exact absurd hc List.not_mem_nil
  · exact absurd (List.mem_singleton.mp hc) hdot
  · simp [hdot] at hc
  · rfl

/-- The text ends where a piece may begin. -/
def AtPiece (cs : List Char) : Prop := cs = [] ∨ ∃ start, cs = start ++ ['/']

/-- The piece after the last slash is the last step. -/
theorem steps_append_piece {dir piece : List Char} (hdir : AtPiece dir) (hpiece : '/' ∉ piece) :
    steps (String.ofList (dir ++ piece)) =
      steps (String.ofList dir) ++ (Step.ofPiece? piece).toList := by
  obtain ⟨init, last, hinit, hall⟩ := splitSlashes_append hpiece dir
  unfold steps
  rw [String.toList_ofList, String.toList_ofList, hall, hinit]
  have hlast : last = [] := by
    rcases hdir with rfl | ⟨start, rfl⟩
    · cases init with
      | nil => simpa [splitSlashes] using hinit.symm
      | cons piece init => simp [splitSlashes] at hinit
    · rw [splitSlashes_append_slash] at hinit
      exact (List.singleton_inj.mp (List.append_inj_right' hinit rfl)).symm
  subst hlast
  have hnothing : [[]].filterMap Step.ofPiece? = [] := rfl
  rw [List.filterMap_append, List.filterMap_append, hnothing, List.nil_append, List.append_nil,
    List.filterMap_cons]
  cases Step.ofPiece? piece <;> rfl

/-- A path whose text ends in an extension ends in a name with that extension. -/
theorem steps_of_extension {path : String} {start extension : List Char} {c : Char}
    (hpath : path.toList = start ++ extension) (hslash : '/' ∉ extension) (hc : c ∈ extension)
    (hdot : c ≠ '.') :
    ∃ above name, steps path = above ++ [.name name] ∧ extension <:+ name.toList := by
  obtain ⟨init, last, -, hall⟩ := splitSlashes_append hslash start
  refine ⟨init.filterMap Step.ofPiece?, String.ofList (last ++ extension), ?_, ?_⟩
  · unfold steps
    rw [hpath, hall, List.filterMap_append, List.filterMap_cons,
      Step.ofPiece?_eq_name (List.mem_append_right last hc) hdot]
    rfl
  · rw [String.toList_ofList]
    exact List.suffix_append _ _

/-- The part of a path up to its last slash, and what stands after it. -/
theorem split_at_last_slash (path : String) :
    ∃ dir piece, path.toList = dir ++ piece ∧ AtPiece dir ∧ '/' ∉ piece ∧
      dir = (path.toList.reverse.dropWhile (· != '/')).reverse ∧
      piece = (path.toList.reverse.takeWhile (· != '/')).reverse := by
  refine ⟨_, _, ?_, ?_, ?_, rfl, rfl⟩
  · rw [← List.reverse_append, List.takeWhile_append_dropWhile, List.reverse_reverse]
  · cases hdrop : path.toList.reverse.dropWhile (· != '/') with
    | nil => exact .inl rfl
    | cons c rest =>
      have hc := List.head?_dropWhile_not (· != '/') path.toList.reverse
      rw [hdrop] at hc
      obtain rfl : c = '/' := by simpa using hc
      exact .inr ⟨rest.reverse, List.reverse_cons⟩
  · intro hmem
    have hc := List.all_takeWhile (p := (· != '/')) (l := path.toList.reverse)
    rw [List.all_eq_true] at hc
    simpa using hc '/' (List.mem_reverse.mp hmem)

/-- A path with another extension ends in that extension, or in a pair of dots. -/
theorem withExtension_cases (path extension : String) :
    (∃ start, (withExtension path extension).toList = start ++ '.' :: extension.toList) ∨
      ∃ above, steps (withExtension path extension) = above ++ [.up] := by
  obtain ⟨dir, piece, -, hdir, -, hdirEq, hpieceEq⟩ := split_at_last_slash path
  unfold withExtension
  simp only [← hdirEq, ← hpieceEq]
  split
  · refine .inr ⟨steps (String.ofList dir), ?_⟩
    rw [steps_append_piece hdir (by decide)]
    rfl
  · refine .inl ⟨dir ++ stem piece, ?_⟩
    simp [String.toList_append]

end Path

/-- Where steps lead from a directory, if every place on the way is a directory. -/
def landingFrom (place : Location) : List Path.Step → Location
  | [] => place
  | .here :: rest => landingFrom place rest
  | .up :: rest => landingFrom place.dropLast rest
  | .name text :: rest => landingFrom (place ++ [text]) rest

/-- Where a path leads from a working directory, if it leads anywhere. -/
def landing (cwd : Location) (path : String) : Location :=
  landingFrom (if Path.isAbsolute path then [] else cwd) (Path.steps path)

@[simp] theorem landingFrom_append (place : Location) (xs ys : List Path.Step) :
    landingFrom place (xs ++ ys) = landingFrom (landingFrom place xs) ys := by
  induction xs generalizing place with
  | nil => rfl
  | cons step xs ih => cases step <;> exact ih _

/-- A path that ends in a name leads to that name. -/
theorem landing_of_steps {path name : String} {above : List Path.Step} (cwd : Location)
    (hsteps : Path.steps path = above ++ [.name name]) :
    ∃ dir : Location, landing cwd path = dir ++ [name] := by
  refine ⟨landingFrom (if Path.isAbsolute path then [] else cwd) above, ?_⟩
  unfold landing
  rw [hsteps, landingFrom_append]
  rfl

/-- A name within a directory leads to that name where the directory leads. -/
theorem landing_join (cwd : Location) (dir : String) {name : String} {c : Char}
    (hslash : '/' ∉ name.toList) (hc : c ∈ name.toList) (hdot : c ≠ '.') :
    landing cwd (Path.join dir name) = landing cwd dir ++ [name] := by
  have hrelative : Path.isAbsolute name = false := by
    unfold Path.isAbsolute
    rw [beq_eq_false_iff_ne]
    intro hhead
    exact hslash (List.mem_of_mem_head? hhead)
  -- the text in front of the name leads where the directory leads
  have hfront : ∃ front : List Char, Path.join dir name = String.ofList (front ++ name.toList) ∧
      Path.AtPiece front ∧ Path.steps (String.ofList front) = Path.steps dir ∧
      Path.isAbsolute (String.ofList (front ++ name.toList)) = Path.isAbsolute dir := by
    unfold Path.join
    rw [hrelative, Bool.false_or]
    split
    · rename_i hempty
      obtain rfl := String.isEmpty_iff.mp hempty
      refine ⟨[], by simp, .inl rfl, rfl, ?_⟩
      rw [List.nil_append, String.ofList_toList, hrelative]
      rfl
    · rename_i hempty
      have hnonempty : dir.toList ≠ [] := by simpa [String.isEmpty_iff] using hempty
      have habsolute (tail : List Char) :
          Path.isAbsolute (String.ofList (dir.toList ++ tail)) = Path.isAbsolute dir := by
        unfold Path.isAbsolute
        rw [String.toList_ofList]
        cases hdir : dir.toList with
        | nil => exact absurd hdir hnonempty
        | cons c rest => rfl
      split
      · rename_i hlast
        obtain ⟨start, hstart⟩ := List.getLast?_eq_some_iff.mp (beq_iff_eq.mp hlast)
        refine ⟨dir.toList, ?_, .inr ⟨start, hstart⟩, by rw [String.ofList_toList], habsolute _⟩
        rw [← String.toList_inj, String.toList_append, String.toList_ofList]
      · refine ⟨dir.toList ++ ['/'], ?_, .inr ⟨dir.toList, rfl⟩, ?_, ?_⟩
        · rw [← String.toList_inj]
          simp
        · unfold Path.steps
          rw [String.toList_ofList, Path.splitSlashes_append_slash, List.filterMap_append]
          exact List.append_nil _
        · rw [List.append_assoc]
          exact habsolute _
  obtain ⟨front, hjoin, hpiece, hsteps, habsolute⟩ := hfront
  unfold landing
  rw [hjoin, habsolute, Path.steps_append_piece hpiece hslash, hsteps,
    Path.Step.ofPiece?_eq_name hc hdot, String.ofList_toList, landingFrom_append]
  rfl

end Bindery
