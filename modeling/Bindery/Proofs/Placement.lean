import Bindery.Output.Placement
import Bindery.Proofs.File.Trees

/-!
# What placing files leaves behind

Putting a file in place writes beside it and moves, so it touches the place of the file and its
staging place, and these never meet: a generated file ends in `.rs` and a staging file in `.rs.tmp`
(`place_spec`). After files have been placed one after the other, what stands at a place is the last
of those that lead there (`Placed`); so all of them are there exactly if those that lead to one
place have one text (`Placed.read_iff`). Where placing fails on the way, the other generated files
are still spared (`Spares`), and no more than a staging file is left behind (`newOnlyAt_of_runAll`).

All this is for files that are in nobody's way (`FileTree.Clear`). Where a staging name is a link,
or one of several names of a file, what is written to it goes to another place.
-/

namespace Bindery

open FileTree

/-- The name in which a place ends has the given extension. -/
def EndsIn (place : Location) (extension : String) : Prop :=
  ∃ (dir : Location) (name : String), place = dir ++ [name] ∧ extension.toList <:+ name.toList

/-- No device stands under the name of a staging file. -/
def FileTree.DevicesApart (tree : FileTree) : Prop :=
  ∀ place device, tree.node? place = some (.device device) → ¬ EndsIn place ".rs.tmp"

theorem FileTree.DevicesApart.kept {tree tree' : FileTree} (h : tree.DevicesApart)
    (hkept : Kept tree tree') : tree'.DevicesApart :=
  fun place device hdevice => h place device (hkept.devices place device hdevice)

/-- Nothing comes between a file that is to be put in place and its place: no link is met on the way
to it and to its staging file, and what stands under the name of the staging file is not a link, nor
known by another name. -/
structure FileTree.Clear (tree : FileTree) (path : String) : Prop where
  file : tree.Straight path
  staging : tree.Straight (FileOp.stagingPath path)
  link : ∀ target,
    tree.node? (landing tree.cwd (FileOp.stagingPath path)) ≠ some (.link target)
  alone : ¬ tree.IsShared (landing tree.cwd (FileOp.stagingPath path))

theorem FileTree.Clear.settled {tree tree' : FileTree} {path : String} (h : tree.Clear path)
    (hsettled : Settled tree tree') : tree'.Clear path where
  file := h.file.settled hsettled
  staging := h.staging.settled hsettled
  link := fun target hlink => h.link target (hsettled.cwd ▸ hsettled.links _ target hlink)
  alone := fun hshared => h.alone (hsettled.cwd ▸ hsettled.shared _ hshared)

/-- The path of a generated file. -/
def IsGenerated (path : String) : Prop := ∃ start, path.toList = start ++ ".rs".toList

theorem EndsIn.not_staging {place : Location} (h : EndsIn place ".rs") :
    ¬ EndsIn place ".rs.tmp" := by
  obtain ⟨dir, name, rfl, start, hstart⟩ := h
  rintro ⟨dir', name', heq, start', hstart'⟩
  obtain rfl : name = name' := List.singleton_inj.mp (List.append_inj_right' heq rfl)
  -- one name cannot end in both
  have hlast := congrArg List.getLast? (hstart.trans hstart'.symm)
  simp at hlast

theorem EndsIn.ne_nil {place : Location} {extension : String} (h : EndsIn place extension) :
    place ≠ [] := by
  obtain ⟨dir, name, rfl, -⟩ := h
  simp

theorem IsGenerated.endsIn {path : String} (h : IsGenerated path) (cwd : Location) :
    EndsIn (landing cwd path) ".rs" := by
  obtain ⟨start, hstart⟩ := h
  obtain ⟨above, name, hsteps, hsuffix⟩ :=
    Path.steps_of_extension (c := 'r') hstart (by decide) (by decide) (by decide)
  obtain ⟨dir, hlanding⟩ := landing_of_steps cwd hsteps
  exact ⟨dir, name, hlanding, hsuffix⟩

theorem IsGenerated.not_endsInSlash {path : String} (h : IsGenerated path) :
    Path.endsInSlash path = false := by
  obtain ⟨start, hstart⟩ := h
  unfold Path.endsInSlash
  rw [hstart]
  simp

/-- What is read at the path of a generated file is the file to which the path leads. -/
theorem IsGenerated.read_eq {path : String} (h : IsGenerated path) {tree : FileTree}
    {place : Location} {content : ByteArray} (hway : tree.Straight path)
    (hlocate : tree.locate path = .ok place) (hnode : tree.node? place = some (.file content)) :
    tree.read path = .ok content := by
  have hend : ∀ target, tree.node? (landing tree.cwd path) ≠ some (.link target) := by
    rw [← locate_eq_ok hlocate, hnode]
    simp
  have hfind : tree.find path = .ok (.file content) := by
    unfold FileTree.find
    refine Except.bind_eq_ok_iff.mpr ⟨_, hlocate, ?_⟩
    rw [hnode, h.not_endsInSlash]
    rfl
  have hseek : tree.seek path = tree.find path := by
    refine plain_bind hway (fun _ => hend) tree.find fun e he => ?_
    rw [hlocate] at he
    cases he
  exact Except.bind_eq_ok_iff.mpr ⟨_, hseek.trans hfind, rfl⟩

/-- A staging file that can be written ends in the extension of staging files. -/
theorem endsIn_stagingPath {path : String} (cwd : Location)
    (hname : (lastName? (FileOp.stagingPath path)).isSome = true) :
    EndsIn (landing cwd (FileOp.stagingPath path)) ".rs.tmp" := by
  unfold FileOp.stagingPath at hname ⊢
  rcases Path.withExtension_cases path "rs.tmp" with ⟨start, hstart⟩ | ⟨above, hsteps⟩
  · obtain ⟨above, name, hsteps, hsuffix⟩ :=
      Path.steps_of_extension (c := 'r') hstart (by decide) (by decide) (by decide)
    obtain ⟨dir, hlanding⟩ := landing_of_steps cwd hsteps
    exact ⟨dir, name, hlanding, hsuffix⟩
  · unfold lastName? at hname
    rw [hsteps] at hname
    simp at hname

/-! ## Running steps -/

namespace FileOp

theorem runAll_cons_eq_ok {formatter : Option Formatter} {tree tree' : FileTree} {op : FileOp}
    {ops : List FileOp} :
    runAll formatter tree (op :: ops) = (.ok (), tree') ↔
      ∃ between, op.run formatter tree = (.ok (), between) ∧
        runAll formatter between ops = (.ok (), tree') := by
  rw [runAll]
  constructor
  · intro h
    split at h
    · rename_i between hbetween
      exact ⟨between, hbetween, h⟩
    · cases h
  · rintro ⟨between, hbetween, h⟩
    rw [hbetween]
    exact h

theorem runAll_append (formatter : Option Formatter) (tree : FileTree) (xs ys : List FileOp) :
    runAll formatter tree (xs ++ ys) =
      match runAll formatter tree xs with
      | (.ok (), between) => runAll formatter between ys
      | (.error e, between) => (.error e, between) := by
  induction xs generalizing tree with
  | nil => rfl
  | cons op xs ih =>
    rw [List.cons_append, runAll, runAll]
    cases op.run formatter tree with
    | mk result between =>
      cases result with
      | error e => rfl
      | ok _ => exact ih between

theorem runAll_append_eq_ok {formatter : Option Formatter} {tree tree' : FileTree}
    {xs ys : List FileOp} :
    runAll formatter tree (xs ++ ys) = (.ok (), tree') ↔
      ∃ between, runAll formatter tree xs = (.ok (), between) ∧
        runAll formatter between ys = (.ok (), tree') := by
  rw [runAll_append]
  constructor
  · intro h
    split at h
    · rename_i between hbetween
      exact ⟨between, hbetween, h⟩
    · cases (Prod.mk.inj h).1
  · rintro ⟨between, hbetween, h⟩
    rw [hbetween]
    exact h

theorem run_write_eq_ok {formatter : Option Formatter} {tree tree' : FileTree} {path text : String}
    (h : (write path text).run formatter tree = (.ok (), tree')) :
    tree.write path text.toUTF8 = .ok tree' := by
  simp only [run] at h
  split at h
  · rename_i written hwritten
    obtain rfl := (Prod.mk.inj h).2
    exact hwritten
  · cases (Prod.mk.inj h).1

theorem run_rename_eq_ok {formatter : Option Formatter} {tree tree' : FileTree}
    {source target : String} (h : (rename source target).run formatter tree = (.ok (), tree')) :
    tree.rename source target = .ok tree' := by
  simp only [run] at h
  split at h
  · rename_i moved hmoved
    obtain rfl := (Prod.mk.inj h).2
    exact hmoved
  · cases (Prod.mk.inj h).1

section

variable {tree tree' : FileTree} {path text : String} {result : Except Error Unit}

/-- Writing a staging file puts it beside the generated files. -/
theorem staging_eq_put {staged : FileTree} (hdevices : tree.DevicesApart) (hclear : tree.Clear path)
    (h : tree.write (stagingPath path) text.toUTF8 = .ok staged) :
    EndsIn (landing tree.cwd (stagingPath path)) ".rs.tmp" ∧
      tree.node? (landing tree.cwd (stagingPath path)) ≠ some .directory ∧
      staged = tree.put (landing tree.cwd (stagingPath path)) (.file text.toUTF8) := by
  obtain ⟨-, hname, hstaging⟩ := write_located hclear.staging hclear.link h
  have hends := endsIn_stagingPath tree.cwd hname
  exact ⟨hends, hstaging, write_eq_put hclear.staging hclear.link hclear.alone h
    fun device hdevice => hdevices _ device hdevice hends⟩

/-- Putting a file in place, as a change of the tree. -/
theorem place_eq (hpath : IsGenerated path) (hdevices : tree.DevicesApart)
    (hclear : tree.Clear path) (h : runAll none tree (place path text) = (.ok (), tree')) :
    EndsIn (landing tree.cwd (stagingPath path)) ".rs.tmp" ∧ Kept tree tree' ∧
      tree'.locate path = .ok (landing tree.cwd path) ∧
      tree' = (tree.put (landing tree.cwd (stagingPath path)) (.file text.toUTF8)).moveFile
        (landing tree.cwd (stagingPath path)) (landing tree.cwd path) (.file text.toUTF8) := by
  obtain ⟨staged, hwrite, h⟩ := runAll_cons_eq_ok.mp h
  obtain ⟨moved, hrename, h⟩ := runAll_cons_eq_ok.mp h
  obtain rfl : moved = tree' := congrArg Prod.snd h
  have hgoal := hpath.endsIn tree.cwd
  obtain ⟨hends, hstaging, hstaged⟩ := staging_eq_put hdevices hclear (run_write_eq_ok hwrite)
  have hput : Kept tree staged := hstaged ▸ kept_put hstaging trivial
  have hclear' := hclear.settled hput.toSettled
  have hfile : staged.node? (landing tree.cwd (stagingPath path)) = some (.file text.toUTF8) :=
    hstaged ▸ node?_put_self tree hends.ne_nil _
  have hne : landing tree.cwd (stagingPath path) ≠ landing tree.cwd path := by
    intro heq
    exact hgoal.not_staging (heq ▸ hends)
  rw [← hput.cwd] at hfile hne
  obtain ⟨hlocate, hplace, hmoved⟩ := rename_eq_moveFile hclear'.staging hclear'.file
    hpath.not_endsInSlash (run_rename_eq_ok hrename) hclear'.alone hfile (by simp) (by simp) hne
  have hkept : Kept staged moved :=
    hmoved ▸ kept_moveFile (by simp [hfile]) hplace hclear'.alone trivial
  have hlocated := hkept.locate hlocate
  rw [hput.cwd] at hlocated hmoved
  exact ⟨hends, hput.trans hkept, hlocated, hstaged ▸ hmoved⟩

/-- What stands where, once a file has been put in place. -/
theorem node?_place (hpath : IsGenerated path) (hdevices : tree.DevicesApart)
    (hclear : tree.Clear path) (h : runAll none tree (place path text) = (.ok (), tree'))
    (other : Location) :
    tree'.node? other =
      if other = landing tree.cwd path then some (.file text.toUTF8)
      else if other = landing tree.cwd (stagingPath path) then none
      else tree.node? other := by
  obtain ⟨hends, -, -, rfl⟩ := place_eq hpath hdevices hclear h
  by_cases hgoal : other = landing tree.cwd path
  · rw [if_pos hgoal, hgoal]
    exact node?_moveFile_goal _ _ (hpath.endsIn tree.cwd).ne_nil _
  · rw [if_neg hgoal]
    by_cases hstaging : other = landing tree.cwd (stagingPath path)
    · subst hstaging
      rw [if_pos rfl]
      exact node?_moveFile_origin _ hends.ne_nil hgoal _
    · rw [if_neg hstaging, node?_moveFile_of_ne _ hstaging hgoal, node?_put_of_ne _ hstaging]

/-- **Putting a file in place.** Its path leads to it, and no other generated file has changed. -/
theorem place_spec (hpath : IsGenerated path) (hdevices : tree.DevicesApart)
    (hclear : tree.Clear path) (h : runAll none tree (place path text) = (.ok (), tree')) :
    Kept tree tree' ∧ tree'.locate path = .ok (landing tree.cwd path) ∧
      tree'.node? (landing tree.cwd path) = some (.file text.toUTF8) ∧
      ∀ other, EndsIn other ".rs" → other ≠ landing tree.cwd path →
        tree'.node? other = tree.node? other := by
  obtain ⟨hends, hkept, hlocate, -⟩ := place_eq hpath hdevices hclear h
  have hnode := node?_place hpath hdevices hclear h
  refine ⟨hkept, hlocate, ?_, fun other hother hne => ?_⟩
  · rw [hnode, if_pos rfl]
  · have hapart : other ≠ landing tree.cwd (stagingPath path) := by
      rintro rfl
      exact hother.not_staging hends
    rw [hnode, if_neg hne, if_neg hapart]

/-- However placing a file ends, it is placed, or its staging file is written, or nothing is. -/
theorem place_cases (hdevices : tree.DevicesApart) (hclear : tree.Clear path)
    (h : runAll none tree (place path text) = (result, tree')) :
    result = .ok () ∨ result ≠ .ok () ∧ (tree' = tree ∨
      EndsIn (landing tree.cwd (stagingPath path)) ".rs.tmp" ∧
        tree.node? (landing tree.cwd (stagingPath path)) ≠ some .directory ∧
        tree' = tree.put (landing tree.cwd (stagingPath path)) (.file text.toUTF8)) := by
  cases result with
  | ok _ => exact .inl rfl
  | error e =>
    refine .inr ⟨nofun, ?_⟩
    rw [place, runAll, run] at h
    cases hwrite : tree.write (stagingPath path) text.toUTF8 with
    | error cause =>
      rw [hwrite] at h
      exact .inl (congrArg Prod.snd h).symm
    | ok staged =>
      rw [hwrite] at h
      simp only [runAll, run] at h
      cases hrename : staged.rename (stagingPath path) path with
      | error cause =>
        rw [hrename] at h
        obtain rfl : staged = tree' := congrArg Prod.snd h
        exact .inr (staging_eq_put hdevices hclear hwrite)
      | ok moved =>
        rw [hrename] at h
        cases (Prod.mk.inj h).1

/-- What comes into being when a file is placed is the file, or the staging file, if this fails. -/
theorem place_newOnlyAt (hpath : IsGenerated path) (hdevices : tree.DevicesApart)
    (hclear : tree.Clear path) (h : runAll none tree (place path text) = (result, tree')) :
    NewOnlyAt (fun place => place = landing tree.cwd path ∨
      result ≠ .ok () ∧ place = landing tree.cwd (stagingPath path)) tree tree' := by
  rcases place_cases hdevices hclear h with rfl | ⟨hfailed, rfl | ⟨-, -, rfl⟩⟩
  · intro other hnone hsome
    refine .inl (Classical.byContradiction fun hne => hsome ?_)
    rw [node?_place hpath hdevices hclear h, if_neg hne, hnone, ite_self]
  · exact .refl _
  · exact .put tree (.inr ⟨hfailed, rfl⟩) _

end

/-- Without a formatter, what fails is the writing of a file or directory. -/
theorem run_error {tree tree' : FileTree} {op : FileOp} {e : Error}
    (h : op.run none tree = (.error e, tree')) : ∃ path cause, e = .write path cause := by
  cases op with
  | makeDirectories dir =>
    have hresult : (tree.makeDirectories dir).1.mapError (.write dir) = .error e :=
      congrArg Prod.fst h
    cases hmade : (tree.makeDirectories dir).1 with
    | ok _ =>
      rw [hmade] at hresult
      cases hresult
    | error cause =>
      rw [hmade] at hresult
      exact ⟨dir, cause, (Except.error.inj hresult).symm⟩
  | write path text =>
    simp only [run] at h
    split at h
    · cases (Prod.mk.inj h).1
    · rename_i cause _
      exact ⟨path, cause, (Except.error.inj (Prod.mk.inj h).1).symm⟩
  | rename source target =>
    simp only [run] at h
    split at h
    · cases (Prod.mk.inj h).1
    · rename_i cause _
      exact ⟨target, cause, (Except.error.inj (Prod.mk.inj h).1).symm⟩
  | format path => cases (Prod.mk.inj h).1

theorem runAll_error {tree tree' : FileTree} {ops : List FileOp} {e : Error}
    (h : runAll none tree ops = (.error e, tree')) : ∃ path cause, e = .write path cause := by
  induction ops generalizing tree with
  | nil => cases (Prod.mk.inj h).1
  | cons op ops ih =>
    rw [runAll] at h
    split at h
    · exact ih h
    · rename_i e' between hrun
      obtain rfl := Except.error.inj (Prod.mk.inj h).1
      exact run_error hrun

end FileOp

/-! ## Several files -/

/-- Directories have been made at most, devices left alone, and of the generated files all that are
none of these. -/
structure Spares (tree : FileTree) (files : List (String × String)) (tree' : FileTree) : Prop where
  kept : Kept tree tree'
  others : ∀ other, EndsIn other ".rs" → (∀ f ∈ files, other ≠ landing tree.cwd f.1) →
    ∀ content, tree'.node? other = some (.file content) ↔ tree.node? other = some (.file content)

theorem Spares.refl (tree : FileTree) (files : List (String × String)) : Spares tree files tree :=
  ⟨.refl tree, fun _ _ _ _ => .rfl⟩

theorem Spares.append {t t' t'' : FileTree} {first second : List (String × String)}
    (h : Spares t first t') (h' : Spares t' second t'') : Spares t (first ++ second) t'' := by
  refine ⟨h.kept.trans h'.kept, fun other hends hother content => ?_⟩
  have hfirst := h.others other hends (fun f hf => hother f (List.mem_append_left _ hf)) content
  have hother' : ∀ f ∈ second, other ≠ landing t'.cwd f.1 := by
    rw [h.kept.cwd]
    exact fun f hf => hother f (List.mem_append_right _ hf)
  exact (h'.others other hends hother' content).trans hfirst

theorem Spares.of_makeDirectories (tree : FileTree) (dir : String) :
    Spares tree [] (tree.makeDirectories dir).2 :=
  ⟨makeDirectories_kept tree dir, fun other _ _ content =>
    makeDirectories_files tree dir other content⟩

/-- However placing a file ends, no other generated file has changed. -/
theorem Spares.of_place {tree tree' : FileTree} {f : String × String} {result : Except Error Unit}
    (hpath : IsGenerated f.1) (hdevices : tree.DevicesApart) (hclear : tree.Clear f.1)
    (h : FileOp.runAll none tree (FileOp.place f.1 f.2) = (result, tree')) :
    Spares tree [f] tree' := by
  rcases FileOp.place_cases hdevices hclear h with rfl | ⟨-, rfl | ⟨hends, hstaging, rfl⟩⟩
  · obtain ⟨hkept, -, -, hothers⟩ := FileOp.place_spec hpath hdevices hclear h
    refine ⟨hkept, fun other hother hne content => ?_⟩
    rw [hothers other hother (hne f List.mem_cons_self)]
  · exact .refl _ _
  · refine ⟨kept_put hstaging trivial, fun other hother _ content => ?_⟩
    have hapart : other ≠ landing tree.cwd (FileOp.stagingPath f.1) := by
      rintro rfl
      exact hother.not_staging hends
    rw [node?_put_of_ne tree hapart]

/-- However placing files ends, no other generated file has changed. -/
theorem spares_of_runAll {files : List (String × String)} (hpaths : ∀ f ∈ files, IsGenerated f.1)
    {tree tree' : FileTree} {result : Except Error Unit} (hdevices : tree.DevicesApart)
    (hclear : ∀ f ∈ files, tree.Clear f.1)
    (h : FileOp.runAll none tree (files.flatMap fun f => FileOp.place f.1 f.2) = (result, tree')) :
    Spares tree files tree' := by
  induction files generalizing tree with
  | nil =>
    obtain rfl : tree = tree' := congrArg Prod.snd h
    exact .refl tree []
  | cons first rest ih =>
    rw [List.flatMap_cons, FileOp.runAll_append] at h
    cases hfirst : FileOp.runAll none tree (FileOp.place first.1 first.2) with
    | mk result' between =>
      rw [hfirst] at h
      have hspares := Spares.of_place (hpaths first List.mem_cons_self) hdevices
        (hclear first List.mem_cons_self) hfirst
      refine hspares.append ?_
      cases result' with
      | error e =>
        obtain rfl : between = tree' := congrArg Prod.snd h
        exact .refl between rest
      | ok _ =>
        exact ih (fun f hf => hpaths f (List.mem_cons_of_mem _ hf)) (hdevices.kept hspares.kept)
          (fun f hf => (hclear f (List.mem_cons_of_mem _ hf)).settled hspares.kept.toSettled) h

/-- What comes into being when files are placed are these files, and a staging file, if this
fails. -/
theorem newOnlyAt_of_runAll {files : List (String × String)}
    (hpaths : ∀ f ∈ files, IsGenerated f.1) {tree tree' : FileTree} {result : Except Error Unit}
    (hdevices : tree.DevicesApart) (hclear : ∀ f ∈ files, tree.Clear f.1)
    (h : FileOp.runAll none tree (files.flatMap fun f => FileOp.place f.1 f.2) = (result, tree')) :
    NewOnlyAt (fun place => ∃ f ∈ files, place = landing tree.cwd f.1 ∨
      result ≠ .ok () ∧ place = landing tree.cwd (FileOp.stagingPath f.1)) tree tree' := by
  induction files generalizing tree with
  | nil =>
    obtain rfl : tree = tree' := congrArg Prod.snd h
    exact .refl tree
  | cons first rest ih =>
    rw [List.flatMap_cons, FileOp.runAll_append] at h
    cases hfirst : FileOp.runAll none tree (FileOp.place first.1 first.2) with
    | mk result' between =>
      rw [hfirst] at h
      have hnew := FileOp.place_newOnlyAt (hpaths first List.mem_cons_self) hdevices
        (hclear first List.mem_cons_self) hfirst
      cases result' with
      | error e =>
        obtain ⟨rfl, rfl⟩ := Prod.mk.inj h
        exact hnew.mono fun place hplace => ⟨first, List.mem_cons_self, hplace⟩
      | ok _ =>
        have hkept := (Spares.of_place (hpaths first List.mem_cons_self) hdevices
          (hclear first List.mem_cons_self) hfirst).kept
        have hlater := ih (fun f hf => hpaths f (List.mem_cons_of_mem _ hf)) (hdevices.kept hkept)
          (fun f hf => (hclear f (List.mem_cons_of_mem _ hf)).settled hkept.toSettled) h
        rw [hkept.cwd] at hlater
        refine (hnew.mono fun place hplace => ?_).trans (hlater.mono fun place hplace => ?_)
        · exact ⟨first, List.mem_cons_self, hplace.imp_right fun hno => absurd rfl hno.1⟩
        · obtain ⟨f, hf, hplace⟩ := hplace
          exact ⟨f, List.mem_cons_of_mem _ hf, hplace⟩

/-- Files, each a path with a text, have been placed one after the other, and directories may have
been made: every path leads to one of the files that lead there, and no other generated file has
come, gone or changed. -/
structure Placed (tree : FileTree) (files : List (String × String)) (tree' : FileTree) : Prop
    extends Spares tree files tree' where
  ways : ∀ f ∈ files, tree'.Straight f.1
  located : ∀ f ∈ files, tree'.locate f.1 = .ok (landing tree.cwd f.1)
  holds : ∀ f ∈ files, ∃ g ∈ files, landing tree.cwd g.1 = landing tree.cwd f.1 ∧
    tree'.node? (landing tree.cwd f.1) = some (.file g.2.toUTF8)

theorem Spares.placed {tree tree' : FileTree} (h : Spares tree [] tree') : Placed tree [] tree' :=
  ⟨h, fun _ hf => absurd hf List.not_mem_nil, fun _ hf => absurd hf List.not_mem_nil,
    fun _ hf => absurd hf List.not_mem_nil⟩

theorem Placed.of_place {tree tree' : FileTree} {f : String × String} (hpath : IsGenerated f.1)
    (hdevices : tree.DevicesApart) (hclear : tree.Clear f.1)
    (h : FileOp.runAll none tree (FileOp.place f.1 f.2) = (.ok (), tree')) :
    Placed tree [f] tree' := by
  obtain ⟨hkept, hlocate, hnode, -⟩ := FileOp.place_spec hpath hdevices hclear h
  refine ⟨.of_place hpath hdevices hclear h, fun g hg => ?_, fun g hg => ?_, fun g hg => ?_⟩
  · rw [List.mem_singleton.mp hg]
    exact hclear.file.settled hkept.toSettled
  · rw [List.mem_singleton.mp hg]
    exact hlocate
  · rw [List.mem_singleton.mp hg]
    exact ⟨f, List.mem_cons_self, rfl, hnode⟩

/-- Files that are placed after others. -/
theorem Placed.append {t t' t'' : FileTree} {first second : List (String × String)}
    (h : Placed t first t') (h' : Placed t' second t'') (hpaths : ∀ f ∈ first, IsGenerated f.1) :
    Placed t (first ++ second) t'' := by
  obtain ⟨hspares', hways', hlocated', hholds'⟩ := h'
  have hothers' := hspares'.others
  rw [h.kept.cwd] at hlocated' hholds' hothers'
  refine ⟨h.toSpares.append hspares', fun f hf => ?_, fun f hf => ?_, fun f hf => ?_⟩
  · rcases List.mem_append.mp hf with hf | hf
    · exact (h.ways f hf).settled hspares'.kept.toSettled
    · exact hways' f hf
  · rcases List.mem_append.mp hf with hf | hf
    · exact hspares'.kept.locate (h.located f hf)
    · exact hlocated' f hf
  · by_cases hlater : ∃ g ∈ second, landing t.cwd g.1 = landing t.cwd f.1
    · -- a later file leads to the same place
      obtain ⟨g, hg, heq⟩ := hlater
      obtain ⟨last, hlast, heq', hfile⟩ := hholds' g hg
      rw [heq] at heq' hfile
      exact ⟨last, List.mem_append_right _ hlast, heq', hfile⟩
    · have hf : f ∈ first := (List.mem_append.mp hf).resolve_right fun hf => hlater ⟨f, hf, rfl⟩
      obtain ⟨g, hg, heq, hfile⟩ := h.holds f hf
      refine ⟨g, List.mem_append_left _ hg, heq, ?_⟩
      exact (hothers' _ ((hpaths f hf).endsIn t.cwd)
        (fun g hg heq => hlater ⟨g, hg, heq.symm⟩) _).mpr hfile

/-- Placing files one after the other. -/
theorem placed_of_runAll {files : List (String × String)} (hpaths : ∀ f ∈ files, IsGenerated f.1)
    {tree tree' : FileTree} (hdevices : tree.DevicesApart) (hclear : ∀ f ∈ files, tree.Clear f.1)
    (h : FileOp.runAll none tree (files.flatMap fun f => FileOp.place f.1 f.2) = (.ok (), tree')) :
    Placed tree files tree' := by
  induction files generalizing tree with
  | nil =>
    obtain rfl : tree = tree' := congrArg Prod.snd h
    exact (Spares.refl tree []).placed
  | cons first rest ih =>
    rw [List.flatMap_cons] at h
    obtain ⟨between, hfirst, hrest⟩ := FileOp.runAll_append_eq_ok.mp h
    have hplaced := Placed.of_place (hpaths first List.mem_cons_self) hdevices
      (hclear first List.mem_cons_self) hfirst
    have hlater := ih (fun f hf => hpaths f (List.mem_cons_of_mem _ hf))
      (hdevices.kept hplaced.kept)
      (fun f hf => (hclear f (List.mem_cons_of_mem _ hf)).settled hplaced.kept.toSettled) hrest
    refine hplaced.append hlater fun f hf => ?_
    rw [List.mem_singleton.mp hf]
    exact hpaths first List.mem_cons_self

namespace Placed

variable {tree tree' : FileTree} {files : List (String × String)}

/-- What is read at a path is the text of a file that leads to the same place. -/
theorem read_eq (h : Placed tree files tree') (hpaths : ∀ f ∈ files, IsGenerated f.1)
    {f : String × String} (hf : f ∈ files) :
    ∃ g ∈ files, landing tree.cwd g.1 = landing tree.cwd f.1 ∧
      tree'.node? (landing tree.cwd f.1) = some (.file g.2.toUTF8) ∧
      tree'.read f.1 = .ok g.2.toUTF8 := by
  obtain ⟨g, hg, heq, hnode⟩ := h.holds f hf
  exact ⟨g, hg, heq, hnode, (hpaths f hf).read_eq (h.ways f hf) (h.located f hf) hnode⟩

/-- **Every file is there exactly if those that lead to one place have one text.** -/
theorem read_iff (h : Placed tree files tree') (hpaths : ∀ f ∈ files, IsGenerated f.1) :
    (∀ f ∈ files, tree'.read f.1 = .ok f.2.toUTF8) ↔
      ∀ f ∈ files, ∀ g ∈ files, landing tree.cwd f.1 = landing tree.cwd g.1 → f.2 = g.2 := by
  constructor
  · intro hread f hf g hg heq
    -- both are read at one place, where one text stands
    obtain ⟨last, -, -, hnode, hlast⟩ := h.read_eq hpaths hf
    obtain ⟨last', -, -, hnode', hlast'⟩ := h.read_eq hpaths hg
    rw [heq, hnode'] at hnode
    have hsame : last'.2.toUTF8 = last.2.toUTF8 := Node.file.inj (Option.some.inj hnode)
    have hf' := Except.ok.inj ((hread f hf).symm.trans hlast)
    have hg' := Except.ok.inj ((hread g hg).symm.trans hlast')
    exact String.toByteArray_inj.mp (hf'.trans (hsame.symm.trans hg'.symm))
  · intro hsame f hf
    obtain ⟨g, hg, heq, -, hread⟩ := h.read_eq hpaths hf
    rw [hread, hsame f hf g hg heq.symm]

/-- A file to whose place no later file leads is read as before. -/
theorem read_later {tree'' : FileTree} {later : List (String × String)}
    (h : Placed tree files tree') (hpaths : ∀ f ∈ files, IsGenerated f.1)
    (hlater : Spares tree' later tree'')
    {f : String × String} (hf : f ∈ files)
    (hapart : ∀ g ∈ later, landing tree.cwd f.1 ≠ landing tree.cwd g.1) :
    tree''.read f.1 = tree'.read f.1 := by
  obtain ⟨g, -, -, hnode, hread⟩ := h.read_eq hpaths hf
  have hplace := (hpaths f hf).endsIn tree.cwd
  have hstays := (hlater.others _ hplace (h.kept.cwd ▸ hapart) _).mpr hnode
  rw [hread]
  exact (hpaths f hf).read_eq ((h.ways f hf).settled hlater.kept.toSettled)
    (hlater.kept.locate (h.located f hf)) hstays

/-- A file to whose place a later file leads is read otherwise, if no later file has its text. -/
theorem read_replaced {tree'' : FileTree} {later : List (String × String)}
    (h : Placed tree files tree') (hpaths : ∀ f ∈ files, IsGenerated f.1)
    (hlater : Placed tree' later tree'') {f g : String × String} (hf : f ∈ files) (hg : g ∈ later)
    (heq : landing tree.cwd f.1 = landing tree.cwd g.1)
    (htexts : ∀ f' ∈ files, ∀ g' ∈ later, landing tree.cwd f'.1 = landing tree.cwd g'.1 →
      f'.2 ≠ g'.2) : tree''.read f.1 ≠ tree'.read f.1 := by
  obtain ⟨f', hf', hplace, -, hread⟩ := h.read_eq hpaths hf
  obtain ⟨g', hg', hplace', hnode⟩ := hlater.holds g hg
  rw [h.kept.cwd] at hplace' hnode
  rw [← heq] at hplace' hnode
  have hlast := (hpaths f hf).read_eq ((h.ways f hf).settled hlater.kept.toSettled)
    (hlater.kept.locate (h.located f hf)) hnode
  rw [hread, hlast]
  intro hsame
  exact htexts f' hf' g' hg' (hplace.trans hplace'.symm)
    (String.toByteArray_inj.mp (Except.ok.inj hsame).symm)

end Placed

end Bindery
