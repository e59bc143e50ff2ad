import Bindery.File.Operations
import Bindery.Proofs.File.Paths
import Bindery.Proofs.Results

/-!
# What operations on files change

What a successful operation has done, as a change of `FileTree.node?`: `FileTree.write_cases` and
`FileTree.rename_eq_moveFile`. Both are about paths on which no link is met, and names that are the
only ones of what they name; where that is not so, an operation reaches other places than the one
to which the steps of its path lead (`FileTree.plain_bind`). No operation takes a directory away, so
that a path which leads somewhere before leads there afterwards (`FileTree.Kept.locate`). What comes
into being stands where an operation puts it (`FileTree.NewOnlyAt`).
-/

namespace Bindery

/-- A node that is neither a device nor a link. -/
def Node.IsOrdinary : Node → Prop
  | .device _ | .link _ => False
  | _ => True

namespace FileTree

/-! ## Nodes -/

@[simp] theorem node?_put_self (tree : FileTree) {place : Location} (hplace : place ≠ [])
    (node : Node) : (tree.put place node).node? place = some node := by
  cases place with
  | nil => exact absurd rfl hplace
  | cons name rest => exact List.lookup_cons_self

theorem lookup_filter_ne {nodes : List (Location × Node)} {place other : Location}
    (h : other ≠ place) :
    (nodes.filter fun entry => entry.1 != place).lookup other = nodes.lookup other := by
  induction nodes with
  | nil => rfl
  | cons entry rest ih =>
    obtain ⟨here, node⟩ := entry
    by_cases hhere : here = place
    · subst hhere
      have hother : (other == here) = false := by simpa using h
      simp [List.lookup_cons, hother, ih]
    · have hkept : (here != place) = true := by simpa using hhere
      simp only [List.filter_cons, hkept, if_true, List.lookup_cons, ih]

@[simp] theorem node?_put_of_ne (tree : FileTree) {place other : Location} (h : other ≠ place)
    (node : Node) : (tree.put place node).node? other = tree.node? other := by
  cases other with
  | nil => rfl
  | cons name rest =>
    have hother : (name :: rest == place) = false := by simpa using h
    simp only [node?, put, List.lookup_cons, hother]
    exact lookup_filter_ne h

@[simp] theorem node?_remove_self (tree : FileTree) {place : Location} (hplace : place ≠ []) :
    (tree.remove place).node? place = none := by
  cases place with
  | nil => exact absurd rfl hplace
  | cons name rest =>
    refine List.lookup_eq_none_iff.mpr fun entry hentry => ?_
    have hkept := bne_iff_ne.mp (List.mem_filter.mp hentry).2
    exact bne_iff_ne.mpr hkept.symm

@[simp] theorem node?_remove_of_ne (tree : FileTree) {place other : Location} (h : other ≠ place) :
    (tree.remove place).node? other = tree.node? other := by
  cases other with
  | nil => rfl
  | cons name rest => exact lookup_filter_ne h

/-! ## What is left alone -/

/-- The location is one of several names of a file. -/
def IsShared (tree : FileTree) (place : Location) : Prop := ∃ names ∈ tree.shared, place ∈ names

/-- No link comes and no name becomes one of several, and the working directory stays. -/
structure Settled (tree tree' : FileTree) : Prop where
  cwd : tree'.cwd = tree.cwd
  links : ∀ place target, tree'.node? place = some (.link target) →
    tree.node? place = some (.link target)
  shared : ∀ place, tree'.IsShared place → tree.IsShared place

theorem Settled.refl (tree : FileTree) : Settled tree tree := ⟨rfl, fun _ _ h => h, fun _ h => h⟩

theorem Settled.trans {t t' t'' : FileTree} (h : Settled t t') (h' : Settled t' t'') :
    Settled t t'' where
  cwd := h'.cwd.trans h.cwd
  links := fun place target hlink => h.links place target (h'.links place target hlink)
  shared := fun place hshared => h.shared place (h'.shared place hshared)

/-- What operations on files leave alone: besides, no directory goes and no device comes. -/
structure Kept (tree tree' : FileTree) : Prop extends Settled tree tree' where
  directories : ∀ place, tree.node? place = some .directory → tree'.node? place = some .directory
  devices : ∀ place device, tree'.node? place = some (.device device) →
    tree.node? place = some (.device device)

theorem Kept.refl (tree : FileTree) : Kept tree tree :=
  ⟨.refl tree, fun _ h => h, fun _ _ h => h⟩

theorem Kept.trans {t t' t'' : FileTree} (h : Kept t t') (h' : Kept t' t'') : Kept t t'' where
  toSettled := h.toSettled.trans h'.toSettled
  directories := fun place hplace => h'.directories place (h.directories place hplace)
  devices := fun place device hdevice => h.devices place device (h'.devices place device hdevice)

/-! ## Following paths -/

/-- A step that can be taken starts at a directory. -/
theorem take_eq_ok {tree : FileTree} {place goal : Location} {step : Path.Step}
    (h : tree.take place step = .ok goal) :
    tree.node? place = some .directory ∧ goal = landingFrom place [step] := by
  unfold take at h
  split at h
  · cases h
  · rename_i hdirectory
    refine ⟨hdirectory, ?_⟩
    split at h
    · exact (Except.ok.inj h).symm
    · exact (Except.ok.inj h).symm
    · split at h
      · cases h
      · exact (Except.ok.inj h).symm
  · cases h

theorem follow_eq_ok {tree : FileTree} {start goal : Location} {steps : List Path.Step}
    (h : tree.follow start steps = .ok goal) : goal = landingFrom start steps := by
  unfold follow at h
  induction steps generalizing start with
  | nil => exact (Except.ok.inj h).symm
  | cons step rest ih =>
    rw [List.foldlM_cons] at h
    obtain ⟨next, hnext, h⟩ := Except.bind_eq_ok_iff.mp h
    have hgoal := ih h
    rw [(take_eq_ok hnext).2, ← landingFrom_append] at hgoal
    exact hgoal

/-- A path leads to its landing. -/
theorem locate_eq_ok {tree : FileTree} {path : String} {place : Location}
    (h : tree.locate path = .ok place) : place = landing tree.cwd path := by
  unfold locate at h
  split at h
  · cases h
  · split at h
    · cases h
    · split at h
      · cases h
      · exact follow_eq_ok h

theorem Kept.take {tree tree' : FileTree} (hkept : Kept tree tree') {place goal : Location}
    {step : Path.Step} (h : tree.take place step = .ok goal) :
    tree'.take place step = .ok goal := by
  obtain ⟨hdirectory, -⟩ := take_eq_ok h
  unfold FileTree.take at h ⊢
  rw [hdirectory] at h
  rw [hkept.directories place hdirectory]
  exact h

theorem Kept.follow {tree tree' : FileTree} (hkept : Kept tree tree') {start goal : Location}
    {steps : List Path.Step} (h : tree.follow start steps = .ok goal) :
    tree'.follow start steps = .ok goal := by
  unfold FileTree.follow at h ⊢
  induction steps generalizing start with
  | nil => exact h
  | cons step rest ih =>
    rw [List.foldlM_cons] at h ⊢
    obtain ⟨next, hnext, h⟩ := Except.bind_eq_ok_iff.mp h
    rw [hkept.take hnext]
    exact ih h

/-- What a path leads to stays where it is, as long as directories do. -/
theorem Kept.locate {tree tree' : FileTree} (hkept : Kept tree tree') {path : String}
    {place : Location} (h : tree.locate path = .ok place) : tree'.locate path = .ok place := by
  unfold FileTree.locate start at h ⊢
  rw [hkept.cwd]
  split at h
  · cases h
  · rename_i hnul
    rw [if_neg hnul]
    split at h
    · cases h
    · rename_i hempty
      rw [if_neg hempty]
      split at h
      · cases h
      · rename_i hlong
        rw [if_neg hlong]
        exact hkept.follow h

/-- A change at one place brings no link, unless one comes there. -/
theorem Settled.of_change_at {tree tree' : FileTree} {place : Location}
    (hcwd : tree'.cwd = tree.cwd)
    (hothers : ∀ other, other ≠ place → tree'.node? other = tree.node? other)
    (hlink : ∀ target, tree'.node? place ≠ some (.link target))
    (hshared : ∀ other, tree'.IsShared other → tree.IsShared other) : Settled tree tree' := by
  refine ⟨hcwd, fun other target hother => ?_, hshared⟩
  have hne : other ≠ place := by
    rintro rfl
    exact hlink target hother
  rwa [hothers other hne] at hother

/-- A change at one place, where no directory stood and neither a device nor a link comes. -/
theorem Kept.of_change_at {tree tree' : FileTree} {place : Location} (hcwd : tree'.cwd = tree.cwd)
    (hothers : ∀ other, other ≠ place → tree'.node? other = tree.node? other)
    (hplace : tree.node? place ≠ some .directory)
    (hnode : ∀ node, tree'.node? place = some node → node.IsOrdinary)
    (hshared : ∀ other, tree'.IsShared other → tree.IsShared other) : Kept tree tree' := by
  refine ⟨.of_change_at hcwd hothers (fun target hlink => hnode _ hlink) hshared,
    fun other hother => ?_, fun other device hother => ?_⟩
  · have hne : other ≠ place := by
      rintro rfl
      exact hplace hother
    rwa [hothers other hne]
  · have hne : other ≠ place := by
      rintro rfl
      exact hnode _ hother
    rwa [hothers other hne] at hother

/-- The root is a directory. -/
theorem ne_nil_of_no_directory {tree : FileTree} {place : Location}
    (hplace : tree.node? place ≠ some .directory) : place ≠ [] := by
  rintro rfl
  exact hplace rfl

/-- Putting an ordinary node where there is no directory. -/
theorem kept_put {tree : FileTree} {place : Location} {node : Node}
    (hplace : tree.node? place ≠ some .directory) (hnode : node.IsOrdinary) :
    Kept tree (tree.put place node) := by
  refine .of_change_at rfl (fun other hne => node?_put_of_ne tree hne node) hplace
    (fun found hfound => ?_) fun _ h => h
  rw [node?_put_self tree (ne_nil_of_no_directory hplace)] at hfound
  exact Option.some.inj hfound ▸ hnode

/-! ## Following links -/

/-- No link stands where steps lead from a directory, nor on the way. -/
def NoLinks (tree : FileTree) (place : Location) (steps : List Path.Step) : Prop :=
  ∀ front, front <+: steps → ∀ target, tree.node? (landingFrom place front) ≠ some (.link target)

/-- No link is met on the way of a path. There may be one at its end. -/
def Straight (tree : FileTree) (path : String) : Prop :=
  tree.NoLinks (tree.start path) (Path.steps path).dropLast

theorem NoLinks.of_prefix {tree : FileTree} {place : Location} {front steps : List Path.Step}
    (h : tree.NoLinks place steps) (hfront : front <+: steps) : tree.NoLinks place front :=
  fun _ hshorter => h _ (hshorter.trans hfront)

theorem NoLinks.settled {tree tree' : FileTree} {place : Location} {steps : List Path.Step}
    (h : tree.NoLinks place steps) (hsettled : Settled tree tree') : tree'.NoLinks place steps :=
  fun front hfront target hlink => h front hfront target (hsettled.links _ target hlink)

theorem Settled.start_eq {tree tree' : FileTree} (h : Settled tree tree') (path : String) :
    tree'.start path = tree.start path := by
  unfold start
  rw [h.cwd]

theorem Straight.settled {tree tree' : FileTree} {path : String} (h : tree.Straight path)
    (hsettled : Settled tree tree') : tree'.Straight path := by
  unfold Straight
  rw [hsettled.start_eq]
  exact NoLinks.settled h hsettled

/-- Where no link is met, steps lead as far as they do without looking for links. -/
theorem advance_eq_follow {tree : FileTree} {last : Bool} {place : Location}
    {steps : List Path.Step} (hway : tree.NoLinks place steps.dropLast)
    (hend : last = true → ∀ target, tree.node? (landingFrom place steps) ≠ some (.link target)) :
    tree.advance last place steps = Reach.arrived <$> tree.follow place steps := by
  unfold follow
  induction steps generalizing place with
  | nil => rfl
  | cons step rest ih =>
    rw [advance, List.foldlM_cons]
    cases hnext : tree.take place step with
    | error e => rfl
    | ok next =>
      obtain rfl : next = landingFrom place [step] := (take_eq_ok hnext).2
      cases rest with
      | nil =>
        -- the last step may lead to a link, if that is not to be followed
        have hstays : ∀ target, tree.node? (landingFrom place [step]) = some (.link target) →
            last = false := fun target hlink =>
          eq_false_of_ne_true fun hlast => hend hlast target hlink
        simp only [bind, Except.bind, List.isEmpty_nil, Bool.true_and]
        split
        · rename_i target hlink
          rw [hstays target hlink]
          rfl
        · rfl
      | cons second rest =>
        have hnone : ∀ target, tree.node? (landingFrom place [step]) ≠ some (.link target) :=
          hway [step] ⟨(second :: rest).dropLast, rfl⟩
        have hlater := @ih (landingFrom place [step])
          (fun front hfront target => by
            have hall := hway (step :: front) ((List.prefix_cons_inj step).mpr hfront) target
            rwa [← List.singleton_append, landingFrom_append] at hall)
          (fun hlast target => by
            have hall := hend hlast target
            rwa [← List.singleton_append, landingFrom_append] at hall)
        simp only [bind, Except.bind]
        exact hlater

/-- Where steps lead without a link, however many may follow each other. -/
theorem walk_eq_of_advance {tree : FileTree} {last : Bool} {place : Location}
    {steps : List Path.Step} {reached : Except SystemError Location}
    (h : tree.advance last place steps = Reach.arrived <$> reached) (links : Nat) :
    tree.walk last links place steps = (·, false) <$> reached := by
  cases links with
  | zero =>
    rw [walk, h]
    cases reached <;> rfl
  | succ links =>
    rw [walk, h]
    cases reached <;> rfl

/-- **A path on which no link is met is taken as it is.** What is done with the plain path is done
with the path, as long as it fails where the path leads nowhere. -/
theorem plain_bind {α : Type} {tree : FileTree} {path : String} {last : Bool}
    (hway : tree.Straight path)
    (hend : (last || Path.endsInSlash path) = true →
      ∀ target, tree.node? (landing tree.cwd path) ≠ some (.link target))
    (f : String → Except SystemError α)
    (hf : ∀ e, tree.locate path = .error e → f path = .error e) :
    (tree.plain path last >>= f) = f path := by
  unfold plain
  split
  · rfl
  · rename_i hwalked
    simp only [Bool.or_eq_true, not_or, decide_eq_true_eq] at hwalked
    obtain ⟨⟨⟨-, hnul⟩, hempty⟩, hlong⟩ := hwalked
    have hlocate : tree.locate path = tree.follow (tree.start path) (Path.steps path) := by
      unfold locate
      rw [if_neg hnul, if_neg hempty, if_neg hlong]
    have hwalk := walk_eq_of_advance (advance_eq_follow hway hend) linkLimit
    rw [← hlocate] at hwalk
    simp only [hwalk]
    cases hplace : tree.locate path with
    | error e => exact (hf e hplace).symm
    | ok place => rfl

theorem nameLocation_eq {tree : FileTree} {path : String} (hway : tree.Straight path)
    (hend : Path.endsInSlash path = true →
      ∀ target, tree.node? (landing tree.cwd path) ≠ some (.link target)) :
    tree.nameLocation path = tree.locate path :=
  @plain_bind _ _ _ false hway hend tree.locate fun _ h => h

/-! ## Operations -/

/-- A place where a file can be written is no directory, and its path ends in a name. -/
theorem locateFile_eq_ok {tree : FileTree} {path : String} {place : Location}
    (h : tree.locateFile path = .ok place) :
    tree.locate path = .ok place ∧ (lastName? path).isSome = true ∧
      tree.node? place ≠ some .directory := by
  obtain ⟨found, hfound, h⟩ := Except.bind_eq_ok_iff.mp h
  obtain ⟨hname, h⟩ := Except.guard_eq_ok_iff.mp h
  simp only [Bool.or_eq_true, not_or, Option.isNone_iff_eq_none] at hname
  split at h
  · cases h
  · rename_i hnode
    obtain rfl := Except.ok.inj h
    exact ⟨hfound, Option.isSome_iff_ne_none.mpr hname.1, fun hdirectory => hnode hdirectory⟩

/-- A file with one name is filled where it stands. -/
theorem fill_eq_put {tree : FileTree} {place : Location} (h : ¬ tree.IsShared place)
    (content : ByteArray) : tree.fill place content = tree.put place (.file content) := by
  have hnone : tree.shared.find? (·.contains place) = none := by
    rw [List.find?_eq_none]
    intro names hnames hplace
    exact h ⟨names, hnames, List.contains_iff_mem.mp hplace⟩
  unfold fill
  rw [hnone]

section

variable {tree tree' : FileTree} {path : String} {content : ByteArray}

/-- Writing where no link is met, nor stands. -/
theorem write_eq (hway : tree.Straight path)
    (hlink : ∀ target, tree.node? (landing tree.cwd path) ≠ some (.link target)) :
    tree.write path content = tree.locateFile path >>= (tree.store · content) := by
  refine plain_bind hway (fun _ => hlink) (fun p => tree.locateFile p >>= (tree.store · content))
    fun e he => ?_
  unfold locateFile
  rw [he]
  rfl

/-- A file that has been written stands where its path leads, which was no directory. -/
theorem write_located (hway : tree.Straight path)
    (hlink : ∀ target, tree.node? (landing tree.cwd path) ≠ some (.link target))
    (h : tree.write path content = .ok tree') :
    tree.locate path = .ok (landing tree.cwd path) ∧ (lastName? path).isSome = true ∧
      tree.node? (landing tree.cwd path) ≠ some .directory := by
  rw [write_eq hway hlink] at h
  obtain ⟨place, hplace, -⟩ := Except.bind_eq_ok_iff.mp h
  obtain ⟨hlocate, hname, hdirectory⟩ := locateFile_eq_ok hplace
  obtain rfl := locate_eq_ok hlocate
  exact ⟨hlocate, hname, hdirectory⟩

/-- Writing a file puts it where its path leads, unless a device stands there, which stays. -/
theorem write_cases (hway : tree.Straight path)
    (hlink : ∀ target, tree.node? (landing tree.cwd path) ≠ some (.link target))
    (halone : ¬ tree.IsShared (landing tree.cwd path)) (h : tree.write path content = .ok tree') :
    tree' = tree.put (landing tree.cwd path) (.file content) ∨
      tree' = tree ∧ ∃ device, tree.node? (landing tree.cwd path) = some (.device device) := by
  rw [write_eq hway hlink] at h
  obtain ⟨place, hplace, h⟩ := Except.bind_eq_ok_iff.mp h
  obtain rfl := locate_eq_ok (locateFile_eq_ok hplace).1
  unfold store at h
  rw [fill_eq_put halone] at h
  split at h
  · exact .inl (Except.ok.inj h).symm
  · exact .inl (Except.ok.inj h).symm
  · exact .inl (Except.ok.inj h).symm
  · cases h
  · cases h
  · rename_i hnode
    exact .inr ⟨(Except.ok.inj h).symm, _, hnode⟩
  · rename_i hnode
    exact .inr ⟨(Except.ok.inj h).symm, _, hnode⟩
  · rename_i hnode
    split at h
    · exact .inr ⟨(Except.ok.inj h).symm, _, hnode⟩
    · cases h

/-- Writing a file where there is no device puts it there. -/
theorem write_eq_put (hway : tree.Straight path)
    (hlink : ∀ target, tree.node? (landing tree.cwd path) ≠ some (.link target))
    (halone : ¬ tree.IsShared (landing tree.cwd path)) (h : tree.write path content = .ok tree')
    (hdevice : ∀ device, tree.node? (landing tree.cwd path) ≠ some (.device device)) :
    tree' = tree.put (landing tree.cwd path) (.file content) := by
  rcases write_cases hway hlink halone h with hput | ⟨-, device, hnode⟩
  · exact hput
  · exact absurd hnode (hdevice device)

end

/-! ## Moving -/

section

variable {tree tree' : FileTree} {origin goal : Location} {node : Node}

/-- A file that is moved is gone where it was, and stands where it is moved to. -/
theorem node?_moveFile (tree : FileTree) (origin goal : Location) (node : Node)
    (place : Location) : (tree.moveFile origin goal node).node? place =
      ((tree.remove origin).put goal node).node? place := by
  cases place <;> rfl

@[simp] theorem node?_moveFile_goal (tree : FileTree) (origin : Location) (hgoal : goal ≠ [])
    (node : Node) : (tree.moveFile origin goal node).node? goal = some node := by
  rw [node?_moveFile, node?_put_self _ hgoal]

@[simp] theorem node?_moveFile_origin (tree : FileTree) (horigin : origin ≠ [])
    (hne : origin ≠ goal) (node : Node) : (tree.moveFile origin goal node).node? origin = none := by
  rw [node?_moveFile, node?_put_of_ne _ hne, node?_remove_self _ horigin]

@[simp] theorem node?_moveFile_of_ne (tree : FileTree) {place : Location} (horigin : place ≠ origin)
    (hgoal : place ≠ goal) (node : Node) :
    (tree.moveFile origin goal node).node? place = tree.node? place := by
  rw [node?_moveFile, node?_put_of_ne _ hgoal, node?_remove_of_ne _ horigin]

/-- What stands somewhere after a move is what was moved, at the goal, or has stood there before. -/
theorem found_of_moveFile (horigin : origin ≠ []) (hgoal : goal ≠ []) {place : Location}
    {found : Node} (h : (tree.moveFile origin goal node).node? place = some found) :
    place = goal ∧ found = node ∨ tree.node? place = some found := by
  by_cases hatGoal : place = goal
  · subst hatGoal
    rw [node?_moveFile_goal _ _ hgoal] at h
    exact .inl ⟨rfl, (Option.some.inj h).symm⟩
  · by_cases hatOrigin : place = origin
    · subst hatOrigin
      rw [node?_moveFile_origin _ horigin hatGoal] at h
      cases h
    · rw [node?_moveFile_of_ne _ hatOrigin hatGoal] at h
      exact .inr h

/-- Moving the only name of a file leaves the names of other files as they are. -/
theorem isShared_moveFile (halone : ¬ tree.IsShared origin) {place : Location}
    (h : (tree.moveFile origin goal node).IsShared place) : tree.IsShared place := by
  obtain ⟨names, hnames, hplace⟩ := h
  obtain ⟨old, hold, rfl⟩ := List.mem_map.mp hnames
  obtain ⟨before, hbefore, rfl⟩ := List.mem_map.mp hplace
  have hmem : before ∈ old := (List.mem_filter.mp hbefore).1
  have hne : before ≠ origin := by
    rintro rfl
    exact halone ⟨old, hold, hmem⟩
  rw [if_neg hne]
  exact ⟨old, hold, hmem⟩

/-- Moving what is no link leaves no link that was not there. -/
theorem settled_moveFile (horigin : origin ≠ []) (hgoal : goal ≠ [])
    (halone : ¬ tree.IsShared origin) (hlink : ∀ target, node ≠ .link target) :
    Settled tree (tree.moveFile origin goal node) := by
  refine ⟨rfl, fun place target hplace => ?_, fun place => isShared_moveFile halone⟩
  rcases found_of_moveFile horigin hgoal hplace with ⟨-, hmoved⟩ | hbefore
  · exact absurd hmoved.symm (hlink target)
  · exact hbefore

/-- Moving the only name of an ordinary file to where there is no directory. -/
theorem kept_moveFile (horigin : tree.node? origin ≠ some .directory)
    (hgoal : tree.node? goal ≠ some .directory) (halone : ¬ tree.IsShared origin)
    (hnode : node.IsOrdinary) : Kept tree (tree.moveFile origin goal node) := by
  have hnil := ne_nil_of_no_directory horigin
  have hnil' := ne_nil_of_no_directory hgoal
  have hlink : ∀ target, node ≠ .link target := by
    rintro target rfl
    exact hnode
  refine ⟨settled_moveFile hnil hnil' halone hlink, fun place hplace => ?_,
    fun place device hplace => ?_⟩
  · have hatOrigin : place ≠ origin := by
      rintro rfl
      exact horigin hplace
    have hatGoal : place ≠ goal := by
      rintro rfl
      exact hgoal hplace
    rwa [node?_moveFile_of_ne _ hatOrigin hatGoal]
  · rcases found_of_moveFile hnil hnil' hplace with ⟨-, rfl⟩ | hbefore
    · exact hnode.elim
    · exact hbefore

end

section

variable {tree tree' : FileTree} {source target : String} {node : Node}

/-- Moving between paths on which no link is met. -/
theorem move_eq_moveFile (hsource : tree.Straight source) (htarget : tree.Straight target)
    (hslash : Path.endsInSlash target = false) (h : tree.move source target = .ok tree')
    (hnode : tree.node? (landing tree.cwd source) = some node) (hfile : node ≠ .directory)
    (hlink : ∀ target, node ≠ .link target)
    (hne : landing tree.cwd source ≠ landing tree.cwd target) :
    tree.locate target = .ok (landing tree.cwd target) ∧
      tree.node? (landing tree.cwd target) ≠ some .directory ∧
      tree' = tree.moveFile (landing tree.cwd source) (landing tree.cwd target) node := by
  unfold move at h
  rw [plain_bind hsource (fun _ t ht => hlink t (Option.some.inj (hnode.symm.trans ht))) _
    (fun e he => by rw [he]; rfl)] at h
  obtain ⟨origin, horigin, h⟩ := Except.bind_eq_ok_iff.mp h
  rw [plain_bind htarget (by simp [hslash]) _ (fun e he => by rw [he]; rfl)] at h
  obtain ⟨goal, hgoal, h⟩ := Except.bind_eq_ok_iff.mp h
  obtain rfl := locate_eq_ok horigin
  obtain rfl := locate_eq_ok hgoal
  refine ⟨hgoal, ?_⟩
  obtain ⟨-, h⟩ := Except.guard_eq_ok_iff.mp h
  rw [hnode] at h
  split at h
  · cases h
  · rename_i hdirectory
    exact absurd (Option.some.inj hdirectory) hfile
  · rename_i moved _ hmoved
    obtain rfl := Option.some.inj hmoved
    obtain ⟨-, h⟩ := Except.guard_eq_ok_iff.mp h
    rw [if_neg hne] at h
    obtain ⟨-, h⟩ := Except.guard_eq_ok_iff.mp h
    split at h
    · cases h
    · rename_i hgoal'
      exact ⟨fun hdirectory => hgoal' hdirectory, (Except.ok.inj h).symm⟩

/-- So does renaming what has no other name. -/
theorem rename_eq_moveFile (hsource : tree.Straight source) (htarget : tree.Straight target)
    (hslash : Path.endsInSlash target = false) (h : tree.rename source target = .ok tree')
    (halone : ¬ tree.IsShared (landing tree.cwd source))
    (hnode : tree.node? (landing tree.cwd source) = some node) (hfile : node ≠ .directory)
    (hlink : ∀ target, node ≠ .link target)
    (hne : landing tree.cwd source ≠ landing tree.cwd target) :
    tree.locate target = .ok (landing tree.cwd target) ∧
      tree.node? (landing tree.cwd target) ≠ some .directory ∧
      tree' = tree.moveFile (landing tree.cwd source) (landing tree.cwd target) node := by
  unfold rename at h
  rw [nameLocation_eq hsource (fun _ t ht => hlink t (Option.some.inj (hnode.symm.trans ht))),
    nameLocation_eq htarget (by simp [hslash])] at h
  obtain ⟨origin, horigin, h⟩ := Except.bind_eq_ok_iff.mp h
  obtain ⟨goal, hgoal, h⟩ := Except.bind_eq_ok_iff.mp h
  obtain rfl := locate_eq_ok horigin
  -- renaming one name of a file to another of its names would do nothing
  have hapart : ¬ tree.areNamesOfOne (landing tree.cwd source) goal = true := by
    intro hone
    obtain ⟨names, hnames, hboth⟩ := List.any_eq_true.mp hone
    exact halone ⟨names, hnames, List.contains_iff_mem.mp (Bool.and_eq_true_iff.mp hboth).1⟩
  rw [if_neg hapart] at h
  exact move_eq_moveFile hsource htarget hslash h hnode hfile hlink hne

end

/-! ## Directories -/

/-- A directory is made where there was nothing. -/
theorem makeDirectory_eq_ok {tree tree' : FileTree} {path : String}
    (h : tree.makeDirectory path = .ok tree') :
    ∃ place, tree.node? place = none ∧ tree' = tree.put place .directory := by
  obtain ⟨plainPath, -, h⟩ := Except.bind_eq_ok_iff.mp h
  obtain ⟨place, -, h⟩ := Except.bind_eq_ok_iff.mp h
  obtain ⟨-, h⟩ := Except.guard_eq_ok_iff.mp h
  split at h
  · cases h
  · rename_i hnone
    exact ⟨place, hnone, (Except.ok.inj h).symm⟩

/-- Where no link stands or is met, it is made where its path leads. -/
theorem makeDirectory_landing {tree tree' : FileTree} {path : String}
    (hway : tree.NoLinks (tree.start path) (Path.steps path))
    (h : tree.makeDirectory path = .ok tree') :
    tree' = tree.put (landing tree.cwd path) .directory := by
  unfold makeDirectory at h
  rw [plain_bind (hway.of_prefix (List.dropLast_prefix _)) (fun _ => hway _ (List.prefix_refl _)) _
    (fun e he => by rw [he]; rfl)] at h
  obtain ⟨place, hplace, h⟩ := Except.bind_eq_ok_iff.mp h
  obtain rfl := locate_eq_ok hplace
  obtain ⟨-, h⟩ := Except.guard_eq_ok_iff.mp h
  split at h
  · cases h
  · exact (Except.ok.inj h).symm

theorem makeDirectory_kept {tree tree' : FileTree} {path : String}
    (h : tree.makeDirectory path = .ok tree') : Kept tree tree' := by
  obtain ⟨place, hnone, rfl⟩ := makeDirectory_eq_ok h
  exact kept_put (by simp [hnone]) trivial

@[simp] theorem unlessThere_tree (tree : FileTree) (path : String) (cause : SystemError) :
    (tree.unlessThere path cause).2 = tree := by
  unfold unlessThere
  split <;> rfl

/-- What making one directory keeps is kept by making several, also where that fails. -/
theorem makeDirectoriesAlong_keeps {R : FileTree → FileTree → Prop} (hrefl : ∀ t, R t t)
    (htrans : ∀ t t' t'', R t t' → R t' t'' → R t t'') (tree : FileTree) {paths : List String}
    (hmake : ∀ t t', ∀ path ∈ paths, t.makeDirectory path = .ok t' → R t t') :
    R tree (tree.makeDirectoriesAlong paths).2 := by
  induction paths generalizing tree with
  | nil => exact hrefl tree
  | cons path above ih =>
    rw [makeDirectoriesAlong]
    split
    · rename_i made hmade
      exact hmake _ _ path List.mem_cons_self hmade
    · rename_i cause hfailed
      split
      · have habove := ih tree fun t t' path hpath => hmake t t' path (List.mem_cons_of_mem _ hpath)
        split
        · rename_i cause' after hafter
          rw [hafter] at habove
          exact habove
        · rename_i after hafter
          rw [hafter] at habove
          split
          · rename_i made hmade
            exact htrans _ _ _ habove (hmake _ _ path List.mem_cons_self hmade)
          · rw [unlessThere_tree]
            exact habove
      · rw [unlessThere_tree]
        exact hrefl tree

theorem makeDirectories_kept (tree : FileTree) (path : String) :
    Kept tree (tree.makeDirectories path).2 :=
  makeDirectoriesAlong_keeps Kept.refl (fun _ _ _ => Kept.trans) tree
    fun _ _ _ _ => makeDirectory_kept

/-- Making directories brings no file, takes none and changes none. -/
theorem makeDirectories_files (tree : FileTree) (path : String) (place : Location)
    (content : ByteArray) :
    (tree.makeDirectories path).2.node? place = some (.file content) ↔
      tree.node? place = some (.file content) := by
  refine makeDirectoriesAlong_keeps
    (R := fun t t' => t'.node? place = some (.file content) ↔ t.node? place = some (.file content))
    (fun _ => .rfl) (fun _ _ _ h h' => h'.trans h) tree fun t t' path _ hmade => ?_
  obtain ⟨here, hnone, rfl⟩ := makeDirectory_eq_ok hmade
  by_cases hplace : place = here
  · -- there was nothing, and now there is a directory
    subst hplace
    have hno : t.node? place ≠ some .directory := by simp [hnone]
    rw [node?_put_self t (ne_nil_of_no_directory hno), hnone]
    simp
  · rw [node?_put_of_ne t hplace]

/-! ## What comes into being -/

/-- Nothing has come into being but at such places. -/
def NewOnlyAt (places : Location → Prop) (tree tree' : FileTree) : Prop :=
  ∀ place, tree.node? place = none → tree'.node? place ≠ none → places place

namespace NewOnlyAt

variable {places places' : Location → Prop} {t t' t'' : FileTree}

theorem refl (t : FileTree) : NewOnlyAt places t t := fun _ hnone hsome => absurd hnone hsome

theorem trans (h : NewOnlyAt places t t') (h' : NewOnlyAt places t' t'') :
    NewOnlyAt places t t'' := by
  intro place hnone hsome
  by_cases hbetween : t'.node? place = none
  · exact h' place hbetween hsome
  · exact h place hnone hbetween

theorem mono (h : NewOnlyAt places t t') (himp : ∀ place, places place → places' place) :
    NewOnlyAt places' t t' :=
  fun place hnone hsome => himp place (h place hnone hsome)

theorem put (t : FileTree) {place : Location} (hplace : places place) (node : Node) :
    NewOnlyAt places t (t.put place node) := by
  intro other hnone hsome
  by_cases heq : other = place
  · exact heq ▸ hplace
  · rw [node?_put_of_ne t heq] at hsome
    exact absurd hnone hsome

end NewOnlyAt

/-- Making a directory brings directories on the way to it, if no link is met there. -/
theorem makeDirectories_newOnlyAt (tree : FileTree) (path : String)
    (hways : ∀ above ∈ Path.ancestors path, tree.NoLinks (tree.start above) (Path.steps above)) :
    NewOnlyAt (fun place => ∃ above ∈ Path.ancestors path, place = landing tree.cwd above) tree
      (tree.makeDirectories path).2 := by
  -- where a path leads is asked again for each directory, so no link may have come between
  refine (makeDirectoriesAlong_keeps
    (R := fun t t' => Settled tree t → Settled tree t' ∧ NewOnlyAt _ t t')
    (fun t ht => ⟨ht, .refl t⟩) (fun t t' t'' h h' ht => ?_) tree
    (fun t t' above habove hmade ht => ?_) (.refl tree)).2
  · obtain ⟨ht', hnew⟩ := h ht
    obtain ⟨ht'', hnew'⟩ := h' ht'
    exact ⟨ht'', hnew.trans hnew'⟩
  · have hway : t.NoLinks (t.start above) (Path.steps above) := by
      rw [ht.start_eq]
      exact (hways above habove).settled ht
    have hmade' := makeDirectory_landing hway hmade
    refine ⟨ht.trans (makeDirectory_kept hmade).toSettled, ?_⟩
    subst hmade'
    exact .put t ⟨above, habove, by rw [ht.cwd]⟩ _

end FileTree

end Bindery
