import Bindery.Proofs.ModuleIndex
import Bindery.Proofs.Progress

/-!
# Runs that are cut short

A run may stop anywhere: between two steps, or in the middle of one, after some of the directories
or some of the bytes (`FileOp.CutShort`, `FileOp.Cut`). What it leaves behind then is `Intact` under
the names of generated files: a step writes beside such a name and changes what stands there only by
moving a file that is complete (`Intact.cut_place`). So wherever a run is cut, generated files are
complete or untouched: `Compiler.complete_or_untouched`.

This rests on the staging names being free, or names of files of their own. Writing goes where a
link leads and to all names of a file, so a link under a staging name takes the text to a file that
is none of the run's (`Compiler.not_forall_complete_or_untouched`).
-/

namespace Bindery

open FileTree

/-! ## Stopping anywhere -/

namespace FileOp

/-- What a step leaves behind that is cut short: nothing has been done, or some of the directories
have been made, those above before those below, or a file has been written up to some byte. -/
inductive CutShort (tree : FileTree) : FileOp → FileTree → Prop where
  | unbegun (op : FileOp) : CutShort tree op tree
  | directories {dir : String} {above : List String} (h : above <:+ Path.ancestors dir) :
      CutShort tree (.makeDirectories dir) (tree.makeDirectoriesAlong above).2
  | written {path text : String} {tree' : FileTree} (bytes : Nat)
      (h : tree.write path (text.toUTF8.extract 0 bytes) = .ok tree') :
      CutShort tree (.write path text) tree'

/-- What is left behind when steps are done one after the other, up to some point. -/
inductive Cut (formatter : Option Formatter) : FileTree → List FileOp → FileTree → Prop where
  | done (tree : FileTree) : Cut formatter tree [] tree
  | short {tree tree' : FileTree} {op : FileOp} (h : op.CutShort tree tree') (later : List FileOp) :
      Cut formatter tree (op :: later) tree'
  | next {tree between tree' : FileTree} {op : FileOp} {later : List FileOp}
      (h : op.run formatter tree = (.ok (), between)) (hlater : Cut formatter between later tree') :
      Cut formatter tree (op :: later) tree'

/-- A step that fails has been cut short. -/
theorem cutShort_of_error {tree tree' : FileTree} {op : FileOp} {e : Error}
    (h : op.run none tree = (.error e, tree')) : op.CutShort tree tree' := by
  cases op with
  | makeDirectories dir =>
    obtain rfl : (tree.makeDirectories dir).2 = tree' := congrArg Prod.snd h
    exact .directories (List.suffix_refl _)
  | write path text =>
    simp only [run] at h
    split at h
    · cases (Prod.mk.inj h).1
    · obtain rfl := (Prod.mk.inj h).2
      exact .unbegun _
  | rename source target =>
    simp only [run] at h
    split at h
    · cases (Prod.mk.inj h).1
    · obtain rfl := (Prod.mk.inj h).2
      exact .unbegun _
  | format path => cases (Prod.mk.inj h).1

/-- However steps end, they have been done up to some point. -/
theorem cut_runAll (tree : FileTree) (ops : List FileOp) :
    Cut none tree ops (runAll none tree ops).2 := by
  induction ops generalizing tree with
  | nil => exact .done tree
  | cons op ops ih =>
    rw [runAll]
    cases hrun : op.run none tree with
    | mk result between =>
      cases result with
      | error e => exact .short (cutShort_of_error hrun) ops
      | ok _ => exact .next hrun (ih between)

theorem cut_of_runAll {tree tree' : FileTree} {ops : List FileOp}
    (h : runAll none tree ops = (.ok (), tree')) : Cut none tree ops tree' := by
  have hcut := cut_runAll tree ops
  rwa [h] at hcut

/-- Steps are cut in the first part, or behind it. -/
theorem Cut.append {formatter : Option Formatter} {tree tree' : FileTree}
    {first second : List FileOp} (h : Cut formatter tree (first ++ second) tree') :
    Cut formatter tree first tree' ∨ ∃ between,
      runAll formatter tree first = (.ok (), between) ∧ Cut formatter between second tree' := by
  induction first generalizing tree with
  | nil => exact .inr ⟨tree, rfl, h⟩
  | cons op first ih =>
    cases h with
    | short h _ => exact .inl (.short h first)
    | next h hlater =>
      rcases ih hlater with hfirst | ⟨between, hrun, hsecond⟩
      · exact .inl (.next h hfirst)
      · exact .inr ⟨between, runAll_cons_eq_ok.mpr ⟨_, h, hrun⟩, hsecond⟩

end FileOp

/-! ## What stays intact -/

/-- What a place holds, if it is no directory. -/
def FileTree.held (tree : FileTree) (place : Location) : Option Node :=
  match tree.node? place with
  | some .directory => none
  | other => other

theorem FileTree.held_congr {tree tree' : FileTree} {place : Location}
    (h : tree'.node? place = tree.node? place) : tree'.held place = tree.held place := by
  unfold held
  rw [h]

/-- Making directories changes nothing that a place holds, wherever it is cut. -/
theorem FileTree.held_makeDirectoriesAlong (tree : FileTree) (paths : List String)
    (place : Location) : (tree.makeDirectoriesAlong paths).2.held place = tree.held place := by
  refine makeDirectoriesAlong_keeps (R := fun t t' => t'.held place = t.held place) (fun _ => rfl)
    (fun _ _ _ h h' => h'.trans h) tree fun t t' path _ hmade => ?_
  obtain ⟨here, hnone, rfl⟩ := makeDirectory_eq_ok hmade
  by_cases hplace : place = here
  · -- there was nothing, and now there is a directory
    subst hplace
    have hno : t.node? place ≠ some .directory := by simp [hnone]
    unfold held
    rw [node?_put_self t (ne_nil_of_no_directory hno), hnone]
  · exact held_congr (node?_put_of_ne t hplace _)

/-- How a place with the name of a generated file comes out of a run that is to put texts in place:
it holds what it held before, or the complete text of a file, or a device that stood under the
staging name of the file and has been moved. -/
inductive CompleteOrUntouched (texts : String → String → Prop) (before after : FileTree)
    (place : Location) : Prop where
  | untouched (h : after.held place = before.held place)
  | complete {path text : String} (h : texts path text) (hplace : landing before.cwd path = place)
      (hafter : after.node? place = some (.file text.toUTF8))
  | device {path text : String} {device : Device} (h : texts path text)
      (hplace : landing before.cwd path = place)
      (hstaging : EndsIn (landing before.cwd (FileOp.stagingPath path)) ".rs.tmp")
      (hbefore : before.node? (landing before.cwd (FileOp.stagingPath path)) =
        some (.device device))
      (hafter : after.node? place = some (.device device))

theorem CompleteOrUntouched.congr {texts : String → String → Prop} {before after after' : FileTree}
    {place : Location} (h : CompleteOrUntouched texts before after place)
    (hsame : after'.node? place = after.node? place) :
    CompleteOrUntouched texts before after' place := by
  cases h with
  | untouched hheld => exact .untouched ((held_congr hsame).trans hheld)
  | complete htext hpath hafter => exact .complete htext hpath (hsame.trans hafter)
  | device htext hpath hstaging hbefore hafter =>
    exact .device htext hpath hstaging hbefore (hsame.trans hafter)

/-- Generated files are complete or untouched, no device has come under a staging name, and no link
and no further name of a file anywhere. -/
structure Intact (texts : String → String → Prop) (before after : FileTree) : Prop
    extends Settled before after where
  places : ∀ place, EndsIn place ".rs" → CompleteOrUntouched texts before after place
  devices : ∀ place device, EndsIn place ".rs.tmp" →
    after.node? place = some (.device device) → before.node? place = some (.device device)

namespace Intact

variable {texts : String → String → Prop} {before after after' : FileTree} {path text : String}

theorem refl (texts : String → String → Prop) (tree : FileTree) : Intact texts tree tree :=
  ⟨.refl tree, fun _ _ => .untouched rfl, fun _ _ _ h => h⟩

/-- Making directories leaves everything intact. -/
theorem of_makeDirectoriesAlong (texts : String → String → Prop) (tree : FileTree)
    (paths : List String) : Intact texts tree (tree.makeDirectoriesAlong paths).2 := by
  have hkept : Kept tree (tree.makeDirectoriesAlong paths).2 :=
    makeDirectoriesAlong_keeps Kept.refl (fun _ _ _ => Kept.trans) tree
      fun _ _ _ _ => makeDirectory_kept
  exact ⟨hkept.toSettled, fun place _ => .untouched (held_makeDirectoriesAlong tree paths place),
    fun place device _ hdevice => hkept.devices place device hdevice⟩

/-- Writing a staging file, in part or as a whole, leaves everything intact. The file is there then,
unless it is a device. -/
theorem write_staging (h : Intact texts before after) (hclear : before.Clear path)
    {content : ByteArray} (hwrite : after.write (FileOp.stagingPath path) content = .ok after') :
    Intact texts before after' ∧
      EndsIn (landing after'.cwd (FileOp.stagingPath path)) ".rs.tmp" ∧
      (after'.node? (landing after'.cwd (FileOp.stagingPath path)) = some (.file content) ∨
        ∃ device, after'.node? (landing after'.cwd (FileOp.stagingPath path)) =
          some (.device device)) := by
  have hclear := hclear.settled h.toSettled
  obtain ⟨-, hname, hdirectory⟩ := write_located hclear.staging hclear.link hwrite
  have hends := endsIn_stagingPath after.cwd hname
  rcases write_cases hclear.staging hclear.link hclear.alone hwrite with rfl | ⟨rfl, hdevice⟩
  · have hput : Kept after (after.put (landing after.cwd (FileOp.stagingPath path))
        (.file content)) := kept_put hdirectory trivial
    refine ⟨⟨h.toSettled.trans hput.toSettled, fun place hrs => ?_,
      fun place device htmp hnode => ?_⟩, hends, .inl (node?_put_self after hends.ne_nil _)⟩
    · have hne : place ≠ landing after.cwd (FileOp.stagingPath path) := by
        rintro rfl
        exact hrs.not_staging hends
      exact (h.places place hrs).congr (node?_put_of_ne after hne _)
    · exact h.devices place device htmp (hput.devices place device hnode)
  · exact ⟨h, hends, .inr hdevice⟩

/-- Moving a complete staging file to its place leaves everything intact. -/
theorem rename_staging (h : Intact texts before after) (hclear : before.Clear path)
    (htext : texts path text) (hpath : IsGenerated path)
    (hends : EndsIn (landing after.cwd (FileOp.stagingPath path)) ".rs.tmp")
    (hstaged : after.node? (landing after.cwd (FileOp.stagingPath path)) =
        some (.file text.toUTF8) ∨
      ∃ device, after.node? (landing after.cwd (FileOp.stagingPath path)) = some (.device device))
    (hrename : after.rename (FileOp.stagingPath path) path = .ok after') :
    Intact texts before after' := by
  have hclear := hclear.settled h.toSettled
  have hgoal := hpath.endsIn after.cwd
  have hne : landing after.cwd (FileOp.stagingPath path) ≠ landing after.cwd path := by
    intro heq
    exact hgoal.not_staging (heq ▸ hends)
  obtain ⟨node, hnode, hfile, hlink⟩ : ∃ node,
      after.node? (landing after.cwd (FileOp.stagingPath path)) = some node ∧
        node ≠ .directory ∧ ∀ target, node ≠ .link target := by
    rcases hstaged with hnode | ⟨device, hnode⟩
    · exact ⟨_, hnode, by simp, by simp⟩
    · exact ⟨_, hnode, by simp, by simp⟩
  obtain ⟨-, -, rfl⟩ := rename_eq_moveFile hclear.staging hclear.file hpath.not_endsInSlash hrename
    hclear.alone hnode hfile hlink hne
  have hmoved := settled_moveFile hends.ne_nil hgoal.ne_nil hclear.alone hlink
  refine ⟨h.toSettled.trans hmoved, fun place hrs => ?_, fun place device htmp hdevice => ?_⟩
  · by_cases hplace : place = landing after.cwd path
    · subst hplace
      have hplaced := node?_moveFile_goal after (landing after.cwd (FileOp.stagingPath path))
        hgoal.ne_nil node
      have hcwd := h.cwd
      rw [hcwd] at hends hnode hstaged hplaced ⊢
      rcases hstaged with hstaged | ⟨device, hstaged⟩
      · obtain rfl := Option.some.inj (hnode.symm.trans hstaged)
        exact .complete htext rfl hplaced
      · obtain rfl := Option.some.inj (hnode.symm.trans hstaged)
        exact .device htext rfl hends (h.devices _ device hends hstaged) hplaced
    · have hother : place ≠ landing after.cwd (FileOp.stagingPath path) := by
        rintro rfl
        exact hrs.not_staging hends
      exact (h.places place hrs).congr (node?_moveFile_of_ne after hother hplace node)
  · -- what has been moved stands under no staging name now
    rcases found_of_moveFile hends.ne_nil hgoal.ne_nil hdevice with ⟨rfl, -⟩ | hbefore
    · exact absurd htmp hgoal.not_staging
    · exact h.devices place device htmp hbefore

/-- **Putting a file in place leaves everything intact wherever it is cut.** -/
theorem cut_place (h : Intact texts before after) (hclear : before.Clear path)
    (htext : texts path text) (hpath : IsGenerated path)
    (hcut : FileOp.Cut none after (FileOp.place path text) after') :
    Intact texts before after' := by
  -- cut in or before the writing, before the moving, or behind it
  cases hcut with
  | short hshort _ =>
    cases hshort with
    | unbegun => exact h
    | written bytes hwrite => exact (h.write_staging hclear hwrite).1
  | next hrun hcut =>
    obtain ⟨hstaged, hends, hnode⟩ := h.write_staging hclear (FileOp.run_write_eq_ok hrun)
    cases hcut with
    | short hshort _ =>
      cases hshort with
      | unbegun => exact hstaged
    | next hrun hcut =>
      have hmoved := hstaged.rename_staging hclear htext hpath hends hnode
        (FileOp.run_rename_eq_ok hrun)
      cases hcut with
      | short hshort _ =>
        cases hshort with
        | unbegun => exact hmoved
      | next hrun hcut =>
        obtain rfl := congrArg Prod.snd hrun
        cases hcut
        exact hmoved

/-- So does putting several files in place. -/
theorem cut_files (h : Intact texts before after) {files : List (String × String)}
    (hclear : ∀ f ∈ files, before.Clear f.1) (htexts : ∀ f ∈ files, texts f.1 f.2)
    (hpaths : ∀ f ∈ files, IsGenerated f.1)
    (hcut : FileOp.Cut none after (files.flatMap fun f => FileOp.place f.1 f.2) after') :
    Intact texts before after' := by
  induction files generalizing after with
  | nil =>
    cases hcut
    exact h
  | cons f files ih =>
    have hfirst := hclear f List.mem_cons_self
    have htext := htexts f List.mem_cons_self
    have hpath := hpaths f List.mem_cons_self
    rw [List.flatMap_cons] at hcut
    rcases hcut.append with hcutFirst | ⟨between, hrun, hrest⟩
    · exact h.cut_place hfirst htext hpath hcutFirst
    · have hplaced := h.cut_place hfirst htext hpath (FileOp.cut_of_runAll hrun)
      exact ih hplaced (fun g hg => hclear g (List.mem_cons_of_mem _ hg))
        (fun g hg => htexts g (List.mem_cons_of_mem _ hg))
        (fun g hg => hpaths g (List.mem_cons_of_mem _ hg)) hrest

end Intact

/-! ## Whole runs -/

namespace Compiler

variable {compiler : Compiler} {schema : Schema} {tree : FileTree}

/-- The texts that a run renders: the files of the included domains that are generated, and the
index if all of them are. -/
inductive Renders (compiler : Compiler) (schema : Schema) : (path text : String) → Prop where
  | domain {d : Domain} {unit : DomainUnit} (hd : d ∈ compiler.includedDomains schema)
      (h : d.unit? (NameTable.build schema.domains) compiler.selection = .ok unit) :
      Renders compiler schema ((compiler.outputFor schema).domainPath unit.moduleName)
        (unit.fileText (compiler.outputFor schema).header)
  | index {units : List DomainUnit} (h : compiler.units? schema = .ok units) :
      Renders compiler schema (compiler.outputFor schema).indexPath
        ((compiler.outputFor schema).header.indexText (units.map .ofUnit))

theorem Renders.path_mem {path text : String} (h : compiler.Renders schema path text) :
    path ∈ compiler.paths schema := by
  cases h with
  | domain hd h =>
    rw [(Domain.unit?_names h).2]
    exact List.mem_map_of_mem (List.mem_append_left _ (List.mem_map_of_mem hd))
  | index h => exact List.mem_map_of_mem (List.mem_append_right _ List.mem_cons_self)

theorem renders_placedFiles :
    ∀ f ∈ compiler.placedFiles schema, compiler.Renders schema f.1 f.2 := by
  intro f hf
  unfold placedFiles at hf
  cases hunits : compiler.units? schema with
  | ok units =>
    rw [hunits] at hf
    rcases List.mem_append.mp hf with hf | hf
    · obtain ⟨unit, hunit, rfl⟩ := List.mem_map.mp hf
      obtain ⟨d, hd, hcode⟩ := Except.mem_of_mem_mapM hunits hunit
      exact .domain hd hcode
    · obtain rfl := List.mem_singleton.mp hf
      exact .index hunits
  | error e =>
    rw [hunits] at hf
    obtain ⟨unit, hunit, rfl⟩ := List.mem_map.mp hf
    obtain ⟨d, hd, hcode⟩ := exists_of_mem_unitsBefore hunit
    exact .domain hd hcode

/-- The end of a run, however it comes, is one of the points where it may be cut. -/
theorem cut_compile (hformatter : compiler.formatter = none) (schema : Schema) (tree : FileTree) :
    FileOp.Cut none tree (compiler.plan schema).ops (compiler.compile tree schema).2 := by
  have hcut := FileOp.cut_runAll tree (compiler.plan schema).ops
  unfold compile
  simp only [hformatter]
  cases hrun : FileOp.runAll none tree (compiler.plan schema).ops with
  | mk result tree' =>
    rw [hrun] at hcut
    cases result <;> exact hcut

theorem intact_of_cut {tree' : FileTree} (hlinks : compiler.LinksApart schema tree)
    (hcut : FileOp.Cut none tree (compiler.plan schema).ops tree') :
    Intact (compiler.Renders schema) tree tree' := by
  rw [plan_eq] at hcut
  cases hcut with
  | short hshort _ =>
    cases hshort with
    | unbegun => exact .refl _ tree
    | directories => exact .of_makeDirectoriesAlong _ tree _
  | next hrun hcut =>
    obtain rfl := congrArg Prod.snd hrun
    have hmade : Intact (compiler.Renders schema) tree
        (tree.makeDirectories (compiler.outputFor schema).dir).2 :=
      .of_makeDirectoriesAlong _ tree _
    exact hmade.cut_files hlinks.placed renders_placedFiles isGenerated_placedFiles hcut

/-- **Files are complete or untouched.** Let a run without a formatter be cut anywhere, also where
it ends by itself. If links and files with several names have nothing to do with it, each place with
the name of a generated file holds what it held before, or the complete text that the run renders
for a path which leads there. Only where a device stood under the staging name of a file has the
device been moved instead. -/
theorem complete_or_untouched (hformatter : compiler.formatter = none) (schema : Schema)
    (tree : FileTree) :
    FileOp.Cut compiler.formatter tree (compiler.plan schema).ops
        (compiler.compile tree schema).2 ∧
      (compiler.LinksApart schema tree →
        ∀ tree', FileOp.Cut compiler.formatter tree (compiler.plan schema).ops tree' →
          ∀ place, EndsIn place ".rs" →
            CompleteOrUntouched (compiler.Renders schema) tree tree' place ∧
            (tree.DevicesApart → tree'.held place = tree.held place ∨
              ∃ path text, compiler.Renders schema path text ∧ landing tree.cwd path = place ∧
                tree'.node? place = some (.file text.toUTF8))) := by
  rw [hformatter]
  refine ⟨cut_compile hformatter schema tree, fun hlinks tree' hcut place hends => ?_⟩
  have hplace := (intact_of_cut hlinks hcut).places place hends
  refine ⟨hplace, fun hdevices => ?_⟩
  cases hplace with
  | untouched h => exact .inl h
  | complete htext hpath hafter => exact .inr ⟨_, _, htext, hpath, hafter⟩
  | device _ _ hstaging hbefore _ => exact absurd hstaging (hdevices _ _ hbefore)

/-- A schema with one domain. -/
def pageSchema : Schema := schemaOfNames ["Page"]

/-- A file system in which the file of the domain is an old one. -/
def oldPageTree : FileTree :=
  (emptyTree.makeDirectories "bindings/v1_3").2.put ["bindings", "v1_3", "page.rs"]
    (.file "old".toUTF8)

theorem oldPageTree_kept : FileTree.Kept emptyTree oldPageTree := by
  have hnew : (emptyTree.makeDirectories "bindings/v1_3").2.node? ["bindings", "v1_3", "page.rs"] =
      none :=
    Option.isNone_iff_eq_none.mp (by decide +kernel)
  have hput : FileTree.Kept (emptyTree.makeDirectories "bindings/v1_3").2 oldPageTree :=
    FileTree.kept_put (by simp [hnew]) trivial
  exact (FileTree.makeDirectories_kept emptyTree "bindings/v1_3").trans hput

/-- The file that a run on the schema puts in place first. -/
def pageFile : String × String := (plain.placedFiles pageSchema).headI

/-- What a run on the schema leaves behind that stops after five bytes. -/
def cutTree : FileTree :=
  let made := (oldPageTree.makeDirectories "bindings/v1_3").2
  ((made.write (FileOp.stagingPath pageFile.1) (pageFile.2.toUTF8.extract 0 5)).toOption).getD made

theorem complete_or_untouched_of_cutTree :
    plain.formatter = none ∧ plain.LinksApart pageSchema oldPageTree ∧ oldPageTree.DevicesApart ∧
      FileOp.Cut plain.formatter oldPageTree (plain.plan pageSchema).ops cutTree ∧
      (cutTree.read "bindings/v1_3/page.rs.tmp").toOption.map (·.size) = some 5 ∧
      (cutTree.held ["bindings", "v1_3", "page.rs"] = some (.file "old".toUTF8) ∨
        ∃ path text, plain.Renders pageSchema path text ∧
          landing oldPageTree.cwd path = ["bindings", "v1_3", "page.rs"] ∧
          cutTree.node? ["bindings", "v1_3", "page.rs"] = some (.file text.toUTF8)) := by
  have hlinks := (emptyTree_linkFree.settled oldPageTree_kept.toSettled).linksApart plain pageSchema
  have hdevices := emptyTree_devicesApart.kept oldPageTree_kept
  have hmade : ((FileOp.makeDirectories "bindings/v1_3").run none oldPageTree).1.isOk = true := by
    decide +kernel
  have hwritten : ((oldPageTree.makeDirectories "bindings/v1_3").2.write
      (FileOp.stagingPath pageFile.1) (pageFile.2.toUTF8.extract 0 5)).isOk = true := by
    decide +kernel
  have hpart : (cutTree.read "bindings/v1_3/page.rs.tmp").toOption.map (·.size) = some 5 := by
    decide +kernel
  -- the directory is there already, and the first file is being staged
  have hcut : FileOp.Cut none oldPageTree (plain.plan pageSchema).ops cutTree := by
    have hdir : (plain.outputFor pageSchema).dir = "bindings/v1_3" := by decide
    have hfiles : (plain.placedFiles pageSchema).isEmpty = false := by decide +kernel
    rw [plan_eq, hdir]
    refine .next (Prod.ext (Except.eq_ok_of_isOk hmade ()) rfl) ?_
    cases hplaced : plain.placedFiles pageSchema with
    | nil =>
      rw [hplaced] at hfiles
      cases hfiles
    | cons first rest =>
      have hfirst : pageFile = first := by rw [pageFile, hplaced]; rfl
      have hwrite : (oldPageTree.makeDirectories "bindings/v1_3").2.write
          (FileOp.stagingPath pageFile.1) (pageFile.2.toUTF8.extract 0 5) = .ok cutTree :=
        Except.eq_ok_of_isOk hwritten (oldPageTree.makeDirectories "bindings/v1_3").2
      rw [List.flatMap_cons, ← hfirst]
      exact .short (.written 5 hwrite) _
  have hformatter : plain.formatter = none := rfl
  obtain ⟨-, hcuts⟩ := complete_or_untouched hformatter pageSchema oldPageTree
  obtain ⟨-, hplace⟩ := hcuts hlinks cutTree hcut ["bindings", "v1_3", "page.rs"]
    ⟨["bindings", "v1_3"], "page.rs", rfl, by decide⟩
  have hold : oldPageTree.held ["bindings", "v1_3", "page.rs"] = some (.file "old".toUTF8) := by
    unfold FileTree.held oldPageTree
    rw [FileTree.node?_put_self _ (by simp)]
  rw [hold] at hplace
  exact ⟨rfl, hlinks, hdevices, hcut, hpart, hplace hdevices⟩

/-- A file system in which a link stands under the staging name of the file of the domain, to a file
that has nothing to do with the run. -/
def linkedTree : FileTree :=
  let made := (emptyTree.makeDirectories "bindings/v1_3").2
  (made.put ["bindings", "v1_3", "keep.rs"] (.file "kept".toUTF8)).put
    ["bindings", "v1_3", "page.rs.tmp"] (.link "keep.rs")

theorem linkedTree_devicesApart : linkedTree.DevicesApart := by
  have hnew : (emptyTree.makeDirectories "bindings/v1_3").2.node? ["bindings", "v1_3", "keep.rs"] =
      none :=
    Option.isNone_iff_eq_none.mp (by decide +kernel)
  have hput : FileTree.Kept (emptyTree.makeDirectories "bindings/v1_3").2
      ((emptyTree.makeDirectories "bindings/v1_3").2.put ["bindings", "v1_3", "keep.rs"]
        (.file "kept".toUTF8)) :=
    FileTree.kept_put (by simp [hnew]) trivial
  have hkept := (FileTree.makeDirectories_kept emptyTree "bindings/v1_3").trans hput
  intro place device hdevice
  by_cases hplace : place = ["bindings", "v1_3", "page.rs.tmp"]
  · rw [hplace, linkedTree, FileTree.node?_put_self _ (by simp)] at hdevice
    cases hdevice
  · rw [linkedTree, FileTree.node?_put_of_ne _ hplace] at hdevice
    exact emptyTree_devicesApart place device (hkept.devices place device hdevice)

/-- With a link under a staging name a file can be lost: what is written to the staging name goes to
the file to which the link leads. -/
theorem not_forall_complete_or_untouched :
    ¬ ∀ (compiler : Compiler) (schema : Schema) (tree tree' : FileTree) (place : Location),
      compiler.formatter = none → tree.DevicesApart →
        FileOp.Cut compiler.formatter tree (compiler.plan schema).ops tree' → EndsIn place ".rs" →
          tree'.held place = tree.held place ∨
            ∃ path text, compiler.Renders schema path text ∧ landing tree.cwd path = place ∧
              tree'.node? place = some (.file text.toUTF8) := by
  intro h
  have hformatter : plain.formatter = none := rfl
  have hcut := cut_compile hformatter pageSchema linkedTree
  have hsize : ((plain.compile linkedTree pageSchema).2.held ["bindings", "v1_3", "keep.rs"]).map
      (·.read.toOption.map (·.size)) ≠ some (some 4) := by
    decide +kernel
  have hlandings : ∀ path ∈ plain.paths pageSchema,
      landing linkedTree.cwd path ≠ ["bindings", "v1_3", "keep.rs"] := by
    decide +kernel
  rcases h plain pageSchema linkedTree _ ["bindings", "v1_3", "keep.rs"] rfl
    linkedTree_devicesApart hcut ⟨["bindings", "v1_3"], "keep.rs", rfl, by decide⟩ with
    huntouched | ⟨path, text, hrenders, hplace, -⟩
  · have hheld : linkedTree.held ["bindings", "v1_3", "keep.rs"] = some (.file "kept".toUTF8) := by
      unfold FileTree.held linkedTree
      rw [FileTree.node?_put_of_ne _ (by decide), FileTree.node?_put_self _ (by simp)]
    rw [huntouched, hheld] at hsize
    exact hsize rfl
  · exact hlandings path hrenders.path_mem hplace

end Compiler

end Bindery
