import Bindery.Proofs.SeveralVersions

/-!
# Where a run stops

A run on schema files reads all of them before it touches anything, and then goes from version to
version, and in a version from domain to domain, up to the first that fails
(`Compiler.stops_at_first_failure`). What has come into being then is of the versions up to the one
that failed. The versions before it keep their files unless it shares a directory with one of them
and has put a file with the same stem there: after version `1` / `2_3`, version `1_2` / `3` replaces
the file of a domain `Page` even if it fails later on.
-/

namespace Bindery

namespace Compiler

variable {compiler : Compiler} {tree tree' between : FileTree} {earlier later : List Schema}
  {s t : Schema} {e : Error}

/-- What is left of a run when some versions are complete and the next one fails. -/
structure StoppedAt (compiler : Compiler) (tree : FileTree) (earlier : List Schema)
    (between : FileTree) (s : Schema) (tree' : FileTree) : Prop where
  /-- What has come into being is of these versions, but for a staging file that could not be moved.
  -/
  new : FileTree.NewOnlyAt (fun place =>
    (∃ t ∈ earlier ++ [s], compiler.Reaches t tree.cwd place) ∨
      ¬ compiler.Writes s between ∧ ∃ f ∈ compiler.placedFiles s,
        place = landing tree.cwd (FileOp.stagingPath f.1)) tree tree'
  /-- The complete versions keep their files if no file of a later version leads to the same place.
  -/
  kept : ((earlier ++ [s]).Pairwise fun t u => ∀ f ∈ compiler.placedFiles t,
      ∀ g ∈ compiler.placedFiles u, landing tree.cwd f.1 ≠ landing tree.cwd g.1) →
    compiler.VersionsKept tree earlier tree'
  /-- Where no name goes through a directory, this is exactly if versions that share a directory
  have no stem in common. -/
  kept_iff : compiler.Writes s between → (∀ t ∈ earlier ++ [s], compiler.PlainNames t) →
    (compiler.VersionsKept tree earlier tree' ↔
      (earlier ++ [s]).Pairwise fun t u => t.version.dirName = u.version.dirName →
        ∀ stem ∈ compiler.placedStems t, stem ∉ compiler.placedStems u)

/-- How a run on readable schema files goes. -/
inductive FilesCourse (compiler : Compiler) (tree : FileTree) (paths : List String) :
    Except Error CompileReport → FileTree → List Warning → Prop where
  /-- A file, the first such, holds no schema: nothing is touched. -/
  | refused {before after : List String} {path text : String} {files : List Schema} {e : Error}
      (hsplit : paths = before ++ path :: after)
      (hbefore : before.mapM tree.readSchema = .ok files)
      (htext : tree.readText path = .ok text)
      (hparse : Schema.parseFile path text = .error e) :
      FilesCourse compiler tree paths (.error e) tree []
  /-- All versions are compiled, in increasing order. -/
  | completed {files : List Schema} {reports : List VersionReport} {tree' : FileTree}
      (hfiles : paths.mapM tree.readSchema = .ok files)
      (hsorted : Schema.Increasing (Schema.merge files).1)
      (hversions : compiler.compileAll tree (Schema.merge files).1 = (.ok reports, tree')) :
      FilesCourse compiler tree paths (.ok ⟨reports⟩) tree' (Schema.merge files).2
  /-- A version, the first such, fails: what comes out is what it leaves behind. -/
  | stopped {files earlier later : List Schema} {s : Schema} {reports : List VersionReport}
      {between tree' : FileTree} {e : Error}
      (hfiles : paths.mapM tree.readSchema = .ok files)
      (hsorted : Schema.Increasing (Schema.merge files).1)
      (hsplit : (Schema.merge files).1 = earlier ++ s :: later)
      (hearlier : compiler.compileAll tree earlier = (.ok reports, between))
      (hfails : compiler.compile between s = (.error e, tree'))
      (hleft : compiler.formatter = none → tree.DevicesApart →
        (∀ t ∈ earlier ++ [s], compiler.LinksApart t tree) →
        compiler.StoppedAt tree earlier between s tree') :
      FilesCourse compiler tree paths (.error e) tree' (Schema.merge files).2

/-! ## What a version that fails leaves behind -/

/-- Versions that are compiled bring their directories and files into being. -/
theorem newOnlyAt_of_compileAll {schemas : List Schema} {reports : List VersionReport}
    (hformatter : compiler.formatter = none) (hdevices : tree.DevicesApart)
    (hlinks : ∀ s ∈ schemas, compiler.LinksApart s tree)
    (h : compiler.compileAll tree schemas = (.ok reports, tree')) :
    FileTree.NewOnlyAt (fun place => ∃ s ∈ schemas, compiler.Reaches s tree.cwd place) tree
      tree' := by
  induction schemas generalizing tree reports with
  | nil =>
    obtain ⟨-, rfl⟩ := Prod.mk.inj h
    exact .refl tree
  | cons s schemas ih =>
    obtain ⟨report, middle, later, hcompile, hlater, -⟩ := compileAll_cons_eq_ok.mp h
    have hfirst := hlinks s List.mem_cons_self
    have hnew := newOnlyAt_of_compile s hformatter hdevices hfirst
    have hkept := (spares_of_compile s hformatter hdevices hfirst).kept
    have hwrites : compiler.Writes s tree := writes_of_compile hcompile
    rw [hcompile] at hnew hkept
    have hlinks' : ∀ t ∈ schemas, compiler.LinksApart t middle := fun t ht =>
      (hlinks t (List.mem_cons_of_mem s ht)).settled hkept.toSettled
    have hrest := ih (hdevices.kept hkept) hlinks' hlater
    rw [hkept.cwd] at hrest
    refine (hnew.mono fun place hplace => ?_).trans (hrest.mono fun place hplace => ?_)
    · exact ⟨s, List.mem_cons_self, hplace.resolve_right fun hno => hno.1 hwrites⟩
    · obtain ⟨t, ht, hplace⟩ := hplace
      exact ⟨t, List.mem_cons_of_mem _ ht, hplace⟩

/-- Every two members of a list and one more, as they come one behind the other. -/
theorem pairwise_concat_iff {α : Type} {R : α → α → Prop} {l : List α} {last : α} :
    (l ++ [last]).Pairwise R ↔
      ∀ before x after, l = before ++ x :: after → ∀ y ∈ after ++ [last], R x y := by
  rw [List.pairwise_append, pairwise_iff_split]
  constructor
  · rintro ⟨hinside, -, hlast⟩ before x after rfl y hy
    rcases List.mem_append.mp hy with hy | hy
    · exact hinside before x after rfl y hy
    · exact hlast x (by simp) y hy
  · intro h
    refine ⟨fun before x after hsplit y hy => ?_, List.pairwise_singleton _ _, fun x hx y hy => ?_⟩
    · exact h before x after hsplit y (List.mem_append_left _ hy)
    · obtain ⟨before, after, hsplit⟩ := List.append_of_mem hx
      exact h before x after hsplit y (List.mem_append_right _ hy)

/-- **What a version that fails leaves behind.** -/
theorem stoppedAt_of_compile {reports : List VersionReport} (hformatter : compiler.formatter = none)
    (hdevices : tree.DevicesApart) (hlinks : ∀ t ∈ earlier ++ [s], compiler.LinksApart t tree)
    (hsorted : Schema.Increasing (earlier ++ [s]))
    (hearlier : compiler.compileAll tree earlier = (.ok reports, between))
    (hfails : compiler.compile between s = (.error e, tree')) :
    compiler.StoppedAt tree earlier between s tree' := by
  have hbefore : ∀ t ∈ earlier, compiler.LinksApart t tree := fun t ht =>
    hlinks t (List.mem_append_left [s] ht)
  have hplaced := placed_of_compileAll hformatter hdevices hbefore hearlier
  have hdevices' := hdevices.kept hplaced.kept
  have hlinks' : compiler.LinksApart s between :=
    (hlinks s (List.mem_append_right _ List.mem_cons_self)).settled hplaced.kept.toSettled
  have hspares : Spares between (compiler.placedFiles s) tree' := by
    have h := spares_of_compile s hformatter hdevices' hlinks'
    rwa [hfails] at h
  refine ⟨?_, fun hapart => ?_, fun hwrites hplain => ?_⟩
  · have hnew := newOnlyAt_of_compileAll hformatter hdevices hbefore hearlier
    have hlast := newOnlyAt_of_compile s hformatter hdevices' hlinks'
    rw [hfails, hplaced.kept.cwd] at hlast
    refine (hnew.mono fun place hplace => ?_).trans (hlast.mono fun place hplace => ?_)
    · obtain ⟨t, ht, hplace⟩ := hplace
      exact .inl ⟨t, List.mem_append_left _ ht, hplace⟩
    · exact hplace.imp_left fun hplace => ⟨s, List.mem_append_right _ List.mem_cons_self, hplace⟩
  · rw [pairwise_concat_iff] at hapart
    have htail : Spares between ([s].flatMap compiler.placedFiles) tree' := by
      rwa [List.flatMap_singleton]
    intro before t after reports' complete hsplit hcomplete f hf
    exact read_of_apart hformatter hdevices hbefore hearlier htail hsplit hcomplete hf
      fun u hu g hg => hapart before t after hsplit u hu f hf g hg
  · rw [pairwise_concat_iff]
    have hfiles := (compile_of_writes hformatter hwrites).2
    rw [hfails] at hfiles
    refine versionsKept_iff hformatter hdevices hbefore hsorted hplain hearlier ?_
    rw [List.flatMap_singleton]
    exact hfiles.placed isGenerated_placedFiles hdevices' hlinks'.placed

/-- How a run on readable schema files goes. -/
theorem filesCourse_of_compileFiles (compiler : Compiler) {paths : List String}
    (hpaths : paths ≠ []) (hreadable : ∀ path ∈ paths, ∃ text, tree.readText path = .ok text) :
    compiler.FilesCourse tree paths (compiler.compileFiles tree paths).1
      (compiler.compileFiles tree paths).2.1 (compiler.compileFiles tree paths).2.2 := by
  rw [compileFiles_eq hpaths]
  cases hfiles : paths.mapM tree.readSchema with
  | error e =>
    obtain ⟨before, path, after, files, hsplit, hbefore, hfails⟩ :=
      Except.mapM_eq_error_iff.mp hfiles
    obtain ⟨text, htext⟩ := hreadable path (by simp [hsplit])
    refine .refused hsplit hbefore htext ?_
    rw [FileTree.readSchema, htext] at hfails
    exact hfails
  | ok files =>
    have hsorted := (Schema.merge_versions files).1
    simp only
    cases hall : compiler.compileAll tree (Schema.merge files).1 with
    | mk result tree' =>
      cases result with
      | ok reports => exact .completed hfiles hsorted hall
      | error e =>
        obtain ⟨earlier, s, later, reports, between, hsplit, hearlier, hfails⟩ :=
          exists_of_compileAll_error hall
        refine .stopped hfiles hsorted hsplit hearlier hfails fun hformatter hdevices hlinks => ?_
        refine stoppedAt_of_compile hformatter hdevices hlinks ?_ hearlier hfails
        rw [hsplit, List.append_cons] at hsorted
        exact (List.pairwise_append.mp hsorted).1

/-! ## Two versions, the second of which fails -/

/-- The reference on which a run has failed. -/
def danglingIn : Except Error CompileReport → Option String
  | .error (.unresolvedReference _ _ reference) => some reference
  | _ => none

/-- Files that have been read as schemas are readable. -/
theorem readable_of_mapM {paths : List String} {files : List Schema}
    (h : paths.mapM tree.readSchema = .ok files) :
    ∀ path ∈ paths, ∃ text, tree.readText path = .ok text := by
  intro path hpath
  obtain ⟨file, -, hfile⟩ := Except.mem_of_mapM_eq_ok h hpath
  rw [FileTree.readSchema] at hfile
  cases hread : tree.readText path with
  | ok text => exact ⟨text, rfl⟩
  | error cause =>
    rw [hread] at hfile
    cases hfile

/-- Files that hold two versions. -/
theorem exists_two_versions {α : Type} {f : Schema → α} {a b : α} {paths : List String}
    (h : (paths.mapM tree.readSchema).toOption.map (fun files => (Schema.merge files).1.map f) =
      some [a, b]) :
    ∃ files s t, paths.mapM tree.readSchema = .ok files ∧ (Schema.merge files).1 = [s, t] ∧
      f s = a ∧ f t = b := by
  cases hfiles : paths.mapM tree.readSchema with
  | error e =>
    rw [hfiles] at h
    cases h
  | ok files =>
    rw [hfiles] at h
    have hmap : (Schema.merge files).1.map f = [a, b] := Option.some.inj h
    obtain ⟨s, rest, hmerge, hs, hrest⟩ := List.map_eq_cons_iff.mp hmap
    obtain ⟨t, none, rfl, ht, hnone⟩ := List.map_eq_cons_iff.mp hrest
    obtain rfl := List.map_eq_nil_iff.mp hnone
    exact ⟨files, s, t, rfl, hmerge, hs, ht⟩

/-- A run that fails on a reference, but not in the first of its two versions, fails in the
second. -/
theorem stops_at_second {paths : List String} {files : List Schema}
    {result : Except Error CompileReport} {warnings : List Warning} {reference : String}
    (hformatter : compiler.formatter = none)
    (hcourse : compiler.FilesCourse tree paths result tree' warnings)
    (hfiles : paths.mapM tree.readSchema = .ok files) (hmerge : (Schema.merge files).1 = [s, t])
    (hunits : (compiler.units? s).isOk = true) (hdangling : danglingIn result = some reference)
    (hdevices : tree.DevicesApart) (hlinks : ∀ v ∈ [s, t], compiler.LinksApart v tree)
    (hs : compiler.PlainNames s) (ht : compiler.PlainNames t) :
    ∃ reports between e, compiler.compileAll tree [s] = (.ok reports, between) ∧
      compiler.compile between t = (.error e, tree') ∧ compiler.Writes t between ∧
      (compiler.VersionsKept tree [s] tree' ↔ (s.version.dirName = t.version.dirName →
        ∀ stem ∈ compiler.placedStems s, stem ∉ compiler.placedStems t)) := by
  cases hcourse with
  | refused hsplit hbefore htext hparse =>
    rename_i before after path text files' e
    have hread : tree.readSchema path = .error e := by
      rw [FileTree.readSchema, htext]
      exact hparse
    have hfailed : paths.mapM tree.readSchema = .error e :=
      Except.mapM_eq_error_iff.mpr ⟨before, path, after, files', hsplit, hbefore, hread⟩
    rw [hfailed] at hfiles
    cases hfiles
  | completed hfiles' hsorted hversions => cases hdangling
  | stopped hfiles' hsorted hsplit hearlier hfails hleft =>
    rename_i files' earlier later u reports between e
    obtain rfl := Except.ok.inj (hfiles.symm.trans hfiles')
    rw [hmerge] at hsplit
    have hwrites : compiler.Writes u between := by
      intro path cause hwrite
      rw [hfails] at hwrite
      obtain rfl := Except.error.inj hwrite
      cases hdangling
    cases earlier with
    | nil =>
      obtain ⟨rfl, -⟩ := List.cons.inj hsplit
      have hresult := (compile_of_writes hformatter hwrites).1
      rw [hfails] at hresult
      cases hcode : compiler.units? s with
      | error e' =>
        rw [hcode] at hunits
        cases hunits
      | ok units =>
        rw [hcode] at hresult
        cases hresult
    | cons first earlier =>
      obtain ⟨rfl, hrest⟩ := List.cons.inj hsplit
      obtain ⟨rfl, heq⟩ | ⟨rest, rfl, heq⟩ := List.cons_eq_append_iff.mp hrest
      · obtain ⟨rfl, -⟩ := List.cons.inj heq
        refine ⟨reports, between, e, hearlier, hfails, hwrites, ?_⟩
        have hkept := (hleft hformatter hdevices hlinks).kept_iff hwrites
        refine (hkept fun v hv => ?_).trans List.pairwise_pair
        rcases List.mem_cons.mp hv with rfl | hv
        · exact hs
        · exact List.mem_singleton.mp hv ▸ ht
      · cases rest <;> cases heq

/-! ## The first failure -/

/-- **A run stops at the first failure.** On a schema, a run without a formatter that can write has
put in place the files of the included domains in front of the first that is not generated, in
schema order, and the index behind them if there is no such domain, and nothing else. On readable
schema files, a run touches nothing if one of them holds no schema; otherwise it compiles the
versions in increasing order up to the first that fails. -/
theorem stops_at_first_failure (compiler : Compiler) :
    (compiler.formatter = none → ∀ tree schema, compiler.Writes schema tree →
      compiler.Course schema tree (compiler.compile tree schema).1
          (compiler.compile tree schema).2 ∧
        (tree.DevicesApart → compiler.LinksApart schema tree →
          FileTree.NewOnlyAt (compiler.Reaches schema tree.cwd) tree
            (compiler.compile tree schema).2)) ∧
    ∀ tree paths, paths ≠ [] → (∀ path ∈ paths, ∃ text, tree.readText path = .ok text) →
      compiler.FilesCourse tree paths (compiler.compileFiles tree paths).1
        (compiler.compileFiles tree paths).2.1 (compiler.compileFiles tree paths).2.2 := by
  refine ⟨fun hformatter tree schema hwrites => ⟨course_of_compile hformatter hwrites, ?_⟩,
    fun tree paths hpaths hreadable => filesCourse_of_compileFiles compiler hpaths hreadable⟩
  intro hdevices hlinks
  refine (newOnlyAt_of_compile schema hformatter hdevices hlinks).mono fun place hplace => ?_
  exact hplace.resolve_right fun hno => hno.1 hwrites

/-- A domain with a type that refers to a type which nothing declares. -/
def danglingText : String :=
  "\x7b\"domain\":\"DOM\",\"types\":[\x7b\"id\":\"Nodes\",\"type\":\"array\",\"items\":" ++
    "\x7b\"$ref\":\"Node\"\x7d\x7d]\x7d"

/-- Two versions with directories of their own, the second of which fails. -/
def failingFiles : FileTree :=
  twoFiles (schemaText "1" "3" [domainText "Page", danglingText])
    (schemaText "1" "2" [domainText "Page"])

theorem stops_at_first_failure_of_failingFiles :
    plain.formatter = none ∧ failingFiles.DevicesApart ∧
      (∀ schema, plain.LinksApart schema failingFiles) ∧
      ∃ files s t reports between e tree',
        ["first.json", "second.json"].mapM failingFiles.readSchema = .ok files ∧
        (Schema.merge files).1 = [s, t] ∧
        plain.compileAll failingFiles [s] = (.ok reports, between) ∧
        plain.compile between t = (.error e, tree') ∧ plain.Writes t between ∧
        plain.VersionsKept failingFiles [s] tree' ∧
        plain.Course t between (plain.compile between t).1 (plain.compile between t).2 ∧
        FileTree.NewOnlyAt (plain.Reaches t between.cwd) between
          (plain.compile between t).2 := by
  have hschemas : (["first.json", "second.json"].mapM failingFiles.readSchema).toOption.map
      (fun files => (Schema.merge files).1.map fun s =>
        (s.version.dirName, (plain.units? s).isOk, decide (plain.PlainNames s))) =
      some [("v1_2", true, true), ("v1_3", false, true)] := by
    decide +kernel
  have hdangling : danglingIn
      (plain.compileFiles failingFiles ["first.json", "second.json"]).1 = some "Node" := by
    decide +kernel
  have hdevices : failingFiles.DevicesApart := twoFiles_devicesApart _ _
  have hlinks (schema : Schema) : plain.LinksApart schema failingFiles :=
    twoFiles_linksApart _ _ plain schema
  obtain ⟨files, s, t, hfiles, hmerge, hs, ht⟩ := exists_two_versions hschemas
  obtain ⟨hsdir, hsunits, hsplain⟩ : s.version.dirName = "v1_2" ∧ (plain.units? s).isOk = true ∧
      plain.PlainNames s := by simpa using hs
  obtain ⟨htdir, -, htplain⟩ : t.version.dirName = "v1_3" ∧ (plain.units? t).isOk = false ∧
      plain.PlainNames t := by simpa using ht
  obtain ⟨hschema, hpaths⟩ := stops_at_first_failure plain
  have hcourse := hpaths failingFiles _ (by simp) (readable_of_mapM hfiles)
  obtain ⟨reports, between, e, hcompiled, hfails, hwrites, hkept⟩ :=
    stops_at_second rfl hcourse hfiles hmerge hsunits hdangling hdevices (fun v _ => hlinks v)
      hsplain htplain
  obtain ⟨hstop, hnew⟩ := hschema rfl between t hwrites
  have hplaced := placed_of_compileAll rfl hdevices (fun v _ => hlinks v) hcompiled
  have hdevices' := hdevices.kept hplaced.kept
  refine ⟨rfl, hdevices, hlinks, files, s, t, reports, between, e, _, hfiles, hmerge, hcompiled,
    hfails, hwrites, hkept.mpr fun hdir => ?_, hstop,
    hnew hdevices' ((hlinks t).settled hplaced.kept.toSettled)⟩
  rw [hsdir, htdir] at hdir
  exact absurd hdir (by decide)

/-- Two versions that share a directory, the second of which fails. -/
def clashingFiles : FileTree :=
  twoFiles (schemaText "1" "2_3" [domainText "Page"])
    (schemaText "1_2" "3" [domainText "Page", danglingText])

/-- A version that fails does not always leave the versions before it complete. -/
theorem not_forall_versionsKept :
    ¬ ∀ (compiler : Compiler) (tree tree' between : FileTree) (paths : List String)
        (files earlier later : List Schema) (s : Schema) (reports : List VersionReport) (e : Error),
      compiler.formatter = none → tree.DevicesApart →
        (∀ schema, compiler.LinksApart schema tree) → paths.mapM tree.readSchema = .ok files →
        (Schema.merge files).1 = earlier ++ s :: later →
          compiler.compileAll tree earlier = (.ok reports, between) →
            compiler.compile between s = (.error e, tree') → compiler.Writes s between →
              compiler.VersionsKept tree earlier tree' := by
  intro h
  have hschemas : (["first.json", "second.json"].mapM clashingFiles.readSchema).toOption.map
      (fun files => (Schema.merge files).1.map fun s =>
        (s.version.dirName, (plain.units? s).isOk, plain.placedStems s,
          decide (plain.PlainNames s))) =
      some [("v1_2_3", true, ["page", "mod"], true), ("v1_2_3", false, ["page"], true)] := by
    decide +kernel
  have hdangling : danglingIn
      (plain.compileFiles clashingFiles ["first.json", "second.json"]).1 = some "Node" := by
    decide +kernel
  have hdevices : clashingFiles.DevicesApart := twoFiles_devicesApart _ _
  have hlinks (schema : Schema) : plain.LinksApart schema clashingFiles :=
    twoFiles_linksApart _ _ plain schema
  obtain ⟨files, s, t, hfiles, hmerge, hs, ht⟩ := exists_two_versions hschemas
  obtain ⟨hsdir, hsunits, hsstems, hsplain⟩ : s.version.dirName = "v1_2_3" ∧
      (plain.units? s).isOk = true ∧ plain.placedStems s = ["page", "mod"] ∧
        plain.PlainNames s := by simpa using hs
  obtain ⟨htdir, -, htstems, htplain⟩ : t.version.dirName = "v1_2_3" ∧
      (plain.units? t).isOk = false ∧ plain.placedStems t = ["page"] ∧
        plain.PlainNames t := by simpa using ht
  have hcourse := filesCourse_of_compileFiles plain (by simp) (readable_of_mapM hfiles)
  obtain ⟨reports, between, e, hcompiled, hfails, hwrites, hkept⟩ :=
    stops_at_second rfl hcourse hfiles hmerge hsunits hdangling hdevices (fun v _ => hlinks v)
      hsplain htplain
  have hall := h plain _ _ _ _ _ [s] [] t _ _ rfl hdevices hlinks hfiles hmerge hcompiled hfails
    hwrites
  -- both versions have a file of the domain
  refine hkept.mp hall (hsdir.trans htdir.symm) "page" ?_ ?_
  · rw [hsstems]
    exact List.mem_cons_self
  · rw [htstems]
    exact List.mem_cons_self

end Compiler

end Bindery
