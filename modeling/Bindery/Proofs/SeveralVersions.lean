import Bindery.Proofs.Lines
import Bindery.Proofs.Merging
import Bindery.Proofs.Progress

/-!
# Versions side by side

The versions of a run have directories of their own unless one runs into another
(`Compiler.version_dirs_nodup_iff`): the directory of version `1` / `2_3` is that of version
`1_2` / `3`. Where two versions share a directory, a file of the first is replaced by one of the
second as soon as the files have one stem, since the first line of every file names its version
(`Compiler.versionsKept_iff`); each version has an index, so among versions that are all compiled
this always comes about.
-/

namespace Bindery

open Text

/-! ## The first line of a file -/

/-- The line that names the version. -/
def FileHeader.firstLine (header : FileHeader) : String :=
  "// Code generated by devtools-protogen from protocol version " ++
    (header.version ++ ". DO NOT EDIT.")

theorem FileHeader.version_eq_of_firstLine {header header' : FileHeader}
    (h : header.firstLine = header'.firstLine) : header.version = header'.version := by
  unfold firstLine at h
  rwa [String.append_right_inj, String.append_left_inj] at h

theorem FileHeader.length_firstLine {header header' : FileHeader}
    (h : header.version.length = header'.version.length) :
    header.firstLine.toList.length = header'.firstLine.toList.length := by
  unfold firstLine
  simp only [String.length_toList, String.length_append, h]

/-- What begins with the banner has it as its first line. -/
theorem FileHeader.firstLine_prefix (header : FileHeader) (rest : List Layout) :
    header.firstLine.toList <+: (Layout.textAll 0 (header.banner :: rest)).toList := by
  have hlines : Layout.allLinesAt 0 (header.banner :: rest) =
      header.firstLine :: Layout.allLinesAt 0 rest := by
    rw [Layout.allLinesAt, banner, Layout.linesAt_line_zero]
    rfl
  rw [Layout.textAll_eq_joinLines, hlines, toList_joinLines_cons]
  exact List.prefix_append _ _

theorem DomainUnit.firstLine_prefix (header : FileHeader) (u : DomainUnit) :
    header.firstLine.toList <+: (u.fileText header).toList := by
  unfold fileText
  rw [String.toList_append, String.toList_append, List.append_assoc]
  exact (header.firstLine_prefix _).trans (List.prefix_append _ _)

namespace Compiler

variable {compiler : Compiler} {schema s t : Schema} {tree tree' between : FileTree}

theorem firstLine_prefix_of_mem {f : String × String} (hf : f ∈ compiler.placedFiles schema) :
    (compiler.outputFor schema).header.firstLine.toList <+: f.2.toList := by
  have hdomains {units : List DomainUnit}
      (hf : f ∈ (compiler.outputFor schema).domainFiles units) :
      (compiler.outputFor schema).header.firstLine.toList <+: f.2.toList := by
    obtain ⟨u, -, rfl⟩ := List.mem_map.mp hf
    exact u.firstLine_prefix _
  unfold placedFiles at hf
  split at hf
  · rw [OutputDir.files_eq] at hf
    rcases List.mem_append.mp hf with hf | hf
    · exact hdomains hf
    · rw [List.mem_singleton.mp hf]
      exact FileHeader.firstLine_prefix _ _
  · exact hdomains hf

/-- Files of different versions that share a directory have different texts. -/
theorem version_eq_of_text {f g : String × String} (hf : f ∈ compiler.placedFiles s)
    (hg : g ∈ compiler.placedFiles t) (hdir : s.version.dirName = t.version.dirName)
    (htext : f.2 = g.2) : s.version = t.version := by
  have hfirst := firstLine_prefix_of_mem hf
  have hfirst' := firstLine_prefix_of_mem hg
  rw [htext] at hfirst
  -- both first lines begin the same text, and they are equally long
  have hlength : (compiler.outputFor s).header.firstLine.toList.length =
      (compiler.outputFor t).header.firstLine.toList.length :=
    FileHeader.length_firstLine (Version.length_tag_of_dirName hdir)
  have hlines := (List.prefix_of_prefix_length_le hfirst hfirst' hlength.le).eq_of_length hlength
  have htags : s.version.tag = t.version.tag :=
    FileHeader.version_eq_of_firstLine (String.toList_inj.mp hlines)
  exact Version.eq_of_dirName_of_tag hdir htags

/-! ## Where the files of versions lead -/

/-- The directory of the version is one step below the output directory, and so are the files of the
domains below it. -/
structure PlainNames (compiler : Compiler) (schema : Schema) : Prop where
  dir : '/' ∉ schema.version.dirName.toList
  modules : ∀ name ∈ compiler.moduleNames schema, '/' ∉ name.toList

theorem unitsBefore_modules (table : NameTable) (selection : Selection) (domains : List Domain) :
    (unitsBefore table selection domains).map (·.moduleName) <+:
      domains.map fun d => Naming.moduleName d.name := by
  induction domains with
  | nil => exact List.prefix_rfl
  | cons d rest ih =>
    rw [unitsBefore]
    split
    · rename_i unit hunit
      rw [List.map_cons, List.map_cons, (Domain.unit?_names hunit).2]
      exact (List.prefix_cons_inj _).mpr ih
    · exact List.nil_prefix

theorem PlainNames.stems (h : compiler.PlainNames schema) :
    ∀ stem ∈ compiler.placedStems schema, '/' ∉ stem.toList := by
  intro stem hstem
  unfold placedStems at hstem
  split at hstem
  · rename_i units hunits
    rw [← moduleNames_eq hunits] at hstem
    exact slash_not_mem_stem h.modules stem hstem
  · exact h.modules stem ((unitsBefore_modules _ _ _).subset hstem)

/-- Plain stems lead to one place exactly if they are one stem in one directory. -/
theorem landing_eq_iff (hs : '/' ∉ s.version.dirName.toList) (ht : '/' ∉ t.version.dirName.toList)
    {m n : String} (hm : '/' ∉ m.toList) (hn : '/' ∉ n.toList) (cwd : Location) :
    landing cwd ((compiler.outputFor s).domainPath m) =
        landing cwd ((compiler.outputFor t).domainPath n) ↔
      s.version.dirName = t.version.dirName ∧ m = n := by
  have hdir {schema : Schema} (hschema : '/' ∉ schema.version.dirName.toList) :
      landing cwd (compiler.outputFor schema).dir =
        landing cwd compiler.outputDir ++ [schema.version.dirName] :=
    landing_join (c := 'v') cwd compiler.outputDir hschema
      (by rw [Version.dirName_eq, String.toList_append]; exact List.mem_cons_self) (by decide)
  have hfile (schema : Schema) {name : String} (hname : '/' ∉ name.toList) :
      landing cwd ((compiler.outputFor schema).domainPath name) =
        landing cwd (compiler.outputFor schema).dir ++ [name ++ ".rs"] :=
    landing_join (c := 'r') cwd _ (by simpa using hname) (by simp) (by decide)
  rw [hfile s hm, hfile t hn, hdir hs, hdir ht]
  constructor
  · intro h
    obtain ⟨hdirs, hstems⟩ := List.append_inj' h rfl
    refine ⟨List.singleton_inj.mp (List.append_cancel_left hdirs), ?_⟩
    exact (String.append_left_inj ".rs").mp (List.singleton_inj.mp hstems)
  · rintro ⟨hdirs, rfl⟩
    rw [hdirs]

/-- Files that lead to one place have one stem, in a directory that their versions share. -/
theorem landing_eq_of_placed (hs : compiler.PlainNames s) (ht : compiler.PlainNames t)
    {f g : String × String} (hf : f ∈ compiler.placedFiles s) (hg : g ∈ compiler.placedFiles t)
    {cwd : Location} (h : landing cwd f.1 = landing cwd g.1) :
    s.version.dirName = t.version.dirName ∧
      ∃ stem ∈ compiler.placedStems s, stem ∈ compiler.placedStems t := by
  obtain ⟨m, hm, hfm⟩ := exists_stem_of_mem hf
  obtain ⟨n, hn, hgn⟩ := exists_stem_of_mem hg
  rw [← hfm, ← hgn] at h
  obtain ⟨hdir, rfl⟩ := (landing_eq_iff hs.dir ht.dir (hs.stems m hm) (ht.stems n hn) cwd).mp h
  exact ⟨hdir, m, hm, hn⟩

/-! ## One version after the other -/

theorem compileAll_cons_eq_ok {schemas : List Schema} {reports : List VersionReport} :
    compiler.compileAll tree (s :: schemas) = (.ok reports, tree') ↔
      ∃ report middle later, compiler.compile tree s = (.ok report, middle) ∧
        compiler.compileAll middle schemas = (.ok later, tree') ∧ reports = report :: later := by
  rw [compileAll]
  constructor
  · intro h
    split at h
    · cases (Prod.mk.inj h).1
    · rename_i report middle hcompile
      obtain ⟨hreports, htree⟩ := Prod.mk.inj h
      cases hlater : (compiler.compileAll middle schemas).1 with
      | error e =>
        rw [hlater] at hreports
        cases hreports
      | ok later =>
        rw [hlater] at hreports
        refine ⟨report, middle, later, hcompile, ?_, (Except.ok.inj hreports).symm⟩
        rw [← hlater, ← htree]
  · rintro ⟨report, middle, later, hcompile, hlater, rfl⟩
    rw [hcompile]
    simp only [hlater]
    rfl

theorem compileAll_append_eq_ok {xs ys : List Schema} {reports : List VersionReport} :
    compiler.compileAll tree (xs ++ ys) = (.ok reports, tree') ↔
      ∃ first middle later, compiler.compileAll tree xs = (.ok first, middle) ∧
        compiler.compileAll middle ys = (.ok later, tree') ∧ reports = first ++ later := by
  induction xs generalizing tree reports with
  | nil =>
    constructor
    · intro h
      exact ⟨[], tree, reports, rfl, h, rfl⟩
    · rintro ⟨first, middle, later, hfirst, hlater, rfl⟩
      obtain ⟨hnone, rfl⟩ := Prod.mk.inj hfirst
      obtain rfl := Except.ok.inj hnone
      exact hlater
  | cons x xs ih =>
    rw [List.cons_append, compileAll_cons_eq_ok]
    constructor
    · rintro ⟨report, next, rest, hcompile, hrest, rfl⟩
      obtain ⟨first, middle, later, hfirst, hlater, rfl⟩ := ih.mp hrest
      exact ⟨report :: first, middle, later,
        compileAll_cons_eq_ok.mpr ⟨report, next, first, hcompile, hfirst, rfl⟩, hlater, rfl⟩
    · rintro ⟨first, middle, later, hfirst, hlater, rfl⟩
      obtain ⟨report, next, rest, hcompile, hrest, rfl⟩ := compileAll_cons_eq_ok.mp hfirst
      exact ⟨report, next, rest ++ later, hcompile,
        ih.mpr ⟨rest, middle, later, hrest, hlater, rfl⟩, rfl⟩

/-- Versions are compiled up to the first that fails. -/
theorem exists_of_compileAll_error {schemas : List Schema} {e : Error}
    (h : compiler.compileAll tree schemas = (.error e, tree')) :
    ∃ earlier s later reports middle, schemas = earlier ++ s :: later ∧
      compiler.compileAll tree earlier = (.ok reports, middle) ∧
      compiler.compile middle s = (.error e, tree') := by
  induction schemas generalizing tree with
  | nil => cases (Prod.mk.inj h).1
  | cons s schemas ih =>
    rw [compileAll] at h
    split at h
    · rename_i e' after hcompile
      obtain ⟨heq, rfl⟩ := Prod.mk.inj h
      obtain rfl : e' = e := Except.error.inj heq
      exact ⟨[], s, schemas, [], tree, rfl, rfl, hcompile⟩
    · rename_i report next hcompile
      obtain ⟨hreports, htree⟩ := Prod.mk.inj h
      cases hlater : (compiler.compileAll next schemas).1 with
      | ok later =>
        rw [hlater] at hreports
        cases hreports
      | error e' =>
        rw [hlater] at hreports
        obtain rfl : e' = e := Except.error.inj hreports
        obtain ⟨earlier, t, later, reports, middle, rfl, hearlier, hfails⟩ :=
          ih (Prod.ext hlater htree)
        exact ⟨s :: earlier, t, later, report :: reports, middle, rfl,
          compileAll_cons_eq_ok.mpr ⟨report, next, reports, hcompile, hearlier, rfl⟩, hfails⟩

/-- A version that is compiled has put its files in place. -/
theorem placed_of_compile {report : VersionReport} (hformatter : compiler.formatter = none)
    (hdevices : tree.DevicesApart) (hlinks : compiler.LinksApart s tree)
    (h : compiler.compile tree s = (.ok report, tree')) :
    Placed tree (compiler.placedFiles s) tree' := by
  have hplaced := (compile_of_writes hformatter (writes_of_compile h)).2
  rw [h] at hplaced
  exact hplaced.placed isGenerated_placedFiles hdevices hlinks.placed

theorem isGenerated_flatMap (schemas : List Schema) :
    ∀ f ∈ schemas.flatMap compiler.placedFiles, IsGenerated f.1 := by
  intro f hf
  obtain ⟨s, -, hf⟩ := List.mem_flatMap.mp hf
  exact isGenerated_placedFiles f hf

/-- Versions that are compiled one after the other have put their files in place. -/
theorem placed_of_compileAll {schemas : List Schema} {reports : List VersionReport}
    (hformatter : compiler.formatter = none) (hdevices : tree.DevicesApart)
    (hlinks : ∀ s ∈ schemas, compiler.LinksApart s tree)
    (h : compiler.compileAll tree schemas = (.ok reports, tree')) :
    Placed tree (schemas.flatMap compiler.placedFiles) tree' := by
  induction schemas generalizing tree reports with
  | nil =>
    obtain ⟨-, rfl⟩ := Prod.mk.inj h
    exact (Spares.refl tree []).placed
  | cons s schemas ih =>
    obtain ⟨report, middle, later, hcompile, hlater, -⟩ := compileAll_cons_eq_ok.mp h
    have hplaced := placed_of_compile hformatter hdevices (hlinks s List.mem_cons_self) hcompile
    have hlinks' : ∀ t ∈ schemas, compiler.LinksApart t middle := fun t ht =>
      (hlinks t (List.mem_cons_of_mem s ht)).settled hplaced.kept.toSettled
    rw [List.flatMap_cons]
    exact hplaced.append (ih (hdevices.kept hplaced.kept) hlinks' hlater) isGenerated_placedFiles

/-- The files of every version are read in the end as they were read when the version was
complete. -/
def VersionsKept (compiler : Compiler) (tree : FileTree) (schemas : List Schema)
    (tree' : FileTree) : Prop :=
  ∀ before s after reports complete, schemas = before ++ s :: after →
    compiler.compileAll tree (before ++ [s]) = (.ok reports, complete) →
      ∀ f ∈ compiler.placedFiles s, tree'.read f.1 = complete.read f.1

/-- A version puts its files in place before those of the later versions. -/
theorem placed_around {before after : List Schema} {reports reports' : List VersionReport}
    {complete : FileTree} (hformatter : compiler.formatter = none) (hdevices : tree.DevicesApart)
    (hlinks : ∀ t ∈ before ++ s :: after, compiler.LinksApart t tree)
    (hcomplete : compiler.compileAll tree (before ++ [s]) = (.ok reports, complete))
    (hdone : compiler.compileAll tree (before ++ s :: after) = (.ok reports', between)) :
    ∃ start : FileTree, start.cwd = tree.cwd ∧ Placed start (compiler.placedFiles s) complete ∧
      Placed complete (after.flatMap compiler.placedFiles) between := by
  obtain ⟨_, start, _, hbefore, hlast, -⟩ := compileAll_append_eq_ok.mp hcomplete
  obtain ⟨_, middle, _, hcompile, hnone, -⟩ := compileAll_cons_eq_ok.mp hlast
  obtain rfl : middle = complete := congrArg Prod.snd hnone
  have hstart := placed_of_compileAll hformatter hdevices
    (fun t ht => hlinks t (List.mem_append_left _ ht)) hbefore
  have hdevices' := hdevices.kept hstart.kept
  have hlinks' : ∀ t ∈ s :: after, compiler.LinksApart t start := fun t ht =>
    (hlinks t (List.mem_append_right before ht)).settled hstart.kept.toSettled
  have hplaced := placed_of_compile hformatter hdevices' (hlinks' s List.mem_cons_self) hcompile
  -- the whole run was at the same point when the version was complete
  rw [← List.singleton_append, ← List.append_assoc] at hdone
  obtain ⟨_, middle', _, hsame, hafter, -⟩ := compileAll_append_eq_ok.mp hdone
  obtain rfl : middle = middle' := congrArg Prod.snd (hcomplete.symm.trans hsame)
  have hlinks'' : ∀ t ∈ after, compiler.LinksApart t middle := fun t ht =>
    (hlinks' t (List.mem_cons_of_mem s ht)).settled hplaced.kept.toSettled
  exact ⟨start, hstart.kept.cwd, hplaced,
    placed_of_compileAll hformatter (hdevices'.kept hplaced.kept) hlinks'' hafter⟩

/-- A file is kept if no later version has a file that leads to the same place. -/
theorem read_of_apart {schemas tail before after : List Schema}
    {reports reports' : List VersionReport} {complete : FileTree}
    (hformatter : compiler.formatter = none) (hdevices : tree.DevicesApart)
    (hlinks : ∀ t ∈ schemas, compiler.LinksApart t tree)
    (hdone : compiler.compileAll tree schemas = (.ok reports', between))
    (htail : Spares between (tail.flatMap compiler.placedFiles) tree')
    (hsplit : schemas = before ++ s :: after)
    (hcomplete : compiler.compileAll tree (before ++ [s]) = (.ok reports, complete))
    {f : String × String} (hf : f ∈ compiler.placedFiles s)
    (hapart : ∀ t ∈ after ++ tail, ∀ g ∈ compiler.placedFiles t,
      landing tree.cwd f.1 ≠ landing tree.cwd g.1) : tree'.read f.1 = complete.read f.1 := by
  subst hsplit
  obtain ⟨start, hcwd, hplaced, hlater⟩ :=
    placed_around hformatter hdevices hlinks hcomplete hdone
  have hend := hlater.toSpares.append htail
  rw [← List.flatMap_append] at hend
  refine hplaced.read_later isGenerated_placedFiles hend hf fun g hg => ?_
  obtain ⟨t, ht, hg⟩ := List.mem_flatMap.mp hg
  rw [hcwd]
  exact hapart t ht g hg

/-- **When the files of versions are kept.** Let versions be compiled, and further ones behind them
put their files in place. The files of the first are kept exactly if no later version puts a file
with the same stem into the same directory. -/
theorem versionsKept_iff {schemas tail : List Schema} {reports : List VersionReport}
    (hformatter : compiler.formatter = none) (hdevices : tree.DevicesApart)
    (hlinks : ∀ s ∈ schemas, compiler.LinksApart s tree)
    (hincreasing : Schema.Increasing (schemas ++ tail))
    (hplain : ∀ s ∈ schemas ++ tail, compiler.PlainNames s)
    (hdone : compiler.compileAll tree schemas = (.ok reports, between))
    (htail : Placed between (tail.flatMap compiler.placedFiles) tree') :
    compiler.VersionsKept tree schemas tree' ↔
      ∀ before s after, schemas = before ++ s :: after → ∀ t ∈ after ++ tail,
        s.version.dirName = t.version.dirName →
          ∀ stem ∈ compiler.placedStems s, stem ∉ compiler.placedStems t := by
  have hmem {before after : List Schema} {s : Schema} (hsplit : schemas = before ++ s :: after) :
      s ∈ schemas ++ tail ∧ ∀ t ∈ after ++ tail, t ∈ schemas ++ tail := by
    rw [hsplit]
    refine ⟨by simp, fun t ht => ?_⟩
    rcases List.mem_append.mp ht with ht | ht <;> simp [ht]
  have hne {before after : List Schema} {s t : Schema} (hsplit : schemas = before ++ s :: after)
      (ht : t ∈ after ++ tail) : s.version ≠ t.version := by
    rw [hsplit, List.append_assoc, List.cons_append] at hincreasing
    obtain ⟨-, hlater, -⟩ := List.pairwise_append.mp hincreasing
    exact Version.ne_of_lt ((List.pairwise_cons.mp hlater).1 t ht)
  constructor
  · intro hkept before s after hsplit t ht hdir stem hs hstem
    -- at some point of the run the version was complete
    have hthere := hdone
    rw [hsplit, ← List.singleton_append, ← List.append_assoc] at hthere
    obtain ⟨complete, middle, _, hcomplete, -, -⟩ := compileAll_append_eq_ok.mp hthere
    obtain ⟨f, hf, hfstem⟩ := exists_file_of_stem hs
    obtain ⟨g, hg, hgstem⟩ := exists_file_of_stem hstem
    have hsplain := hplain s (hmem hsplit).1
    have htplain := hplain t ((hmem hsplit).2 t ht)
    rw [hsplit] at hdone hlinks
    obtain ⟨start, hcwd, hplaced, hlater⟩ :=
      placed_around hformatter hdevices hlinks hcomplete hdone
    have hend := hlater.append htail (isGenerated_flatMap after)
    rw [← List.flatMap_append] at hend
    refine absurd (hkept before s after complete middle hsplit hcomplete f hf) ?_
    refine hplaced.read_replaced isGenerated_placedFiles hend hf
      (List.mem_flatMap.mpr ⟨t, ht, hg⟩) ?_ fun f' hf' g' hg' heq htext => ?_
    · rw [← hfstem, ← hgstem]
      exact (landing_eq_iff hsplain.dir htplain.dir (hsplain.stems _ hs)
        (htplain.stems _ hstem) _).mpr ⟨hdir, rfl⟩
    · -- whatever stands there in the end names another version
      obtain ⟨u, hu, hg'⟩ := List.mem_flatMap.mp hg'
      have huplain := hplain u ((hmem hsplit).2 u hu)
      have hshared := (landing_eq_of_placed hsplain huplain hf' hg' heq).1
      exact hne hsplit hu (version_eq_of_text hf' hg' hshared htext)
  · intro hapart before s after complete middle hsplit hcomplete f hf
    refine read_of_apart hformatter hdevices hlinks hdone htail.toSpares hsplit hcomplete hf
      fun t ht g hg heq => ?_
    obtain ⟨hdir, stem, hs, hstem⟩ := landing_eq_of_placed (hplain s (hmem hsplit).1)
      (hplain t ((hmem hsplit).2 t ht)) hf hg heq
    exact hapart before s after hsplit t ht hdir stem hs hstem

/-! ## Directories -/

/-- Names that are not absolute have different paths in a directory if they are different. -/
theorem join_inj {dir m n : String} (hm : Path.isAbsolute m = false)
    (hn : Path.isAbsolute n = false) : Path.join dir m = Path.join dir n ↔ m = n := by
  unfold Path.join
  rw [hm, hn]
  constructor
  · intro h
    split at h
    · exact h
    · split at h
      · exact (String.append_right_inj _).mp h
      · exact (String.append_right_inj _).mp h
  · rintro rfl
    rfl

theorem isAbsolute_dirName (v : Version) : Path.isAbsolute v.dirName = false := by
  rw [Version.dirName_eq, Path.isAbsolute, String.toList_append]
  rfl

theorem dirs_of_compileAll {schemas : List Schema} {reports : List VersionReport}
    (h : compiler.compileAll tree schemas = (.ok reports, tree')) :
    reports.map (·.dir) = schemas.map fun s => (compiler.outputFor s).dir := by
  induction schemas generalizing tree reports with
  | nil =>
    obtain rfl := Except.ok.inj (Prod.mk.inj h).1
    rfl
  | cons s schemas ih =>
    obtain ⟨report, middle, later, hcompile, hlater, rfl⟩ := compileAll_cons_eq_ok.mp h
    obtain ⟨units, -, rfl, -⟩ := compile_eq_ok hcompile
    rw [List.map_cons, List.map_cons, ih hlater]
    rfl

/-- A run reads its files first, and then compiles the versions among them. -/
theorem compileFiles_eq {paths : List String} (hpaths : paths ≠ []) :
    compiler.compileFiles tree paths =
      match paths.mapM tree.readSchema with
      | .error e => (.error e, tree, [])
      | .ok files =>
        (CompileReport.mk <$> (compiler.compileAll tree (Schema.merge files).1).1,
          (compiler.compileAll tree (Schema.merge files).1).2, (Schema.merge files).2) := by
  have hsome : paths.isEmpty = false := by simpa using hpaths
  unfold compileFiles
  rw [hsome]
  rfl

theorem compileFiles_eq_ok {paths : List String} {report : CompileReport}
    {warnings : List Warning}
    (h : compiler.compileFiles tree paths = (.ok report, tree', warnings)) :
    ∃ files, paths.mapM tree.readSchema = .ok files ∧
      compiler.compileAll tree (Schema.merge files).1 = (.ok report.versions, tree') := by
  have hpaths : paths ≠ [] := by
    rintro rfl
    cases (Prod.mk.inj h).1
  rw [compileFiles_eq hpaths] at h
  split at h
  · cases (Prod.mk.inj h).1
  · rename_i files hfiles
    obtain ⟨hreports, hrest⟩ := Prod.mk.inj h
    obtain ⟨htree, -⟩ := Prod.mk.inj hrest
    refine ⟨files, hfiles, Prod.ext ?_ htree⟩
    cases hall : (compiler.compileAll tree (Schema.merge files).1).1 with
    | error e =>
      rw [hall] at hreports
      cases hreports
    | ok reports =>
      rw [hall] at hreports
      rw [← Except.ok.inj hreports]

/-- Every two members of a list, as they come one behind the other. -/
theorem pairwise_iff_split {α : Type} {R : α → α → Prop} {l : List α} :
    l.Pairwise R ↔ ∀ before x after, l = before ++ x :: after → ∀ y ∈ after, R x y := by
  constructor
  · rintro h before x after rfl
    obtain ⟨-, hlater, -⟩ := List.pairwise_append.mp h
    exact (List.pairwise_cons.mp hlater).1
  · intro h
    induction l with
    | nil => exact .nil
    | cons x l ih =>
      refine List.pairwise_cons.mpr ⟨h [] x l rfl, ih fun before y after hsplit => ?_⟩
      exact h (x :: before) y after (by rw [hsplit, List.cons_append])

/-- Directories of versions in increasing order. -/
theorem nodup_dirs_iff {schemas : List Schema} :
    (schemas.map fun s => (compiler.outputFor s).dir).Nodup ↔
      schemas.Pairwise fun s t => s.version.dirName ≠ t.version.dirName := by
  rw [List.Nodup, List.pairwise_map]
  refine List.Pairwise.iff fun {s t} => not_congr ?_
  exact join_inj (isAbsolute_dirName _) (isAbsolute_dirName _)

/-- Versions that do not run into each other have directories of their own. -/
theorem pairwise_dirName_iff {schemas : List Schema} (hincreasing : Schema.Increasing schemas) :
    (schemas.Pairwise fun s t => s.version.dirName ≠ t.version.dirName) ↔
      ∀ v ∈ schemas.map (·.version), ∀ w ∈ schemas.map (·.version), ¬ v.RunsInto w := by
  constructor
  · intro h v hv w hw hinto
    obtain ⟨s, hs, rfl⟩ := List.mem_map.mp hv
    obtain ⟨t, ht, rfl⟩ := List.mem_map.mp hw
    have hnodup : (schemas.map (·.version.dirName)).Nodup := List.pairwise_map.mpr h
    have hdir := Version.dirName_eq_iff.mpr (.inr (.inl hinto))
    obtain rfl := List.inj_on_of_nodup_map hnodup hs ht hdir
    exact hinto.tag_ne rfl
  · intro h
    refine hincreasing.imp_of_mem fun {s t} hs ht hlt hdir => ?_
    have hs := List.mem_map_of_mem (f := (·.version)) hs
    have ht := List.mem_map_of_mem (f := (·.version)) ht
    rcases Version.dirName_eq_iff.mp hdir with heq | hinto | hinto
    · exact Version.ne_of_lt hlt heq
    · exact h _ hs _ ht hinto
    · exact h _ ht _ hs hinto

/-- The index has the same stem in every version that is compiled. -/
theorem index_mem_placedStems {report : VersionReport}
    (h : compiler.compile tree s = (.ok report, tree')) : "mod" ∈ compiler.placedStems s := by
  obtain ⟨units, hunits, -⟩ := compile_eq_ok h
  unfold placedStems
  rw [hunits]
  exact List.mem_append_right _ List.mem_cons_self

theorem exists_compile_of_compileAll {schemas : List Schema} {reports : List VersionReport}
    (h : compiler.compileAll tree schemas = (.ok reports, tree')) (hs : s ∈ schemas) :
    ∃ start report complete, compiler.compile start s = (.ok report, complete) := by
  obtain ⟨before, after, rfl⟩ := List.append_of_mem hs
  obtain ⟨_, start, _, -, hrest, -⟩ := compileAll_append_eq_ok.mp h
  obtain ⟨report, complete, _, hcompile, -⟩ := compileAll_cons_eq_ok.mp hrest
  exact ⟨start, report, complete, hcompile⟩

/-- **When versions have directories of their own.** The versions of a run that succeeds have
different directories exactly if none of them runs into another. Without a formatter, every version
keeps its files to the end if no file of a later one leads to the place of one of them; where no
name goes through a directory, that is exactly if the directories are different. -/
theorem version_dirs_nodup_iff {paths : List String} {report : CompileReport}
    {warnings : List Warning}
    (h : compiler.compileFiles tree paths = (.ok report, tree', warnings)) :
    ∃ files, paths.mapM tree.readSchema = .ok files ∧
      ((report.versions.map (·.dir)).Nodup ↔
        ∀ v ∈ files.map (·.version), ∀ w ∈ files.map (·.version), ¬ v.RunsInto w) ∧
      (compiler.formatter = none → tree.DevicesApart →
        (∀ s ∈ (Schema.merge files).1, compiler.LinksApart s tree) →
        (((Schema.merge files).1.Pairwise fun s t => ∀ f ∈ compiler.placedFiles s,
            ∀ g ∈ compiler.placedFiles t, landing tree.cwd f.1 ≠ landing tree.cwd g.1) →
          compiler.VersionsKept tree (Schema.merge files).1 tree') ∧
        ((∀ s ∈ (Schema.merge files).1, compiler.PlainNames s) →
          (compiler.VersionsKept tree (Schema.merge files).1 tree' ↔
            (report.versions.map (·.dir)).Nodup))) := by
  obtain ⟨files, hfiles, hall⟩ := compileFiles_eq_ok h
  obtain ⟨hincreasing, hversions⟩ := Schema.merge_versions files
  have hdirs : (report.versions.map (·.dir)).Nodup ↔
      (Schema.merge files).1.Pairwise fun s t => s.version.dirName ≠ t.version.dirName := by
    rw [dirs_of_compileAll hall, nodup_dirs_iff]
  have hnone : Spares tree' ([].flatMap compiler.placedFiles) tree' := .refl tree' []
  refine ⟨files, hfiles, ?_,
    fun hformatter hdevices hlinks => ⟨fun hapart => ?_, fun hplain => ?_⟩⟩
  · rw [hdirs, pairwise_dirName_iff hincreasing]
    simp only [hversions]
  · intro before s after reports complete hsplit hcomplete f hf
    refine read_of_apart hformatter hdevices hlinks hall hnone hsplit hcomplete hf ?_
    rw [List.append_nil]
    exact fun t ht => pairwise_iff_split.mp hapart before s after hsplit t ht f hf
  · have hplaced : Placed tree' (([] : List Schema).flatMap compiler.placedFiles) tree' :=
      hnone.placed
    rw [← List.append_nil (Schema.merge files).1] at hincreasing hplain
    rw [versionsKept_iff hformatter hdevices hlinks hincreasing hplain hall hplaced, hdirs,
      pairwise_iff_split]
    constructor
    · intro hstems before s after hsplit t ht hdir
      have hs : s ∈ (Schema.merge files).1 := by rw [hsplit]; simp
      have ht' : t ∈ (Schema.merge files).1 := by rw [hsplit]; simp [ht]
      obtain ⟨_, _, _, hcompile⟩ := exists_compile_of_compileAll hall hs
      obtain ⟨_, _, _, hcompile'⟩ := exists_compile_of_compileAll hall ht'
      -- both have an index
      exact hstems before s after hsplit t (List.mem_append_left _ ht) hdir "mod"
        (index_mem_placedStems hcompile) (index_mem_placedStems hcompile')
    · intro hdirs before s after hsplit t ht hdir
      rw [List.append_nil] at ht
      exact absurd hdir (hdirs before s after hsplit t ht)

/-- A domain that declares nothing, as it stands in a schema file. -/
def domainText (name : String) : String := "\x7b\"domain\":\"" ++ name ++ "\"\x7d"

/-- A schema file of some domains. -/
def schemaText (major minor : String) (domains : List String) : String :=
  "\x7b\"version\":\x7b\"major\":\"" ++ major ++ "\",\"minor\":\"" ++ minor ++
    "\"\x7d,\"domains\":[" ++ ",".intercalate domains ++ "]\x7d"

/-- A file system with two schema files. -/
def twoFiles (first second : String) : FileTree :=
  (emptyTree.put ["first.json"] (.file first.toUTF8)).put ["second.json"] (.file second.toUTF8)

theorem twoFiles_kept (first second : String) :
    FileTree.Kept emptyTree (twoFiles first second) := by
  have hfirst : FileTree.Kept emptyTree
      (emptyTree.put ["first.json"] (.file first.toUTF8)) :=
    FileTree.kept_put (fun h => by cases h) trivial
  refine hfirst.trans (FileTree.kept_put ?_ trivial)
  rw [FileTree.node?_put_of_ne _ (by decide)]
  exact fun h => by cases h

theorem twoFiles_devicesApart (first second : String) :
    (twoFiles first second).DevicesApart :=
  emptyTree_devicesApart.kept (twoFiles_kept first second)

theorem twoFiles_linksApart (first second : String) (compiler : Compiler) (schema : Schema) :
    compiler.LinksApart schema (twoFiles first second) :=
  (emptyTree_linkFree.settled (twoFiles_kept first second).toSettled).linksApart compiler schema

instance (compiler : Compiler) (schema : Schema) : Decidable (compiler.PlainNames schema) :=
  decidable_of_iff ('/' ∉ schema.version.dirName.toList ∧
      ∀ name ∈ compiler.moduleNames schema, '/' ∉ name.toList)
    ⟨fun h => ⟨h.1, h.2⟩, fun h => ⟨h.dir, h.modules⟩⟩

/-- Two versions with directories of their own. -/
def apartFiles : FileTree :=
  twoFiles (schemaText "1" "3" [domainText "Page"])
    (schemaText "1" "2" [domainText "Page", domainText "DOM"])

theorem version_dirs_nodup_of_apartFiles : ∃ report tree' warnings,
    plain.compileFiles apartFiles ["first.json", "second.json"] = (.ok report, tree', warnings) ∧
      plain.formatter = none ∧ apartFiles.DevicesApart ∧
      (report.versions.map (·.dir)).Nodup ∧
      ∃ files, ["first.json", "second.json"].mapM apartFiles.readSchema = .ok files ∧
        (∀ s ∈ (Schema.merge files).1, plain.LinksApart s apartFiles) ∧
        (∀ s ∈ (Schema.merge files).1, plain.PlainNames s) ∧
        plain.VersionsKept apartFiles (Schema.merge files).1 tree' := by
  have hok : (plain.compileFiles apartFiles ["first.json", "second.json"]).1.isOk = true := by
    decide +kernel
  have hschemas : (["first.json", "second.json"].mapM apartFiles.readSchema).toOption.map
      (fun files => (files.map (·.version),
        decide (∀ s ∈ (Schema.merge files).1, plain.PlainNames s))) =
      some ([⟨"1", "3"⟩, ⟨"1", "2"⟩], true) := by
    decide +kernel
  have hdevices : apartFiles.DevicesApart := twoFiles_devicesApart _ _
  cases hrun : plain.compileFiles apartFiles ["first.json", "second.json"] with
  | mk result rest =>
    obtain ⟨tree', warnings⟩ := rest
    rw [hrun] at hok
    cases result with
    | error e => cases hok
    | ok report =>
      obtain ⟨files, hfiles, hdirs, hkept⟩ := version_dirs_nodup_iff hrun
      rw [hfiles] at hschemas
      obtain ⟨hversions, hplain⟩ := Prod.mk.inj (Option.some.inj hschemas)
      have hplain := of_decide_eq_true hplain
      have hnodup : (report.versions.map (·.dir)).Nodup := by
        rw [hdirs, hversions]
        intro v hv w hw hinto
        have heq : ∀ v ∈ [(⟨"1", "3"⟩ : Version), ⟨"1", "2"⟩],
            ∀ w ∈ [(⟨"1", "3"⟩ : Version), ⟨"1", "2"⟩], v.dirName = w.dirName → v = w := by
          decide
        obtain rfl := heq v hv w hw (Version.dirName_eq_iff.mpr (.inr (.inl hinto)))
        exact hinto.tag_ne rfl
      have hlinks : ∀ s ∈ (Schema.merge files).1, plain.LinksApart s apartFiles :=
        fun s _ => twoFiles_linksApart _ _ plain s
      exact ⟨report, tree', warnings, rfl, rfl, hdevices, hnodup, files, hfiles, hlinks, hplain,
        ((hkept rfl hdevices hlinks).2 hplain).mpr hnodup⟩

/-- Two versions that share a directory. -/
def sharingFiles : FileTree :=
  twoFiles (schemaText "1" "2_3" [domainText "Page"]) (schemaText "1_2" "3" [domainText "Page"])

/-- Different versions are not enough: the directory of version `1` / `2_3` is that of version
`1_2` / `3`. -/
theorem not_forall_version_dirs_nodup :
    ¬ ∀ (compiler : Compiler) (tree tree' : FileTree) (paths : List String)
        (report : CompileReport) (warnings : List Warning),
      compiler.compileFiles tree paths = (.ok report, tree', warnings) →
        (report.versions.map (·.dir)).Nodup := by
  intro h
  have hdirs : (plain.compileFiles sharingFiles ["first.json", "second.json"]).1.toOption.map
      (·.versions.map (·.dir)) = some ["bindings/v1_2_3", "bindings/v1_2_3"] := by
    decide +kernel
  cases hrun : plain.compileFiles sharingFiles ["first.json", "second.json"] with
  | mk result rest =>
    rw [hrun] at hdirs
    cases result with
    | error e => cases hdirs
    | ok report =>
      have hdirs : report.versions.map (·.dir) = ["bindings/v1_2_3", "bindings/v1_2_3"] :=
        Option.some.inj hdirs
      have hnodup := h plain sharingFiles rest.1 _ report rest.2 hrun
      rw [hdirs] at hnodup
      exact (List.nodup_cons.mp hnodup).1 List.mem_cons_self

end Compiler

end Bindery
