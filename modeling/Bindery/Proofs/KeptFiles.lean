import Bindery.Compiler.Run
import Bindery.Proofs.Emission
import Bindery.Proofs.Identifiers
import Bindery.Proofs.Placement
import Mathlib.Data.List.Nodup

/-!
# Files that a run keeps

A run plans a file for every generated domain, and the index last. All of them are there in the
end, each with its own text, exactly if their paths are different and lead to different places or to
equal texts (`noFileLost_iff`). The stem of a file is its domain's name in lower case, and the index
has the stem `mod`: so with domains called `Mod`, or `Dom` and `DOM`, a file is lost.
-/

namespace Bindery

/-- The entry of a domain in the index. -/
def Domain.entry (d : Domain) : IndexEntry := ⟨d.name, Naming.moduleName d.name⟩

/-- The paths and texts of the files of some units, the index last. -/
def OutputDir.files (out : OutputDir) (units : List DomainUnit) : List (String × String) :=
  units.map (fun u => (out.domainPath u.moduleName, u.fileText out.header)) ++
    [(out.indexPath, out.header.indexText (units.map .ofUnit))]

/-- The paths and texts of the files of some units, without the index. -/
def OutputDir.domainFiles (out : OutputDir) (units : List DomainUnit) : List (String × String) :=
  units.map fun u => (out.domainPath u.moduleName, u.fileText out.header)

theorem OutputDir.files_eq (out : OutputDir) (units : List DomainUnit) :
    out.files units =
      out.domainFiles units ++ [(out.indexPath, out.header.indexText (units.map .ofUnit))] := rfl

theorem OutputDir.mem_files (out : OutputDir) {units : List DomainUnit} {unit : DomainUnit}
    (h : unit ∈ units) :
    (out.domainPath unit.moduleName, unit.fileText out.header) ∈ out.files units :=
  List.mem_append_left _ (List.mem_map.mpr ⟨unit, h, rfl⟩)

theorem OutputDir.index_mem_files (out : OutputDir) (units : List DomainUnit) :
    (out.indexPath, out.header.indexText (units.map .ofUnit)) ∈ out.files units :=
  List.mem_append_right _ List.mem_cons_self

namespace Compiler

variable (compiler : Compiler) (schema : Schema)

/-- The domains of a schema that are generated. -/
def includedDomains : List Domain :=
  schema.domains.filter fun d => compiler.selection.includes d.experimental

/-- The domains of a schema that are left out. -/
def skippedDomains : List Domain :=
  schema.domains.filter fun d => !compiler.selection.includes d.experimental

/-- The report of a version, given its generated domains. -/
def report (units : List DomainUnit) : VersionReport :=
  let out := compiler.outputFor schema
  let counts := DeclarationCounts.total (units.map (·.counts))
  { version := schema.version
    dir := out.dir
    files := units.map (fun u => out.domainPath u.moduleName) ++ [out.indexPath]
    types := counts.types
    commands := counts.commands
    events := counts.events
    skippedDeclarations := counts.skipped
    skippedDomains := (compiler.skippedDomains schema).map (·.name) }

/-- The code of the included domains of a schema. -/
def units? : Except Error (List DomainUnit) :=
  (compiler.includedDomains schema).mapM
    (Domain.unit? (NameTable.build schema.domains) compiler.selection)

/-- The files that a run puts in place, in order, each a path with a text. -/
def plannedFiles : List (String × String) :=
  match compiler.units? schema with
  | .ok units => (compiler.outputFor schema).files units
  | .error _ => []

/-- A run has lost no file: the reported paths are different, the one of each included domain leads
to the code of that domain, and the one of the index to the index of the included domains. -/
structure NoFileLost (report : VersionReport) (tree : FileTree) : Prop where
  distinct : report.files.Nodup
  domains : ∀ d ∈ compiler.includedDomains schema, ∃ unit,
    d.unit? (NameTable.build schema.domains) compiler.selection = .ok unit ∧
      (compiler.outputFor schema).domainPath unit.moduleName ∈ report.files ∧
      tree.read ((compiler.outputFor schema).domainPath unit.moduleName) =
        .ok (unit.fileText (compiler.outputFor schema).header).toUTF8
  index : tree.read (compiler.outputFor schema).indexPath =
    .ok ((compiler.outputFor schema).header.indexText
      ((compiler.includedDomains schema).map (·.entry))).toUTF8

end Compiler

/-! ## The plan of a run -/

theorem Domain.unit?_names {table : NameTable} {s : Selection} {d : Domain} {unit : DomainUnit}
    (h : d.unit? table s = .ok unit) :
    unit.domain = d.name ∧ unit.moduleName = Naming.moduleName d.name := by
  obtain ⟨written, -, h⟩ := Except.bind_eq_ok_iff.mp h
  obtain rfl := Except.ok.inj h
  exact ⟨rfl, rfl⟩

/-- The units of domains have the entries of the domains. -/
theorem entries_of_units {table : NameTable} {s : Selection} :
    ∀ {domains : List Domain} {units : List DomainUnit},
      domains.mapM (Domain.unit? table s) = .ok units →
        units.map IndexEntry.ofUnit = domains.map (·.entry) := by
  intro domains
  induction domains with
  | nil =>
    intro units h
    obtain rfl := Except.ok.inj h
    rfl
  | cons d rest ih =>
    intro units h
    rw [List.mapM_cons] at h
    obtain ⟨unit, hunit, h⟩ := Except.bind_eq_ok_iff.mp h
    obtain ⟨later, hlater, h⟩ := Except.bind_eq_ok_iff.mp h
    obtain rfl := Except.ok.inj h
    obtain ⟨hname, hmodule⟩ := Domain.unit?_names hunit
    rw [List.map_cons, List.map_cons, ih hlater, IndexEntry.ofUnit, hname, hmodule]
    rfl

/-- The code of the domains in front of the first that is not generated. -/
def unitsBefore (table : NameTable) (selection : Selection) : List Domain → List DomainUnit
  | [] => []
  | d :: rest =>
    match d.unit? table selection with
    | .ok unit => unit :: unitsBefore table selection rest
    | .error _ => []

/-- The domains that are generated. -/
def Selection.chosen (s : Selection) (domains : List Domain) : List Domain :=
  domains.filter fun d => s.includes d.experimental

/-- The domains that are left out. -/
def Selection.leftOut (s : Selection) (domains : List Domain) : List Domain :=
  domains.filter fun d => !s.includes d.experimental

/-- What is on record when units have been generated, and domains left out, after others. -/
def Account.after (a : Account) (out : OutputDir) (units : List DomainUnit)
    (leftOut : List Domain) : Account where
  files := a.files ++ units.map (fun u => out.domainPath u.moduleName)
  counts := a.counts.add (DeclarationCounts.total (units.map (·.counts)))
  skippedDomains := a.skippedDomains ++ leftOut.map (·.name)
  entries := a.entries ++ units.map .ofUnit

namespace Account

@[simp] theorem after_nil (a : Account) (out : OutputDir) : a.after out [] [] = a := by
  simp [after, DeclarationCounts.total, DeclarationCounts.add]

@[simp] theorem after_record (a : Account) (out : OutputDir) (u : DomainUnit)
    (units : List DomainUnit) (leftOut : List Domain) :
    (a.record u (out.domainPath u.moduleName)).after out units leftOut =
      a.after out (u :: units) leftOut := by
  simp [after, record, DeclarationCounts.total_cons, DeclarationCounts.add_assoc]

@[simp] theorem after_skip (a : Account) (out : OutputDir) (d : Domain) (units : List DomainUnit)
    (leftOut : List Domain) :
    (a.skip d).after out units leftOut = a.after out units (d :: leftOut) := by
  simp [after, skip]

end Account

/-- A plan places the code of the chosen domains in front of the first that is not generated, and
has all that it went through on record. -/
theorem planDomains_eq (table : NameTable) (s : Selection) (out : OutputDir) (a : Account)
    (domains : List Domain) :
    planDomains table s out a domains =
      ⟨(unitsBefore table s (s.chosen domains)).flatMap out.placeDomain,
        (fun units => a.after out units (s.leftOut domains)) <$>
          (s.chosen domains).mapM (Domain.unit? table s)⟩ := by
  -- for any account, as what a domain adds to it is there for those behind it
  induction domains generalizing a with
  | nil => exact congrArg (Plan.mk []) (congrArg Except.ok (a.after_nil out).symm)
  | cons d rest ih =>
    rw [planDomains]
    cases hd : s.includes d.experimental with
    | false =>
      have hchosen : s.chosen (d :: rest) = s.chosen rest := by simp [Selection.chosen, hd]
      have hleft : s.leftOut (d :: rest) = d :: s.leftOut rest := by simp [Selection.leftOut, hd]
      simp only [Bool.false_eq_true, if_false, ih, hchosen, hleft, Account.after_skip]
    | true =>
      have hchosen : s.chosen (d :: rest) = d :: s.chosen rest := by simp [Selection.chosen, hd]
      have hleft : s.leftOut (d :: rest) = s.leftOut rest := by simp [Selection.leftOut, hd]
      rw [if_pos rfl, hchosen, hleft, unitsBefore, List.mapM_cons]
      cases d.unit? table s with
      | error e => rfl
      | ok unit =>
        simp only [ih, List.flatMap_cons, Account.after_record]
        cases (s.chosen rest).mapM (Domain.unit? table s) <;> rfl

/-- If all domains are generated, there is the code of all. -/
theorem unitsBefore_of_ok {table : NameTable} {s : Selection} {domains : List Domain}
    {units : List DomainUnit} (h : domains.mapM (Domain.unit? table s) = .ok units) :
    unitsBefore table s domains = units := by
  induction domains generalizing units with
  | nil => exact Except.ok.inj h
  | cons d rest ih =>
    rw [List.mapM_cons] at h
    obtain ⟨unit, hunit, h⟩ := Except.bind_eq_ok_iff.mp h
    obtain ⟨later, hlater, h⟩ := Except.bind_eq_ok_iff.mp h
    obtain rfl := Except.ok.inj h
    rw [unitsBefore, hunit, ih hlater]

namespace Compiler

variable {compiler : Compiler} {schema : Schema} {report : VersionReport} {tree tree' : FileTree}

/-- The files that a run puts in place if it can write: those of the domains in front of the first
that is not generated, and the index if there is no such domain. -/
def placedFiles (compiler : Compiler) (schema : Schema) : List (String × String) :=
  match compiler.units? schema with
  | .ok units => (compiler.outputFor schema).files units
  | .error _ =>
    (compiler.outputFor schema).domainFiles
      (unitsBefore (NameTable.build schema.domains) compiler.selection
        (compiler.includedDomains schema))

/-- A report is what is on record once all domains have been gone through, closed with the index. -/
theorem report_eq_after (compiler : Compiler) (schema : Schema) (units : List DomainUnit) :
    (Account.after {} (compiler.outputFor schema) units (compiler.skippedDomains schema)).report
      schema.version (compiler.outputFor schema) = compiler.report schema units := by
  simp [Account.after, Account.report, report, DeclarationCounts.zero_add]

/-- The plan of a schema makes the directory and places files; what comes out then is settled by the
domains. -/
theorem plan_eq (compiler : Compiler) (schema : Schema) :
    compiler.plan schema =
      ⟨.makeDirectories (compiler.outputFor schema).dir ::
          (compiler.placedFiles schema).flatMap fun f => FileOp.place f.1 f.2,
        compiler.report schema <$> compiler.units? schema⟩ := by
  have hchosen : compiler.selection.chosen schema.domains = compiler.includedDomains schema := rfl
  have hfold : (compiler.includedDomains schema).mapM
      (Domain.unit? (NameTable.build schema.domains) compiler.selection) =
        compiler.units? schema := rfl
  unfold plan placedFiles
  simp only [planDomains_eq, hchosen, hfold]
  cases hunits : compiler.units? schema with
  | error e =>
    simp only [OutputDir.domainFiles, List.flatMap_map]
    rfl
  | ok units =>
    simp only [OutputDir.files_eq, OutputDir.domainFiles, List.flatMap_append, List.flatMap_map,
      List.flatMap_singleton, unitsBefore_of_ok hunits]
    exact congrArg (Plan.mk _) (congrArg Except.ok (report_eq_after compiler schema units))

/-- A run makes the directory and places files, up to the first step that fails. -/
theorem compile_eq (compiler : Compiler) (tree : FileTree) (schema : Schema) :
    compiler.compile tree schema =
      match FileOp.runAll compiler.formatter tree
        (.makeDirectories (compiler.outputFor schema).dir ::
          (compiler.placedFiles schema).flatMap fun f => FileOp.place f.1 f.2) with
      | (.error e, tree') => (.error e, tree')
      | (.ok (), tree') => (compiler.report schema <$> compiler.units? schema, tree') := by
  have hplan := plan_eq compiler schema
  unfold compile
  generalize compiler.plan schema = plan at hplan ⊢
  subst hplan
  rfl

theorem placedFiles_eq {units : List DomainUnit} (hunits : compiler.units? schema = .ok units) :
    compiler.placedFiles schema = (compiler.outputFor schema).files units := by
  unfold placedFiles
  rw [hunits]

/-- A run that succeeds makes the directory and places the planned files. -/
theorem compile_eq_ok (h : compiler.compile tree schema = (.ok report, tree')) :
    ∃ units, compiler.units? schema = .ok units ∧ report = compiler.report schema units ∧
      FileOp.runAll compiler.formatter tree
        (.makeDirectories (compiler.outputFor schema).dir ::
          ((compiler.outputFor schema).files units).flatMap fun f => FileOp.place f.1 f.2) =
        (.ok (), tree') := by
  rw [compile_eq] at h
  split at h
  · cases (Prod.mk.inj h).1
  · rename_i between hrun
    obtain ⟨houtcome, rfl⟩ := Prod.mk.inj h
    cases hunits : compiler.units? schema with
    | error e =>
      rw [hunits] at houtcome
      cases houtcome
    | ok units =>
      rw [hunits] at houtcome
      rw [placedFiles_eq hunits] at hrun
      exact ⟨units, rfl, (Except.ok.inj houtcome).symm, hrun⟩

theorem report_files (units : List DomainUnit) :
    (compiler.report schema units).files =
      ((compiler.outputFor schema).files units).map (·.1) := by
  unfold report OutputDir.files
  rw [List.map_append, List.map_map]
  rfl

theorem plannedFiles_eq {units : List DomainUnit} (hunits : compiler.units? schema = .ok units) :
    compiler.plannedFiles schema = (compiler.outputFor schema).files units := by
  unfold plannedFiles
  rw [hunits]

/-- No file is lost if the planned paths are different and every planned file is there. -/
theorem noFileLost_iff_read {units : List DomainUnit}
    (hunits : compiler.units? schema = .ok units) :
    compiler.NoFileLost schema (compiler.report schema units) tree ↔
      ((compiler.plannedFiles schema).map (·.1)).Nodup ∧
        ∀ f ∈ compiler.plannedFiles schema, tree.read f.1 = .ok f.2.toUTF8 := by
  have hentries := entries_of_units hunits
  rw [plannedFiles_eq hunits, ← report_files]
  constructor
  · intro h
    refine ⟨h.distinct, fun f hf => ?_⟩
    rcases List.mem_append.mp hf with hf | hf
    · obtain ⟨unit, hunit, rfl⟩ := List.mem_map.mp hf
      obtain ⟨d, hd, hcode⟩ := Except.mem_of_mem_mapM hunits hunit
      obtain ⟨unit', hcode', -, hread⟩ := h.domains d hd
      obtain rfl := Except.ok.inj (hcode.symm.trans hcode')
      exact hread
    · obtain rfl := List.mem_singleton.mp hf
      rw [hentries]
      exact h.index
  · rintro ⟨hnodup, hread⟩
    refine ⟨hnodup, fun d hd => ?_, ?_⟩
    · obtain ⟨unit, hunit, hcode⟩ := Except.mem_of_mapM_eq_ok hunits hd
      have hfile := (compiler.outputFor schema).mem_files hunit
      have hcontent := hread _ hfile
      refine ⟨unit, hcode, ?_, hcontent⟩
      rw [report_files]
      exact List.mem_map_of_mem hfile
    · have hindex := hread _ ((compiler.outputFor schema).index_mem_files units)
      rw [hentries] at hindex
      exact hindex

end Compiler

/-! ## Where the files lead -/

namespace OutputDir

variable (out : OutputDir)

/-- The name within a directory is the last piece of its path, or what it ends in. -/
theorem join_suffix (dir name : String) :
    ∃ front : List Char,
      (Path.join dir name).toList = front ++ name.toList ∧ Path.AtPiece front := by
  unfold Path.join
  split
  · exact ⟨[], rfl, .inl rfl⟩
  · split
    · rename_i hslash
      obtain ⟨start, hstart⟩ := List.getLast?_eq_some_iff.mp (beq_iff_eq.mp hslash)
      exact ⟨dir.toList, String.toList_append, .inr ⟨start, hstart⟩⟩
    · exact ⟨(dir ++ "/").toList, String.toList_append, .inr ⟨dir.toList, String.toList_append⟩⟩

theorem isGenerated_domainPath (moduleName : String) : IsGenerated (out.domainPath moduleName) := by
  obtain ⟨front, hfront, -⟩ := join_suffix out.dir (moduleName ++ ".rs")
  refine ⟨front ++ moduleName.toList, ?_⟩
  unfold domainPath
  rw [hfront, String.toList_append, List.append_assoc]

theorem files_paths (units : List DomainUnit) :
    (out.files units).map (·.1) = (units.map (·.moduleName) ++ ["mod"]).map out.domainPath := by
  unfold files
  rw [List.map_append, List.map_append, List.map_map, List.map_map]
  rfl

theorem isGenerated_files (units : List DomainUnit) : ∀ f ∈ out.files units, IsGenerated f.1 := by
  intro f hf
  have hpath : f.1 ∈ (out.files units).map (·.1) := List.mem_map_of_mem hf
  rw [files_paths] at hpath
  obtain ⟨moduleName, -, heq⟩ := List.mem_map.mp hpath
  rw [← heq]
  exact out.isGenerated_domainPath moduleName

/-- Modules without a slash in their names have files at different places. -/
theorem moduleName_of_landing_eq {cwd : Location} {m n : String} (hm : '/' ∉ m.toList)
    (hn : '/' ∉ n.toList) (h : landing cwd (out.domainPath m) = landing cwd (out.domainPath n)) :
    m = n := by
  have hlanding {name : String} (hname : '/' ∉ name.toList) :
      landing cwd (out.domainPath name) = landing cwd out.dir ++ [name ++ ".rs"] :=
    landing_join (c := 'r') cwd out.dir (by simpa using hname) (by simp) (by decide)
  rw [hlanding hm, hlanding hn] at h
  have hname := List.singleton_inj.mp (List.append_cancel_left h)
  exact (String.append_left_inj ".rs").mp hname

end OutputDir

namespace Compiler

variable {compiler : Compiler} {schema : Schema} {report : VersionReport} {tree tree' : FileTree}

/-- The names of the modules of a schema's included domains. -/
def moduleNames (compiler : Compiler) (schema : Schema) : List String :=
  (compiler.includedDomains schema).map fun d => Naming.moduleName d.name

theorem moduleNames_eq {units : List DomainUnit} (hunits : compiler.units? schema = .ok units) :
    compiler.moduleNames schema = units.map (·.moduleName) := by
  have hnames := congrArg (List.map (·.moduleName)) (entries_of_units hunits)
  rw [List.map_map, List.map_map] at hnames
  exact hnames.symm

/-- The paths at which a run may put files: those of the included domains, and that of the index. -/
def paths (compiler : Compiler) (schema : Schema) : List String :=
  (compiler.moduleNames schema ++ ["mod"]).map (compiler.outputFor schema).domainPath

theorem path_mem_paths {units : List DomainUnit} (hunits : compiler.units? schema = .ok units) :
    ∀ f ∈ (compiler.outputFor schema).files units, f.1 ∈ compiler.paths schema := by
  intro f hf
  have hpath : f.1 ∈ ((compiler.outputFor schema).files units).map (·.1) := List.mem_map_of_mem hf
  rw [OutputDir.files_paths, ← moduleNames_eq hunits] at hpath
  exact hpath

/-- Links and files with several names have nothing to do with a run: no link stands where its
directory is to be or is met on the way, and all its files are clear. -/
structure LinksApart (compiler : Compiler) (schema : Schema) (tree : FileTree) : Prop where
  directories : ∀ above ∈ Path.ancestors (compiler.outputFor schema).dir,
    tree.NoLinks (tree.start above) (Path.steps above)
  files : ∀ path ∈ compiler.paths schema, tree.Clear path

theorem LinksApart.settled (h : compiler.LinksApart schema tree)
    (hsettled : FileTree.Settled tree tree') : compiler.LinksApart schema tree' where
  directories := fun above habove => by
    rw [hsettled.start_eq]
    exact (h.directories above habove).settled hsettled
  files := fun path hpath => (h.files path hpath).settled hsettled

/-- The stems of the reported files: the module names, and that of the index. -/
theorem slash_not_mem_stem (hslash : ∀ name ∈ compiler.moduleNames schema, '/' ∉ name.toList) :
    ∀ name ∈ compiler.moduleNames schema ++ ["mod"], '/' ∉ name.toList := by
  intro name hname
  rcases List.mem_append.mp hname with hname | hname
  · exact hslash name hname
  · obtain rfl := List.mem_singleton.mp hname
    decide

/-- The planned paths of modules without slashes are different exactly if the names are, and none
is that of the index. -/
theorem nodup_plannedPaths_iff {units : List DomainUnit}
    (hunits : compiler.units? schema = .ok units)
    (hslash : ∀ name ∈ compiler.moduleNames schema, '/' ∉ name.toList) :
    ((compiler.plannedFiles schema).map (·.1)).Nodup ↔
      (compiler.moduleNames schema).Nodup ∧ "mod" ∉ compiler.moduleNames schema := by
  have hstems : (compiler.moduleNames schema ++ ["mod"]).Nodup ↔
      (compiler.moduleNames schema).Nodup ∧ "mod" ∉ compiler.moduleNames schema := by
    rw [List.nodup_append_comm, List.singleton_append, List.nodup_cons, and_comm]
  rw [plannedFiles_eq hunits, OutputDir.files_paths, ← moduleNames_eq hunits, ← hstems]
  constructor
  · exact List.Nodup.of_map _
  · refine List.Nodup.map_on fun m hm n hn heq => ?_
    exact OutputDir.moduleName_of_landing_eq _ (slash_not_mem_stem hslash m hm)
      (slash_not_mem_stem hslash n hn) (congrArg (landing []) heq)

/-- Files of modules without slashes that lead to one place are one file, if the planned paths are
different. -/
theorem eq_of_landing_eq {units : List DomainUnit} (hunits : compiler.units? schema = .ok units)
    (hslash : ∀ name ∈ compiler.moduleNames schema, '/' ∉ name.toList)
    (hnodup : ((compiler.plannedFiles schema).map (·.1)).Nodup) {cwd : Location}
    {f g : String × String} (hf : f ∈ compiler.plannedFiles schema)
    (hg : g ∈ compiler.plannedFiles schema) (h : landing cwd f.1 = landing cwd g.1) : f = g := by
  rw [plannedFiles_eq hunits] at hf hg hnodup
  have hstem {file : String × String} (hfile : file ∈ (compiler.outputFor schema).files units) :
      ∃ name ∈ compiler.moduleNames schema ++ ["mod"],
        (compiler.outputFor schema).domainPath name = file.1 := by
    have hpath : file.1 ∈ ((compiler.outputFor schema).files units).map (·.1) :=
      List.mem_map_of_mem hfile
    rw [OutputDir.files_paths, ← moduleNames_eq hunits] at hpath
    exact List.mem_map.mp hpath
  obtain ⟨m, hm, hfm⟩ := hstem hf
  obtain ⟨n, hn, hgn⟩ := hstem hg
  rw [← hfm, ← hgn] at h
  have hmn := OutputDir.moduleName_of_landing_eq _ (slash_not_mem_stem hslash m hm)
    (slash_not_mem_stem hslash n hn) h
  exact List.inj_on_of_nodup_map hnodup hf hg (by rw [← hfm, ← hgn, hmn])

/-- **When a run loses no file.** A run without a formatter that succeeds loses no file exactly if
the planned paths are different and planned files whose paths lead to one place have one text. Among
domains without slashes in their names that comes to this: their module names are different, and
none is that of the index. -/
theorem noFileLost_iff (hformatter : compiler.formatter = none) (hdevices : tree.DevicesApart)
    (hlinks : compiler.LinksApart schema tree)
    (h : compiler.compile tree schema = (.ok report, tree')) :
    (compiler.NoFileLost schema report tree' ↔
      ((compiler.plannedFiles schema).map (·.1)).Nodup ∧
        ∀ f ∈ compiler.plannedFiles schema, ∀ g ∈ compiler.plannedFiles schema,
          landing tree.cwd f.1 = landing tree.cwd g.1 → f.2 = g.2) ∧
    ((∀ name ∈ compiler.moduleNames schema, '/' ∉ name.toList) →
      (compiler.NoFileLost schema report tree' ↔
        (compiler.moduleNames schema).Nodup ∧ "mod" ∉ compiler.moduleNames schema)) := by
  obtain ⟨units, hunits, rfl, hrun⟩ := compile_eq_ok h
  rw [hformatter] at hrun
  obtain ⟨made, hmade, hrun⟩ := FileOp.runAll_cons_eq_ok.mp hrun
  have hkept : FileTree.Kept tree made := by
    obtain rfl : _ = made := congrArg Prod.snd hmade
    exact FileTree.makeDirectories_kept tree _
  have hpaths := (compiler.outputFor schema).isGenerated_files units
  have hclear : ∀ f ∈ (compiler.outputFor schema).files units, made.Clear f.1 := fun f hf =>
    (hlinks.files f.1 (path_mem_paths hunits f hf)).settled hkept.toSettled
  have hplaced := placed_of_runAll hpaths (hdevices.kept hkept) hclear hrun
  have hread := hplaced.read_iff hpaths
  rw [hkept.cwd, ← plannedFiles_eq hunits] at hread
  have hlost : compiler.NoFileLost schema (compiler.report schema units) tree' ↔ _ :=
    noFileLost_iff_read hunits
  rw [hread] at hlost
  refine ⟨hlost, fun hslash => ?_⟩
  rw [hlost, ← nodup_plannedPaths_iff hunits hslash]
  refine and_iff_left_of_imp fun hnodup f hf g hg heq => ?_
  rw [eq_of_landing_eq hunits hslash hnodup hf hg heq]

end Compiler

/-! ## Trees without links -/

/-- There are no links, and no file has several names. -/
structure FileTree.LinkFree (tree : FileTree) : Prop where
  links : ∀ place target, tree.node? place ≠ some (.link target)
  names : ∀ place, ¬ tree.IsShared place

theorem FileTree.LinkFree.settled {tree tree' : FileTree} (h : tree.LinkFree)
    (hsettled : Settled tree tree') : tree'.LinkFree where
  links := fun place target hlink => h.links place target (hsettled.links place target hlink)
  names := fun place hshared => h.names place (hsettled.shared place hshared)

theorem FileTree.LinkFree.linksApart {tree : FileTree} (h : tree.LinkFree) (compiler : Compiler)
    (schema : Schema) : compiler.LinksApart schema tree where
  directories := fun _ _ _ _ => h.links _
  files := fun _ _ => ⟨fun _ _ => h.links _, fun _ _ => h.links _, h.links _, h.names _⟩

namespace Compiler

/-- A compiler without a formatter. -/
def plain : Compiler := ⟨"bindings", { formatter := none }, none⟩

/-- A file system in which nothing has been made yet. -/
def emptyTree : FileTree := ⟨[], [], .empty, [], []⟩

theorem emptyTree_devicesApart : emptyTree.DevicesApart := by
  intro place device hdevice
  cases place with
  | nil => cases hdevice
  | cons name rest => cases hdevice

theorem emptyTree_linkFree : emptyTree.LinkFree where
  links := by
    intro place target hlink
    cases place with
    | nil => cases hlink
    | cons name rest => cases hlink
  names := by
    rintro place ⟨names, hnames, -⟩
    exact absurd hnames List.not_mem_nil

/-- A schema of domains that declare nothing. -/
def schemaOfNames (names : List String) : Schema :=
  ⟨⟨"1", "3"⟩, names.map fun name => .ofRecordNames name []⟩

theorem exists_eq_ok_of_isOk {result : Except Error VersionReport × FileTree}
    (h : result.1.isOk = true) : ∃ report tree, result = (.ok report, tree) := by
  obtain ⟨outcome, tree⟩ := result
  cases outcome with
  | error e => cases h
  | ok report => exact ⟨report, tree, rfl⟩

theorem noFileLost_of_pageAndDom : ∃ report tree',
    plain.formatter = none ∧ emptyTree.DevicesApart ∧
      plain.LinksApart (schemaOfNames ["Page", "DOM"]) emptyTree ∧
      plain.compile emptyTree (schemaOfNames ["Page", "DOM"]) = (.ok report, tree') ∧
      plain.NoFileLost (schemaOfNames ["Page", "DOM"]) report tree' := by
  have hok : (plain.compile emptyTree (schemaOfNames ["Page", "DOM"])).1.isOk = true := by
    decide +kernel
  obtain ⟨report, tree', hcompile⟩ := exists_eq_ok_of_isOk hok
  have hnames : plain.moduleNames (schemaOfNames ["Page", "DOM"]) = ["page", "dom"] := by decide
  have hlinks := emptyTree_linkFree.linksApart plain (schemaOfNames ["Page", "DOM"])
  refine ⟨report, tree', rfl, emptyTree_devicesApart, hlinks, hcompile, ?_⟩
  refine ((noFileLost_iff rfl emptyTree_devicesApart hlinks hcompile).2 ?_).mpr ?_
  · rw [hnames]
    decide
  · rw [hnames]
    decide

/-- Different names of domains are not enough: the file of a domain `Mod` is the index. -/
theorem not_forall_noFileLost :
    ¬ ∀ (compiler : Compiler) (schema : Schema) (report : VersionReport) (tree tree' : FileTree),
      compiler.formatter = none → tree.DevicesApart → compiler.LinksApart schema tree →
        (schema.domains.map (·.name)).Nodup →
          compiler.compile tree schema = (.ok report, tree') →
            compiler.NoFileLost schema report tree' := by
  intro h
  have hok : (plain.compile emptyTree (schemaOfNames ["Mod"])).1.isOk = true := by
    decide +kernel
  obtain ⟨report, tree', hcompile⟩ := exists_eq_ok_of_isOk hok
  have hkept := h plain (schemaOfNames ["Mod"]) report emptyTree tree' rfl emptyTree_devicesApart
    (emptyTree_linkFree.linksApart _ _) (by decide) hcompile
  obtain ⟨units, hunits, rfl, -⟩ := compile_eq_ok hcompile
  have hnames : plain.moduleNames (schemaOfNames ["Mod"]) = ["mod"] := by decide
  have hpaths := ((noFileLost_iff_read hunits).mp hkept).1
  have hdistinct := (nodup_plannedPaths_iff hunits (by rw [hnames]; decide)).mp hpaths
  rw [hnames] at hdistinct
  exact hdistinct.2 List.mem_cons_self

end Compiler

end Bindery
