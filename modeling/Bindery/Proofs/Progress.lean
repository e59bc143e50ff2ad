import Bindery.Proofs.KeptFiles
import Bindery.Proofs.Mentions

/-!
# How far a run gets

A run on a schema makes a directory and puts the file of each included domain there, in schema
order, and the index behind them. A domain is generated unless one of its declarations refers to a
type that nothing declares (`Domain.unit?_failsWith`), and one that is not stops the run in front of
its own file (`Compiler.course_of_compile`). What stands elsewhere under a name of a generated file
is not touched however the run ends (`Compiler.spares_of_compile`), and nothing else comes into
being (`Compiler.newOnlyAt_of_compile`).
-/

namespace Bindery

/-! ## Why a domain is not generated -/

section

open Bindery.Except

/-- The error is about a reference that a declaration of the domain makes. -/
def Error.IsDangling (domain : String) (e : Error) : Prop :=
  ∃ declaration reference, e = .unresolvedReference domain declaration reference

/-- **A domain that is not generated has a dangling reference.** -/
theorem Domain.unit?_failsWith {table : NameTable} (selection : Selection) (d : Domain) :
    FailsWith (Error.IsDangling d.name) (d.unit? table selection) := by
  intro e h
  have hfirst : FailsAtFirst (Mention.Dangles table) (d.included selection).mentions
      (d.unit? table selection) := d.unit?_failsAtFirst selection
  rw [h] at hfirst
  obtain ⟨m, hm, -, rfl⟩ := hfirst.exists_of_error
  have hdomain : m.domain = d.name := Domain.domain_of_mention (d := d.included selection) hm
  exact ⟨m.declaration, m.reference, by rw [Mention.error, hdomain]⟩

end

/-! ## What a run puts in place -/

/-- The directory has been made, and then the files have been put in place, in this order. -/
def PutInPlace (tree : FileTree) (dir : String) (files : List (String × String))
    (tree' : FileTree) : Prop :=
  FileOp.runAll none tree
    (.makeDirectories dir :: files.flatMap fun f => FileOp.place f.1 f.2) = (.ok (), tree')

theorem PutInPlace.placed {tree tree' : FileTree} {dir : String} {files : List (String × String)}
    (h : PutInPlace tree dir files tree') (hpaths : ∀ f ∈ files, IsGenerated f.1)
    (hdevices : tree.DevicesApart) (hclear : ∀ f ∈ files, tree.Clear f.1) :
    Placed tree files tree' := by
  obtain ⟨made, hmade, hfiles⟩ := FileOp.runAll_cons_eq_ok.mp h
  obtain rfl : (tree.makeDirectories dir).2 = made := congrArg Prod.snd hmade
  have hdir := (Spares.of_makeDirectories tree dir).placed
  have hplaced := placed_of_runAll hpaths (hdevices.kept hdir.kept)
    (fun f hf => (hclear f hf).settled hdir.kept.toSettled) hfiles
  exact hdir.append hplaced fun _ hf => absurd hf List.not_mem_nil

namespace Compiler

variable {compiler : Compiler} {schema : Schema} {tree : FileTree}

/-- How a run on a schema goes that can write all its files. -/
inductive Course (compiler : Compiler) (schema : Schema) (tree : FileTree) :
    Except Error VersionReport → FileTree → Prop where
  /-- All included domains are generated: their files are in place, and behind them the index. -/
  | completed {units : List DomainUnit} {tree' : FileTree}
      (hunits : (compiler.includedDomains schema).mapM
        (Domain.unit? (NameTable.build schema.domains) compiler.selection) = .ok units)
      (hfiles : compiler.placedFiles schema = (compiler.outputFor schema).files units)
      (hplaced : PutInPlace tree (compiler.outputFor schema).dir (compiler.placedFiles schema)
        tree') :
      Course compiler schema tree (.ok (compiler.report schema units)) tree'
  /-- A domain is not generated: the files of those in front of it are in place, and no others. -/
  | stopped {before after : List Domain} {d : Domain} {units : List DomainUnit} {e : Error}
      {tree' : FileTree} (hsplit : compiler.includedDomains schema = before ++ d :: after)
      (hunits : before.mapM
        (Domain.unit? (NameTable.build schema.domains) compiler.selection) = .ok units)
      (hfails : d.unit? (NameTable.build schema.domains) compiler.selection = .error e)
      (hdangling : e.IsDangling d.name)
      (hfiles : compiler.placedFiles schema = (compiler.outputFor schema).domainFiles units)
      (hplaced : PutInPlace tree (compiler.outputFor schema).dir (compiler.placedFiles schema)
        tree') :
      Course compiler schema tree (.error e) tree'

/-- No step of the run failed to write. -/
def Writes (compiler : Compiler) (schema : Schema) (tree : FileTree) : Prop :=
  ∀ path cause, (compiler.compile tree schema).1 ≠ .error (.write path cause)

theorem writes_of_compile {report : VersionReport} {tree' : FileTree}
    (h : compiler.compile tree schema = (.ok report, tree')) : compiler.Writes schema tree := by
  intro path cause hfailed
  rw [h] at hfailed
  cases hfailed

end Compiler

/-- The code in front of a domain that is not generated. -/
theorem unitsBefore_of_error {table : NameTable} {s : Selection} {before after : List Domain}
    {d : Domain} {units : List DomainUnit} {e : Error}
    (hunits : before.mapM (Domain.unit? table s) = .ok units)
    (hfails : d.unit? table s = .error e) :
    unitsBefore table s (before ++ d :: after) = units := by
  induction before generalizing units with
  | nil =>
    obtain rfl := Except.ok.inj hunits
    rw [List.nil_append, unitsBefore, hfails]
    rfl
  | cons b before ih =>
    rw [List.mapM_cons] at hunits
    obtain ⟨unit, hunit, h⟩ := Except.bind_eq_ok_iff.mp hunits
    obtain ⟨later, hlater, h⟩ := Except.bind_eq_ok_iff.mp h
    obtain rfl := Except.ok.inj h
    rw [List.cons_append, unitsBefore, hunit, ih hlater]

theorem exists_of_mem_unitsBefore {table : NameTable} {s : Selection} {domains : List Domain}
    {unit : DomainUnit} (h : unit ∈ unitsBefore table s domains) :
    ∃ d ∈ domains, d.unit? table s = .ok unit := by
  induction domains with
  | nil => exact absurd h List.not_mem_nil
  | cons d rest ih =>
    rw [unitsBefore] at h
    cases hunit : d.unit? table s with
    | error e =>
      rw [hunit] at h
      exact absurd h List.not_mem_nil
    | ok first =>
      rw [hunit] at h
      rcases List.mem_cons.mp h with rfl | h
      · exact ⟨d, List.mem_cons_self, hunit⟩
      · obtain ⟨d', hd', hunit'⟩ := ih h
        exact ⟨d', List.mem_cons_of_mem _ hd', hunit'⟩

namespace Compiler

variable {compiler : Compiler} {schema : Schema} {tree : FileTree}

/-- Without a formatter a run that writes all its files puts them in place, and its result is
settled by the domains. -/
theorem compile_of_writes (hformatter : compiler.formatter = none)
    (hwrites : compiler.Writes schema tree) :
    (compiler.compile tree schema).1 = compiler.report schema <$> compiler.units? schema ∧
      PutInPlace tree (compiler.outputFor schema).dir (compiler.placedFiles schema)
        (compiler.compile tree schema).2 := by
  unfold Writes at hwrites
  rw [compile_eq, hformatter] at hwrites ⊢
  unfold PutInPlace
  cases hrun : FileOp.runAll none tree (.makeDirectories (compiler.outputFor schema).dir ::
      (compiler.placedFiles schema).flatMap fun f => FileOp.place f.1 f.2) with
  | mk result tree' =>
    cases result with
    | ok _ => exact ⟨rfl, rfl⟩
    | error e =>
      obtain ⟨path, cause, rfl⟩ := FileOp.runAll_error hrun
      rw [hrun] at hwrites
      exact absurd rfl (hwrites path cause)

/-- **How far a run gets.** -/
theorem course_of_compile (hformatter : compiler.formatter = none)
    (hwrites : compiler.Writes schema tree) :
    compiler.Course schema tree (compiler.compile tree schema).1
      (compiler.compile tree schema).2 := by
  obtain ⟨hresult, hplaced⟩ := compile_of_writes hformatter hwrites
  rw [hresult]
  cases hunits : compiler.units? schema with
  | ok units => exact .completed hunits (placedFiles_eq hunits) hplaced
  | error e =>
    obtain ⟨before, d, after, units, hsplit, hbefore, hfails⟩ := Except.mapM_eq_error_iff.mp hunits
    refine .stopped hsplit hbefore hfails (d.unit?_failsWith _ e hfails) ?_ hplaced
    unfold placedFiles
    rw [hunits, hsplit, unitsBefore_of_error hbefore hfails]

/-! ## What a run does not touch -/

/-- The stems of the files that a run puts in place if it can write. -/
def placedStems (compiler : Compiler) (schema : Schema) : List String :=
  match compiler.units? schema with
  | .ok units => units.map (·.moduleName) ++ ["mod"]
  | .error _ =>
    (unitsBefore (NameTable.build schema.domains) compiler.selection
      (compiler.includedDomains schema)).map (·.moduleName)

theorem placedFiles_paths (compiler : Compiler) (schema : Schema) :
    (compiler.placedFiles schema).map (·.1) =
      (compiler.placedStems schema).map (compiler.outputFor schema).domainPath := by
  unfold placedFiles placedStems
  cases compiler.units? schema with
  | ok units => exact OutputDir.files_paths _ units
  | error e =>
    simp only [OutputDir.domainFiles, List.map_map]
    rfl

theorem exists_stem_of_mem {f : String × String} (hf : f ∈ compiler.placedFiles schema) :
    ∃ stem ∈ compiler.placedStems schema, (compiler.outputFor schema).domainPath stem = f.1 := by
  have hpath : f.1 ∈ (compiler.placedFiles schema).map (·.1) := List.mem_map_of_mem hf
  rw [placedFiles_paths] at hpath
  exact List.mem_map.mp hpath

theorem exists_file_of_stem {stem : String} (hstem : stem ∈ compiler.placedStems schema) :
    ∃ f ∈ compiler.placedFiles schema, (compiler.outputFor schema).domainPath stem = f.1 := by
  have hpath : (compiler.outputFor schema).domainPath stem ∈
      (compiler.placedFiles schema).map (·.1) := by
    rw [placedFiles_paths]
    exact List.mem_map_of_mem hstem
  obtain ⟨f, hf, heq⟩ := List.mem_map.mp hpath
  exact ⟨f, hf, heq.symm⟩

theorem isGenerated_placedFiles : ∀ f ∈ compiler.placedFiles schema, IsGenerated f.1 := by
  intro f hf
  obtain ⟨stem, -, hpath⟩ := exists_stem_of_mem hf
  rw [← hpath]
  exact OutputDir.isGenerated_domainPath _ stem

/-- Files are put in place at the paths of a run only. -/
theorem stem_mem_of_placed {stem : String} (h : stem ∈ compiler.placedStems schema) :
    stem ∈ compiler.moduleNames schema ++ ["mod"] := by
  unfold placedStems at h
  cases hunits : compiler.units? schema with
  | ok units =>
    rw [hunits] at h
    rwa [moduleNames_eq hunits]
  | error e =>
    rw [hunits] at h
    obtain ⟨unit, hunit, rfl⟩ := List.mem_map.mp h
    obtain ⟨d, hd, hcode⟩ := exists_of_mem_unitsBefore hunit
    rw [(Domain.unit?_names hcode).2]
    exact List.mem_append_left _ (List.mem_map_of_mem hd)

theorem LinksApart.placed (h : compiler.LinksApart schema tree) :
    ∀ f ∈ compiler.placedFiles schema, tree.Clear f.1 := by
  intro f hf
  obtain ⟨stem, hstem, hpath⟩ := exists_stem_of_mem hf
  exact h.files f.1 (hpath ▸ List.mem_map_of_mem (stem_mem_of_placed hstem))

/-- However a run without a formatter ends, it leaves the generated files alone that are not its
own. -/
theorem spares_of_compile (schema : Schema) (hformatter : compiler.formatter = none)
    (hdevices : tree.DevicesApart) (hlinks : compiler.LinksApart schema tree) :
    Spares tree (compiler.placedFiles schema) (compiler.compile tree schema).2 := by
  rw [compile_eq, hformatter, FileOp.runAll]
  have hmade := Spares.of_makeDirectories tree (compiler.outputFor schema).dir
  cases hdir : FileOp.run none tree (.makeDirectories (compiler.outputFor schema).dir) with
  | mk result between =>
    obtain rfl : (tree.makeDirectories (compiler.outputFor schema).dir).2 = between :=
      congrArg Prod.snd hdir
    cases result with
    | error e => exact hmade.append (.refl _ _)
    | ok _ =>
      simp only
      cases hrun : FileOp.runAll none (tree.makeDirectories (compiler.outputFor schema).dir).2
          ((compiler.placedFiles schema).flatMap fun f => FileOp.place f.1 f.2) with
      | mk result' tree' =>
        have hspares := spares_of_runAll isGenerated_placedFiles (hdevices.kept hmade.kept)
          (fun f hf => (hlinks.placed f hf).settled hmade.kept.toSettled) hrun
        cases result' <;> exact hmade.append hspares

/-- A place on the way to the directory of the version, or of one of its files. -/
def Reaches (compiler : Compiler) (schema : Schema) (cwd place : Location) : Prop :=
  (∃ above ∈ Path.ancestors (compiler.outputFor schema).dir, place = landing cwd above) ∨
    ∃ f ∈ compiler.placedFiles schema, place = landing cwd f.1

/-- What a run without a formatter brings into being are its directory and its files, and a staging
file, if it cannot write. -/
theorem newOnlyAt_of_compile (schema : Schema) (hformatter : compiler.formatter = none)
    (hdevices : tree.DevicesApart) (hlinks : compiler.LinksApart schema tree) :
    FileTree.NewOnlyAt (fun place => compiler.Reaches schema tree.cwd place ∨
      ¬ compiler.Writes schema tree ∧ ∃ f ∈ compiler.placedFiles schema,
        place = landing tree.cwd (FileOp.stagingPath f.1)) tree
      (compiler.compile tree schema).2 := by
  unfold Writes
  rw [compile_eq, hformatter, FileOp.runAll]
  have hmade := Spares.of_makeDirectories tree (compiler.outputFor schema).dir
  have hnew : FileTree.NewOnlyAt (compiler.Reaches schema tree.cwd) tree
      (tree.makeDirectories (compiler.outputFor schema).dir).2 :=
    (tree.makeDirectories_newOnlyAt _ hlinks.directories).mono fun _ => .inl
  cases hdir : FileOp.run none tree (.makeDirectories (compiler.outputFor schema).dir) with
  | mk result between =>
    obtain rfl : (tree.makeDirectories (compiler.outputFor schema).dir).2 = between :=
      congrArg Prod.snd hdir
    cases result with
    | error e => exact hnew.mono fun _ => .inl
    | ok _ =>
      simp only
      cases hrun : FileOp.runAll none (tree.makeDirectories (compiler.outputFor schema).dir).2
          ((compiler.placedFiles schema).flatMap fun f => FileOp.place f.1 f.2) with
      | mk result' tree' =>
        have hfiles := newOnlyAt_of_runAll isGenerated_placedFiles (hdevices.kept hmade.kept)
          (fun f hf => (hlinks.placed f hf).settled hmade.kept.toSettled) hrun
        rw [hmade.kept.cwd] at hfiles
        cases result' with
        | ok _ =>
          refine (hnew.mono fun _ => .inl).trans (hfiles.mono fun place hplace => ?_)
          obtain ⟨f, hf, hplace⟩ := hplace
          exact .inl (.inr ⟨f, hf, hplace.resolve_right fun hno => hno.1 rfl⟩)
        | error e =>
          obtain ⟨path, cause, rfl⟩ := FileOp.runAll_error hrun
          refine (hnew.mono fun _ => .inl).trans (hfiles.mono fun place hplace => ?_)
          obtain ⟨f, hf, hplace | ⟨-, hplace⟩⟩ := hplace
          · exact .inl (.inr ⟨f, hf, hplace⟩)
          · exact .inr ⟨fun hwrites => hwrites path cause rfl, f, hf, hplace⟩

end Compiler

end Bindery
