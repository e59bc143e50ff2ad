import Bindery.Proofs.KeptFiles
import Bindery.Proofs.Words
import Bindery.Proofs.Lines
import Bindery.Proofs.Lowercase

/-!
# The modules that an index declares

The index declares a module for every generated domain, and the file of a domain has a stem. Both
come from the name of the domain, but only the declaration is escaped: so the modules are the stems
of the files exactly if no name is one that a raw identifier cannot spell, starts like a raw
identifier, is empty or goes through a directory (`Compiler.declaredModules_iff`). A domain `Self`
is declared as `self_`, and its file is `self.rs`.
-/

namespace Bindery

open Text

/-! ## Reading an index -/

/-- The name in a line that declares a public module. -/
def declaredName? (line : List Char) : Option (List Char) :=
  if "pub mod ".toList <+: line ∧ [';'] <:+ line then some (line.drop 8).dropLast else none

/-- The modules that a text declares, line by line. -/
def declaredModules (text : String) : List String :=
  ((splitNewlines text.toList).filterMap declaredName?).map fun name =>
    String.ofList (bareName name)

/-- The name of the file of a path, without its extension. -/
def Path.fileStem (path : String) : String :=
  String.ofList (stem (path.toList.reverse.takeWhile (· != '/')).reverse)

/-! ## The lines of an index -/

/-- The lines in front of the entries of an index. -/
def FileHeader.indexOpening (header : FileHeader) : List String :=
  ["// Code generated by devtools-protogen from protocol version " ++
      s!"{header.version}. DO NOT EDIT.", "",
    s!"//! Protocol version {header.version}.", "",
    "#![allow(non_camel_case_types, non_snake_case, clippy::all, dead_code, " ++
        "unused_imports)]"]

/-- The lines of an entry of an index. -/
def IndexEntry.lines (entry : IndexEntry) : List String :=
  ["", s!"/// `{entry.domain}` domain.", s!"pub mod {Naming.moduleIdent entry.moduleName};",
    s!"pub use {Naming.moduleIdent entry.moduleName}::*;"]

theorem FileHeader.indexText_eq (header : FileHeader) (entries : List IndexEntry) :
    header.indexText entries =
      joinLines (header.indexOpening ++ entries.flatMap IndexEntry.lines) := by
  have hentries : Layout.allLinesAt 0 (entries.flatMap (·.layout)) =
      entries.flatMap IndexEntry.lines := by
    induction entries with
    | nil => rfl
    | cons entry rest ih =>
      have hentry : Layout.allLinesAt 0 entry.layout = entry.lines := by
        simp [IndexEntry.layout, IndexEntry.lines]
      simp [hentry, ih]
  rw [indexText, Layout.textAll_eq_joinLines]
  simp [hentries, indexOpening, banner]

/-- A line that begins otherwise declares nothing. -/
theorem declaredName?_of_opening (opening name ending : String)
    (h : ¬ opening.toList.take 8 <+: "pub mod ".toList) :
    declaredName? (opening ++ name ++ ending).toList = none := by
  refine if_neg fun hline => h ?_
  refine List.prefix_of_prefix_length_le ?_ hline.1 (List.length_take_le _ _)
  rw [String.toList_append, String.toList_append, List.append_assoc]
  exact (List.take_prefix _ _).trans (List.prefix_append _ _)

theorem declaredName?_declaration (name : String) :
    declaredName? ("pub mod " ++ name ++ ";").toList = some name.toList := by
  have hline : ("pub mod " ++ name ++ ";").toList =
      "pub mod ".toList ++ (name.toList ++ [';']) := by
    simp
  have hname : ("pub mod ".toList ++ (name.toList ++ [';'])).drop 8 = name.toList ++ [';'] := rfl
  have hend : [';'] <:+ "pub mod ".toList ++ (name.toList ++ [';']) :=
    (List.suffix_append _ _).trans (List.suffix_append _ _)
  rw [hline, declaredName?, if_pos ⟨List.prefix_append _ _, hend⟩, hname, List.dropLast_concat]

/-- Of the lines of an entry, one declares a module. -/
theorem IndexEntry.declared_lines (entry : IndexEntry) :
    (entry.lines.map String.toList).filterMap declaredName? =
      [(Naming.moduleIdent entry.moduleName).toList] := by
  have hblank : declaredName? "".toList = none := by decide
  have hdomain : declaredName? (s!"/// `{entry.domain}` domain.").toList = none :=
    declaredName?_of_opening _ _ _ (by decide)
  have hmodule (name : String) : declaredName? (s!"pub mod {name};").toList = some name.toList :=
    declaredName?_declaration name
  have huse (name : String) : declaredName? (s!"pub use {name}::*;").toList = none :=
    declaredName?_of_opening _ _ _ (by decide)
  simp only [lines, List.map_cons, List.map_nil, List.filterMap_cons, List.filterMap_nil, hblank,
    hdomain, hmodule, huse]

theorem FileHeader.declared_indexOpening (header : FileHeader) :
    (header.indexOpening.map String.toList).filterMap declaredName? = [] := by
  have hbanner : declaredName? ("// Code generated by devtools-protogen from protocol version " ++
      s!"{header.version}. DO NOT EDIT.").toList = none := by
    have hline := declaredName?_of_opening
      "// Code generated by devtools-protogen from protocol version " header.version
      ". DO NOT EDIT." (by decide)
    rwa [String.append_assoc] at hline
  have hblank : declaredName? "".toList = none := by decide
  have hversion : declaredName? (s!"//! Protocol version {header.version}.").toList = none :=
    declaredName?_of_opening _ _ _ (by decide)
  have hallow : declaredName?
      ("#![allow(non_camel_case_types, non_snake_case, clippy::all, dead_code, " ++
        "unused_imports)]").toList = none := by
    decide
  simp only [indexOpening, List.map_cons, List.map_nil, List.filterMap_cons, List.filterMap_nil,
    hbanner, hblank, hversion, hallow]

/-- Nothing but the version and the names could bring a newline into a line of an index. -/
theorem FileHeader.newline_not_mem_line {header : FileHeader} {entries : List IndexEntry}
    (hversion : '\n' ∉ header.version.toList)
    (hentries : ∀ entry ∈ entries, '\n' ∉ entry.domain.toList ∧
      '\n' ∉ (Naming.moduleIdent entry.moduleName).toList) :
    ∀ line ∈ header.indexOpening ++ entries.flatMap IndexEntry.lines, '\n' ∉ line.toList := by
  have hbetween {opening name ending : String} (hopening : '\n' ∉ opening.toList)
      (hname : '\n' ∉ name.toList) (hending : '\n' ∉ ending.toList) :
      '\n' ∉ (opening ++ name ++ ending).toList := by
    simp only [String.toList_append, List.mem_append, not_or]
    exact ⟨⟨hopening, hname⟩, hending⟩
  intro line hline
  rcases List.mem_append.mp hline with hopening | hentry
  · simp only [indexOpening, List.mem_cons, List.not_mem_nil, or_false] at hopening
    rcases hopening with rfl | rfl | rfl | rfl | rfl
    · rw [← String.append_assoc]
      exact hbetween (by decide) hversion (by decide)
    · decide
    · exact hbetween (by decide) hversion (by decide)
    · decide
    · decide
  · obtain ⟨entry, hmem, hline⟩ := List.mem_flatMap.mp hentry
    obtain ⟨hdomain, hident⟩ := hentries entry hmem
    simp only [IndexEntry.lines, List.mem_cons, List.not_mem_nil, or_false] at hline
    rcases hline with rfl | rfl | rfl | rfl
    · decide
    · exact hbetween (by decide) hdomain (by decide)
    · exact hbetween (by decide) hident (by decide)
    · exact hbetween (by decide) hident (by decide)

/-- **What an index declares.** -/
theorem FileHeader.declaredModules_indexText {header : FileHeader} {entries : List IndexEntry}
    (hversion : '\n' ∉ header.version.toList)
    (hentries : ∀ entry ∈ entries, '\n' ∉ entry.domain.toList ∧
      '\n' ∉ (Naming.moduleIdent entry.moduleName).toList) :
    declaredModules (header.indexText entries) = entries.map fun entry =>
      String.ofList (bareName (Naming.moduleIdent entry.moduleName).toList) := by
  have hlast : [[]].filterMap declaredName? = [] := by decide
  have hnames : ((entries.flatMap IndexEntry.lines).map String.toList).filterMap declaredName? =
      entries.map fun entry => (Naming.moduleIdent entry.moduleName).toList := by
    rw [List.map_flatMap, List.filterMap_flatMap, List.map_eq_flatMap]
    simp only [IndexEntry.declared_lines]
  rw [declaredModules, header.indexText_eq,
    splitNewlines_joinLines (header.newline_not_mem_line hversion hentries),
    List.filterMap_append, List.map_append (f := String.toList), List.filterMap_append,
    header.declared_indexOpening, hnames, hlast, List.nil_append, List.append_nil, List.map_map]
  rfl

/-! ## Names of modules and of files -/

/-- A name that a module and a file can have alike. -/
structure Naming.NamesBoth (name : String) : Prop where
  ne_empty : name ≠ ""
  no_slash : '/' ∉ name.toList
  no_path : name ∉ pathKeywords
  not_raw : ¬ "r#".toList <+: name.toList

theorem slash_mem_bareName {name : List Char} (h : '/' ∈ name) : '/' ∈ bareName name := by
  unfold bareName
  split
  · simpa using h
  · exact h

namespace Path

theorem mem_of_mem_stem {c : Char} {name : List Char} (h : c ∈ stem name) : c ∈ name := by
  unfold stem at h
  split at h
  · exact h
  · have hmem := List.mem_of_mem_drop (List.mem_reverse.mp h)
    exact List.mem_reverse.mp ((List.dropWhile_sublist _).mem hmem)

theorem slash_not_mem_fileStem (path : String) : '/' ∉ (fileStem path).toList := by
  unfold fileStem
  rw [String.toList_ofList]
  intro hmem
  have hpiece := List.mem_reverse.mp (mem_of_mem_stem hmem)
  simpa using List.mem_takeWhile_imp hpiece

/-- The stem of a generated file is its name, if it has one. -/
theorem stem_append_extension {name : List Char} (hname : name ≠ []) :
    stem (name ++ ".rs".toList) = name := by
  have hdrop : ((name ++ ".rs".toList).reverse.dropWhile (· != '.')).drop 1 = name.reverse := by
    simp
  unfold stem
  rw [hdrop]
  split
  · rename_i hempty
    exact absurd (List.reverse_eq_nil_iff.mp hempty) hname
  · exact List.reverse_reverse name

/-- What stands after the last slash of a text. -/
theorem takeWhile_of_atPiece {front piece : List Char} (hfront : AtPiece front)
    (hpiece : '/' ∉ piece) :
    ((front ++ piece).reverse.takeWhile (· != '/')).reverse = piece := by
  have hall : ∀ c ∈ piece.reverse, (c != '/') = true := by
    intro c hc
    refine bne_iff_ne.mpr ?_
    rintro rfl
    exact hpiece (List.mem_reverse.mp hc)
  have hrest : front.reverse.takeWhile (· != '/') = [] := by
    rcases hfront with rfl | ⟨start, rfl⟩
    · rfl
    · rw [List.reverse_append]
      rfl
  rw [List.reverse_append, List.takeWhile_append_of_pos hall, hrest, List.append_nil,
    List.reverse_reverse]

end Path

/-- The stem of the file of a domain. -/
theorem OutputDir.fileStem_domainPath (out : OutputDir) {name : String}
    (hslash : '/' ∉ name.toList) (hname : name ≠ "") :
    Path.fileStem (out.domainPath name) = name := by
  obtain ⟨front, hpath, hfront⟩ := join_suffix out.dir (name ++ ".rs")
  have hpiece : '/' ∉ (name ++ ".rs").toList := by
    rw [String.toList_append, List.mem_append, not_or]
    exact ⟨hslash, by decide⟩
  rw [Path.fileStem, domainPath, hpath, Path.takeWhile_of_atPiece hfront hpiece,
    String.toList_append, Path.stem_append_extension (by simpa using hname), String.ofList_toList]

theorem OutputDir.fileStem_unnamed (out : OutputDir) :
    Path.fileStem (out.domainPath "") = ".rs" := by
  obtain ⟨front, hpath, hfront⟩ := join_suffix out.dir ("" ++ ".rs")
  rw [Path.fileStem, domainPath, hpath, Path.takeWhile_of_atPiece hfront (by decide)]
  decide

/-- **When module and file have one name.** -/
theorem OutputDir.bareName_eq_fileStem_iff (out : OutputDir) (name : String) :
    String.ofList (bareName (Naming.escapeKeyword name).toList) =
        Path.fileStem (out.domainPath name) ↔ Naming.NamesBoth name := by
  constructor
  · intro heq
    have hslash : '/' ∉ name.toList := by
      intro hmem
      refine Path.slash_not_mem_fileStem (out.domainPath name) ?_
      rw [← heq, String.toList_ofList]
      exact slash_mem_bareName ((mem_escapeKeyword (by decide)).mpr hmem)
    have hname : name ≠ "" := by
      rintro rfl
      rw [out.fileStem_unnamed] at heq
      exact absurd heq (by decide)
    rw [out.fileStem_domainPath hslash hname] at heq
    have hbare := congrArg String.toList heq
    rw [String.toList_ofList] at hbare
    obtain ⟨hpath, hraw⟩ := (bareName_escapeKeyword_iff name).mp hbare
    exact ⟨hname, hslash, hpath, hraw⟩
  · intro h
    rw [(bareName_escapeKeyword_iff name).mpr ⟨h.no_path, h.not_raw⟩, String.ofList_toList,
      out.fileStem_domainPath h.no_slash h.ne_empty]

namespace Compiler

variable {compiler : Compiler} {schema : Schema} {report : VersionReport} {tree tree' : FileTree}

/-- The text of the index of a schema. -/
def indexText (compiler : Compiler) (schema : Schema) : String :=
  (compiler.outputFor schema).header.indexText ((compiler.includedDomains schema).map (·.entry))

/-- The index is written last, so no other file replaces it. -/
theorem read_index (hformatter : compiler.formatter = none) (hdevices : tree.DevicesApart)
    (hlinks : compiler.LinksApart schema tree)
    (h : compiler.compile tree schema = (.ok report, tree')) :
    tree'.read (compiler.outputFor schema).indexPath = .ok (compiler.indexText schema).toUTF8 := by
  obtain ⟨units, hunits, -, hrun⟩ := compile_eq_ok h
  have hpaths := (compiler.outputFor schema).isGenerated_files units
  have hindex := hpaths _ ((compiler.outputFor schema).index_mem_files units)
  rw [hformatter, OutputDir.files, List.flatMap_append, List.flatMap_singleton] at hrun
  obtain ⟨made, hmade, hrun⟩ := FileOp.runAll_cons_eq_ok.mp hrun
  obtain ⟨placed, hdomains, hlast⟩ := FileOp.runAll_append_eq_ok.mp hrun
  have hkept : FileTree.Kept tree made := by
    obtain rfl : _ = made := congrArg Prod.snd hmade
    exact FileTree.makeDirectories_kept tree _
  have hclear : ∀ f ∈ (compiler.outputFor schema).files units, made.Clear f.1 := fun f hf =>
    (hlinks.files f.1 (path_mem_paths hunits f hf)).settled hkept.toSettled
  have hplaced := placed_of_runAll (fun f hf => hpaths f (List.mem_append_left _ hf))
    (hdevices.kept hkept) (fun f hf => hclear f (List.mem_append_left _ hf)) hdomains
  have hclear' := (hclear _ ((compiler.outputFor schema).index_mem_files units)).settled
    hplaced.kept.toSettled
  obtain ⟨hkept', hlocate, hnode, -⟩ :=
    FileOp.place_spec hindex ((hdevices.kept hkept).kept hplaced.kept) hclear' hlast
  rw [indexText, ← entries_of_units hunits]
  exact hindex.read_eq (hclear'.file.settled hkept'.toSettled) hlocate hnode

/-- The modules of the index, by the names of the modules. -/
theorem declaredModules_indexText (hversion : '\n' ∉ schema.version.tag.toList)
    (hnames : ∀ d ∈ compiler.includedDomains schema, '\n' ∉ d.name.toList) :
    declaredModules (compiler.indexText schema) = (compiler.moduleNames schema).map fun name =>
      String.ofList (bareName (Naming.escapeKeyword name).toList) := by
  have hident (d : Domain) :
      Naming.moduleIdent d.entry.moduleName = Naming.escapeKeyword (Naming.moduleName d.name) :=
    congrArg Naming.escapeKeyword (lowercase_lowercase d.name)
  rw [indexText, FileHeader.declaredModules_indexText hversion, List.map_map, moduleNames,
    List.map_map]
  · refine List.map_congr_left fun d _ => ?_
    rw [Function.comp_apply, hident]
    rfl
  · intro entry hentry
    obtain ⟨d, hd, rfl⟩ := List.mem_map.mp hentry
    refine ⟨hnames d hd, ?_⟩
    rw [hident, mem_escapeKeyword (by decide)]
    exact newline_not_mem_lowercase (hnames d hd)

theorem declaredModules_eq_stems_iff {units : List DomainUnit}
    (hversion : '\n' ∉ schema.version.tag.toList)
    (hnames : ∀ d ∈ compiler.includedDomains schema, '\n' ∉ d.name.toList)
    (hunits : compiler.units? schema = .ok units) :
    declaredModules (compiler.indexText schema) =
        (compiler.report schema units).files.dropLast.map Path.fileStem ↔
      ∀ name ∈ compiler.moduleNames schema, Naming.NamesBoth name := by
  have hfiles : (compiler.report schema units).files.dropLast =
      (compiler.moduleNames schema).map (compiler.outputFor schema).domainPath := by
    rw [report_files, OutputDir.files_paths, ← moduleNames_eq hunits, List.map_append]
    exact List.dropLast_concat
  rw [declaredModules_indexText hversion hnames, hfiles, List.map_map, List.map_inj_left]
  exact forall₂_congr fun name _ => (compiler.outputFor schema).bareName_eq_fileStem_iff name

/-- **When the index declares the files.** After a run that succeeds, the modules that the index
declares are, in order, the stems of the files of the domains exactly if every module has a name
that a file can have as well. In a run without a formatter this index is found at its path. -/
theorem declaredModules_iff (hversion : '\n' ∉ schema.version.tag.toList)
    (hnames : ∀ d ∈ compiler.includedDomains schema, '\n' ∉ d.name.toList)
    (h : compiler.compile tree schema = (.ok report, tree')) :
    (declaredModules (compiler.indexText schema) = report.files.dropLast.map Path.fileStem ↔
      ∀ name ∈ compiler.moduleNames schema, Naming.NamesBoth name) ∧
    (compiler.formatter = none → tree.DevicesApart → compiler.LinksApart schema tree →
      tree'.read (compiler.outputFor schema).indexPath =
        .ok (compiler.indexText schema).toUTF8) := by
  refine ⟨?_, fun hformatter hdevices hlinks => read_index hformatter hdevices hlinks h⟩
  obtain ⟨units, hunits, rfl, -⟩ := compile_eq_ok h
  exact declaredModules_eq_stems_iff hversion hnames hunits

theorem declaredModules_of_pageAndType : ∃ report tree',
    plain.compile emptyTree (schemaOfNames ["Page", "Type"]) = (.ok report, tree') ∧
      declaredModules (plain.indexText (schemaOfNames ["Page", "Type"])) =
        report.files.dropLast.map Path.fileStem ∧
      tree'.read (plain.outputFor (schemaOfNames ["Page", "Type"])).indexPath =
        .ok (plain.indexText (schemaOfNames ["Page", "Type"])).toUTF8 := by
  have hok : (plain.compile emptyTree (schemaOfNames ["Page", "Type"])).1.isOk = true := by
    decide +kernel
  obtain ⟨report, tree', hcompile⟩ := exists_eq_ok_of_isOk hok
  have hnames : plain.moduleNames (schemaOfNames ["Page", "Type"]) = ["page", "type"] := by decide
  obtain ⟨hstems, hread⟩ := declaredModules_iff (by decide) (by decide) hcompile
  refine ⟨report, tree', hcompile, hstems.mpr ?_,
    hread rfl emptyTree_devicesApart (emptyTree_linkFree.linksApart _ _)⟩
  rw [hnames]
  intro name hname
  rcases List.mem_cons.mp hname with rfl | hname
  · exact ⟨by decide, by decide, by decide, by decide⟩
  · obtain rfl := List.mem_singleton.mp hname
    exact ⟨by decide, by decide, by decide, by decide⟩

/-- The index declares a module for the domain `Self` under a name that its file does not have. -/
theorem not_forall_declaredModules :
    ¬ ∀ (compiler : Compiler) (schema : Schema) (report : VersionReport) (tree tree' : FileTree),
      compiler.formatter = none → tree.DevicesApart → compiler.LinksApart schema tree →
        compiler.compile tree schema = (.ok report, tree') →
          ∀ text, tree'.read (compiler.outputFor schema).indexPath = .ok text.toUTF8 →
            declaredModules text = report.files.dropLast.map Path.fileStem := by
  intro h
  have hok : (plain.compile emptyTree (schemaOfNames ["Self"])).1.isOk = true := by
    decide +kernel
  obtain ⟨report, tree', hcompile⟩ := exists_eq_ok_of_isOk hok
  have hlinks := emptyTree_linkFree.linksApart plain (schemaOfNames ["Self"])
  have hdeclared := h plain (schemaOfNames ["Self"]) report emptyTree tree' rfl
    emptyTree_devicesApart hlinks hcompile _
    (read_index rfl emptyTree_devicesApart hlinks hcompile)
  obtain ⟨units, hunits, rfl, -⟩ := compile_eq_ok hcompile
  have hnames : plain.moduleNames (schemaOfNames ["Self"]) = ["self"] := by decide
  have hboth := (declaredModules_eq_stems_iff (by decide) (by decide) hunits).mp hdeclared
  rw [hnames] at hboth
  exact (hboth "self" List.mem_cons_self).no_path (by decide)

end Compiler

end Bindery
