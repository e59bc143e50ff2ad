import Bindery.Compiler.Options
import Bindery.Output.Placement
import Bindery.Schema.Merge
import Bindery.Schema.Reading

/-!
# Compiling

What compiling a schema will do is worked out before any file is touched: the steps, in order, and
how the run ends if none of them fails. The file of a domain is placed before the next domain is
generated, so a domain that cannot be generated stops the plan after the files of the domains
before it.

`Compiler.compile` does the plan of one schema. `Compiler.compileFiles` reads schema files, merges
those of one version, and compiles the versions in increasing order; a file that cannot be read
stops it before anything is written, and a version that fails leaves the versions before it
complete.
-/

namespace Bindery

/-! ## The plan of a version -/

/-- What compiling one version has done. -/
structure VersionReport where
  version : Version
  dir : String
  /-- The paths of the files, the index last. -/
  files : List String
  types : Nat
  commands : Nat
  events : Nat
  skippedDeclarations : Nat
  skippedDomains : List String
  deriving DecidableEq, Repr

/-- Steps to do, and what comes out if all of them succeed. -/
structure Plan (α : Type) where
  ops : List FileOp
  outcome : Except Error α

/-! ## Keeping account -/

/-- What a run has put on record. -/
structure Account where
  files : List String := []
  counts : DeclarationCounts := ⟨0, 0, 0, 0⟩
  skippedDomains : List String := []
  /-- What the index is going to list. -/
  entries : List IndexEntry := []

namespace Account

/-- Puts a domain on record that is left out. -/
def skip (a : Account) (d : Domain) : Account :=
  { a with skippedDomains := a.skippedDomains ++ [d.name] }

/-- Puts a domain on record that is generated, with the path of its file. -/
def record (a : Account) (u : DomainUnit) (path : String) : Account :=
  { a with
    files := a.files ++ [path]
    counts := a.counts.add u.counts
    entries := a.entries ++ [.ofUnit u] }

/-- The report of a version, once all its domains are on record: the index is the last file. -/
def report (a : Account) (version : Version) (out : OutputDir) : VersionReport where
  version := version
  dir := out.dir
  files := a.files ++ [out.indexPath]
  types := a.counts.types
  commands := a.counts.commands
  events := a.counts.events
  skippedDeclarations := a.counts.skipped
  skippedDomains := a.skippedDomains

end Account

/-! ## Planning a version -/

/-- The plan for domains, in order, after others that are on record: what is on record at the end
comes out. -/
def planDomains (table : NameTable) (selection : Selection) (out : OutputDir) (a : Account) :
    List Domain → Plan Account
  | [] => ⟨[], .ok a⟩
  | d :: rest =>
    if selection.includes d.experimental then
      match d.unit? table selection with
      | .error e => ⟨[], .error e⟩
      | .ok u =>
        let recorded := a.record u (out.domainPath u.moduleName)
        let later := planDomains table selection out recorded rest
        ⟨out.placeDomain u ++ later.ops, later.outcome⟩
    else planDomains table selection out (a.skip d) rest

namespace Compiler

variable (compiler : Compiler)

/-- Which declarations a compiler generates. -/
def selection : Selection := ⟨compiler.options.includeExperimental⟩

/-- Where the files of a schema go. -/
def outputFor (schema : Schema) : OutputDir where
  dir := Path.join compiler.outputDir schema.version.dirName
  header := ⟨schema.version.tag, compiler.options.runtimePath⟩

/-- The plan of a schema: its directory, the files of its domains, and the index. -/
def plan (schema : Schema) : Plan VersionReport :=
  let out := compiler.outputFor schema
  let table := NameTable.build schema.domains
  let domains := planDomains table compiler.selection out {} schema.domains
  let start := FileOp.makeDirectories out.dir :: domains.ops
  match domains.outcome with
  | .error e => ⟨start, .error e⟩
  | .ok a => ⟨start ++ out.placeIndex a.entries, .ok (a.report schema.version out)⟩

end Compiler

/-! ## Running plans -/

/-- What a whole run has done, one report for each version. -/
structure CompileReport where
  versions : List VersionReport
  deriving DecidableEq, Repr

/-- How many files were written. -/
def CompileReport.fileCount (report : CompileReport) : Nat :=
  (report.versions.flatMap (·.files)).length

namespace Compiler

variable (compiler : Compiler)

/-- Compiles one schema. -/
def compile (tree : FileTree) (schema : Schema) : Except Error VersionReport × FileTree :=
  let plan := compiler.plan schema
  match FileOp.runAll compiler.formatter tree plan.ops with
  | (.error e, tree) => (.error e, tree)
  | (.ok (), tree) => (plan.outcome, tree)

/-- Compiles schemas one after the other, up to the first that fails. -/
def compileAll (tree : FileTree) : List Schema → Except Error (List VersionReport) × FileTree
  | [] => (.ok [], tree)
  | schema :: rest =>
    match compiler.compile tree schema with
    | (.error e, tree) => (.error e, tree)
    | (.ok report, tree) =>
      let (reports, tree) := compileAll tree rest
      ((report :: ·) <$> reports, tree)

end Compiler

/-- Reads the schema file at a path. -/
def FileTree.readSchema (tree : FileTree) (path : String) : Except Error Schema := do
  let text ← (tree.readText path).mapError (.schemaRead path)
  Schema.parseFile path text

/-- Compiles schema files. -/
def Compiler.compileFiles (compiler : Compiler) (tree : FileTree) (paths : List String) :
    Except Error CompileReport × FileTree × List Warning :=
  if paths.isEmpty then
    (.error (.config "At least one schema file is required"), tree, [])
  else
    match paths.mapM tree.readSchema with
    | .error e => (.error e, tree, [])
    | .ok files =>
      let (schemas, warnings) := Schema.merge files
      let (reports, tree) := compiler.compileAll tree schemas
      (CompileReport.mk <$> reports, tree, warnings)

end Bindery
