import Bindery.Formatter
import Bindery.Text.Blank
import Bindery.Text.Quoted

/-!
# Options of a run

What a run generates and how, with the values that hold unless others are given. A `Compiler` is
made from options and an output directory after both have been checked.
-/

namespace Bindery

/-- The module from which generated files import the runtime unless another one is named. -/
def standardRuntimePath : String := "devtools_protogen::runtime"

/-- What a run generates. -/
structure CompilerOptions where
  includeExperimental : Bool := true
  runtimePath : String := standardRuntimePath
  formatter : Option FormatterOptions := some .standard
  deriving DecidableEq, Repr

/-- Why options make no sense, if they do not. -/
def CompilerOptions.problem? (options : CompilerOptions) : Option String :=
  if Text.allBlank options.runtimePath.toList then some "Runtime path must not be empty"
  else
    match options.formatter with
    | some formatter =>
      if Text.allBlank formatter.program.toList then some "Formatter program must not be empty"
      else none
    | none => none

/-- A run that is ready to start. -/
structure Compiler where
  outputDir : String
  options : CompilerOptions
  formatter : Option Formatter

/-- A compiler as it is shown to a reader. -/
def Compiler.describe (compiler : Compiler) : String :=
  let formatter := match compiler.formatter with
    | some f => "Some(" ++ Text.quote f.program ++ ")"
    | none => "None"
  "Compiler \x7b output_dir: " ++ Text.quotePath compiler.outputDir ++ ", include_experimental: " ++
    toString compiler.options.includeExperimental ++ ", formatter: " ++ formatter ++ ", .. \x7d"

/-- The request for a compiler, before it has been checked. -/
structure CompilerRequest where
  outputDir : Option String := none
  options : CompilerOptions := {}

namespace CompilerRequest

/-- The output directory, which must be given, must have a name, and must not be a file. -/
def outputDir? (tree : FileTree) (request : CompilerRequest) : Except Error String :=
  match request.outputDir with
  | none =>
    .error (.config ("Output directory is required. Use .output_dir() to set it.\n" ++
      "Example: Compiler::builder().output_dir(\"src/bindings\")"))
  | some dir =>
    if dir.isEmpty then .error (.config "Output directory must not be empty")
    else if tree.isFile dir then .error (.config s!"Output path is a file: {dir}")
    else .ok dir

/-- Checks a request and looks up its formatter. -/
def build [Launcher] (tree : FileTree) (request : CompilerRequest) :
    Except Error (Compiler × List Warning) := do
  let dir ← request.outputDir? tree
  match request.options.problem? with
  | some reason => throw (.config reason)
  | none =>
    let (formatter, warnings) := match request.options.formatter with
      | some options => Formatter.discover tree options
      | none => (none, [])
    return (⟨dir, request.options, formatter⟩, warnings)

end CompilerRequest

end Bindery
