import Bindery.Compiler.Run
import Bindery.Help
import Bindery.Program

/-!
# The command line

`Arguments.parse?` reads the arguments of the program, in the usual conventions: options by a long
or a short name, a value in the same word or in the next one, short names run together, and a
double dash before words that only look like options. `CommandLine.run` does what they ask for and
says what is printed.
-/

namespace Bindery.CommandLine

/-- What the arguments ask for. -/
structure Arguments where
  schemas : List String := []
  outputDir : Option String := none
  experimental : Option Bool := none
  runtimePath : Option String := none
  formatter : Option String := none
  formatterArgs : List String := []
  noFormat : Bool := false
  verbosity : Nat := 0
  deriving Repr

/-- An option of the program. -/
inductive Opt where
  | outputDir
  | experimental
  | runtimePath
  | formatter
  | formatterArg
  | noFormat
  | verbose
  | help
  deriving DecidableEq

/-- What came of reading arguments. -/
inductive Parsed where
  | run (arguments : Arguments)
  /-- The arguments are to be explained, at length or not. -/
  | help (long : Bool)
  /-- The arguments are not understood. -/
  | usageError

/-- The option of a long name. -/
def Opt.ofLong? : String → Option Opt
  | "output-dir" => some outputDir
  | "experimental" => some experimental
  | "runtime-path" => some runtimePath
  | "formatter" => some formatter
  | "formatter-arg" => some formatterArg
  | "no-format" => some noFormat
  | "verbose" => some verbose
  | "help" => some help
  | _ => none

/-- The option of a short name. -/
def Opt.ofShort? : Char → Option Opt
  | 'o' => some outputDir
  | 'v' => some verbose
  | 'h' => some help
  | _ => none

/-- Whether an option is followed by a value. -/
def Opt.takesValue : Opt → Bool
  | outputDir | experimental | runtimePath | formatter | formatterArg => true
  | noFormat | verbose | help => false

/-- Sets an option to a value; nothing if the value does not fit or the option was set before. -/
def Arguments.set? (a : Arguments) (opt : Opt) (value : String) : Option Arguments :=
  match opt with
  | .outputDir =>
    if a.outputDir.isSome || value.isEmpty then none else some { a with outputDir := some value }
  | .experimental =>
    if a.experimental.isSome then none
    else if value = "true" then some { a with experimental := some true }
    else if value = "false" then some { a with experimental := some false }
    else none
  | .runtimePath =>
    if a.runtimePath.isSome then none else some { a with runtimePath := some value }
  | .formatter =>
    if a.formatter.isSome then none else some { a with formatter := some value }
  | .formatterArg => some { a with formatterArgs := a.formatterArgs ++ [value] }
  | .noFormat => if a.noFormat then none else some { a with noFormat := true }
  | .verbose => some { a with verbosity := a.verbosity + 1 }
  | .help => none

/-- Whether a word may be the value of an option that comes before it. A word that looks like an
option may only be an argument of the formatter. -/
def mayBeValue (opt : Opt) (word : String) : Bool :=
  opt = .formatterArg || word = "-" || word.toList.head? != some '-'

/-- The name and the value of a long option that is written as one word. -/
def splitEquals (cs : List Char) : String × Option String :=
  match cs.dropWhile (· != '=') with
  | _ :: value => (String.ofList (cs.takeWhile (· != '=')), some (String.ofList value))
  | [] => (String.ofList cs, none)

/-- What reading one word comes to. -/
inductive Step where
  | done (arguments : Arguments)
  /-- The option takes its value from the next word. -/
  | pending (arguments : Arguments) (opt : Opt)
  | help (long : Bool)
  | usageError

def Step.ofSet : Option Arguments → Step
  | some a => .done a
  | none => .usageError

/-- Reads a long option, its dashes removed. -/
def readLong (a : Arguments) (cs : List Char) : Step :=
  let (name, value) := splitEquals cs
  match Opt.ofLong? name, value with
  | none, _ => .usageError
  | some .help, none => .help true
  | some opt, some value => if opt.takesValue then .ofSet (a.set? opt value) else .usageError
  | some opt, none => if opt.takesValue then .pending a opt else .ofSet (a.set? opt "")

/-- Reads short options that are run together, the dash removed. An option with a value takes the
rest of the word, without the equals sign in front of it. -/
def readShort (a : Arguments) : List Char → Step
  | [] => .done a
  | c :: cs =>
    match Opt.ofShort? c with
    | none => .usageError
    | some .help => .help false
    | some opt =>
      if opt.takesValue then
        match cs with
        | [] => .pending a opt
        | '=' :: value => .ofSet (a.set? opt (String.ofList value))
        | value => .ofSet (a.set? opt (String.ofList value))
      else
        match a.set? opt "" with
        | some a => readShort a cs
        | none => .usageError

/-- Adds a schema file. -/
def Arguments.addSchema? (a : Arguments) (word : String) : Option Arguments :=
  if word.isEmpty then none else some { a with schemas := a.schemas ++ [word] }

/-- Reads one word that is not a value. -/
def readWord (a : Arguments) (word : String) : Step :=
  match word.toList with
  | '-' :: '-' :: name => readLong a name
  | '-' :: c :: cs => readShort a (c :: cs)
  | _ => .ofSet (a.addSchema? word)

/-- Reads words that are all schema files. -/
def readSchemas (a : Arguments) : List String → Parsed
  | [] => .run a
  | word :: rest =>
    match a.addSchema? word with
    | some a => readSchemas a rest
    | none => .usageError

/-- Reads the words of a command line; `pending` is an option that waits for its value. -/
def readWords (a : Arguments) (pending : Option Opt) : List String → Parsed
  | [] => if pending.isSome then .usageError else .run a
  | word :: rest =>
    match pending with
    | some opt =>
      if mayBeValue opt word then
        match a.set? opt word with
        | some a => readWords a none rest
        | none => .usageError
      else .usageError
    | none =>
      if word = "--" then readSchemas a rest
      else
        match readWord a word with
        | .done a => readWords a none rest
        | .pending a opt => readWords a (some opt) rest
        | .help long => .help long
        | .usageError => .usageError

/-- Reads a command line. The output directory and at least one schema file must be given. -/
def Arguments.parse (words : List String) : Parsed :=
  match readWords {} none words with
  | .run a => if a.schemas.isEmpty || a.outputDir.isNone then .usageError else .run a
  | other => other

/-- The formatter that the arguments ask for. -/
def Arguments.formatterOptions (a : Arguments) : Option FormatterOptions :=
  if a.noFormat then none
  else
    let program := a.formatter.getD FormatterOptions.standard.program
    if a.formatterArgs.isEmpty && program == FormatterOptions.standard.program then some .standard
    else some ⟨program, a.formatterArgs⟩

/-- The compiler that the arguments ask for. -/
def Arguments.request (a : Arguments) : CompilerRequest where
  outputDir := a.outputDir
  options := {
    includeExperimental := a.experimental.getD true
    runtimePath := a.runtimePath.getD standardRuntimePath
    formatter := a.formatterOptions }

/-- The line that is printed for a version. -/
def summary (report : VersionReport) : String :=
  let skipped := report.skippedDeclarations + report.skippedDomains.length
  s!"{report.version.tag}: {report.files.length} files, {report.types} types, " ++
    s!"{report.commands} commands, {report.events} events ({skipped} skipped) -> {report.dir}\n"

/-- What the program prints, and how it ends. -/
structure Outcome where
  code : Nat
  output : String := ""
  errors : String := ""
  deriving Repr

/-- How the program ends when a run fails. -/
def Outcome.ofError (e : Error) : Outcome :=
  { code := 1, errors := "error: " ++ e.message.getD "malformed JSON" ++ "\n" }

/-- What programs wrote to the terminal since a tree was what it was before. -/
def written (before after : FileTree) : String :=
  let bytes := after.console.extract before.console.size after.console.size
  (String.fromUTF8? bytes).getD (Text.Octets.ofBytes bytes)

/-- Runs the program on its arguments. What formatters wrote to the terminal stands before what the
program itself has to say. -/
def run [Launcher] (tree : FileTree) (words : List String) : Outcome × FileTree :=
  match Arguments.parse words with
  | .usageError => ({ code := 2, errors := Help.opening }, tree)
  | .help long => ({ code := 0, output := Help.text long }, tree)
  | .run a =>
    match a.request.build tree with
    | .error e => (.ofError e, tree)
    | .ok (compiler, _) =>
      let (result, after, _) := compiler.compileFiles tree a.schemas
      let outcome : Outcome := match result with
        | .error e => .ofError e
        | .ok report => { code := 0, output := String.join (report.versions.map summary) }
      ({ outcome with errors := written tree after ++ outcome.errors }, after)

end Bindery.CommandLine
