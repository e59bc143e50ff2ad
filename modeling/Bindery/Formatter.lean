import Bindery.Error
import Bindery.File.Operations

/-!
# Formatters

A formatter is a program that is run on every file once it is in place. It is looked up once: a
program that is not installed costs only the formatting, with a warning, but one that runs and
fails stops the run.

What a program does is not for this library to say. A `Launcher` is the system on which a run takes
place, as far as it starts programs, and everything here is for any launcher.
-/

namespace Bindery

/-- What starts programs. -/
class Launcher where
  /-- The directories in which a bare name is looked for, in order. -/
  searchPath : List String
  /-- Runs the program at a path on arguments, with nothing to read and its output dropped, until
  it ends: how it ends, and the files then. It fails if the program cannot be started. -/
  execute : FileTree → String → List String → Except SystemError (ExitStatus × FileTree)

/-- The path of a program. A name with more than one component is taken as it is; a single one is
looked for along the search path. -/
def Launcher.find? [Launcher] (tree : FileTree) (name : String) : Option String :=
  if 1 < Path.componentCount name then
    if tree.isFile name then some name else none
  else (searchPath.map (Path.join · name)).find? tree.isFile

/-- Which formatter to use. -/
structure FormatterOptions where
  program : String
  /-- The arguments in front of the path of the file. -/
  args : List String := []
  deriving DecidableEq, Repr

namespace FormatterOptions

/-- The formatter that is used unless another one is named. -/
def standard : FormatterOptions := ⟨"rustfmt", ["--edition", "2021"]⟩

def withArgs (options : FormatterOptions) (args : List String) : FormatterOptions :=
  { options with args := options.args ++ args }

end FormatterOptions

/-- A formatter that was found. -/
structure Formatter where
  /-- The program as it was named. -/
  program : String
  /-- The path of the program. -/
  executable : String
  args : List String
  /-- What the program does with its arguments. -/
  execute : FileTree → List String → Except SystemError (ExitStatus × FileTree)

namespace Formatter

/-- The warning for a formatter that is not installed. -/
def notFound (program : String) : Warning :=
  ⟨"Formatter not found, output will be unformatted", [("program", .text program)]⟩

/-- Looks up a formatter. -/
def discover [Launcher] (tree : FileTree) (options : FormatterOptions) :
    Option Formatter × List Warning :=
  match Launcher.find? tree options.program with
  | some executable =>
    let execute (tree : FileTree) := Launcher.execute tree executable
    (some ⟨options.program, executable, options.args, execute⟩, [])
  | none => (none, [notFound options.program])

/-- Formats the file at a path. What the program did to the files stands even if it failed. -/
def run (formatter : Formatter) (tree : FileTree) (path : String) :
    Except Error Unit × FileTree :=
  match formatter.execute tree (formatter.args ++ [path]) with
  | .error cause => (.error (.io cause), tree)
  | .ok (status, tree) =>
    if status.isSuccess then (.ok (), tree)
    else (.error (.formatterFailed formatter.program path status), tree)

end Formatter

end Bindery
