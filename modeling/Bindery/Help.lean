import Bindery.Compiler.Options

/-!
# Help

The text that explains the arguments of the program, in a short form with a line for each of them
and in a long form with paragraphs. Lines are at most a hundred characters wide.
-/

namespace Bindery.Help

/-- What is said of an argument. -/
structure Entry where
  /-- How it is written, after the column of the short names. -/
  form : String
  summary : String
  /-- Paragraphs that stand in place of the summary in the long form. -/
  paragraphs : List String := []
  /-- Its default, and the values that it may have. -/
  notes : List String := []

def width : Nat := 100

def spaces (n : Nat) : String := String.ofList (List.replicate n ' ')

/-- Words on lines that are at most so wide; a wider word has a line of its own. `line` holds what
is on the line so far. -/
def fill (limit : Nat) (line : String) : List String → List String
  | [] => [line]
  | word :: rest =>
    if line.length + 1 + word.length ≤ limit then fill limit (line ++ " " ++ word) rest
    else line :: fill limit word rest

/-- The lines of a text that is wrapped. -/
def wrapped (limit : Nat) (text : String) : List String :=
  match text.splitOn " " with
  | [] => []
  | word :: rest => fill limit word rest

/-- Lines of which the second and later ones are indented. -/
def hanging (indent : Nat) (lines : List String) : String :=
  ("\n" ++ spaces indent).intercalate lines

/-- An entry on a line of its own, the text beginning in a column. -/
def Entry.short (column : Nat) (e : Entry) : String :=
  let text := " ".intercalate (e.summary :: e.notes)
  "  " ++ e.form ++ spaces (column - 2 - e.form.length) ++
    hanging column (wrapped (width - column) text) ++ "\n"

/-- An entry with its text below it. -/
def Entry.long (e : Entry) : String :=
  let paragraphs := if e.paragraphs.isEmpty then [e.summary] else e.paragraphs
  let texts := paragraphs.map (wrapped (width - 10)) ++ if e.notes.isEmpty then [] else [e.notes]
  "  " ++ e.form ++ "\n" ++ spaces 10 ++ hanging 10 ([""].intercalate texts) ++ "\n"

def schemas : Entry where
  form := "<SCHEMA>..."
  summary := "Protocol schema files; files sharing a version are merged"

/-- The options of the program, but the one that asks for help. -/
def options : List Entry :=
  [{ form := "-o, --output-dir <DIR>"
     summary := "Directory version directories are written into" },
    { form := "    --experimental <BOOL>"
      summary := "Emit experimental domains and declarations"
      paragraphs :=
        ["Emit experimental domains and declarations.",
          "With \x60false\x60, stable declarations that reference an experimental type keep the " ++
            "bare name, which is left undefined and fails to compile."]
      notes := ["[default: true]", "[possible values: true, false]"] },
    { form := "    --runtime-path <PATH>"
      summary := "Module path generated files import the runtime from"
      notes := [s!"[default: {standardRuntimePath}]"] },
    { form := "    --formatter <PROGRAM>"
      summary := "Formatter program; the file path is appended to its arguments"
      notes := [s!"[default: {FormatterOptions.standard.program}]"] },
    { form := "    --formatter-arg <ARG>"
      summary := "Argument passed to the formatter before the file path (repeatable)" },
    { form := "    --no-format", summary := "Skip formatting" },
    { form := "-v, --verbose...", summary := "Increase log verbosity (-v debug, -vv trace)" }]

/-- What stands before the entries. -/
def opening : String :=
  "Compile a remote-debugging protocol schema into Rust bindings.\n\n" ++
    "Usage: devtools-protogen [OPTIONS] --output-dir <DIR> <SCHEMA>...\n"

/-- The whole text. -/
def text (long : Bool) : String :=
  if long then
    let help : Entry := { form := "-h, --help", summary := "Print help (see a summary with '-h')" }
    opening ++ "\nArguments:\n" ++ schemas.long ++ "\nOptions:\n" ++
      "\n".intercalate ((options ++ [help]).map Entry.long)
  else
    let help : Entry := { form := "-h, --help", summary := "Print help (see more with '--help')" }
    opening ++ "\nArguments:\n" ++ schemas.short 15 ++ "\nOptions:\n" ++
      String.join ((options ++ [help]).map (Entry.short 29))

end Bindery.Help
