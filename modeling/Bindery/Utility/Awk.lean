import Bindery.Utility.Awk.Evaluation
import Bindery.Utility.Awk.Reader
import Bindery.Utility.Errand

/-!
# Working on records

`awk` runs a script on the records of files: for each of them, and for the fields it is made of, the
script says what is done.
-/

namespace Bindery.Utility

namespace Awk

/-- What the options of a call say. -/
structure Options where
  /-- The separator of fields. -/
  separator : Option String := none
  assignments : List (String × String) := []
  files : List String := []
  operands : List String := []
  asksVersion : Bool := false
  asksHelp : Bool := false

/-- Reads the options of a call. -/
def Options.read (o : Options) : Nat → List String → Except String Options
  | 0, words => .ok { o with operands := words }
  | _, [] => .ok o
  | fuel + 1, word :: rest =>
    match word.toList with
    | ['-', '-'] => .ok { o with operands := rest }
    | ['-'] => .ok { o with operands := word :: rest }
    | '-' :: c :: cs =>
      let value? : Option (String × List String) :=
        if !cs.isEmpty then some (String.ofList cs, rest)
        else
          match rest with
          | value :: rest => some (value, rest)
          | [] => none
      if word == "--version" then .ok { o with asksVersion := true }
      else if word == "--help" then .ok { o with asksHelp := true }
      else if !(['F', 'v', 'f', 'W'].contains c) then .error s!"not an option: {word}"
      else
        match value? with
        | none => .error s!"option -{c} lacks argument"
        | some (value, rest) =>
          match c with
          | 'F' => { o with separator := some value }.read fuel rest
          | 'f' => { o with files := o.files ++ [value] }.read fuel rest
          | 'W' =>
            if "version".startsWith value then .ok { o with asksVersion := true }
            else if "help".startsWith value || "usage".startsWith value then
              .ok { o with asksHelp := true }
            else o.read fuel rest
          | _ =>
            match Machine.assignment? value with
            | some entry => { o with assignments := o.assignments ++ [entry] }.read fuel rest
            | none => .error s!"improper assignment: -v {value}"
    | _ => .ok { o with operands := word :: rest }

/-- The globals that a script finds. -/
def startVariables : List (String × Value) :=
  [("CONVFMT", .text "%.6g"), ("OFMT", .text "%.6g"), ("FS", .text " "), ("OFS", .text " "),
    ("ORS", .text "\n"), ("RS", .text "\n"), ("SUBSEP", .text "\x1c"), ("NR", .number 0.0),
    ("FNR", .number 0.0), ("RSTART", .number 0.0), ("RLENGTH", .number (-1.0))]

/-- The machine that begins to run a script. -/
def machineOf (c : Call) (a : Answer) (script : Script) (o : Options) (args : List String) :
    Machine :=
  let globals := startVariables.foldl (fun (vs : Std.HashMap String Value) (name, v) =>
    vs.insert name v) {}
  let m : Machine :=
    { call := c
      answer := a
      script
      globals
      within := Array.replicate script.rules.length false }
  let fill (m : Machine) (name : String) (entries : List (Key × Value)) : Machine :=
    let (index, m) := m.tableOf (.shared name)
    m.changeTable index fun t => entries.foldl (fun t (key, v) => t.set key v) t
  let words := "awk" :: args
  let m := fill m "ARGV" (words.zipIdx.map fun (word, i) => (.number i, .input word))
  let m := fill m "ENVIRON" (c.environment.map fun (name, value) => (.text name, .input value))
  let m := { m with globals := m.globals.insert "ARGC" (.ofNat words.length) }
  let m := match o.separator with
    | some text => { m with globals := m.globals.insert "FS" (.text (textOf text.toList)) }
    | none => m
  o.assignments.foldl (fun m (name, value) => m.assign name value) m

/-- The text of a script in files. -/
def scriptText (c : Call) (a : Answer) (files : List String) : Except String (String × Answer) :=
  files.foldlM (fun (text, a) file =>
    match c.read a file with
    | (.ok more, a) => .ok (text ++ more ++ "\n", a)
    | (.error cause, _) => .error s!"cannot open \"{file}\" ({cause.reason})") ("", a)

def usage : String := "Usage: mawk [Options] [Program] [file ...]\n"

end Awk

def awk (c : Call) : Work Answer :=
  let title := lastPart c.name
  let fail (text : String) : Work Answer :=
    let text := text.replace "\nline " s!"\n{title}: line "
    .done (c.start.fail s!"{title}: {text}" 2)
  match Awk.Options.read {} (c.args.length + 1) c.args with
  | .error text => fail text
  | .ok o =>
    if o.asksVersion then .done (c.start.print "mawk 1.3.4 20240123\n")
    else if o.asksHelp then .done (c.start.print Awk.usage)
    else
      match o.files, o.operands with
      | [], [] => .done (c.start.print Awk.usage)
      | [], text :: args => run fail o c.start text args
      | files, args =>
        match Awk.scriptText c c.start files with
        | .ok (text, a) => run fail o a text args
        | .error text => fail text
where
  run (fail : String → Work Answer) (o : Awk.Options) (a : Answer) (text : String)
      (args : List String) : Work Answer :=
    match Awk.Script.read text with
    | .error text => fail text
    | .ok script => do
      let (answer, _) ← Awk.Run.whole.run (Awk.machineOf c a script o args)
      return answer

end Bindery.Utility
