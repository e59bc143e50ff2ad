import Bindery.Utility.Arguments
import Bindery.Utility.Attributes
import Bindery.Utility.Awk
import Bindery.Utility.Blocks
import Bindery.Utility.Characters
import Bindery.Utility.Columns
import Bindery.Utility.Copying
import Bindery.Utility.Counting
import Bindery.Utility.Difference
import Bindery.Utility.Directories
import Bindery.Utility.Display
import Bindery.Utility.Dump
import Bindery.Utility.Excerpt
import Bindery.Utility.Expression
import Bindery.Utility.Find
import Bindery.Utility.Grep
import Bindery.Utility.Identity
import Bindery.Utility.Launching
import Bindery.Utility.Links
import Bindery.Utility.Listing
import Bindery.Utility.Paragraphs
import Bindery.Utility.Progression
import Bindery.Utility.Sed.Editor
import Bindery.Utility.Small
import Bindery.Utility.SortedFiles
import Bindery.Utility.Sorting

/-!
# The utilities of a host

The names of the utilities, and what each of them does.
-/

namespace Bindery.Utility

/-- The utilities that do their work by themselves. -/
def simple : List (String × (Call → Answer)) :=
  [("true", (·.start)), ("false", fun c => { c.start with status := 1 }), ("sync", (·.start)),
    -- texts and numbers
    ("echo", echo), ("printf", printf), ("test", fun c => test c c.args), ("[", bracket),
    ("basename", basename), ("dirname", dirname), ("pwd", pwd), ("seq", seq), ("sleep", sleep),
    ("expr", expr), ("factor", factor),
    -- users and hosts
    ("whoami", whoami), ("logname", logname), ("users", users), ("groups", groups),
    ("id", identity), ("tty", tty), ("uname", uname), ("arch", arch),
    -- showing files
    ("cat", cat), ("nl", nl), ("tac", tac), ("rev", rev), ("tee", tee), ("head", head),
    ("tail", tail), ("cut", cut), ("split", split), ("wc", wc), ("cksum", cksum), ("sum", sum),
    -- lines and characters
    ("sort", sort), ("uniq", uniq), ("comm", comm), ("join", join), ("tr", tr), ("cmp", cmp),
    ("diff", diff),
    ("paste", paste), ("fold", fold), ("fmt", fmt), ("expand", expand), ("unexpand", unexpand),
    ("od", od), ("base64", base64), ("base32", base32),
    ("grep", grep), ("egrep", egrep), ("fgrep", fgrep),
    -- files and directories
    ("mkdir", mkdir), ("rmdir", rmdir), ("rm", rm), ("unlink", unlink), ("touch", touch),
    ("cp", cp), ("dd", dd), ("mv", mv), ("ln", ln), ("install", install), ("mktemp", mktemp),
    ("ls", ls),
    ("chmod", chmod), ("chown", chown), ("chgrp", chown), ("truncate", truncate), ("stat", stat),
    ("readlink", readlink), ("realpath", realpath),
    -- programs
    ("printenv", printenv), ("which", which), ("yes", yes)] ++
  DigestKind.all.map fun k => (k.utility, k.run)

/-- The utilities that may run other programs. -/
def working : List (String × (Call → Work Answer)) :=
  [("sed", sed), ("env", env), ("nohup", nohup), ("nice", nice), ("stdbuf", stdbuf),
    ("setsid", setsid), ("timeout", timeout), ("xargs", xargs), ("find", find),
    ("awk", awk), ("mawk", awk)]

/-- The names of the utilities of a host. -/
def names : List String := simple.map (·.1) ++ working.map (·.1)

/-- The work of a utility. -/
def work (utility : String) (c : Call) : Work Answer :=
  match simple.lookup utility, working.lookup utility with
  | some act, _ => .done (act c)
  | none, some act => act c
  | none, none => .done c.start

end Bindery.Utility
