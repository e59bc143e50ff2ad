import Bindery.Shell.Condition
import Bindery.Shell.Escape
import Bindery.Utility.Basic
import Bindery.Utility.Errand

/-!
# Small utilities

The utilities that print their arguments, take names apart, count, compare, or wait.
-/

namespace Bindery.Utility

/-- Writes a format filled with arguments. -/
def printf (c : Call) : Answer :=
  match c.args with
  | [] => c.misuse "missing operand" 1
  | format :: args =>
    let filling := Shell.formatText format args
    let a := c.start.print filling.text
    let a := filling.warnings.foldl (fun a text => c.fail a text) a
    match filling.fault with
    | some text => c.fail a text
    | none => a

/-- Writes its arguments; with `-e`, the escapes in them are read. -/
def echo (c : Call) : Answer :=
  let isOption (word : String) : Bool :=
    match word.toList with
    | '-' :: c :: cs => (c :: cs).all fun c => c == 'n' || c == 'e' || c == 'E'
    | _ => false
  let letters := (c.args.takeWhile isOption).flatMap (·.toList.drop 1)
  let args := c.args.dropWhile isOption
  let ending := if letters.contains 'n' then "" else "\n"
  let text :=
    if letters.contains 'e' then
      let (text, stops) := Shell.unescape (" ".intercalate args)
      text ++ if stops then "" else ending
    else " ".intercalate args ++ ending
  c.start.print text

def test (c : Call) (words : List String) : Answer :=
  match Shell.Condition.eval c.tree words with
  | .ok value => { c.start with status := if value then 0 else 1 }
  | .error text => c.start.fail s!"{c.name}: {text}" 2

/-- `test` with a closing bracket as its last word. -/
def bracket (c : Call) : Answer :=
  if c.args.getLast? = some "]" then test c c.args.dropLast
  else c.start.fail "[: missing ']'" 2

/-- Prints the directory in which it runs. -/
def pwd (c : Call) : Answer :=
  c.start.print (Text.Octets.encode ("/" ++ "/".intercalate c.tree.cwd) ++ "\n")

def basename (c : Call) : Answer :=
  match c.args.dropWhile (· == "--") with
  | [] => c.misuse "missing operand" 1
  | [path] => c.start.print (lastPart path ++ "\n")
  | [path, ending] =>
    let name := lastPart path
    let cut := name.endsWith ending && name != ending
    c.start.print ((if cut then (name.dropEnd ending.length).toString else name) ++ "\n")
  | _ :: _ :: extra :: _ => c.misuse s!"extra operand '{extra}'" 1

def dirname (c : Call) : Answer :=
  match c.args.dropWhile (· == "--") with
  | [] => c.misuse "missing operand" 1
  | paths =>
    let dirOf (path : String) : String :=
      let trimmed := path.toList.reverse.dropWhile (· == '/')
      let dir := ((trimmed.dropWhile (· != '/')).dropWhile (· == '/')).reverse
      if !dir.isEmpty then String.ofList dir
      else if path.toList.head? == some '/' then "/" else "."
    c.start.print (String.join (paths.map fun path => dirOf path ++ "\n"))

/-- Waits; only its arguments are looked at. -/
def sleep (c : Call) : Answer :=
  let isDuration (word : String) : Bool :=
    let digits := word.toList.takeWhile fun ch => ch.isDigit || ch == '.'
    let unit := word.toList.dropWhile fun ch => ch.isDigit || ch == '.'
    digits.any Char.isDigit && (unit.isEmpty || ["s", "m", "h", "d"].contains (String.ofList unit))
  if c.args.isEmpty then c.misuse "missing operand" 1
  else
    match c.args.find? (!isDuration ·) with
    | some word => c.misuse s!"invalid time interval '{word}'" 1
    | none => c.start

end Bindery.Utility
