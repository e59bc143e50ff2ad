import Bindery.Utility.Basic

/-!
# Users and hosts

The utilities that tell who runs a program, and on what. Programs run for the user `root`, whose
number is zero and who is in the group of the same name, and not at a terminal.
-/

namespace Bindery.Utility

/-- Does the work of a utility that takes no operands. -/
def Call.alone (c : Call) (form : OptionForm) (failure : Nat) (act : Words → Answer) : Answer :=
  c.withOptions form failure fun w =>
    match w.operands with
    | [] => act w
    | word :: _ => c.misuse s!"extra operand {cited word}" failure

def whoami (c : Call) : Answer := c.alone (.of "") 1 fun _ => c.start.print "root\n"

def logname (c : Call) : Answer := c.alone (.of "") 1 fun _ => c.fail c.start "no login name"

def users (c : Call) : Answer := c.withOptions (.of "") 1 fun _ => c.start

/-- Tells that there is no terminal. -/
def tty (c : Call) : Answer :=
  c.alone (.of "s" ["silent=s", "quiet=s"]) 2 fun w =>
    let a := if w.has ["s"] then c.start else c.start.print "not a tty\n"
    { a with status := 1 }

/-- Does something for each of some users, or for the one that runs the program. -/
def forUsers (c : Call) (words : List String) (unknown : String → String) (own : String)
    (named : String → String) : Answer :=
  if words.isEmpty then c.start.print own
  else
    words.foldl (fun a word =>
      if word == "root" || word == "0" then a.print (named word) else c.fail a (unknown word))
      c.start

def groups (c : Call) : Answer :=
  c.withOptions (.of "") 1 fun w =>
    forUsers c w.operands (fun word => s!"{cited word}: no such user") "root\n"
      (fun word => s!"{word} : root\n")

/-- Tells the numbers and names of the user and the groups. -/
def identity (c : Call) : Answer :=
  let form := OptionForm.of "aZgGnruz" ["context=Z", "group=g", "groups=G", "name=n", "real=r",
    "user=u", "zero=z"]
  c.withOptions form 1 fun w =>
    let single := [["u"], ["g"], ["G"]].filter w.has
    let ending := if w.has ["z"] then "\x00" else "\n"
    if 1 < single.length then c.fail c.start "cannot print \"only\" of more than one choice"
    else if single.isEmpty && (w.has ["n"] || w.has ["r"]) then
      c.fail c.start "cannot print only names or real IDs in default format"
    else if single.isEmpty && w.has ["z"] then
      c.fail c.start "option --zero not permitted in default format"
    else
      let line := if single.isEmpty then "uid=0(root) gid=0(root) groups=0(root)"
        else if w.has ["n"] then "root" else "0"
      forUsers c w.operands (fun word => s!"{cited word}: no such user") (line ++ ending)
        (fun _ => line ++ ending)

/-- The facts about the host that options ask for, in their order. -/
def hostFacts : List (List String × String) :=
  [(["s"], "Linux"), (["n"], "localhost"), (["r"], "6.1.0"), (["v"], "#1 SMP"), (["m"], "x86_64"),
    (["p"], "unknown"), (["i"], "unknown"), (["o"], "GNU/Linux")]

def uname (c : Call) : Answer :=
  let form := OptionForm.of "asnrvpmio" ["all=a", "kernel-name=s", "nodename=n",
    "kernel-release=r", "kernel-version=v", "machine=m", "processor=p", "hardware-platform=i",
    "operating-system=o"]
  c.alone form 1 fun w =>
    let wanted := hostFacts.filter fun (names, text) =>
      if w.has ["a"] then text != "unknown" else w.has names
    let wanted := if wanted.isEmpty then hostFacts.take 1 else wanted
    c.start.print (" ".intercalate (wanted.map (·.2)) ++ "\n")

def arch (c : Call) : Answer := c.alone (.of "") 1 fun _ => c.start.print "x86_64\n"

/-! ## Factors -/

/-- The prime factors of a number from one on, the last one first. -/
def factorsFrom : Nat → Nat → Nat → List Nat → List Nat
  | 0, _, n, found => n :: found
  | fuel + 1, d, n, found =>
    if n < 2 then found
    else if n < d * d then n :: found
    else if n % d = 0 then factorsFrom fuel d (n / d) (d :: found)
    else factorsFrom fuel (if d = 2 then 3 else d + 2) n found

/-- Prints the prime factors of numbers. -/
def factor (c : Call) : Answer :=
  c.withOptions (.of "h" ["exponents=h"]) 1 fun w =>
    let words (text : String) : List String :=
      (text.splitToList fun ch => ch == ' ' || ch == '\n' || ch == '\t').filter (!·.isEmpty)
    let (given, a) :=
      if w.operands.isEmpty then
        match c.read c.start "-" with
        | (.ok text, a) => (words text, a)
        | (.error e, a) => ([], c.fail a s!"error reading input: {e.reason}")
      else (w.operands, c.start)
    given.foldl (fun a word =>
      let cs := word.toList.dropWhile (· == ' ')
      let digits := if cs.head? == some '+' then cs.drop 1 else cs
      if digits.isEmpty || !digits.all Char.isDigit then
        c.fail a s!"{cited word} is not a valid positive integer"
      else
        let n := digits.foldl (fun n d => n * 10 + (d.toNat - 48)) 0
        let factors := (factorsFrom 3000000 2 n []).reverse
        let shown :=
          if w.has ["h"] then
            (factors.eraseDups).map fun p =>
              let count := factors.count p
              if count = 1 then s!"{p}" else s!"{p}^{count}"
          else factors.map toString
        a.print (String.join (s!"{n}:" :: shown.map (" " ++ ·)) ++ "\n")) a

end Bindery.Utility
