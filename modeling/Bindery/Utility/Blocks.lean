import Bindery.Text.Units
import Bindery.Utility.Display

/-!
# Copies in blocks

`dd` copies what it reads in blocks of a given size, from a place in it on and to a place in what is
written, and may change the bytes on the way.
-/

namespace Bindery.Utility

namespace Blocks

/-- How a copy is made. -/
structure Plan where
  source : Option String := none
  target : Option String := none
  readSize : Nat := 512
  writeSize : Nat := 512
  skip : Nat := 0
  seek : Nat := 0
  count : Option Nat := none
  /-- `skip`, `seek` and `count` are numbers of bytes. -/
  skipsBytes : Bool := false
  seeksBytes : Bool := false
  countsBytes : Bool := false
  conversions : List String := []
  /-- What is told at the end: `none`, or `noxfer` for the blocks alone. -/
  status : String := ""
  appends : Bool := false

namespace Plan

def converts (p : Plan) (name : String) : Bool := p.conversions.contains name

end Plan

def conversions : List String :=
  ["lcase", "ucase", "swab", "notrunc", "nocreat", "excl", "noerror", "sync", "fsync", "fdatasync",
    "sparse"]

def flags : List String :=
  ["append", "binary", "count_bytes", "direct", "directory", "dsync", "fullblock", "noatime",
    "nocache", "noctty", "nofollow", "nolinks", "nonblock", "seek_bytes", "skip_bytes", "sync",
    "text"]

/-- A number with the letter of a unit; whether it is a number of bytes. -/
def factor? (text : String) : Option (Nat × Bool) :=
  let cs := text.toList
  let digits := cs.takeWhile Char.isDigit
  if digits.isEmpty then none
  else
    let n := digits.foldl (fun n c => n * 10 + (c.toNat - 48)) 0
    match cs.drop digits.length with
    | ['c'] => some (n, false)
    | ['w'] => some (n * 2, false)
    | ['B'] => some (n, true)
    | unit => (Size.unit? unit).map fun size => (n * size, false)

/-- A number, which may be the product of several. -/
def number? (text : String) : Option (Nat × Bool) :=
  (text.splitOn "x").foldlM (fun (product, isBytes) part =>
    (factor? part).map fun (n, hasMark) => (product * n, isBytes || hasMark)) (1, false)

/-- What an operand says with its name and its value. -/
def operand (p : Plan) (word name value : String) : Except (String × Bool) Plan :=
  let number (isSize : Bool) (use : Nat → Bool → Plan) : Except (String × Bool) Plan :=
    match number? value with
    | some (n, isBytes) =>
      if isSize && n = 0 then .error (s!"invalid number: {quoted value}", false)
      else .ok (use n isBytes)
    | none => .error (s!"invalid number: {quoted value}", false)
  let listed (known : List String) (kind : String) (use : List String → Plan) :
      Except (String × Bool) Plan :=
    let given := value.splitOn ","
    match given.find? (!known.contains ·) with
    | some wrong => .error (s!"invalid {kind}: {quoted wrong}", true)
    | none => .ok (use given)
  match name with
  | "if" => .ok { p with source := some value }
  | "of" => .ok { p with target := some value }
  | "bs" => number true fun n _ => { p with readSize := n, writeSize := n }
  | "ibs" => number true fun n _ => { p with readSize := n }
  | "obs" => number true fun n _ => { p with writeSize := n }
  | "cbs" => number true fun _ _ => p
  | "skip" | "iseek" =>
    number false fun n b => { p with skip := n, skipsBytes := p.skipsBytes || b }
  | "seek" | "oseek" =>
    number false fun n b => { p with seek := n, seeksBytes := p.seeksBytes || b }
  | "count" =>
    number false fun n b => { p with count := some n, countsBytes := p.countsBytes || b }
  | "conv" =>
    listed conversions "conversion" fun given => { p with conversions := p.conversions ++ given }
  | "iflag" => listed flags "input flag" fun given =>
    { p with
      skipsBytes := p.skipsBytes || given.contains "skip_bytes"
      countsBytes := p.countsBytes || given.contains "count_bytes" }
  | "oflag" => listed flags "output flag" fun given =>
    { p with
      seeksBytes := p.seeksBytes || given.contains "seek_bytes"
      appends := p.appends || given.contains "append" }
  | "status" =>
    if ["none", "noxfer", "progress"].contains value then .ok { p with status := value }
    else .error (s!"invalid status level: {quoted value}", true)
  | _ => .error (s!"unrecognized operand {quoted word}", true)

/-- Reads operands; a failure tells whether it is one of how the utility was called. -/
def Plan.read (p : Plan) : List String → Except (String × Bool) Plan
  | [] => .ok p
  | word :: rest => do
    let name := String.ofList (word.toList.takeWhile (· != '='))
    if name.length = word.length then throw (s!"unrecognized operand {quoted word}", true)
    let p ← operand p word name (word.drop (name.length + 1)).toString
    Plan.read p rest

/-- Every two neighbours in each other's place. -/
def swapped : List Char → List Char
  | a :: b :: rest => b :: a :: swapped rest
  | rest => rest

/-- The text with the conversions made; `size` is that of a block. -/
def converted (p : Plan) (text : String) : String :=
  let missing := (p.readSize - text.length % p.readSize) % p.readSize
  let text := if p.converts "sync" then text.pushn '\x00' missing else text
  let text := if p.converts "swab" then String.ofList (swapped text.toList) else text
  if p.converts "lcase" then text.map Char.toLower
  else if p.converts "ucase" then text.map Char.toUpper
  else text

/-- How many whole blocks there are in so many bytes, and whether there is a rest. -/
def recordText (bytes size : Nat) : String :=
  s!"{bytes / size}+{if bytes % size = 0 then 0 else 1} records"

/-- What is told when all is done; so much was read and written. -/
def report (p : Plan) (read written : Nat) : String :=
  let blocks := recordText read p.readSize ++ " in\n" ++ recordText written p.writeSize ++ " out\n"
  if p.status == "none" then ""
  else if p.status == "noxfer" then blocks
  else
    let unit := if written = 1 then "byte" else "bytes"
    blocks ++ s!"{written} {unit} copied, 0.0001 s, {written / 100}.{written / 10 % 10} MB/s\n"

/-- The place in what is written where a copy begins. -/
def Plan.place (p : Plan) : Nat := if p.seeksBytes then p.seek else p.seek * p.writeSize

/-- The start of a file up to a place, which it is made to reach. -/
def upTo (old : String) (place : Nat) : String :=
  let before := (old.take place).toString
  before ++ "".pushn '\x00' (place - before.length)

/-- What a file holds after a part was written into it. -/
def placed (p : Plan) (old part : String) : String :=
  let place := if p.appends then old.length else p.place
  upTo old place ++ part ++ (old.drop (place + part.length)).toString

/-- The text of a file, if there is one. -/
def textOf (tree : FileTree) (word : String) : String :=
  ((tree.read (pathOf word)).toOption.map Text.Octets.ofBytes).getD ""

/-- Opens the file that is written to, which loses what is in it from the place on. -/
def opened (c : Call) (p : Plan) (target : String) : Except SystemError FileTree :=
  let isThere := (c.tree.seek (pathOf target)).toOption.isSome
  let old := textOf c.tree target
  if isThere && p.converts "excl" then .error .alreadyExists
  else if !isThere && p.converts "nocreat" then .error .notFound
  else c.write c.tree target (if p.converts "notrunc" then old else upTo old p.place)

/-- Copies when all files are open. -/
def transfer (c : Call) (p : Plan) : Answer :=
  let input := match p.source with
    | some word => if word = "-" then "./-" else word
    | none => "-"
  let name := p.source.getD "standard input"
  let (found, a) := c.read c.start input
  let (text, a) := match found with
    | .ok text => (text, a)
    | .error e => ("", c.fail a s!"error reading {quoted name}: {e.reason}")
  let start := if p.skipsBytes then p.skip else p.skip * p.readSize
  let rest := (text.drop start).toString
  let count := p.count.map fun n => if p.countsBytes then n else n * p.readSize
  let part := match count with
    | some n => (rest.take n).toString
    | none => rest
  let a := match p.source, count with
    | none, some n => { a with drains := false, taken := min text.length (start + n) }
    | _, _ => a
  let a := if text.length < start && p.status != "none" then
      a.printError s!"{c.name}: {shown name}: cannot skip to specified offset\n"
    else a
  let output := converted p part
  let told := report p part.length output.length
  match p.target with
  | none => (a.print output).printError told
  | some target =>
    match c.write a.tree target (placed p (textOf a.tree target) output) with
    | .ok tree => { a with tree }.printError told
    | .error e => c.fail a s!"error writing {quoted target}: {e.reason}"

/-- Makes the copy. -/
def copy (c : Call) (p : Plan) : Answer :=
  let complaint (word : String) (e : SystemError) : Answer :=
    c.fail c.start s!"failed to open {quoted word}: {e.reason}"
  let missing := p.source.bind fun word =>
    match c.tree.read (pathOf word) with
    | .ok _ => none
    | .error e => if e = .isDirectory then none else some (complaint word e)
  match missing, p.target with
  | some a, _ => a
  | none, none => transfer c p
  | none, some target =>
    match opened c p target with
    | .ok tree => transfer { c with tree } p
    | .error e => complaint target e

end Blocks

/-- Copies in blocks. -/
def dd (c : Call) : Answer :=
  match c.args with
  | ["--help"] => c.start.print s!"Usage: {c.name} [OPERAND]...\n"
  | ["--version"] => c.start.print (c.name ++ "\n")
  | args =>
    let args := if args.head? == some "--" then args.drop 1 else args
    match Blocks.Plan.read {} args with
    | .ok plan => Blocks.copy c plan
    | .error (reason, isMisuse) =>
      if isMisuse then c.misuse reason 1 else c.fail c.start reason

end Bindery.Utility
