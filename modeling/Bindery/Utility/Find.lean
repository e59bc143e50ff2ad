import Bindery.Utility.Attributes
import Bindery.Utility.Find.Expression

/-!
# Looking for files

`find` goes through directories and decides for every file in them whether an expression holds,
which does things with the files on the way.
-/

namespace Bindery.Utility

namespace Find

/-- A file on the way. -/
structure Visit where
  path : String
  /-- The path from which the walk started. -/
  start : String
  depth : Nat
  place : Location
  node : Node

/-- How far the search has come. -/
structure Walk where
  call : Call
  answer : Answer
  /-- The files that wait for programs, with the directories in which these run. -/
  gathered : List (List String × Option Location × String) := []
  /-- The directory is not gone into. -/
  pruned : Bool := false
  stopped : Bool := false

namespace Walk

def tree (w : Walk) : FileTree := w.answer.tree

def withTree (w : Walk) (tree : FileTree) : Walk := { w with answer := { w.answer with tree } }

/-- Tells of a failure. -/
def fail (w : Walk) (text : String) : Walk := { w with answer := w.call.fail w.answer text }

/-- Writes a text, or appends it to a file. -/
def write (w : Walk) (text : String) : Option String → Walk
  | none => { w with answer := w.answer.print text }
  | some file =>
    let old := (w.tree.read (pathOf file)).toOption.getD .empty
    match w.call.write w.tree file (Text.Octets.ofBytes old ++ text) with
    | .ok tree => w.withTree tree
    | .error _ => w

end Walk

/-- The file as seen from its directory. -/
def Visit.inside (v : Visit) : String := "./" ++ lastPart v.path

/-- The directory that the file is in. -/
def Visit.directory (v : Visit) : Option Location :=
  if lastPart v.path = "." then some v.place else some v.place.dropLast

/-- The path without what the walk started from. -/
def Visit.rest (v : Visit) : String :=
  let cs := v.path.toList.drop v.start.length
  String.ofList (cs.dropWhile (· == '/'))

/-- The path without its last name. -/
def Visit.front (v : Visit) : String :=
  let cs := (withoutSlashes v.path).toList.reverse
  if cs.contains '/' then
    match (cs.dropWhile (· != '/')).drop 1 with
    | [] => ""
    | front => String.ofList front.reverse
  else "."

/-- What a letter in a format stands for. -/
def field (tree : FileTree) (v : Visit) (c : Char) : Option String :=
  let mode := match v.node with
    | .link _ => 0o777
    | _ => tree.mode v.place
  let kind := kindLetter v.node
  match c with
  | 'p' => some v.path
  | 'f' => some (lastPart v.path)
  | 'h' => some v.front
  | 'P' => some v.rest
  | 'H' => some v.start
  | 'd' => some (toString v.depth)
  | 's' => some (toString (sizeOf v.node))
  | 'y' => some (String.singleton (if kind == '-' then 'f' else kind))
  | 'm' => some (String.ofList (Nat.toDigits 8 mode))
  | 'M' => some (String.singleton kind ++ modeLetters mode)
  | 'n' => some (toString (linksOf tree v.place v.node))
  | 'l' =>
    match v.node with
    | .link target => some (Text.Octets.encode target)
    | _ => some ""
  | 'u' | 'g' => some "root"
  | 'U' | 'G' => some "0"
  | 'k' => some (toString ((sizeOf v.node + 4095) / 4096 * 4))
  | 'b' => some (toString ((sizeOf v.node + 4095) / 4096 * 8))
  | '%' => some "%"
  | _ => none

/-- The character of a letter after a backslash. -/
def escape? : Char → Option Char
  | 'a' => some '\x07'
  | 'b' => some '\x08'
  | 'f' => some '\x0c'
  | 'n' => some '\n'
  | 'r' => some '\r'
  | 't' => some '\t'
  | 'v' => some '\x0b'
  | '\\' => some '\\'
  | _ => none

/-- A format filled for a file. -/
def formatted (tree : FileTree) (v : Visit) : Nat → List Char → String
  | 0, _ | _, [] => ""
  | _ + 1, '\\' :: 'c' :: _ => ""
  | fuel + 1, '\\' :: c :: rest =>
    let isOctal (c : Char) : Bool := '0' ≤ c && c ≤ '7'
    let digits := ((c :: rest).take 3).takeWhile isOctal
    if !digits.isEmpty then
      let value := digits.foldl (fun n d => n * 8 + (d.toNat - 48)) 0
      String.singleton (Char.ofNat (value % 256)) ++
        formatted tree v fuel ((c :: rest).drop digits.length)
    else
      match escape? c with
      | some e => String.singleton e ++ formatted tree v fuel rest
      | none => String.ofList ['\\', c] ++ formatted tree v fuel rest
  | fuel + 1, '%' :: rest =>
    let isFlag (c : Char) : Bool := c == '-' || c == '0' || c == ' ' || c == '+' || c == '#'
    let flags := rest.takeWhile isFlag
    let digits := (rest.drop flags.length).takeWhile Char.isDigit
    let width := ((String.ofList digits).toNat?).getD 0
    let after := rest.drop (flags.length + digits.length)
    let precision := match after with
      | '.' :: more => some (more.takeWhile Char.isDigit)
      | _ => none
    let after := match precision with
      | some ds => after.drop (ds.length + 1)
      | none => after
    match after with
    | c :: more =>
      match field tree v c with
      | some text =>
        let text := match precision with
          | some ds => (text.take ((String.ofList ds).toNat?.getD 0)).toString
          | none => text
        let text := if flags.contains '-' then padRight width text else padLeft width text
        text ++ formatted tree v fuel more
      | none => String.ofList ('%' :: rest.take (rest.length - more.length)) ++
          formatted tree v fuel more
    | [] => "%"
  | fuel + 1, c :: rest => String.singleton c ++ formatted tree v fuel rest

/-- A word with the path of a file in the place of every mark. -/
def filled (path word : String) : String := path.intercalate (word.splitOn "\x7b\x7d")

/-- The letter of the kind of a node. -/
def kindOf (node : Node) : Char := if kindLetter node == '-' then 'f' else kindLetter node

/-- Whether a file has no content. -/
def isEmptyNode (tree : FileTree) (place : Location) : Node → Bool
  | .file content => content.isEmpty
  | .directory => (tree.entries place).isEmpty
  | _ => false

/-- Removes a file or an empty directory. -/
def remove (w : Walk) (v : Visit) : Bool × Walk :=
  if v.path = "." || v.path = "./" then (true, w)
  else
    let result := match v.node with
      | .directory => w.tree.removeDirectory (pathOf v.path)
      | _ => w.tree.unlink (pathOf v.path)
    match result with
    | .ok tree => (true, w.withTree tree)
    | .error cause => (false, w.fail s!"cannot delete {quoted v.path}: {cause.reason}")

/-- Runs a program; whether it succeeded. -/
def runProgram (w : Walk) (words : List String) (directory : Option Location) :
    Work (Bool × Walk) := do
  let outcome ← Work.ask { before := w.answer, words, directory }
  let answer := { w.answer with tree := outcome.tree, written := #[] }
  let w := { w with answer }
  match outcome.ending with
  | .ok status => return (status == .exited 0, w)
  | .error cause =>
    let word := quoted (words.headD "")
    let text := s!"{w.call.name}: {word}: {cause.reason}\n"
    return (false, { w with answer := w.answer.printError text })

/-- Whether a test holds for a file, and how the search stands then. -/
def Test.eval (settings : Settings) (v : Visit) (w : Walk) : Test → Work (Bool × Walk)
  | .constant value => .done (value, w)
  | .name pattern ignoresCase =>
    .done (NamePattern.fits pattern (lastPart v.path) ignoresCase, w)
  | .path pattern ignoresCase => .done (NamePattern.fits pattern v.path ignoresCase, w)
  | .target pattern ignoresCase =>
    match v.node with
    | .link goal => .done (NamePattern.fits pattern (Text.Octets.encode goal) ignoresCase, w)
    | _ => .done (false, w)
  | .regex pattern =>
    let bytes := Text.Octets.toBytes v.path
    .done ((pattern.endsAt { bytes, ignoresCase := pattern.ignoresCase } 0).contains bytes.size, w)
  | .kind letters behind =>
    let node := if behind then (nodeBehind w.tree v.path).toOption.getD v.node else v.node
    .done (letters.contains (kindOf node), w)
  | .empty => .done (isEmptyNode w.tree v.place v.node, w)
  | .size comparison unit =>
    .done (comparison.holds ((sizeOf v.node + unit - 1) / unit), w)
  | .mode test =>
    let mode := match v.node with
      | .link _ => 0o777
      | _ => w.tree.mode v.place
    let holds := match test with
      | .exactly bits => mode = bits
      | .all bits => mode &&& bits = bits
      | .any bits => bits = 0 || mode &&& bits != 0
    .done (holds, w)
  | .names comparison => .done (comparison.holds (linksOf w.tree v.place v.node), w)
  | .age comparison => .done (comparison.holds 0, w)
  | .sameAs file =>
    .done ((placeOf? w.tree file).any fun place => isSameFile w.tree place v.place, w)
  | .isRunnable =>
    let runs := match v.node with
      | .directory => true
      | .link _ => ((placeBehind? w.tree v.path).map fun p => w.tree.mayRun p).getD false
      | _ => w.tree.mayRun v.place
    .done (runs, w)
  | .prune => .done (true, { w with pruned := !settings.contentsFirst })
  | .quit => .done (true, { w with stopped := true })
  | .delete => .done (remove w v)
  | .print ending file => .done (true, w.write (v.path ++ ending) file)
  | .format text file =>
    .done (true, w.write (formatted w.tree v (text.length + 1) text.toList) file)
  | .run words inside =>
    let path := if inside then v.inside else v.path
    runProgram w (words.map (filled path)) (if inside then v.directory else none)
  | .ask words =>
    let shown := " ".intercalate (words.take 1)
    .done (false, { w with answer := w.answer.printError s!"< {shown} ... {v.path} > ? " })
  | .gather words inside =>
    let entry := if inside then (words, v.directory, v.inside) else (words, none, v.path)
    .done (true, { w with gathered := w.gathered ++ [entry] })

/-- Whether an expression holds for a file, and how the search stands then. -/
def Expression.eval (settings : Settings) (v : Visit) (w : Walk) :
    Expression → Work (Bool × Walk)
  | .test t => t.eval settings v w
  | .negation body => do
    let (value, w) ← eval settings v w body
    return (!value, w)
  | .both first second => do
    let (value, w) ← eval settings v w first
    if value && !w.stopped then eval settings v w second else return (value, w)
  | .either first second => do
    let (value, w) ← eval settings v w first
    if value || w.stopped then return (value, w) else eval settings v w second
  | .each first second => do
    let (value, w) ← eval settings v w first
    if w.stopped then return (value, w) else eval settings v w second

/-- How deep directories are gone into. -/
def depthLimit : Nat := 4096

/-- Goes through what a path leads to. -/
def visit (settings : Settings) (e : Expression) (start : String) :
    Nat → Nat → Walk → String → Work Walk
  | 0, _, w, _ => .done w
  | fuel + 1, depth, w, path =>
    if w.stopped then .done w
    else
      let found := if settings.follows then
          (nodeBehind w.tree path).toOption.elim (nodeAt w.tree path) .ok
        else nodeAt w.tree path
      match found with
      | .error cause => .done (w.fail s!"{quoted path}: {cause.reason}")
      | .ok node =>
        let place := if isLinkNode node || !settings.follows then placeOf? w.tree path
          else placeBehind? w.tree path
        let v : Visit := ⟨path, start, depth, place.getD [], node⟩
        let judge (w : Walk) : Work Walk :=
          if depth < settings.least || w.stopped then .done w
          else do
            let (_, w) ← e.eval settings v { w with pruned := false }
            return w
        let enters (w : Walk) : Bool :=
          isDirectoryNode node && settings.most.all (depth < ·) && !w.pruned && !w.stopped
        let goInto (w : Walk) : Work Walk :=
          if !enters w then .done w
          else
            match nodeAt w.tree path with
            | .error cause => .done (w.fail s!"{quoted path}: {cause.reason}")
            | .ok _ =>
              (namesIn w.tree v.place).foldlM (fun w name =>
                visit settings e start fuel (depth + 1) w (inside path name)) w
        do
          let w := { w with pruned := false }
          if settings.contentsFirst then judge (← goInto w) else goInto (← judge w)

/-- Runs the programs for which files were gathered, one for each directory. -/
def runGathered : Nat → Walk → Work Walk
  | 0, w => .done w
  | fuel + 1, w =>
    match w.gathered with
    | [] => .done w
    | (words, directory, _) :: _ => do
      let isLike (entry : List String × Option Location × String) : Bool :=
        entry.1 == words && entry.2.1 == directory
      let paths := (w.gathered.filter isLike).map (·.2.2)
      let w := { w with gathered := w.gathered.filter (!isLike ·) }
      let (succeeded, w) ← runProgram w (words ++ paths) directory
      let w := if succeeded then w else { w with answer := { w.answer with status := 1 } }
      runGathered fuel w

/-- Whether a word begins the expression. -/
def beginsExpression (word : String) : Bool :=
  word = "(" || word = "!" || (word.startsWith "-" && word != "-")

end Find

def find (c : Call) : Work Answer :=
  let flags := c.args.takeWhile (["-P", "-H", "-L", "-O0", "-O1", "-O2", "-O3"].contains ·)
  let args := c.args.drop flags.length
  let starts := args.takeWhile (!Find.beginsExpression ·)
  let words := args.drop starts.length
  let links := flags.filter fun flag => flag = "-P" || flag = "-L"
  if words.head? = some "--help" || words.head? = some "-help" then
    .done (c.start.print s!"Usage: {c.name} [-H] [-L] [-P] [path...] [expression]\n")
  else if words.head? = some "--version" || words.head? = some "-version" then
    .done (c.start.print (c.name ++ "\n"))
  else
    let settings : Find.Settings := { follows := links.getLast? = some "-L" }
    match (Find.Reader.whole c.tree).run { rest := words, settings } with
    | .error text => .done (c.fail c.start text)
    | .ok (e, reading) =>
      let e := if e.hasAction then e else .both e (.test (.print "\n" none))
      let walk : Find.Walk := { call := c, answer := c.start }
      let walk := reading.files.foldl (fun (w : Find.Walk) file =>
        match c.write w.tree file "" with
        | .ok tree => w.withTree tree
        | .error cause => w.fail s!"{quoted file}: {cause.reason}") walk
      let starts := if starts.isEmpty then ["."] else starts
      do
        let walk ← starts.foldlM (fun w path =>
          Find.visit reading.settings e path Find.depthLimit 0 w path) walk
        let walk ← Find.runGathered (walk.gathered.length + 1) walk
        return walk.answer

end Bindery.Utility
