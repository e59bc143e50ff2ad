import Bindery.Utility.Attributes
import Bindery.Shell.Pattern
import Bindery.Utility.Sorting

/-!
# Listing directories

`ls` lists the files it is given and what is in the directories, one below the other, in columns, or
with their properties.
-/

namespace Bindery.Utility

/-- How names are laid out. -/
inductive Arrangement where
  | lines
  /-- In columns, downwards or across. -/
  | columns (across : Bool)
  | commas
  | long
  deriving DecidableEq

/-- What is listed, and how. -/
structure ListingStyle where
  arrangement : Arrangement := .lines
  /-- Names that begin with a dot are listed, and the two that every directory has. -/
  hidden : Bool := false
  dots : Bool := false
  /-- Directories are listed as files. -/
  whole : Bool := false
  recursive : Bool := false
  reverses : Bool := false
  /-- The letter of the order: by size, ending or version; or none of them. -/
  order : Option Char := none
  unsorted : Bool := false
  /-- Marks after names: after directories, or after all that is no plain file. -/
  marks : Option Bool := none
  blocks : Bool := false
  quotes : Bool := false
  width : Nat := 80
  /-- Links are followed. -/
  follows : Bool := false
  ignored : List String := []
  showsOwner : Bool := true
  showsGroup : Bool := true
  ending : String := "\n"

/-- Something that is listed. -/
structure ListedFile where
  name : String
  node : Node
  mode : Nat
  links : Nat
  /-- Whether a link leads to something, and to a directory. -/
  leads : Option Bool := none

namespace ListingStyle

/-- Something that is listed under a name. -/
def file (s : ListingStyle) (tree : FileTree) (name path : String) : Option ListedFile :=
  let found := if s.follows then nodeBehind tree path else nodeAt tree path
  let found := found.toOption.orElse fun _ => (nodeAt tree path).toOption
  found.map fun node =>
    let place := (if s.follows then placeBehind? tree path else placeOf? tree path).getD []
    { name, node
      mode := tree.mode place
      links := linksOf tree place node
      leads := (nodeBehind tree path).toOption.map isDirectoryNode }

/-- Files in order. -/
def sorted (s : ListingStyle) (files : List ListedFile) : List ListedFile :=
  let byName (a b : ListedFile) : Ordering :=
    LineOrder.compareText a.name.toList b.name.toList
  let ending (f : ListedFile) : List Char :=
    let rest := (f.name.toList.reverse.takeWhile (· != '.')).reverse
    if rest.length = f.name.length then [] else rest
  let order (a b : ListedFile) : Ordering :=
    match s.order with
    | some 'S' => (compare (sizeOf b.node) (sizeOf a.node)).then (byName a b)
    | some 'X' => (LineOrder.compareText (ending a) (ending b)).then (byName a b)
    | some 'v' => (LineOrder.compareVersions a.name.toList b.name.toList).then (byName a b)
    | _ => byName a b
  let sorted := if s.unsorted then files else files.mergeSort fun a b => order a b != .gt
  if s.reverses && !s.unsorted then sorted.reverse else sorted

/-- The mark after the name of a file. -/
def mark (s : ListingStyle) (f : ListedFile) : String :=
  match s.marks, f.node with
  | none, _ => ""
  | some _, .directory => "/"
  | some true, .link _ => if s.arrangement = .long then "" else "@"
  | some true, .device _ => ""
  | some true, _ => if f.mode &&& 0o111 != 0 then "*" else ""
  | some false, _ => ""

def shownName (s : ListingStyle) (f : ListedFile) : String :=
  (if s.quotes then "\"" ++ f.name ++ "\"" else f.name) ++ s.mark f

/-- The widths of columns for so many of them, each with two blanks after it. -/
def columnWidths (across : Bool) (lengths : Array Nat) (count : Nat) : List Nat :=
  let rows := (lengths.size + count - 1) / count
  (List.range count).map fun column =>
    let cells := (List.range lengths.size).filter fun i =>
      if across then i % count = column else i / rows = column
    let widest := cells.foldl (fun most i => max most (lengths.getD i 0)) 0
    widest + if column + 1 = count then 0 else 2

/-- Blanks and tabs from one column to another one. -/
def gap : Nat → Nat → Nat → String
  | 0, _, _ => ""
  | fuel + 1, start, stop =>
    if stop ≤ start then ""
    else if (start + 1) / 8 < stop / 8 then "\t" ++ gap fuel (start + 8 - start % 8) stop
    else " " ++ gap fuel (start + 1) stop

/-- Texts in columns. -/
def inColumns (across : Bool) (width : Nat) (texts : List String) : String :=
  let cells := texts.toArray
  let lengths := cells.map String.length
  let fits (count : Nat) : Bool :=
    let widths := columnWidths across lengths count
    let rows := (cells.size + count - 1) / count
    (across || (cells.size + rows - 1) / rows = count) && widths.foldl (· + ·) 0 < width
  let most := max 1 (min cells.size (width / 3))
  let count := (((List.range most).reverse.map (· + 1)).find? fits).getD 1
  let widths := columnWidths across lengths count
  let rows := (cells.size + count - 1) / count
  String.join ((List.range rows).map fun row =>
    let (line, _, _) := (List.range count).foldl
      (fun ((line, place, stop) : String × Nat × Nat) column =>
        let i := if across then row * count + column else column * rows + row
        match cells[i]? with
        | none => (line, place, stop)
        | some text =>
          let start := place
          (line ++ gap (stop + 1) start stop ++ text, stop + text.length,
            stop + widths.getD column 0)) ("", 0, 0)
    line ++ "\n")

/-- Texts after each other, in lines of a width. -/
def withCommas (width : Nat) (texts : List String) : String :=
  let (text, _) := texts.foldl (fun ((text, place) : String × Nat) name =>
    if text.isEmpty then (name, name.length)
    else if place + 2 + name.length < width then (text ++ ", " ++ name, place + 2 + name.length)
    else (text ++ ",\n" ++ name, name.length)) ("", 0)
  if texts.isEmpty then "" else text ++ "\n"

/-- Files with their properties. -/
def inDetail (s : ListingStyle) (files : List ListedFile) : String :=
  let widest (texts : List String) : Nat := texts.foldl (fun most t => max most t.length) 0
  let links := widest (files.map fun f => toString f.links)
  let sizes := widest (files.map fun f => toString (sizeOf f.node))
  let blocks := widest (files.map fun f => toString (blocksOf f.node))
  String.join (files.map fun f =>
    let arrow := match f.node with
      | .link text => " -> " ++ Text.Octets.encode text
      | _ => ""
    (if s.blocks then padLeft blocks (toString (blocksOf f.node)) ++ " " else "") ++
      String.singleton (kindLetter f.node) ++ modeLetters f.mode ++ " " ++
      padLeft links (toString f.links) ++ (if s.showsOwner then " root" else "") ++
      (if s.showsGroup then " root" else "") ++ " " ++
      padLeft sizes (toString (sizeOf f.node)) ++ " Jan  1 00:00 " ++
      s.shownName f ++ arrow ++ s.ending)

/-- Files laid out. -/
def text (s : ListingStyle) (files : List ListedFile) : String :=
  let blocks := files.foldl (fun most f => max most (toString (blocksOf f.node)).length) 0
  let names := files.map fun f =>
    (if s.blocks then padLeft blocks (toString (blocksOf f.node)) ++ " " else "") ++ s.shownName f
  match s.arrangement with
  | .lines => String.join (names.map (· ++ s.ending))
  | .columns across => inColumns across s.width names
  | .commas => withCommas s.width names
  | .long => s.inDetail files

/-- The line before the files of a directory. -/
def total (s : ListingStyle) (files : List ListedFile) : String :=
  if s.arrangement = .long || s.blocks then
    s!"total {(files.map fun f => blocksOf f.node).foldl (· + ·) 0}\n"
  else ""

/-- The files in a directory. -/
def filesIn (s : ListingStyle) (tree : FileTree) (dir : String) (place : Location) :
    List ListedFile :=
  let names := (if s.dots then [".", ".."] else []) ++
    (namesIn tree place).filter fun name =>
      (s.hidden || name.toList.head? != some '.') &&
        !s.ignored.any (NamePattern.fits · name)
  s.sorted (names.filterMap fun name => s.file tree name (inside dir name))

/-- Lists directories, and those in them if that is asked for. -/
def directories (s : ListingStyle) (c : Call) (titled : Bool) :
    Nat → Answer → List String → Answer
  | 0, a, _ | _, a, [] => a
  | fuel + 1, a, dir :: rest =>
    match placeBehind? c.tree dir with
    | none => s.directories c titled fuel a rest
    | some place =>
      let files := s.filesIn c.tree dir place
      let before := if a.written.any (·.1 = 1) then "\n" else ""
      let title := if titled then s!"{before}{shownTitle dir}:\n" else ""
      let a := a.print (title ++ s.total files ++ s.text files)
      let below := if !s.recursive then [] else
        (files.filter fun f => isDirectoryNode f.node && f.name != "." && f.name != "..").map
          fun f => inside dir f.name
      s.directories c titled fuel a (below ++ rest)
where
  shownTitle (dir : String) : String := if s.quotes then "\"" ++ dir ++ "\"" else dir

end ListingStyle

/-- The style of a listing that options ask for. -/
def listingStyleOf (w : Words) : ListingStyle :=
  let last := w.options.reverse.find? fun o =>
    ["1", "l", "g", "n", "o", "C", "x", "m", "format"].contains o.1
  let isLong := w.has ["l", "g", "n", "o"]
  let arrangement : Arrangement := match last.map (·.1), last.map (·.2) with
    | some "1", _ => if isLong then .long else .lines
    | some "C", _ => .columns false
    | some "x", _ => .columns true
    | some "m", _ => .commas
    | some "format", some "commas" => .commas
    | some "format", some "across" | some "format", some "horizontal" => .columns true
    | some "format", some "vertical" => .columns false
    | some "format", some "long" | some "format", some "verbose" => .long
    | some "format", _ | none, _ => .lines
    | _, _ => .long
  let order := w.options.reverse.find? fun o => ["S", "X", "v", "t", "U", "f", "sort"].contains o.1
  let letter := order.bind fun o =>
    match o.1, o.2 with
    | "sort", "size" => some 'S'
    | "sort", "extension" => some 'X'
    | "sort", "version" => some 'v'
    | "sort", _ => none
    | name, _ => name.toList.head?
  { arrangement
    hidden := w.has ["a", "A", "f"]
    dots := w.has ["a", "f"]
    whole := w.has ["d"]
    recursive := w.has ["R"]
    reverses := w.has ["r"]
    order := letter
    marks := match w.options.reverse.find? fun o =>
        ["F", "p", "file-type", "indicator-style"].contains o.1 with
      | some ("F", "never") | some ("indicator-style", "none") => none
      | some ("F", _) | some ("indicator-style", "classify") => some true
      | some _ => some false
      | none => none
    blocks := w.has ["s"]
    quotes := w.has ["Q"]
    width := ((w.value? ["w"]).bind String.toNat?).getD 80
    follows := w.has ["L"]
    ignored := (w.options.filter fun o => o.1 == "I" || o.1 == "hide").map (·.2) ++
      if w.has ["B"] then ["*~", ".*~"] else []
    showsOwner := !w.has ["g"]
    showsGroup := !w.has ["o", "G"]
    ending := if w.has ["zero"] then "\x00" else "\n" }

def ls (c : Call) : Answer :=
  let form : OptionForm := .of "abcdfghiklmnopqrstuvw:xABCDFGHI:LNQRST:UXZ1" ["all=a", "escape=b",
    "directory=d", "dired=D", "full-time", "group-directories-first", "human-readable=h",
    "inode=i", "kibibytes=k", "numeric-uid-gid=n", "no-group=G", "hide-control-chars=q",
    "reverse=r", "size=s", "width=w", "almost-all=A", "ignore-backups=B", "classify=F",
    "file-type", "si", "dereference-command-line=H", "dereference-command-line-symlink-to-dir",
    "hide:", "ignore=I", "indicator-style:", "dereference=L", "literal=N", "quote-name=Q",
    "quoting-style:", "recursive=R", "format:", "show-control-chars", "sort:", "tabsize=T",
    "time:", "time-style:", "zero", "color::", "hyperlink::", "block-size:", "context=Z", "author"]
  c.withOptions form 2 fun w =>
    let s := listingStyleOf w
    let words := if w.operands.isEmpty then ["."] else w.operands
    let follows := !(s.whole || s.arrangement = .long || s.marks == some true) || s.follows
    let isDirectory (word : String) : Bool :=
      !s.whole && match nodeAt c.tree word with
        | .ok (.link _) => (follows || w.has ["H"]) && leadsToDirectory c.tree word
        | .ok node => isDirectoryNode node
        | .error _ => leadsToDirectory c.tree word
    let find (word : String) : Except SystemError Node :=
      if s.follows then nodeBehind c.tree word else nodeAt c.tree word
    let (known, unknown) := words.partition fun word => (find word).isOk
    let a := unknown.foldl (fun a word =>
      let reason := match find word with
        | .error cause => cause.reason
        | .ok _ => ""
      a.fail s!"{c.name}: cannot access {quoted word}: {reason}" 2) c.start
    let (dirs, files) := known.partition isDirectory
    let listed := s.sorted (files.filterMap fun word => s.file c.tree word word)
    let a := if listed.isEmpty then a else a.print (s.text listed)
    let dirs := (s.sorted (dirs.filterMap fun word => s.file c.tree word word)).map (·.name)
    let titled := 1 < words.length || s.recursive
    s.directories c titled (c.tree.nodes.length + dirs.length + 1) a dirs

end Bindery.Utility
