import Bindery.Utility.Directories

/-!
# Copying and moving

The utilities that give files further names, copy them, or move them. All of them have a target,
which is a new name or a directory.
-/

namespace Bindery.Utility

/-! ## Targets -/

/-- Where files go: to a name, or under their own names into a directory. -/
inductive Target where
  | name (source target : String)
  | directory (sources : List String) (dir : String)

/-- The target of the operands of a call, or the answer if they make no sense. -/
def targetOf (c : Call) (w : Words) : Except Answer Target :=
  let operands := w.operands
  let missing : Answer := c.misuse "missing file operand" 1
  match w.value? ["t"], w.has ["T"] with
  | some _, true =>
    .error (c.start.fail
      s!"{c.name}: cannot combine --target-directory (-t) and --no-target-directory (-T)" 1)
  | some dir, false =>
    if operands.isEmpty then .error missing
    else
      match nodeBehind c.tree dir with
      | .ok .directory => .ok (.directory operands dir)
      | .ok _ => .error (c.fail c.start s!"target directory {quoted dir}: Not a directory")
      | .error cause =>
        .error (c.fail c.start s!"target directory {quoted dir}: {cause.reason}")
  | none, exact =>
    match operands with
    | [] => .error missing
    | [only] =>
      .error (c.misuse s!"missing destination file operand after {quoted only}" 1)
    | first :: second :: rest =>
      let last := (second :: rest).getLastD second
      if exact then
        match rest with
        | [] => .ok (.name first second)
        | extra :: _ => .error (c.misuse s!"extra operand {quoted extra}" 1)
      else
        match nodeBehind c.tree last with
        | .ok .directory => .ok (.directory (operands.dropLast) last)
        | result =>
          if rest.isEmpty then .ok (.name first second)
          else
            let reason := match result with
              | .ok _ => SystemError.notDirectory.reason
              | .error cause => cause.reason
            .error (c.fail c.start s!"target {quoted last}: {reason}")

/-! ## Ways -/

/-- When old files are kept under other names. -/
inductive Backup where
  | none
  /-- With a suffix. -/
  | simple
  /-- With numbers. -/
  | numbered
  /-- With numbers if there are such names already. -/
  | existing
  deriving DecidableEq

/-- How files are copied or moved. -/
structure Way where
  recursive : Bool := false
  /-- Links are followed: never, when they are operands, or always. -/
  followsOperands : Bool := true
  followsAll : Bool := true
  force : Bool := false
  /-- What is done with files that are there: nothing, or a question is asked. -/
  spares : Bool := false
  updates : Bool := false
  asks : Bool := false
  talks : Bool := false
  /-- Files get further names instead of copies. -/
  shares : Bool := false
  /-- Links are made instead of copies. -/
  links : Bool := false
  removesFirst : Bool := false
  keepsModes : Bool := false
  withParents : Bool := false
  backup : Backup := .none
  suffix : String := "~"

/-- The kind of backups that options ask for. -/
def backupOf (w : Words) : Backup :=
  match w.value? ["backup"] with
  | some "none" | some "off" => .none
  | some "numbered" | some "t" => .numbered
  | some "simple" | some "never" => .simple
  | some _ => .existing
  | none => if w.has ["b", "S"] then .existing else .none

/-- The highest number of the backups of a file. -/
def lastBackup (tree : FileTree) (word : String) : Nat :=
  let start := lastPart word ++ ".~"
  let dir := String.ofList (word.toList.take (word.length - (lastPart word).length))
  match placeBehind? tree (if dir.isEmpty then "." else dir) with
  | none => 0
  | some place =>
    (namesIn tree place).foldl (fun most name =>
      if name.startsWith start && name.endsWith "~" then
        let digits := (name.toList.drop start.length).dropLast
        max most (((String.ofList digits).toNat?).getD 0)
      else most) 0

/-- The name under which an old file is kept. -/
def Way.backupName (way : Way) (tree : FileTree) (word : String) : String :=
  let last := lastBackup tree word
  let isNumbered := way.backup = .numbered || (way.backup = .existing && 0 < last)
  if isNumbered then s!"{word}.~{last + 1}~" else word ++ way.suffix

/-- Keeps the old file at a path, if old files are kept; gives its new name. -/
def Way.keepOld (way : Way) (e : Errand) (word : String) : Errand × Option String :=
  if way.backup = .none then (e, none)
  else
    let name := way.backupName e.tree word
    match e.tree.move (pathOf word) (pathOf name) with
    | .ok tree => (e.withTree tree, some name)
    | .error cause => (e.fail s!"cannot backup {quoted word}: {cause.reason}", none)

/-! ## Copying -/

/-- Something that is to be copied. -/
structure Item where
  source : String
  target : String
  node : Node
  place : Location
  /-- It is an operand, and not only in a directory that is one. -/
  isOperand : Bool
  /-- There are several operands. -/
  isOneOfSeveral : Bool

def Item.isDirectory (x : Item) : Bool := isDirectoryNode x.node

def Item.text (x : Item) (note : String) : String :=
  s!"{quoted x.source} -> {quoted x.target}{note}"

/-- Makes sure that a file may be put at a path; the result is what is to be said about an old file,
or nothing if there is nothing more to do. -/
def Way.admit (way : Way) (e : Errand) (x : Item) : Errand × Option String :=
  let source := quoted x.source
  let target := quoted x.target
  let looksAtLink := x.isDirectory || isLinkNode x.node || way.links || way.shares ||
    way.backup != .none || way.removesFirst
  let old := if looksAtLink then nodeAt e.tree x.target else nodeBehind e.tree x.target
  let oldPlace := if looksAtLink then placeOf? e.tree x.target else placeBehind? e.tree x.target
  let stop (text : String) : Errand × Option String := (e.fail text, none)
  match old with
  | .error cause =>
    let goes := cause = .notFound || x.isDirectory || way.links || way.shares
    if goes then (e, some "") else stop s!"cannot stat {target}: {cause.reason}"
  | .ok oldNode =>
    let oldPlace := oldPlace.getD []
    let behind := (placeBehind? e.tree x.target).getD oldPlace
    let isPlain := !way.removesFirst && !way.links && way.backup = .none
    let isSame :=
      isSameFile e.tree x.place oldPlace || (isPlain && isSameFile e.tree x.place behind)
    let isOther := way.backup != .none && x.place = oldPlace && x.source != x.target
    if isSame && way.shares && !x.isDirectory then (e, none)
    else if isSame && !isOther then stop s!"{source} and {target} are the same file"
    else if (way.spares || way.updates) && !x.isDirectory then (e, none)
    else
      let asks := way.asks && !x.isDirectory && !isDirectoryNode oldNode
      let (goes, e) := if asks then e.ask s!"overwrite {target}" else (true, e)
      let stop (text : String) : Errand × Option String := (e.fail text, none)
      if !goes then (e.withFailure, none)
      else if isDirectoryNode oldNode && !x.isDirectory then
        stop s!"cannot overwrite directory {target} with non-directory"
      else if !isDirectoryNode oldNode && x.isDirectory then
        stop s!"cannot overwrite non-directory {target} with directory {source}"
      else if x.isOneOfSeveral && x.isOperand && !x.isDirectory && e.made.contains oldPlace &&
          way.backup = .none then
        stop s!"will not overwrite just-created {target} with {source}"
      else if x.isDirectory then (e, some "")
      else
        match way.keepOld e x.target with
        | (e, some name) => (e, some s!" (backup: {quoted name})")
        | (e, none) =>
          let removes :=
            way.removesFirst || (way.force && (way.links || way.shares)) || isLinkNode x.node
          if !removes then (e, some "")
          else
            match e.tree.unlink (pathOf x.target) with
            | .ok tree => ((e.withTree tree).sayIf way.talks s!"removed {target}", some "")
            | .error _ => (e, some "")

/-- Puts a link at a path. -/
def Way.putLink (way : Way) (e : Errand) (x : Item) (text note : String) : Errand :=
  let result : Except SystemError FileTree := do
    let goal ← e.tree.locateFile (← e.tree.plain (pathOf x.target) false)
    if (e.tree.node? goal).isSome then throw .alreadyExists
    return e.tree.put goal (.link text)
  match result with
  | .ok tree => (e.withTree tree).sayIf way.talks (x.text note)
  | .error cause => e.fail s!"cannot create symbolic link {quoted x.target}: {cause.reason}"

/-- Gives a file a further name. -/
def Way.putName (way : Way) (e : Errand) (x : Item) (note : String) : Errand :=
  let result : Except SystemError FileTree := do
    let goal ← e.tree.locateFile (← e.tree.plain (pathOf x.target) false)
    if (e.tree.node? goal).isSome then throw .alreadyExists
    return e.tree.share x.place goal
  match result with
  | .ok tree => (e.withTree tree).sayIf way.talks (x.text note)
  | .error cause =>
    e.fail s!"cannot create hard link {quoted x.target} to {quoted x.source}: {cause.reason}"

/-- Puts a copy of a file at a path. -/
def Way.putContent (way : Way) (e : Errand) (x : Item) (note : String) : Errand :=
  let path := pathOf x.target
  let dangles := match nodeAt e.tree x.target, nodeBehind e.tree x.target with
    | .ok (.link _), .error _ => true
    | _, _ => false
  if dangles then e.fail s!"not writing through dangling symlink {quoted x.target}"
  else
    let e := e.sayIf way.talks (x.text note)
    let isNew := (nodeBehind e.tree x.target).toOption.isNone
    let mode := e.tree.mode x.place
    let result : Except SystemError (FileTree × Location) := do
      let tree ← e.tree.save path (x.node.read.toOption.getD .empty)
      return (tree, ← tree.seekLocation path)
    match result with
    | .ok (tree, place) =>
      let bits := if way.keepsModes then mode else masked mode e.call.mask
      let changes := (isNew || way.keepsModes) && tree.mode place != bits
      { e.withTree (if changes then tree.withMode place bits else tree) with
        made := place :: e.made }
    | .error cause =>
      let cause := if cause = .isDirectory then .notDirectory else cause
      e.fail s!"cannot create regular file {quoted x.target}: {cause.reason}"

/-- Makes sure that there is a directory at a path; the result tells whether there is. -/
def Way.putDirectory (way : Way) (e : Errand) (x : Item) : Errand × Bool :=
  if leadsToDirectory e.tree x.target then (e, true)
  else
    let mask := if way.keepsModes then 0 else e.call.mask
    match makeDirectoryAt e x.target (masked (e.tree.mode x.place) mask) with
    | .ok tree => ((e.withTree tree).sayIf way.talks (x.text ""), true)
    | .error cause => (e.fail (cannotMake x.target cause), false)

/-- Copies what a path names to a path. -/
def Way.copy (way : Way) : Nat → Bool → Bool → Errand → String → String → Errand
  | 0, _, _, e, _, _ => e
  | fuel + 1, isOperand, several, e, source, target =>
    let follows := way.followsAll || (isOperand && way.followsOperands)
    let found := if follows then nodeBehind e.tree source else nodeAt e.tree source
    let place := (if follows then placeBehind? e.tree source else placeOf? e.tree source).getD []
    match found with
    | .error cause => e.fail s!"cannot stat {quoted source}: {cause.reason}"
    | .ok node =>
      let x : Item := { source, target, node, place, isOperand, isOneOfSeveral := several }
      if x.isDirectory && !way.recursive then
        e.fail s!"-r not specified; omitting directory {quoted source}"
      else if several && isOperand && !x.isDirectory && way.backup = .none &&
          e.copied.contains place then
        e.warn s!"warning: source file {quoted source} specified more than once"
      else
        let e := if isOperand && !x.isDirectory then { e with copied := place :: e.copied } else e
        match way.admit e x with
        | (e, none) => e
        | (e, some note) =>
          match node with
          | .directory =>
            let goal := (placeBehind? e.tree target).orElse fun _ => placeOf? e.tree target
            let isInside := goal.any fun goal => place.isPrefixOf goal
            let names := (namesIn e.tree place).filter fun name =>
              !goal.any fun goal => (place ++ [pathOf name]).isPrefixOf goal
            match way.putDirectory e x with
            | (e, false) => e
            | (e, true) =>
              let e := names.foldl (fun e name =>
                way.copy fuel false several e (inside source name) (inside target name)) e
              if isInside then
                e.fail s!"cannot copy a directory, {quoted source}, into itself, {quoted target}"
              else e
          | .link text => if way.shares then way.putName e x note else way.putLink e x text note
          | _ =>
            if way.links then
              if !source.startsWith "/" && target.toList.contains '/' then
                e.fail (s!"{shown target}: can make relative symbolic links only in current " ++
                  "directory")
              else way.putLink e x (pathOf source) note
            else if way.shares then way.putName e x note
            else way.putContent e x note

/-- Makes the directories above a path in a directory. -/
def makeParents (e : Errand) (dir path : String) : Errand :=
  let above := withoutSlashes (String.ofList
    ((withoutSlashes path).toList.reverse.dropWhile (· != '/')).reverse)
  if above.isEmpty || above == "/" then e
  else makePath false (masked 0o777 e.call.mask) e (inside dir above)

/-- Whether only files that are missing, or older, are to be made. -/
def updates (w : Words) : Bool :=
  w.has ["u"] || (w.value? ["update"]).any fun text => text.isEmpty || text == "older"

/-- The way of copying that options ask for. -/
def copyWay (w : Words) : Way :=
  let recursive := w.has ["r", "R", "a"]
  let links := w.options.reverse.find? fun o => ["L", "P", "H", "d", "a"].contains o.1
  let (operands, all) := match links.map (·.1) with
    | some "L" => (true, true)
    | some "H" => (true, false)
    | some _ => (false, false)
    | none => if recursive || w.has ["l"] then (false, false) else (true, true)
  let last := w.options.reverse.find? fun o => ["i", "n", "f"].contains o.1
  let keeps := w.has ["p", "a"] ||
    (w.value? ["preserve"]).any fun text => text.isEmpty || (text.splitOn ",").any
      fun part => part == "mode" || part == "all"
  { recursive
    followsOperands := operands
    followsAll := all
    force := w.has ["f"]
    spares := last.any (·.1 == "n") || w.value? ["update"] == some "none"
    updates := updates w
    asks := w.has ["i"] && !last.any (·.1 == "n")
    talks := w.has ["v"]
    shares := w.has ["l"]
    links := w.has ["s"]
    removesFirst := w.has ["remove-destination"]
    keepsModes := keeps
    withParents := w.has ["parents"]
    backup := backupOf w
    suffix := (w.value? ["S"]).getD "~" }

def cp (c : Call) : Answer :=
  let form : OptionForm := .of "abdfHilLnprst:uvxPRS:TZ" ["archive=a", "attributes-only",
    "backup::", "copy-contents", "debug", "dereference=L", "force=f", "interactive=i", "link=l",
    "no-clobber=n", "no-dereference=P", "no-preserve:", "no-target-directory=T",
    "one-file-system=x", "parents", "path", "preserve::", "recursive=R", "remove-destination",
    "sparse:", "reflink::", "strip-trailing-slashes", "suffix=S", "symbolic-link=s",
    "target-directory=t", "update::", "verbose=v", "keep-directory-symlink", "context::"]
  c.withOptions form 1 fun w =>
    let way := copyWay w
    let e := Errand.start c
    let e := if w.has ["n"] then
        e.warn ("warning: behavior of -n is non-portable and may change in future; " ++
          "use --update=none instead")
      else e
    let fuel := c.tree.nodes.length + 2
    match targetOf c w with
    | .error a => { a with written := e.answer.written ++ a.written }
    | .ok (.name source target) =>
      if way.withParents then
        c.misuse "with --parents, the destination must be a directory" 1
      else (way.copy fuel true false e source target).answer
    | .ok (.directory sources dir) =>
      let several := 1 < sources.length
      (sources.foldl (fun e source =>
        if way.withParents then
          let above := withoutSlashes
            (String.ofList (source.toList.reverse.dropWhile (· != '/')).reverse)
          match if above.isEmpty then .ok .directory else nodeBehind e.tree above with
          | .error cause =>
            let first := (above.splitOn "/").headD above
            e.fail s!"failed to get attributes of {quoted first}: {cause.reason}"
          | .ok _ =>
            let path := String.ofList (source.toList.dropWhile (· == '/'))
            way.copy fuel true several (makeParents e dir path) source (inside dir path)
        else
          let name := lastPart source
          let target := if name = ".." then dir else inside dir name
          way.copy fuel true several e source target) e).answer

/-! ## Moving -/

/-- Moves what a path names to a path. -/
def Way.move (way : Way) (several : Bool) (e : Errand) (source target : String) : Errand :=
  let from_ := quoted source
  let goal := quoted target
  match nodeAt e.tree source with
  | .error cause => e.fail s!"cannot stat {from_}: {cause.reason}"
  | .ok node =>
    let place := (placeOf? e.tree source).getD []
    let isDirectory := isDirectoryNode node
    let run (e : Errand) (note : String) : Errand :=
      match e.tree.move (pathOf source) (pathOf target) with
      | .ok tree =>
        let e := (e.withTree tree).sayIf way.talks s!"renamed {from_} -> {goal}{note}"
        { e with made := ((placeOf? tree target).getD []) :: e.made }
      | .error cause =>
        if cause = .invalidArgument then
          e.fail s!"cannot move {from_} to a subdirectory of itself, {goal}"
        else if cause = .directoryNotEmpty || cause = .isDirectory then
          e.fail s!"cannot overwrite {goal}: {cause.reason}"
        else e.fail s!"cannot move {from_} to {goal}: {cause.reason}"
    match nodeAt e.tree target with
    | .error _ => run e ""
    | .ok old =>
      let oldPlace := (placeOf? e.tree target).getD []
      if isSameFile e.tree place oldPlace && way.backup = .none then
        e.fail s!"{from_} and {goal} are the same file"
      else if way.spares then e.fail s!"not replacing {goal}"
      else if way.updates then e
      else
        let (goes, e) := if way.asks then e.ask s!"overwrite {goal}" else (true, e)
        if !goes then e.withFailure
        else if isDirectoryNode old && !isDirectory then
          e.fail s!"cannot overwrite directory {goal} with non-directory"
        else if !isDirectoryNode old && isDirectory && way.backup = .none then
          e.fail s!"cannot overwrite non-directory {goal} with directory {from_}"
        else if several && e.made.contains oldPlace && way.backup = .none then
          e.fail s!"will not overwrite just-created {goal} with {from_}"
        else
          match way.keepOld e target with
          | (e, some name) => run e s!" (backup: {quoted name})"
          | (e, none) => run e ""

def mv (c : Call) : Answer :=
  let form : OptionForm := .of "bfint:uvS:TZ" ["backup::", "context", "debug", "force=f",
    "interactive=i", "no-clobber=n", "no-copy", "no-target-directory=T", "strip-trailing-slashes",
    "suffix=S", "target-directory=t", "update::", "verbose=v"]
  c.withOptions form 1 fun w =>
    let last := w.options.reverse.find? fun o => ["i", "n", "f"].contains o.1
    let way : Way :=
      { spares := last.any (·.1 == "n") || w.value? ["update"] == some "none"
        updates := updates w
        asks := last.any (·.1 == "i")
        talks := w.has ["v"]
        backup := backupOf w
        suffix := (w.value? ["S"]).getD "~" }
    let clean (word : String) : String :=
      if w.has ["strip-trailing-slashes"] then withoutSlashes word else word
    match targetOf c w with
    | .error a => a
    | .ok (.name source target) =>
      (way.move false (Errand.start c) (clean source) target).answer
    | .ok (.directory sources dir) =>
      (sources.foldl (fun e source =>
        let source := clean source
        way.move (1 < sources.length) e source (inside dir (lastPart source)))
        (Errand.start c)).answer

/-! ## Linking -/

/-- The path from one place to another one. -/
def relativePath (start goal : Location) : String :=
  let same := ((start.zip goal).takeWhile fun (a, b) => a == b).length
  let steps := List.replicate (start.length - same) ".." ++ goal.drop same
  if steps.isEmpty then "." else "/".intercalate steps

/-- How links are made. -/
structure Linking where
  symbolic : Bool
  way : Way
  /-- A link to a directory is taken as a name of its own. -/
  exact : Bool
  relative : Bool
  /-- The file behind a link gets the name. -/
  follows : Bool

/-- Makes a link. -/
def Linking.run (l : Linking) (several : Bool) (e : Errand) (source target : String) : Errand :=
  let way := l.way
  let source? : Except SystemError Node :=
    if l.follows then nodeBehind e.tree source else nodeAt e.tree source
  let goal := quoted target
  let cannot (e : Errand) (cause : SystemError) : Errand :=
    let what :=
      if l.symbolic then
        s!"failed to create symbolic link {goal}" ++ if source.isEmpty then " -> ''" else ""
      else if cause = .alreadyExists then s!"failed to create hard link {goal}"
      else s!"failed to create hard link {goal} => {quoted source}"
    e.fail s!"{what}: {cause.reason}"
  match l.symbolic, source? with
  | false, .error cause => e.fail s!"failed to access {quoted source}: {cause.reason}"
  | false, .ok .directory => e.fail s!"{shown source}: hard link not allowed for directory"
  | _, _ =>
    let place := (if l.follows then placeBehind? e.tree source else placeOf? e.tree source).getD []
    let old := nodeAt e.tree target
    let oldPlace := (placeOf? e.tree target).getD []
    let put (e : Errand) (note : String) : Errand :=
      let text :=
        if l.relative then
          let dir := (placeOf? e.tree target).map List.dropLast
          match dir, placeBehind? e.tree source with
          | some dir, some goal => Text.Octets.encode (relativePath dir goal)
          | _, _ => source
        else source
      let result : Except SystemError FileTree := do
        if l.symbolic && source.isEmpty then throw .notFound
        let at_ ← e.tree.locateFile (← e.tree.plain (pathOf target) false)
        if (e.tree.node? at_).isSome then throw .alreadyExists
        return if l.symbolic then e.tree.put at_ (.link (pathOf text)) else e.tree.share place at_
      match result with
      | .ok tree =>
        let arrow := if l.symbolic then "->" else "=>"
        let e := (e.withTree tree).sayIf way.talks s!"{goal} {arrow} {quoted text}{note}"
        { e with made := ((placeOf? tree target).getD []) :: e.made }
      | .error cause =>
        let isThere := (nodeBehind e.tree target).isOk
        cannot e (if cause != .isDirectory then cause else if isThere then .alreadyExists
          else .notFound)
    match old with
    | .error _ => put e ""
    | .ok node =>
      let replaces := way.force || way.asks || way.backup != .none
      if isDirectoryNode node && replaces then e.fail s!"{shown target}: cannot overwrite directory"
      else if several && replaces && e.made.contains oldPlace then
        e.fail s!"will not overwrite just-created {goal} with {quoted source}"
      else if !replaces then put e ""
      else
        let isSame := if l.symbolic then place = oldPlace else isSameFile e.tree place oldPlace
        if isSame && source?.isOk && way.backup = .none then
          if !l.symbolic && place != oldPlace then e
          else e.fail s!"{quoted source} and {goal} are the same file"
        else
          let (goes, e) := if way.asks then e.ask s!"replace {goal}" else (true, e)
          if !goes then e.withFailure
          else
            match way.keepOld e target with
            | (e, some name) => put e s!" (backup: {quoted name})"
            | (e, none) =>
              match e.tree.unlink (pathOf target) with
              | .ok tree => put (e.withTree tree) ""
              | .error cause => cannot e cause

def ln (c : Call) : Answer :=
  let form : OptionForm := .of "bdfinrst:vFLPS:T" ["backup::", "directory=F", "no-dereference=n",
    "no-target-directory=T", "force=f", "interactive=i", "suffix=S", "target-directory=t",
    "logical=L", "physical=P", "relative=r", "symbolic=s", "verbose=v"]
  c.withOptions form 1 fun w =>
    let last := w.options.reverse.find? fun o => ["i", "f"].contains o.1
    let way : Way :=
      { force := last.any (·.1 == "f")
        asks := last.any (·.1 == "i")
        talks := w.has ["v"]
        backup := backupOf w
        suffix := (w.value? ["S"]).getD "~" }
    let names := w.options.reverse.find? fun o => ["L", "P"].contains o.1
    let l : Linking :=
      { symbolic := w.has ["s"], way, exact := w.has ["n"], relative := w.has ["r"]
        follows := names.any (·.1 == "L") }
    let e := Errand.start c
    if l.relative && !l.symbolic then c.fail c.start "cannot do --relative without --symbolic"
    else
      let isDirectory (word : String) : Bool :=
        match nodeAt c.tree word with
        | .ok (.link _) => !l.exact && leadsToDirectory c.tree word
        | _ => leadsToDirectory c.tree word
      let into (sources : List String) (dir : String) : Answer :=
        (sources.foldl (fun e source =>
          l.run (1 < sources.length) e source (inside dir (lastPart source))) e).answer
      match w.value? ["t"], w.operands with
      | _, [] => c.misuse "missing file operand" 1
      | some _, _ =>
        match targetOf c w with
        | .error a => a
        | .ok (.name source target) => (l.run false e source target).answer
        | .ok (.directory sources dir) => into sources dir
      | none, [source] =>
        if w.has ["T"] then c.misuse s!"missing destination file operand after {quoted source}" 1
        else into [source] "."
      | none, [source, target] =>
        if !w.has ["T"] && isDirectory target then into [source] target
        else (l.run false e source target).answer
      | none, words =>
        let extra := (words.drop 2).headD ""
        if w.has ["T"] then c.misuse s!"extra operand {quoted extra}" 1
        else
          let dir := words.getLastD ""
          match nodeBehind c.tree dir with
          | .ok .directory => into words.dropLast dir
          | .ok _ => c.fail c.start s!"target {quoted dir}: Not a directory"
          | .error cause => c.fail c.start s!"target {quoted dir}: {cause.reason}"

end Bindery.Utility
