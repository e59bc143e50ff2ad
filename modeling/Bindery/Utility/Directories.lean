import Bindery.File.Mode
import Bindery.Utility.Errand

/-!
# Making and removing

The utilities that make directories, and those that remove files and directories.
-/

namespace Bindery.Utility

/-! ## Making -/

/-- The permissions that a text says, starting from some of them. -/
def modeOf? (isDirectory : Bool) (mask start : Nat) (text : String) : Option Nat :=
  match octal? text with
  | some n => if n < 0o10000 then some n else none
  | none =>
    (ModeChange.parse? text).map fun changes =>
      changes.foldl (ModeChange.apply isDirectory mask) start

/-- The message about a directory that cannot be made. -/
def cannotMake (dir : String) (cause : SystemError) : String :=
  s!"cannot create directory {quoted dir}: {cause.reason}"

/-- Makes the directory at a path. -/
def makeDirectoryAt (e : Errand) (dir : String) (mode : Nat) : Except SystemError FileTree := do
  let tree ← e.tree.makeDirectory (pathOf dir)
  let place ← tree.nameLocation (pathOf dir)
  return if tree.mode place = mode then tree else tree.withMode place mode

/-- Permissions without those that a mask takes away. -/
def masked (full mask : Nat) : Nat := full - (full &&& mask)

/-- Makes a directory and those above it, one after the other. -/
def makePath (talks : Bool) (mode : Nat) (e : Errand) (path : String) : Errand :=
  let cs := path.toList
  let ends := (List.range (cs.length + 1)).filter fun n =>
    0 < n && (n = cs.length || cs[n]? == some '/')
  if cs.isEmpty then e.fail (cannotMake path .notFound)
  else
    (ends.foldl (fun ((e, failed) : Errand × Bool) n =>
      if failed then (e, true)
      else
        let part := String.ofList (cs.take n)
        let isLast := (cs.drop n).all (· == '/')
        let mode := if isLast then mode else masked 0o777 e.call.mask ||| 0o300
        match makeDirectoryAt e part mode with
        | .ok tree =>
          ((e.withTree tree).sayIf talks s!"{e.call.name}: created directory {quoted part}", false)
        | .error cause =>
          if leadsToDirectory e.tree part then (e, false)
          else
            let stands := cause = .alreadyExists && !isLast
            (e.fail (cannotMake part (if stands then .notDirectory else cause)), true))
      (e, false)).1

def mkdir (c : Call) : Answer :=
  c.withOptions (.of "pvZm:" ["mode=m", "parents=p", "verbose=v", "context::"]) 1 fun w =>
    let usual := masked 0o777 c.mask
    let given := (w.value? ["m"]).getD ""
    let mode? := if w.has ["m"] then modeOf? true c.mask 0o777 given else some usual
    match mode? with
    | none => c.fail c.start s!"invalid mode {quoted given}"
    | some mode =>
      if w.operands.isEmpty then c.misuse "missing operand" 1
      else
        (w.operands.foldl (fun e dir =>
          if w.has ["p"] then makePath (w.has ["v"]) mode e dir
          else
            match makeDirectoryAt e dir mode with
            | .ok tree =>
              (e.withTree tree).sayIf (w.has ["v"]) s!"{c.name}: created directory {quoted dir}"
            | .error cause => e.fail (cannotMake dir cause)) (Errand.start c)).answer

/-! ## Removing -/

/-- A path and those above it, which its text holds. -/
def pathsUp : Nat → String → List String
  | 0, _ => []
  | fuel + 1, path =>
    let path := withoutSlashes path
    let above := withoutSlashes (String.ofList (path.toList.reverse.dropWhile (· != '/')).reverse)
    if above.isEmpty || above == "/" then [path] else path :: pathsUp fuel above

def rmdir (c : Call) : Answer :=
  let form : OptionForm :=
    .of "pv" ["parents=p", "verbose=v", "ignore-fail-on-non-empty"]
  c.withOptions form 1 fun w =>
    let one (e : Errand) (dir label : String) : Errand × Bool :=
      let e := e.sayIf (w.has ["v"]) s!"{c.name}: removing directory, {quoted dir}"
      match e.tree.removeDirectory (pathOf dir) with
      | .ok tree => (e.withTree tree, true)
      | .error cause =>
        if cause = .directoryNotEmpty && w.has ["ignore-fail-on-non-empty"] then (e, false)
        else (e.fail s!"failed to remove {label}{quoted dir}: {cause.reason}", false)
    if w.operands.isEmpty then c.misuse "missing operand" 1
    else
      (w.operands.foldl (fun e dir =>
        let (e, done) := one e dir ""
        if done && w.has ["p"] then
          (((pathsUp dir.length dir).drop 1).foldl (fun ((e, goes) : Errand × Bool) dir =>
            if goes then one e dir "directory " else (e, goes)) (e, true)).1
        else e) (Errand.start c)).answer

/-- What a file is called in questions. -/
def kindOfFile (tree : FileTree) (word : String) : String :=
  match nodeAt tree word with
  | .ok .directory => "directory"
  | .ok (.link _) => "symbolic link"
  | .ok (.device _) => "character special file"
  | .ok (.file content) => if content.isEmpty then "regular empty file" else "regular file"
  | _ => "regular file"

/-- How files are removed. -/
structure Removal where
  force : Bool
  recursive : Bool
  directories : Bool
  asks : Bool
  talks : Bool

/-- Removes what a path names, and what is in it. -/
def Removal.run (r : Removal) : Nat → Errand → String → Errand
  | 0, e, _ => e
  | fuel + 1, e, word =>
    let cannot (cause : SystemError) : Errand :=
      e.fail s!"cannot remove {quoted word}: {cause.reason}"
    match nodeAt e.tree word with
    | .error cause =>
      if r.force && (cause = .notFound || cause = .notDirectory) then e else cannot cause
    | .ok .directory =>
      let isLink := match nodeAt e.tree (withoutSlashes word) with
        | .ok (.link _) => true
        | _ => false
      match placeOf? e.tree word with
      | none => e
      | some place =>

        let names := namesIn e.tree place
        let remove (e : Errand) : Errand :=
          let asks := r.asks && !isLink
          let (goes, e) := if asks then e.ask s!"remove directory {quoted word}" else (true, e)
          let result : Except SystemError FileTree := do
            if isLink then throw .notDirectory
            e.tree.removeDirectory (pathOf word)
          if !goes then e
          else
            match result with
            | .ok tree => (e.withTree tree).sayIf r.talks s!"removed directory {quoted word}"
            | .error cause => e.fail s!"cannot remove {quoted word}: {cause.reason}"
        if r.recursive then
          let (goes, e) :=
            if r.asks && !names.isEmpty then e.ask s!"descend into directory {quoted word}"
            else (true, e)
          if goes then remove (names.foldl (fun e name => r.run fuel e (inside word name)) e) else e
        else if r.directories then
          if names.isEmpty then remove e else cannot .directoryNotEmpty
        else cannot .isDirectory
    | .ok _ =>
      let question := s!"remove {kindOfFile e.tree word} {quoted word}"
      let (goes, e) := if r.asks then e.ask question else (true, e)
      if !goes then e
      else
        match e.tree.unlink (pathOf word) with
        | .ok tree => (e.withTree tree).sayIf r.talks s!"removed {quoted word}"
        | .error cause => e.fail s!"cannot remove {quoted word}: {cause.reason}"

def rm (c : Call) : Answer :=
  let form : OptionForm := .of "dfirvIR" ["force=f", "interactive::", "one-file-system",
    "no-preserve-root", "preserve-root::", "recursive=r", "dir=d", "verbose=v"]
  c.withOptions form 1 fun w =>
    let recursive := w.has ["r", "R"]
    let last := w.options.reverse.find? fun o => ["f", "i", "I", "interactive"].contains o.1
    let asksOnce := last.any fun o => o.1 == "I" || o.2 == "once"
    let r : Removal :=
      { force := last.any (·.1 == "f")
        recursive
        directories := w.has ["d"]
        asks := last.any fun o =>
          o.1 == "i" || (o.1 == "interactive" && o.2 != "never" && !asksOnce)
        talks := w.has ["v"] }
    if w.operands.isEmpty then if w.has ["f"] then c.start else c.misuse "missing operand" 1
    else
      let e := Errand.start c
      let count := w.operands.length
      let (goes, e) :=
        if asksOnce && (recursive || 3 < count) then
          let what := if count = 1 then "argument" else "arguments"
          let how := if recursive then " recursively" else ""
          e.ask s!"remove {count} {what}{how}"
        else (true, e)
      if !goes then e.answer
      else
        (w.operands.foldl (fun e word =>
          let last := lastPart word
          if (last = "." || last = "..") && (recursive || r.directories) then
            e.fail s!"refusing to remove '.' or '..' directory: skipping {quoted word}"
          else if last = "/" && recursive then
            (e.fail "it is dangerous to operate recursively on '/'").warn
              "use --no-preserve-root to override this failsafe"
          else r.run (e.tree.nodes.length + 1) e word) e).answer

/-- Removes one name of a file. -/
def unlink (c : Call) : Answer :=
  match c.args.filter (· != "--") with
  | [] => c.misuse "missing operand" 1
  | [word] =>
    match c.tree.unlink (pathOf word) with
    | .ok tree => { c.start with tree }
    | .error cause => c.fail c.start s!"cannot unlink {quoted word}: {cause.reason}"
  | _ :: extra :: _ => c.misuse s!"extra operand {quoted extra}" 1

end Bindery.Utility
