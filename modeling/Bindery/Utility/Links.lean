import Bindery.Utility.Copying

/-!
# Paths without links

The utilities that print what links stand for, and the paths to which paths lead; and one that makes
files with names of their own.
-/

namespace Bindery.Utility

/-- What has to exist of a path that is followed. -/
inductive Existence where
  | all
  | allButLast
  | nothing
  deriving DecidableEq

/-- Where steps lead from a place, as if all directories existed. -/
def follow (place : Location) (steps : List Path.Step) : Location :=
  steps.foldl (fun place step =>
    match step with
    | .here => place
    | .up => place.dropLast
    | .name text => place ++ [text]) place

/-- The location that a path leads to. -/
def canonical (tree : FileTree) (existence : Existence) (followsLinks : Bool) (word : String) :
    Except SystemError Location := do
  let path := pathOf word
  if path.isEmpty then throw .notFound
  let start := tree.start path
  if existence = .nothing then
    if !followsLinks then return follow start (Path.steps path)
    else
      match tree.walk true FileTree.linkLimit start (Path.steps path) with
      | .ok (place, _) => return place
      | .error _ => return follow start (Path.steps path)
  else if !followsLinks then
    let place := follow start (Path.steps path)
    if existence = .all && (tree.node? place).isNone then throw .notFound
    return place
  else
    let (place, _) ← tree.walk true FileTree.linkLimit start (Path.steps path)
    match tree.node? place with
    | none => if existence = .all then throw .notFound else return place
    | some .directory => return place
    | some _ => if Path.endsInSlash path then throw .notDirectory else return place

/-- A location as a path. -/
def pathText (place : Location) : String := Text.Octets.encode ("/" ++ "/".intercalate place)

def readlink (c : Call) : Answer :=
  let form : OptionForm := .of "efmnqsvz" ["canonicalize=f", "canonicalize-existing=e",
    "canonicalize-missing=m", "no-newline=n", "quiet=q", "silent=s", "verbose=v", "zero=z"]
  c.withOptions form 1 fun w =>
    let ending := if w.has ["n"] && w.operands.length = 1 then "" else
      if w.has ["z"] then "\x00" else "\n"
    let last := w.options.reverse.find? fun o => ["e", "f", "m"].contains o.1
    let result (word : String) : Except SystemError String :=
      match last.map (·.1) with
      | some "e" => pathText <$> canonical c.tree .all true word
      | some "f" => pathText <$> canonical c.tree .allButLast true word
      | some _ => pathText <$> canonical c.tree .nothing true word
      | none =>
        match nodeAt c.tree word with
        | .ok (.link text) => .ok (Text.Octets.encode text)
        | .ok _ => .error .invalidArgument
        | .error cause => .error cause
    if w.operands.isEmpty then c.misuse "missing operand" 1
    else
      (w.operands.foldl (fun (e : Errand) word =>
        match result word with
        | .ok text => { e with answer := e.answer.print (text ++ ending) }
        | .error cause =>
          if w.has ["v"] then e.fail s!"{shown word}: {cause.reason}" else e.withFailure)
        (Errand.start c)).answer

def realpath (c : Call) : Answer :=
  let form : OptionForm := .of "eELmPqsz" ["canonicalize=E", "canonicalize-existing=e",
    "canonicalize-missing=m", "relative-to:", "relative-base:", "quiet=q", "strip=s",
    "no-symlinks=s", "zero=z", "logical=L", "physical=P"]
  c.withOptions form 1 fun w =>
    let ending := if w.has ["z"] then "\x00" else "\n"
    let existence : Existence :=
      if w.has ["e"] then .all else if w.has ["m"] then .nothing else .allButLast
    let follows := !w.has ["s"]
    let place (word : String) : Except SystemError Location :=
      canonical c.tree existence follows word
    let base? := (w.value? ["relative-base"]).map place
    let start? := ((w.value? ["relative-to"]).orElse fun _ => w.value? ["relative-base"]).map place
    let text (place : Location) : String :=
      match start?, base? with
      | some (.ok start), some (.ok base) =>
        if base.isPrefixOf place && base.isPrefixOf start then
          Text.Octets.encode (relativePath start place)
        else pathText place
      | some (.ok start), _ => Text.Octets.encode (relativePath start place)
      | _, _ => pathText place
    let fault := [w.value? ["relative-to"], w.value? ["relative-base"]].filterMap fun word =>
      word.bind fun word =>
        match place word with
        | .error cause => some s!"{shown word}: {cause.reason}"
        | .ok _ => none
    match fault with
    | text :: _ => c.fail c.start text
    | [] =>
      if w.operands.isEmpty then c.misuse "missing operand" 1
      else
        (w.operands.foldl (fun (e : Errand) word =>
          match place word with
          | .ok place => { e with answer := e.answer.print (text place ++ ending) }
          | .error cause =>
            if w.has ["q"] then e.withFailure else e.fail s!"{shown word}: {cause.reason}")
          (Errand.start c)).answer

/-! ## New names -/

/-- A name of letters for a number. -/
def lettersFor : Nat → Nat → List Char → List Char
  | 0, _, rest => rest
  | width + 1, n, rest => lettersFor width (n / 26) (Char.ofNat (97 + n % 26) :: rest)

/-- The first name from a number on that nothing has. -/
def freeName (tree : FileTree) (name : Nat → String) : Nat → Nat → String
  | 0, n => name n
  | fuel + 1, n =>
    if (nodeAt tree (name n)).isOk then freeName tree name fuel (n + 1) else name n

/-- Makes a file or directory with a name that nothing has, and prints the name. -/
def mktemp (c : Call) : Answer :=
  let form : OptionForm := .of "dp:qtuV" ["directory=d", "quiet=q", "dry-run=u", "suffix:",
    "tmpdir::"]
  c.withOptions form 1 fun w =>
    match w.operands with
    | _ :: _ :: _ => c.misuse "too many templates" 1
    | words =>
      let template := words.headD "tmp.XXXXXXXXXX"
      let standard := ((c.environment.lookup "TMPDIR").filter (· != "")).getD "/tmp"
      let dir := match w.value? ["p", "tmpdir"] with
        | some "" => some standard
        | some dir => some dir
        | none => if words.isEmpty || w.has ["t"] then some standard else none
      let cs := template.toList.reverse
      let suffix := match w.value? ["suffix"] with
        | some text => text.toList
        | none => (cs.takeWhile (· != 'X')).reverse
      let body := if w.has ["suffix"] then cs else cs.dropWhile (· != 'X')
      let marks := (body.takeWhile (· == 'X')).length
      let front := (body.drop marks).reverse
      let fault (text : String) : Answer :=
        if w.has ["q"] then { c.start with status := 1 } else c.fail c.start text
      if marks < 3 then fault s!"too few X's in template {quoted template}"
      else
        let name (n : Nat) : String :=
          let text := String.ofList (front ++ lettersFor marks n [] ++ suffix)
          match dir with
          | some dir => inside dir text
          | none => text
        let name := freeName c.tree name (c.tree.nodes.length + 1) (c.process * 7919)
        let made : Except SystemError FileTree :=
          if w.has ["u"] then .ok c.tree
          else if w.has ["d"] then makeDirectoryAt (Errand.start c) name 0o700
          else do
            let tree ← c.write c.tree name ""
            return tree.withMode (← tree.seekLocation (pathOf name)) 0o600
        match made with
        | .ok tree => { c.start with tree }.print (name ++ "\n")
        | .error cause =>
          let kind := if w.has ["d"] then "directory" else "file"
          let shape := match dir with
            | some dir => inside dir template
            | none => template
          fault s!"failed to create {kind} via template {quoted shape}: {cause.reason}"

/-- Copies files with permissions of their own, or makes directories. -/
def install (c : Call) : Answer :=
  let form : OptionForm := .of "bcCDdg:m:o:pst:TvS:" ["backup::", "compare=C", "directory=d",
    "group=g", "mode=m", "owner=o", "preserve-timestamps=p", "strip=s", "suffix=S",
    "target-directory=t", "no-target-directory=T", "verbose=v"]
  c.withOptions form 1 fun w =>
    let given := (w.value? ["m"]).getD "755"
    match modeOf? false 0 0 given with
    | none => c.fail c.start s!"invalid mode {quoted given}"
    | some mode =>
      let e := Errand.start c
      let way : Way :=
        { talks := w.has ["v"], removesFirst := false, backup := backupOf w
          suffix := (w.value? ["S"]).getD "~" }
      let one (several : Bool) (e : Errand) (source target : String) : Errand :=
        let failures := e.answer.status
        let isThere := (nodeAt e.tree target).isOk && !leadsToDirectory e.tree target
        let isSame := (placeBehind? e.tree source) == (placeBehind? e.tree target)
        let isFile := (nodeBehind e.tree source).isOk && !leadsToDirectory e.tree source
        let e := if isThere && !isSame && isFile && way.backup = .none then
            match e.tree.unlink (pathOf target) with
            | .ok tree => (e.withTree tree).sayIf way.talks s!"removed {quoted target}"
            | .error _ => e
          else e
        let e := if leadsToDirectory e.tree source then
            e.fail s!"omitting directory {quoted source}"
          else way.copy 2 true several e source target
        if e.answer.status != failures then e
        else
          match placeBehind? e.tree target with
          | some place => e.withTree (e.tree.withMode place mode)
          | none => e
      if w.has ["d"] then
        if w.operands.isEmpty then c.misuse "missing file operand" 1
        else
          (w.operands.foldl (fun e dir =>
            let e := makePath way.talks mode e dir
            match placeBehind? e.tree dir with
            | some place => e.withTree (e.tree.withMode place mode)
            | none => e) e).answer
      else
        let leading (e : Errand) (target : String) : Errand :=
          let above := String.ofList (target.toList.reverse.dropWhile (· != '/')).reverse
          if above.isEmpty || !w.has ["D"] then e
          else makePath way.talks 0o755 e (withoutSlashes above)
        let call : Call := if w.has ["D"] && w.has ["t"] then
            { c with tree := (makePath false 0o755 e ((w.value? ["t"]).getD "")).tree }
          else c
        match targetOf call w with
        | .error a => a
        | .ok (.name source target) => (one false (leading e target) source target).answer
        | .ok (.directory sources dir) =>
          (sources.foldl (fun e source => one (1 < sources.length) e source
            (inside dir (lastPart source))) (Errand.start call)).answer

end Bindery.Utility
