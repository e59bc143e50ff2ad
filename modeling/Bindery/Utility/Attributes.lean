import Bindery.Text.Units
import Bindery.Utility.Directories

/-!
# Properties of files

The utilities that change or print the permissions, the size and the other properties of files.
-/

namespace Bindery.Utility

/-! ## Times -/

/-- Makes files that are missing; there are no times to be changed. -/
def touch (c : Call) : Answer :=
  let form : OptionForm := .of "acd:fhmr:t:" ["time:", "no-create=c", "date=d", "reference=r",
    "no-dereference=h"]
  c.withOptions form 1 fun w =>
    let missing := (w.value? ["r"]).bind fun word =>
      match nodeBehind c.tree word with
      | .error cause => some s!"failed to get attributes of {quoted word}: {cause.reason}"
      | .ok _ => none
    match missing with
    | some text => c.fail c.start text
    | none =>
      if w.operands.isEmpty then c.misuse "missing file operand" 1
      else
        (w.operands.foldl (fun e word =>
          match nodeBehind e.tree word with
          | .ok _ => e
          | .error cause =>
            if word = "-" then e
            else if w.has ["c", "h"] then
              if cause = .notFound || w.has ["c"] then e
              else e.fail s!"setting times of {quoted word}: {cause.reason}"
            else
              match c.write e.tree word "" with
              | .ok tree => e.withTree tree
              | .error cause =>
                if cause = .isDirectory then
                  e.fail s!"setting times of {quoted word}: No such file or directory"
                else e.fail s!"cannot touch {quoted word}: {cause.reason}") (Errand.start c)).answer

/-! ## Permissions -/

/-- How permissions are changed. -/
structure ModeSetting where
  /-- The new permissions, given whether it is a directory and the old ones. -/
  result : Bool → Nat → Option Nat
  recursive : Bool
  /-- Tells of every file, or of those that change. -/
  tells : Option Bool
  silent : Bool

/-- Permissions in digits and letters. -/
def modeText (mode : Nat) : String := s!"{octalDigits 4 mode} ({modeLetters mode})"

/-- Changes the permissions of what a path leads to, and of what is in it. -/
def ModeSetting.run (m : ModeSetting) : Nat → Bool → Errand → String → Errand
  | 0, _, e, _ => e
  | fuel + 1, isOperand, e, word =>
    match nodeBehind e.tree word, nodeAt e.tree word with
    | .error cause, found =>
      if !isOperand then e
      else if m.silent then e.withFailure
      else if found.isOk then e.fail s!"cannot operate on dangling symlink {quoted word}"
      else e.fail s!"cannot access {quoted word}: {cause.reason}"
    | .ok node, found =>
      let isLink := match found with
        | .ok (.link _) => true
        | _ => false
      if isLink && !isOperand then e
      else
        let place := (placeBehind? e.tree word).getD []
        let old := e.tree.mode place
        let new := (m.result (isDirectoryNode node) old).getD old
        let e := if new = old then e else e.withTree (e.tree.withMode place new)
        let e := match m.tells with
          | none => e
          | some always =>
            if new != old then
              e.say s!"mode of {quoted word} changed from {modeText old} to {modeText new}"
            else e.sayIf always s!"mode of {quoted word} retained as {modeText old}"
        if m.recursive && isDirectoryNode node then
          (namesIn e.tree place).foldl (fun e name => m.run fuel false e (inside word name)) e
        else e

/-- Whether a word with a dash at its front says how permissions are to be changed. -/
def isModeWord (word : String) : Bool :=
  match word.toList with
  | '-' :: c :: cs =>
    (c :: cs).all
      (['r', 'w', 'x', 'X', 's', 't', 'u', 'g', 'o', 'a', ',', '+', '-', '='].contains ·)
      && c != '-'
  | _ => false

def chmod (c : Call) : Answer :=
  let form : OptionForm := .of "Rcfv" ["changes=c", "recursive=R", "no-preserve-root",
    "preserve-root", "quiet=f", "reference:", "silent=f", "verbose=v"]
  let modes := c.args.filter isModeWord
  let call : Call := { c with args := c.args.filter (!isModeWord ·) }
  call.withOptions form 1 fun w =>
    let reference := w.value? ["reference"]
    let (text, files) := match reference, modes, w.operands with
      | some _, _, files => (none, files)
      | none, [], text :: files => (some text, files)
      | none, [], [] => (none, [])
      | none, modes, files => (some (",".intercalate modes), files)
    let result? : Except String (Bool → Nat → Option Nat) :=
      match reference, text with
      | some word, _ =>
        match nodeBehind c.tree word, placeBehind? c.tree word with
        | .ok _, some place => .ok fun _ _ => some (c.tree.mode place)
        | .error cause, _ =>
          .error s!"failed to get attributes of {quoted word}: {cause.reason}"
        | _, none => .error ""
      | none, some text =>
        if (modeOf? false 0 0 text).isNone then .error s!"invalid mode: {quoted text}"
        else
          .ok fun isDirectory old =>
            let isShort := (octal? text).isSome && isDirectory && text.length < 5
            (modeOf? isDirectory c.mask old text).map fun mode =>
              if isShort then mode ||| (old &&& 0o6000) else mode
      | none, none => .error ""
    match result?, text, files with
    | _, none, [] => c.misuse "missing operand" 1
    | _, some text, [] => c.misuse s!"missing operand after {quoted text}" 1
    | .error reason, _, _ =>
      if reason.startsWith "invalid" then c.misuse reason 1 else c.fail c.start reason
    | .ok result, _, files =>
      let tells := w.options.reverse.find? fun o => ["v", "c"].contains o.1
      let m : ModeSetting :=
        { result, recursive := w.has ["R"], tells := tells.map (·.1 == "v"), silent := w.has ["f"] }
      (files.foldl (m.run (c.tree.nodes.length + 1) true) (Errand.start c)).answer

/-- Changes the owners of files, which are not looked at. -/
def chown (c : Call) : Answer :=
  let form : OptionForm := .of "HLPRcfhv" ["recursive=R", "changes=c", "dereference",
    "no-dereference=h", "from:", "quiet=f", "silent=f", "reference:", "verbose=v"]
  c.withOptions form 1 fun w =>
    match w.operands with
    | [] => c.misuse "missing operand" 1
    | [owner] =>
      if w.has ["reference"] then c.start else c.misuse s!"missing operand after {quoted owner}" 1
    | _ :: files =>
      (files.foldl (fun e word =>
        match nodeBehind e.tree word with
        | .ok _ => e
        | .error cause => e.fail s!"cannot access {quoted word}: {cause.reason}")
        (Errand.start c)).answer

/-! ## Sizes -/

/-- A size that a file is to have. -/
structure NewSize where
  /-- How the number is taken: as it is, or as a change of the old size. -/
  operator : Option Char
  number : Nat

/-- The size that a text says. -/
def NewSize.parse? (text : String) : Option NewSize :=
  match text.toList.dropWhile (· == ' ') with
  | c :: rest =>
    if ['+', '-', '<', '>', '/', '%'].contains c then
      (Size.parse? (String.ofList (rest.dropWhile (· == ' ')))).map (⟨some c, ·⟩)
    else (Size.parse? (String.ofList (c :: rest))).map (⟨none, ·⟩)
  | [] => none

/-- The new size of a file of a size. -/
def NewSize.of (s : NewSize) (old : Nat) : Nat :=
  match s.operator with
  | none => s.number
  | some '+' => old + s.number
  | some '-' => old - s.number
  | some '<' => min old s.number
  | some '>' => max old s.number
  | some '/' => old / s.number * s.number
  | some _ => (old + s.number - 1) / s.number * s.number

/-- So many of the bytes, with zeros after them if there are fewer. -/
def resized (content : ByteArray) (size : Nat) : ByteArray :=
  if size ≤ content.size then content.extract 0 size
  else content ++ (List.replicate (size - content.size) (0 : UInt8)).toByteArray

def truncate (c : Call) : Answer :=
  let form : OptionForm := .of "cor:s:" ["no-create=c", "io-blocks=o", "reference=r", "size=s"]
  c.withOptions form 1 fun w =>
    let text := w.value? ["s"]
    let base? : Except String (Option Nat) :=
      match w.value? ["r"] with
      | none => .ok none
      | some word =>
        match c.tree.read (pathOf word) with
        | .ok content => .ok (some content.size)
        | .error cause => .error s!"cannot stat {quoted word}: {cause.reason}"
    match text, text.bind NewSize.parse? with
    | some text, none => c.fail c.start s!"Invalid number: {quoted text}"
    | none, _ =>
      match w.has ["r"], w.operands with
      | false, _ => c.misuse "you must specify either '--size' or '--reference'" 1
      | true, _ => run w none base?
    | some _, some size =>
      if w.has ["r"] && size.operator.isNone then
        c.misuse "you must specify a relative '--size' with '--reference'" 1
      else if size.number = 0 && (size.operator == some '/' || size.operator == some '%') then
        c.fail c.start "division by zero"
      else run w (some size) base?
where
  run (w : Words) (size : Option NewSize) (base? : Except String (Option Nat)) : Answer :=
    if w.operands.isEmpty then c.misuse "missing file operand" 1
    else
      match base? with
      | .error reason => c.fail c.start reason
      | .ok base =>
        let scale (s : NewSize) : NewSize :=
          if w.has ["o"] then { s with number := s.number * 4096 } else s
        (w.operands.foldl (fun e word =>
          let old := (e.tree.read (pathOf word)).toOption.getD .empty
          let isThere := (nodeBehind e.tree word).isOk
          if w.has ["c"] && !isThere then e
          else
            let start := base.getD old.size
            let new := match size with
              | some s => (scale s).of start
              | none => start
            match c.write e.tree word (Text.Octets.ofBytes (resized old new)) with
            | .ok tree => e.withTree tree
            | .error cause => e.fail s!"cannot open {quoted word} for writing: {cause.reason}")
          (Errand.start c)).answer

/-! ## Status -/

/-- What a node is, in words. -/
def kindInWords : Node → String
  | .directory => "directory"
  | .link _ => "symbolic link"
  | .device _ => "character special file"
  | .file content => if content.isEmpty then "regular empty file" else "regular file"
  | .program _ => "regular file"

/-- The letter of a node in listings. -/
def kindLetter : Node → Char
  | .directory => 'd'
  | .link _ => 'l'
  | .device _ => 'c'
  | _ => '-'

/-- The bits of a node beside its permissions. -/
def kindBits : Node → Nat
  | .directory => 0o040000
  | .link _ => 0o120000
  | .device _ => 0o020000
  | _ => 0o100000

/-- The size of a node. -/
def sizeOf (node : Node) : Nat :=
  match node with
  | .file content => content.size
  | .link text => (Text.Octets.encode text).length
  | .directory => 4096
  | _ => 0

/-- The number of blocks of a node, of a thousand and twenty-four bytes each. -/
def blocksOf (node : Node) : Nat :=
  match node with
  | .file content => (content.size + 4095) / 4096 * 4
  | .directory => 4
  | _ => 0

/-- How many names a node has. A directory has one in itself and one in each directory in it. -/
def linksOf (tree : FileTree) (place : Location) (node : Node) : Nat :=
  match node with
  | .directory =>
    2 + ((tree.entries place).filter fun name =>
      match tree.node? (place ++ [name]) with
      | some .directory => true
      | _ => false).length
  | _ => nameCount tree place

/-- What stands for a letter of a format. -/
def statusField (tree : FileTree) (word : String) (place : Location) (node : Node) (c : Char) :
    String :=
  let mode := tree.mode place
  match c with
  | 'n' => word
  | 'N' =>
    match node with
    | .link text => s!"{quoted word} -> {quoted (Text.Octets.encode text)}"
    | _ => quoted word
  | 's' => toString (sizeOf node)
  | 'a' => String.ofList (Nat.toDigits 8 mode)
  | 'A' => String.singleton (kindLetter node) ++ modeLetters mode
  | 'F' => kindInWords node
  | 'f' => String.ofList (Nat.toDigits 16 (kindBits node + mode))
  | 'h' => toString (linksOf tree place node)
  | 'b' => toString (2 * blocksOf node)
  | 'B' => "512"
  | 'o' => "4096"
  | 'U' | 'G' => "root"
  | 'u' | 'g' | 't' | 'T' | 'X' | 'Y' | 'Z' | 'W' => "0"
  | '%' => "%"
  | _ => "?"

/-- A format filled with the status of a file; escapes are read if `escapes` says so. -/
def statusText (field : Char → String) (escapes : Bool) : Nat → List Char → String
  | 0, _ | _, [] => ""
  | fuel + 1, '%' :: rest =>
    let flags := rest.takeWhile (['-', '0', '#', '+', ' '].contains ·)
    let afterFlags := rest.drop flags.length
    let digits := afterFlags.takeWhile Char.isDigit
    match afterFlags.drop digits.length with
    | [] => "%"
    | c :: rest =>
      let text := field c
      let width := ((String.ofList digits).toNat?).getD 0
      let text :=
        if flags.contains '-' then padRight width text
        else if flags.contains '0' then
          String.ofList (List.replicate (width - text.length) '0') ++ text
        else padLeft width text
      text ++ statusText field escapes fuel rest
  | fuel + 1, '\\' :: c :: rest =>
    if !escapes then String.ofList ['\\', c] ++ statusText field escapes fuel rest
    else
      let text := match c with
        | 'n' => "\n"
        | 't' => "\t"
        | 'r' => "\r"
        | '\\' => "\\"
        | '"' => "\""
        | c => String.ofList ['\\', c]
      text ++ statusText field escapes fuel rest
  | fuel + 1, c :: rest => String.singleton c ++ statusText field escapes fuel rest

def stat (c : Call) : Answer :=
  let form : OptionForm := .of "Lfc:t" ["dereference=L", "file-system=f", "format=c", "printf:",
    "terse=t", "cached:"]
  c.withOptions form 1 fun w =>
    if w.operands.isEmpty then c.misuse "missing operand" 1
    else
      let (format, escapes, ending) := match w.value? ["printf"], w.value? ["c"] with
        | some format, _ => (format, true, "")
        | none, some format => (format, false, "\n")
        | none, none => ("  File: %N\n  Size: %s", false, "\n")
      (w.operands.foldl (fun e word =>
        let found := if w.has ["L"] then nodeBehind e.tree word else nodeAt e.tree word
        match found with
        | .error cause => e.fail s!"cannot statx {quoted word}: {cause.reason}"
        | .ok node =>
          let place := (if w.has ["L"] then placeBehind? e.tree word else placeOf? e.tree word)
          let text := statusText (statusField e.tree word (place.getD []) node) escapes
            (format.length + 1) format.toList
          { e with answer := e.answer.print (text ++ ending) }) (Errand.start c)).answer

end Bindery.Utility
