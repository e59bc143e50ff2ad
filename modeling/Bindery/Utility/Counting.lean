import Bindery.Digest
import Bindery.Utility.Display

/-!
# Counting and summing up

The utilities that count what is in files, or print digests of them, and compare such digests with
those of a list.
-/

namespace Bindery.Utility

/-! ## Counts -/

/-- What is counted in a text. -/
structure Counts where
  lines : Nat := 0
  words : Nat := 0
  bytes : Nat := 0
  /-- The width of the longest line. -/
  width : Nat := 0

namespace Counts

/-- The counts of a text. -/
def ofText (text : String) : Counts :=
  let (counts, inWord, column) := text.foldl
    (fun ((n, inWord, column) : Counts × Bool × Nat) c =>
      let n := { n with bytes := n.bytes + 1 }
      let ended (column : Nat) : Counts := { n with width := max n.width column }
      match c with
      | '\n' => ({ ended column with lines := n.lines + 1 }, false, 0)
      | '\r' | '\x0c' => (ended column, false, 0)
      | '\t' => (n, false, column + 8 - column % 8)
      | ' ' => (n, false, column + 1)
      | '\x0b' => (n, false, column)
      | c =>
        let isVisible := 32 < c.toNat && c.toNat < 127
        ({ n with words := if inWord || !isVisible then n.words else n.words + 1 },
          inWord || isVisible, if isVisible then column + 1 else column)) ({}, false, 0)
  let _ := inWord
  { counts with width := max counts.width column }

/-- The counts of two texts together. -/
def add (x y : Counts) : Counts :=
  { lines := x.lines + y.lines, words := x.words + y.words, bytes := x.bytes + y.bytes
    width := max x.width y.width }

/-- The counts that options ask for. -/
def chosen (n : Counts) (w : Words) : List Nat :=
  let standard := !w.has ["l", "w", "m", "c", "L"]
  (if standard || w.has ["l"] then [n.lines] else []) ++
  (if standard || w.has ["w"] then [n.words] else []) ++
  (if w.has ["m"] then [n.bytes] else []) ++
  (if standard || w.has ["c"] then [n.bytes] else []) ++
  (if w.has ["L"] then [n.width] else [])

end Counts

/-- The width of the columns for the counts of some files. -/
def countWidth (c : Call) (words : List String) : Nat :=
  let sizes := words.map fun word =>
    if word = "-" then
      if c.readsFile then c.input.toOption.map (·.size) else none
    else
      match c.tree.seek (pathOf word) with
      | .ok (.file content) => some content.size
      | .ok (.program _) => some 0
      | .ok _ => none
      | .error _ => some 0
  let total := (sizes.filterMap id).foldl (· + ·) 0
  max (toString total).length (if sizes.contains none then 7 else 1)

def wc (c : Call) : Answer :=
  let form : OptionForm := .of "clmLw" ["bytes=c", "chars=m", "lines=l", "words=w",
    "max-line-length=L", "files0-from:", "total:"]
  c.withOptions form 1 fun w =>
    let words := if w.operands.isEmpty then ["-"] else w.operands
    let count := (({} : Counts).chosen w).length
    let width := if words.length = 1 && count = 1 then 1 else countWidth c words
    let row (n : Counts) (name : String) : String :=
      " ".intercalate ((n.chosen w).map fun n => padLeft width (toString n)) ++
        (if name.isEmpty then "" else " " ++ name) ++ "\n"
    let showsTotal := w.value? ["total"]
    let (a, total) := words.foldl (fun ((a, total) : Answer × Counts) word =>
      let name := if w.operands.isEmpty then "" else word
      let print (a : Answer) (n : Counts) : Answer :=
        if showsTotal == some "only" then a else a.print (row n name)
      match c.read a word with
      | (.ok text, a) =>
        let n := Counts.ofText text
        (print a n, total.add n)
      | (.error e, a) =>
        let a := c.fail a s!"{shown word}: {e.reason}"
        (if e = .isDirectory then print a {} else a, total)) (c.start, {})
    match showsTotal with
    | some "only" =>
      a.print (" ".intercalate ((total.chosen w).map toString) ++ "\n")
    | some "never" => a
    | some "always" => a.print (row total "total")
    | _ => if 1 < words.length then a.print (row total "total") else a

/-! ## Digests -/

/-- A way to make a digest. -/
structure DigestKind where
  /-- The name of the utility. -/
  utility : String
  /-- The name in lists. -/
  title : String
  hex : ByteArray → String

namespace DigestKind

def all : List DigestKind :=
  [⟨"md5sum", "MD5", Digest.Md5.hex⟩,
    ⟨"sha1sum", "SHA1", Digest.Sha1.hex⟩,
    ⟨"sha224sum", "SHA224", Digest.Sha256.hex Digest.Sha256.start224 28⟩,
    ⟨"sha256sum", "SHA256", Digest.Sha256.hex Digest.Sha256.start256 32⟩,
    ⟨"sha384sum", "SHA384", Digest.Sha512.hex Digest.Sha512.start384 48⟩,
    ⟨"sha512sum", "SHA512", Digest.Sha512.hex Digest.Sha512.start512 64⟩]

/-- A name as lists show it, and whether there are escapes in it. -/
def escaped (name : String) : String × Bool :=
  let text := String.join (name.toList.map fun c =>
    match c with
    | '\\' => "\\\\"
    | '\n' => "\\n"
    | '\r' => "\\r"
    | c => String.singleton c)
  (text, text != name)

/-- A name without the escapes in it. -/
def unescaped : List Char → List Char
  | '\\' :: 'n' :: rest => '\n' :: unescaped rest
  | '\\' :: 'r' :: rest => '\r' :: unescaped rest
  | '\\' :: c :: rest => c :: unescaped rest
  | c :: rest => c :: unescaped rest
  | [] => []

/-- The line of a list for a file. -/
def line (k : DigestKind) (w : Words) (name hex : String) : String :=
  let ending := if w.has ["z"] then "\x00" else "\n"
  let (text, isEscaped) := if w.has ["z"] then (name, false) else escaped name
  let front := if isEscaped then "\\" else ""
  if w.has ["tag"] then s!"{front}{k.title} ({text}) = {hex}{ending}"
  else
    let mark := if w.has ["b"] then "*" else " "
    s!"{front}{hex} {mark}{text}{ending}"

/-- The digest and the name in a line of a list. -/
def entry? (k : DigestKind) (line : String) : Option (String × String) :=
  let cs := line.toList
  let (isEscaped, cs) := match cs with
    | '\\' :: cs => (true, cs)
    | cs => (false, cs)
  let name (cs : List Char) : String := String.ofList (if isEscaped then unescaped cs else cs)
  let width := (k.hex .empty).length
  let isHex (c : Char) : Bool := c.isDigit || ('a' ≤ c.toLower && c.toLower ≤ 'f')
  let tag := (k.title ++ " (").toList
  if tag.isPrefixOf cs then
    let rest := (cs.drop tag.length).reverse
    let hex := (rest.takeWhile isHex).reverse
    match rest.drop hex.length with
    | ' ' :: '=' :: ' ' :: ')' :: rest =>
      if hex.length = width then some (String.ofList hex, name rest.reverse) else none
    | _ => none
  else
    let hex := cs.takeWhile isHex
    match cs.drop hex.length with
    | ' ' :: ' ' :: rest | ' ' :: '*' :: rest =>
      if hex.length = width && !rest.isEmpty then some (String.ofList hex, name rest) else none
    | ' ' :: rest =>
      if hex.length = width && !rest.isEmpty then some (String.ofList hex, name rest) else none
    | _ => none

/-- How a check of a list went. -/
structure Checked where
  answer : Answer
  entries : Nat := 0
  malformed : Nat := 0
  different : Nat := 0
  unread : Nat := 0
  matched : Nat := 0

/-- Checks a line of a list. -/
def checkLine (k : DigestKind) (c : Call) (w : Words) (r : Checked) (line : String) : Checked :=
  let silent := w.has ["status"]
  let say (text : String) : Answer := if silent then r.answer else r.answer.print text
  match k.entry? line with
  | none => if line.startsWith "#" then r else { r with malformed := r.malformed + 1 }
  | some (hex, name) =>
    let r := { r with entries := r.entries + 1 }
    match c.read r.answer name with
    | (.error e, a) =>
      if w.has ["ignore-missing"] && e = .notFound then r
      else
        let a := c.fail a s!"{shown name}: {e.reason}"
        let a := if silent then a else a.print s!"{name}: FAILED open or read\n"
        { r with answer := a, unread := r.unread + 1 }
    | (.ok text, _) =>
      if (k.hex (Text.Octets.toBytes text)) == hex.map Char.toLower then
        { r with
          answer := if w.has ["quiet"] then r.answer else say s!"{name}: OK\n"
          matched := r.matched + 1 }
      else { r with answer := say s!"{name}: FAILED\n", different := r.different + 1 }

/-- Compares the digests of files with those of a list. -/
def check (k : DigestKind) (c : Call) (w : Words) (a : Answer) (word : String) : Answer :=
  match c.read a word with
  | (.error e, a) => c.fail a s!"{shown word}: {e.reason}"
  | (.ok text, a) =>
    let name := if word = "-" then "'standard input'" else shown word
    let r := (plainLines text).foldl (checkLine k c w) { answer := a }
    let a := r.answer
    if r.entries = 0 then c.fail a s!"{name}: no properly formatted checksum lines found"
    else
      let warn (a : Answer) (n : Nat) (one many : String) : Answer :=
        if n = 0 || w.has ["status"] then a
        else a.printError s!"{c.name}: WARNING: {n} {if n = 1 then one else many}\n"
      let a := warn a r.malformed "line is improperly formatted" "lines are improperly formatted"
      let a := warn a r.unread "listed file could not be read" "listed files could not be read"
      let a := warn a r.different "computed checksum did NOT match"
        "computed checksums did NOT match"
      let isMissing := w.has ["ignore-missing"] && r.matched = 0
      let a := if isMissing then c.fail a s!"{name}: no file was verified" else a
      let isWrong := 0 < r.different + r.unread || w.has ["strict"] && 0 < r.malformed
      if isWrong || isMissing then { a with status := 1 } else a

def options : OptionForm :=
  .of "bctwz" ["binary=b", "check=c", "text=t", "warn=w", "zero=z", "status", "quiet", "strict",
    "ignore-missing", "tag"]

/-- Prints the digests of files, or checks those of lists. -/
def run (k : DigestKind) (c : Call) : Answer :=
  c.withOptions options 1 fun w =>
    let words := if w.operands.isEmpty then ["-"] else w.operands
    if w.has ["c"] then words.foldl (k.check c w) c.start
    else
      words.foldl (fun a word =>
        match c.read a word with
        | (.ok text, a) => a.print (k.line w word (k.hex (Text.Octets.toBytes text)))
        | (.error e, a) => c.fail a s!"{shown word}: {e.reason}") c.start

end DigestKind

/-- Prints sums of files with their sizes. -/
def sums (c : Call) (words : List String) (line : ByteArray → String) : Answer :=
  (if words.isEmpty then ["-"] else words).foldl (fun a word =>
    match c.read a word with
    | (.ok text, a) =>
      let name := if words.isEmpty then "" else " " ++ word
      a.print (line (Text.Octets.toBytes text) ++ name ++ "\n")
    | (.error e, a) => c.fail a s!"{shown word}: {e.reason}") c.start

def cksum (c : Call) : Answer :=
  let form : OptionForm := .of "a:cl:wz" ["algorithm=a", "check=c", "length=l", "tag", "untagged",
    "warn=w", "zero=z", "status", "quiet", "strict", "ignore-missing", "raw", "base64", "debug"]
  c.withOptions form 1 fun w =>
    let named (name : String) : Option DigestKind :=
      DigestKind.all.find? (·.title == name.map Char.toUpper)
    match (w.value? ["a"]).bind named with
    | some k =>
      let tag := if w.has ["untagged"] then [] else ["--tag"]
      k.run { c with args := tag ++ w.operands }
    | none => sums c w.operands fun bytes => s!"{Digest.Checksum.crc bytes} {bytes.size}"

def sum (c : Call) : Answer :=
  c.withOptions (.of "rs" ["sysv=s"]) 1 fun w =>
    let blocks (bytes : ByteArray) (size : Nat) : Nat := (bytes.size + size - 1) / size
    if w.has ["s"] then
      sums c w.operands fun bytes => s!"{Digest.Checksum.plain bytes} {blocks bytes 512}"
    else
      sums c w.operands fun bytes =>
        let digits := toString (Digest.Checksum.turned bytes)
        let zeros := String.ofList (List.replicate (5 - digits.length) '0')
        zeros ++ digits ++ " " ++ padLeft 5 (toString (blocks bytes 1024))

end Bindery.Utility
