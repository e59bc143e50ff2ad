import Bindery.File.Operations
import Bindery.Shell.Statement
import Bindery.Text.Octets

/-!
# Streams

A command reads and writes streams by their numbers. A number stands for an open file, and several
numbers may stand for the same one, which then share how far it has been read or written. `Streams`
holds the numbers, the open files, and the file tree that they are part of. Texts are bytes, each
as the character of its number.
-/

namespace Bindery

def SystemError.brokenPipe : SystemError := .os 32

namespace Shell

/-- Bytes that were put together from parts, the last part first. -/
structure Gathered where
  parts : List ByteArray := []
  size : Nat := 0

namespace Gathered

def ofBytes (bytes : ByteArray) : Gathered := ⟨[bytes], bytes.size⟩

def toBytes (g : Gathered) : ByteArray :=
  match g.parts with
  | [] => .empty
  | [bytes] => bytes
  | parts => parts.foldr (fun bytes all => all ++ bytes) .empty

def push (g : Gathered) (bytes : ByteArray) : Gathered := ⟨bytes :: g.parts, g.size + bytes.size⟩

end Gathered

/-- What an open file gives and takes. -/
inductive Channel where
  /-- Nothing comes out, and what goes in is dropped. -/
  | null
  /-- Nothing goes in. -/
  | full
  | terminal
  | directory
  | file (place : Location)
  /-- Bytes that are kept as long as somebody reads or writes them. -/
  | memory (content : Gathered)
  /-- Bytes for a reader that has not begun to read, and does not wait for all that may come. -/
  | pipe (content : Gathered)

/-- A file that is being read or written. -/
structure OpenFile where
  channel : Channel
  /-- How many bytes are before the next one. -/
  offset : Nat := 0
  /-- What is written goes to the end. -/
  appends : Bool := false

/-- The streams of a command. -/
structure Streams where
  tree : FileTree
  /-- The open files, by their keys. -/
  opened : Array OpenFile
  /-- The key of the open file that each number stands for. -/
  numbers : List (Nat × Nat)

namespace Streams

/-- Streams as a program finds them: nothing to read, output dropped, errors shown. -/
def standard (tree : FileTree) : Streams where
  tree := tree
  opened := #[⟨.null, 0, false⟩, ⟨.terminal, 0, true⟩]
  numbers := [(0, 0), (1, 0), (2, 1)]

/-- The open file that a number stands for. -/
def file? (s : Streams) (number : Nat) : Option OpenFile :=
  (s.numbers.lookup number).bind fun key => s.opened[key]?

/-- Opens a file and gives its key. -/
def push (s : Streams) (file : OpenFile) : Streams × Nat :=
  ({ s with opened := s.opened.push file }, s.opened.size)

/-- Opens a text to be read. -/
def pushText (s : Streams) (content : ByteArray) : Streams × Nat :=
  s.push ⟨.memory (.ofBytes content), 0, false⟩

/-- Makes a number stand for an open file. -/
def assign (s : Streams) (number key : Nat) : Streams :=
  { s with numbers := (number, key) :: s.numbers.filter (·.1 != number) }

/-- Makes a number stand for nothing. -/
def close (s : Streams) (number : Nat) : Streams :=
  { s with numbers := s.numbers.filter (·.1 != number) }

/-- Forgets the files that were opened after so many, unless a number stands for one of them. -/
def release (s : Streams) (size : Nat) : Streams :=
  if s.numbers.all (·.2 < size) then { s with opened := s.opened.take size } else s

/-- All that is in a channel. -/
def contentOf (tree : FileTree) : Channel → Except SystemError ByteArray
  | .memory content | .pipe content => .ok content.toBytes
  | .directory => .error .isDirectory
  | .file place =>
    match tree.node? place with
    | some node => node.read
    | none => .ok .empty
  | _ => .ok .empty

/-- The content of the open file that has a key. -/
def contentAt (s : Streams) (key : Nat) : ByteArray :=
  match s.opened[key]? with
  | some file => (contentOf s.tree file.channel).toOption.getD .empty
  | none => .empty

/-- The streams after a program has changed the files. A file that is gone is still there for those
who have it open. -/
def afterWork (s : Streams) (tree : FileTree) : Streams :=
  let keep (file : OpenFile) : OpenFile :=
    match file.channel with
    | .file place =>
      if (tree.node? place).isSome then file
      else
        let content := (contentOf s.tree file.channel).toOption.getD .empty
        { file with channel := .memory (.ofBytes content) }
    | _ => file
  { s with tree, opened := s.opened.map keep }

/-- What is still to be read from a stream. -/
def unread (s : Streams) (number : Nat) : Except SystemError ByteArray := do
  match s.file? number with
  | none => throw .badDescriptor
  | some file =>
    let content ← contentOf s.tree file.channel
    return content.extract file.offset content.size

/-- Changes the open file of a key. -/
def update (s : Streams) (key : Nat) (file : OpenFile) : Streams :=
  { s with opened := s.opened.set! key file }

/-- Goes past bytes of a stream. -/
def skip (s : Streams) (number count : Nat) : Streams :=
  match s.numbers.lookup number, s.file? number with
  | some key, some file => s.update key { file with offset := file.offset + count }
  | _, _ => s

/-- Bytes with others written over them from an offset on; the gap before is filled with zeros. -/
def overwrite (content : ByteArray) (offset : Nat) (bytes : ByteArray) : ByteArray :=
  if offset = content.size then content ++ bytes
  else
    let gap := (List.replicate (offset - content.size) (0 : UInt8)).toByteArray
    content.extract 0 offset ++ gap ++ bytes ++
      content.extract (offset + bytes.size) content.size

/-- How much a pipe takes before its reader is taken to be gone. -/
def pipeLimit : Nat := 2097152

/-- Writes bytes to a stream. -/
def writeBytes (s : Streams) (number : Nat) (bytes : ByteArray) : Except SystemError Streams :=
  match s.numbers.lookup number, s.file? number with
  | some key, some file =>
    let place (size : Nat) : Nat := if file.appends then size else file.offset
    match file.channel with
    | .null => .ok s
    | .full => if bytes.isEmpty then .ok s else .error .noSpace
    | .directory => .error .badDescriptor
    | .terminal => .ok { s with tree := { s.tree with console := s.tree.console ++ bytes } }
    | .memory content =>
      let start := place content.size
      let content :=
        if start = content.size then content.push bytes
        else .ofBytes (overwrite content.toBytes start bytes)
      .ok (s.update key { file with channel := .memory content, offset := start + bytes.size })
    | .pipe content =>
      if pipeLimit < content.size then .error .brokenPipe
      else .ok (s.update key { file with channel := .pipe (content.push bytes) })
    | .file location =>
      match s.tree.node? location with
      | some (.file content) =>
        let start := place content.size
        let tree := s.tree.fill location (overwrite content start bytes)
        .ok ({ s with tree }.update key { file with offset := start + bytes.size })
      | _ => .ok s
  | _, _ => .error .badDescriptor

/-- Writes a text to a stream. -/
def write (s : Streams) (number : Nat) (text : String) : Except SystemError Streams :=
  s.writeBytes number (Text.Octets.toBytes text)

/-! ## Opening -/

/-- The stream that a path names. -/
def streamOfPath? (path : String) : Option Nat :=
  match path with
  | "/dev/stdin" => some 0
  | "/dev/stdout" => some 1
  | "/dev/stderr" => some 2
  | path =>
    let start := "/dev/fd/"
    if start.toList.isPrefixOf path.toList then (path.drop start.length).toString.toNat? else none

/-- What the file at a location gives and takes. -/
def channelAt (tree : FileTree) (place : Location) : Channel :=
  match tree.node? place with
  | some (.device .null) => .null
  | some (.device .full) => .full
  | some .directory => .directory
  | _ => .file place

/-- Empties the file of a channel. -/
def truncate (tree : FileTree) : Channel → FileTree
  | .file place => tree.fill place .empty
  | _ => tree

/-- Opens the file at a path and gives its key. With `keeps`, a file that exists is not
overwritten; `mask` takes permissions from a new one. -/
def openPath (s : Streams) (path : String) (opening : Opening) (keeps : Bool) (mask : Nat) :
    Except SystemError (Streams × Nat) := do
  let writes := opening != .input
  match streamOfPath? path with
  | some number =>
    match s.numbers.lookup number, s.file? number with
    | some key, some file =>
      match file.channel with
      | .file _ =>
        let tree := if opening == .output then truncate s.tree file.channel else s.tree
        return { s with tree }.push ⟨file.channel, 0, opening == Opening.append⟩
      | _ => return (s, key)
    | _, _ => throw .notFound
  | none =>
    let path := Text.Octets.decode path
    let path ← s.tree.plain path true
    if writes then
      let place ← s.tree.locateFile path
      let channel := channelAt s.tree place
      match s.tree.node? place with
      | none =>
        let tree := (← s.tree.store place .empty).withMask place 0o666 mask
        return { s with tree }.push ⟨.file place, 0, opening == Opening.append⟩
      | some (.program _) => throw .textBusy
      | some _ =>
        match channel with
        | .file _ =>
          if keeps && opening == .output then throw .alreadyExists
          let empties := opening == .output || opening == .clobber
          let tree := if empties then truncate s.tree channel else s.tree
          return { s with tree }.push ⟨channel, 0, opening == Opening.append⟩
        | _ => return s.push ⟨channel, 0, false⟩
    else
      let _ ← s.tree.find path
      return s.push ⟨channelAt s.tree (← s.tree.locate path), 0, false⟩

end Streams

end Shell

end Bindery
