import Bindery.Shell.Arithmetic
import Bindery.Shell.Field
import Bindery.Shell.State

/-!
# Expanding words

The pieces of a word become items: texts stand for themselves, parameters for their values,
statements for their output, which `capture` finds out. What several parameters amount to depends on
the place of the word: in a word that becomes fields they are apart, elsewhere they are one text.
-/

namespace Bindery.Shell

/-- Where the pieces of a word stand, which decides how they are taken. -/
structure Place where
  /-- Between double quotes. -/
  quoted : Bool := false
  /-- In a word that becomes fields. -/
  full : Bool := false
  /-- In a word within a word, where what is written is split like what is expanded. -/
  loose : Bool := false
  /-- In the value of an assignment. -/
  assigns : Bool := false

namespace Place

/-- In a word of a command. -/
def field : Place := { full := true }

/-- In the value of an assignment. -/
def value : Place := { assigns := true }

/-- Between quotes at a place. -/
def quotes (p : Place) : Place := { p with quoted := true, loose := false }

/-- In a word within a word at a place. -/
def inner (p : Place) : Place := { p with loose := !p.quoted }

end Place

/-! ## Several parameters -/

/-- What stands between several parameters that are taken as one text. A NUL keeps them apart as
fields. -/
def betweenParameters (s : State) (p : Place) (name : String) : String :=
  let separators := s.value? "IFS"
  if p.full && p.quoted && name == "@" then "\x00"
  else if p.full && !p.quoted then if separators.isSome then "\x00" else " "
  else
    match separators with
    | none => " "
    | some text => String.ofList (text.toList.take 1)

/-- The items of a value. -/
def itemsOfValue (value : String) (quoted : Bool) : List Item :=
  value.toList.map fun c => if c == '\x00' then .boundary else .char c quoted (!quoted)

/-- The items of several parameters that quotes keep apart: each is there, even if it is empty. -/
def withMarks (items : List Item) : List Item :=
  .mark :: items.flatMap fun item => if item = .boundary then [.boundary, .mark] else [item]

/-- The items of what a parameter amounts to. -/
def itemsOfParameter (p : Place) (name value : String) : List Item :=
  let items := itemsOfValue value p.quoted
  if p.quoted && name == "@" then withMarks items else items

/-! ## Home directories -/

/-- The home directory that a name after a tilde stands for. -/
def homeOf? (s : State) (name : String) : Option String :=
  match name with
  | "" => s.value? "HOME"
  | "root" => some "/root"
  | "daemon" => some "/usr/sbin"
  | "bin" => some "/bin"
  | "nobody" => some "/nonexistent"
  | _ => none

/-- The items of a text that a tilde may begin; `closed` tells that the name after it ends where the
text does. -/
def itemsOfTilde (s : State) (loose closed : Bool) (cs : List Char) : List Item :=
  let plain (cs : List Char) : List Item := cs.map (.char · false loose)
  match cs with
  | '~' :: rest =>
    let name := rest.takeWhile (· != '/')
    if name.length = rest.length && !closed then plain cs
    else
      match homeOf? s (String.ofList name) with
      | none => plain cs
      | some home => Item.ofText home true false ++ plain (rest.drop name.length)
  | cs => plain cs

/-- The texts that colons divide. -/
def splitColons : List Char → List (List Char)
  | [] => [[]]
  | c :: cs =>
    if c == ':' then [] :: splitColons cs
    else
      match splitColons cs with
      | [] => [[c]]
      | part :: parts => (c :: part) :: parts

/-- The items of a text without quotes; `first` and `last` tell whether the word begins and ends
with it. -/
def itemsOfText (s : State) (p : Place) (first last : Bool) (content : String) : List Item :=
  let cs := content.toList
  if !cs.contains '~' || p.quoted then Item.ofText content p.quoted (p.loose && !p.quoted)
  else if p.assigns then
    let parts := splitColons cs
    let count := parts.length
    [Item.char ':' false p.loose].intercalate (parts.zipIdx.map fun (part, i) =>
      if i = 0 && !first then part.map (.char · false p.loose)
      else itemsOfTilde s p.loose (i + 1 < count || last) part)
  else if first then itemsOfTilde s p.loose last cs
  else Item.ofText content false p.loose

/-! ## Words -/

/-- Whether quotes hold nothing but all parameters. -/
def isAllParameters : List Piece → Bool
  | [.parameter "@" .value] => true
  | _ => false

/-- The value of a parameter, or of all of them as one text. -/
def valueOf (s : State) (p : Place) (name : String) : Option String :=
  if name == "@" || name == "*" then
    some ((betweenParameters s p name).intercalate s.parameters)
  else s.parameter? name

/-- The message about a parameter that has no value. -/
def notSet (name : String) : String := s!"{name}: parameter not set"

/-- How the output of statements is found out. -/
abbrev Capture := State → Statement → State × String

mutual

/-- The items of the pieces of a word; `first` tells whether the word begins with them. -/
def expandPieces (capture : Capture) (s : State) (p : Place) (first : Bool) :
    List Piece → State × List Item
  | [] => (s, [])
  | piece :: rest =>
    let (s, items) := expandPiece capture s p first rest.isEmpty piece
    if s.isRunning then
      let (s, later) := expandPieces capture s p false rest
      (s, items ++ later)
    else (s, items)

/-- The items of one piece. -/
def expandPiece (capture : Capture) (s : State) (p : Place) (first last : Bool) :
    Piece → State × List Item
  | .text content true => (s, .mark :: Item.ofText content true false)
  | .text content false => (s, itemsOfText s p first last content)
  | .quotes pieces =>
    let (after, items) := expandPieces capture s p.quotes false pieces
    if isAllParameters pieces then (after, if s.parameters.isEmpty then [] else items)
    else (after, .mark :: items)
  | .parameter name use => expandUse capture s p name use
  | .output none => ({ s with outputStatus := 0 }, [])
  | .output (some body) =>
    let (s, text) := capture s body
    (s, Item.ofText text p.quoted (!p.quoted))
  | .arithmetic pieces =>
    let (s, items) := expandPieces capture s p.quotes false pieces
    if !s.isRunning then (s, [])
    else
      let text := textOf items
      match (do (← Arithmetic.Expr.parse text).eval s.bindings : Except Arithmetic.Fault _) with
      | .ok (value, bindings) =>
        let made := bindings.take (bindings.length - s.bindings.length)
        let s := made.reverse.foldl (fun s (name, value) => s.assign name value false) s
        (s, Item.ofText (toString value) p.quoted (!p.quoted))
      | .error fault => (s.die none (fault.message text), [])

/-- The items of what a word takes from a parameter. -/
def expandUse (capture : Capture) (s : State) (p : Place) (name : String) :
    Use → State × List Item
  | .misuse => (s.die none "Bad substitution", [])
  | .value =>
    match valueOf s p name with
    | some value => (s, itemsOfParameter p name value)
    | none => if s.has 'u' then (s.die none (notSet name), []) else (s, [])
  | .length =>
    match valueOf s p name with
    | some value => (s, Item.ofText (toString value.length) p.quoted (!p.quoted))
    | none =>
      if s.has 'u' then (s.die none (notSet name), [])
      else (s, Item.ofText "0" p.quoted (!p.quoted))
  | .trim atEnd longest pattern =>
    let value := valueOf s p name
    if value.isNone && s.has 'u' then (s.die none (notSet name), [])
    else
      let (s, items) := expandPieces capture s {} true pattern
      let glob := Glob.ofMarked (markedOf items)
      let cs := (value.getD "").toList
      let kept := if atEnd then Glob.trimEnd glob longest cs else Glob.trimStart glob longest cs
      (s, itemsOfParameter p name (String.ofList kept))
  | .fallback kind orEmpty word =>
    let value := valueOf s p name
    let present := value.any fun v => !(orEmpty && v.isEmpty)
    let shown := itemsOfParameter p name (value.getD "")
    match kind with
    | .alternative =>
      if present then expandPieces capture s p.inner true word else (s, [])
    | .standIn =>
      if present then (s, shown) else expandPieces capture s p.inner true word
    | .assignment =>
      if present then (s, shown)
      else
        let place : Place := { quoted := p.quoted, assigns := p.assigns }
        let (s, items) := expandPieces capture s place true word
        if !s.isRunning then (s, [])
        else if !isName name then (s.die none s!"{name}: bad variable name", [])
        else
          let text := textOf items
          (s.assign name text false, Item.ofText text p.quoted (!p.quoted))
    | .complaint =>
      if present then (s, shown)
      else
        let (s, items) := expandPieces capture s { quoted := true } true word
        let text := textOf items
        let text := if word.isEmpty then
            "parameter not set" ++ (if orEmpty then " or null" else "")
          else text
        if s.isRunning then (s.die none s!"{name}: {text}", []) else (s, [])

end

end Bindery.Shell
