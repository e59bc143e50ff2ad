import Bindery.Text.Blank

/-!
# Layouts: indented text as data

Generated code is built as a `Layout`, a tree of lines and nested groups. A layout knows nothing of
its depth: `Layout.text` gives the text of a layout at a depth, four spaces to a level, and an empty
line stays empty at any depth. A `Writer` is a text that grows line by line and knows how deep the
next line stands; the code of a domain is written with a single one.
-/

namespace Bindery.Text

/-- Whether a doc comment describes the item after it or the module around it. -/
inductive DocMark where
  | item
  | enclosing
  deriving DecidableEq, Repr

/-- The characters that open a line of a doc comment. -/
def DocMark.opening : DocMark → String
  | .item => "///"
  | .enclosing => "//!"

/-- Removes the tags `<code>` and `</code>`, which descriptions carry as markup. -/
def stripCodeTags : List Char → List Char
  | '<' :: 'c' :: 'o' :: 'd' :: 'e' :: '>' :: rest => stripCodeTags rest
  | '<' :: '/' :: 'c' :: 'o' :: 'd' :: 'e' :: '>' :: rest => stripCodeTags rest
  | c :: rest => c :: stripCodeTags rest
  | [] => []

/-- A description without its markup. -/
def sanitizeDescription (s : String) : String :=
  String.ofList (stripCodeTags s.toList)

/-- One line of a doc comment. -/
def DocMark.line (mark : DocMark) (content : List Char) : String :=
  match trimEnd content with
  | [] => mark.opening
  | content => mark.opening ++ " " ++ String.ofList content

/-- The lines that a description contributes: none if it is absent or blank. -/
def describedLines (mark : DocMark) (description : Option String) : List String :=
  match description with
  | some text =>
    if allBlank text.toList then []
    else (lines (stripCodeTags text.toList)).map mark.line
  | none => []

/-- Whether a description says anything. -/
def isDescribed (description : Option String) : Bool :=
  match description with
  | some text => !allBlank text.toList
  | none => false

/-- The lines of a doc comment: the description, then a paragraph that marks an experimental
declaration. -/
def docLines (mark : DocMark) (description : Option String) (experimental : Bool) : List String :=
  let marker := mark.opening ++ " **Experimental.**"
  describedLines mark description ++
    (if experimental then
      if isDescribed description then [mark.opening, marker] else [marker]
    else [])

/-- Indented text, before its depth is known. -/
inductive Layout where
  /-- One line; an empty one carries no indentation. -/
  | line (content : String)
  /-- The doc comment of a declaration. -/
  | doc (mark : DocMark) (description : Option String) (experimental : Bool)
  /-- A group one level deeper than the lines that open and close it. -/
  | group (header close : String) (body : List Layout)
  deriving Inhabited

namespace Layout

/-- An empty line. -/
def blank : Layout := .line ""

/-- A group in braces: the header is followed by an opening brace, and the closing brace by
`close`. -/
def block (header close : String) (body : List Layout) : Layout :=
  .group (header ++ " \x7b") ("\x7d" ++ close) body

/-- The spaces in front of a line at a depth. -/
def indentation (depth : Nat) : String :=
  String.ofList (List.replicate (4 * depth) ' ')

/-- The text of one line at a depth, with the newline that ends it. -/
def lineText (depth : Nat) (content : String) : String :=
  if content.isEmpty then "\n" else indentation depth ++ content ++ "\n"

mutual

/-- The text of a layout at a depth. -/
def text (depth : Nat) : Layout → String
  | .line content => lineText depth content
  | .doc mark description experimental =>
    String.join ((docLines mark description experimental).map (lineText depth))
  | .group header close body =>
    lineText depth header ++ textAll (depth + 1) body ++ lineText depth close

/-- The text of layouts that follow one another at a depth. -/
def textAll (depth : Nat) : List Layout → String
  | [] => ""
  | l :: ls => text depth l ++ textAll depth ls

end

theorem textAll_append (depth : Nat) (xs ys : List Layout) :
    textAll depth (xs ++ ys) = textAll depth xs ++ textAll depth ys := by
  induction xs with
  | nil => simp [textAll]
  | cons x xs ih => simp [textAll, ih, String.append_assoc]

end Layout

/-- A text that is being written, and the depth of its next line. -/
structure Writer where
  text : String := ""
  depth : Nat := 0

namespace Writer

/-- Writes one line. -/
def line (w : Writer) (content : String) : Writer :=
  { w with text := w.text ++ Layout.lineText w.depth content }

/-- Goes one level deeper. -/
def indent (w : Writer) : Writer := { w with depth := w.depth + 1 }

/-- Goes back one level. -/
def dedent (w : Writer) : Writer := { w with depth := w.depth - 1 }

mutual

/-- Writes a layout, its parts in order. -/
def write (w : Writer) : Layout → Writer
  | .line content => w.line content
  | .doc mark description experimental => (docLines mark description experimental).foldl line w
  | .group header close body => (writeAll (w.line header).indent body).dedent.line close

/-- Writes layouts one after the other. -/
def writeAll (w : Writer) : List Layout → Writer
  | [] => w
  | l :: ls => (w.write l).writeAll ls

end

end Writer

end Bindery.Text
