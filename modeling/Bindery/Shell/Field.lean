import Bindery.Shell.Pattern

/-!
# Fields

An expanded word is a list of items: characters, places where an empty text was quoted, and
boundaries between parameters. `fieldsOf` splits it into the words that a command gets: at
boundaries, and at separators that were not written in the script but came out of an expansion.
-/

namespace Bindery.Shell

/-- An item of an expanded word. -/
inductive Item where
  /-- A character; `splits` tells that it came out of an expansion without quotes. -/
  | char (c : Char) (quoted splits : Bool)
  /-- Quotes stood here, so there is a field even if there is nothing in it. -/
  | mark
  /-- One parameter ends and the next one begins. -/
  | boundary
  deriving DecidableEq

/-- The characters of a text that stands as it is. -/
def Item.ofText (s : String) (quoted splits : Bool) : List Item :=
  s.toList.map (.char · quoted splits)

/-- The field that is being read: its characters, last one first, or nothing before its start. -/
abbrev Partial := Option (List Marked)

/-- The field that has been read. -/
def Partial.finish : Partial → List (List Marked)
  | some cs => [cs.reverse]
  | none => []

/-- Adds a character to a field. -/
def Partial.push (field : Partial) (m : Marked) : Partial := some (m :: field.getD [])

def isBlankSeparator (c : Char) : Bool := c == ' ' || c == '\t' || c == '\n'

/-- The fields of an expanded word. Blanks among the separators end a field and are dropped around
other separators; any other separator ends a field even if it is empty. `open_` tells that a blank
ended the last field, so that one other separator may follow it. -/
def splitItems (separators : List Char) (field : Partial) (open_ : Bool) :
    List Item → List (List Marked)
  | [] => field.finish
  | .mark :: rest => splitItems separators (some (field.getD [])) false rest
  | .boundary :: rest => field.finish ++ splitItems separators none false rest
  | .char c quoted splits :: rest =>
    if splits && separators.contains c then
      if isBlankSeparator c then
        match field with
        | some cs => cs.reverse :: splitItems separators none true rest
        | none => splitItems separators none open_ rest
      else if open_ then splitItems separators none false rest
      else (field.getD []).reverse :: splitItems separators none false rest
    else splitItems separators (field.push ⟨c, quoted⟩) false rest

/-- The fields of an expanded word. -/
def fieldsOf (separators : List Char) (items : List Item) : List (List Marked) :=
  splitItems separators none false items

/-- The characters of an expanded word that is not split; parameters are a blank apart. -/
def markedOf (items : List Item) : List Marked :=
  items.filterMap fun item =>
    match item with
    | .char c quoted _ => some ⟨c, quoted⟩
    | .mark => none
    | .boundary => some ⟨' ', true⟩

/-- The text of marked characters. -/
def plainText (cs : List Marked) : String := String.ofList (cs.map (·.char))

/-- The text of an expanded word that is not split. -/
def textOf (items : List Item) : String := plainText (markedOf items)

end Bindery.Shell
