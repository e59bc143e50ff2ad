/-!
# JSON documents

A `Doc` is a JSON value as it was written: it keeps the white space, the spelling of numbers and
the escapes of strings, so its text can be given back character for character. Reading never
fails: where the text stops being JSON, the document holds a fault, and nothing stands after it.
Whether a fault matters is for the reader of the document to say, since a reader that meets a value
of the wrong kind before it never gets there.

`Doc.text` writes a document back, `Doc.isSound` says that it holds no fault.
-/

namespace Bindery.Json

mutual

/-- A JSON value as it was written. -/
inductive Doc where
  | null
  | bool (value : Bool)
  /-- A number, in its own spelling. -/
  | number (lexeme : List Char)
  /-- A string: what stands between the quotes, escapes and all. -/
  | string (body : List Char)
  | array (items : Items)
  | object (members : Members)
  /-- The text is not JSON from here on. -/
  | fault

/-- What follows the opening bracket of an array, or one of its values. `sep` is the text before a
value or the closing bracket: white space, with the comma between values. -/
inductive Items where
  | close (sep : List Char)
  | fault
  | item (sep : List Char) (value : Doc) (rest : Items)

/-- What follows the opening brace of an object, or one of its members. `colon` is the text between
the key and its value. -/
inductive Members where
  | close (sep : List Char)
  | fault
  | member (sep key colon : List Char) (value : Doc) (rest : Members)

end

instance : Inhabited Doc := ⟨.null⟩

mutual

/-- The text of a document, as it was written. A fault has none. -/
def Doc.text : Doc → List Char
  | .null => ['n', 'u', 'l', 'l']
  | .bool true => ['t', 'r', 'u', 'e']
  | .bool false => ['f', 'a', 'l', 's', 'e']
  | .number lexeme => lexeme
  | .string body => '"' :: body ++ ['"']
  | .array items => '[' :: items.text
  | .object members => '\x7b' :: members.text
  | .fault => []

def Items.text : Items → List Char
  | .close sep => sep ++ [']']
  | .fault => []
  | .item sep value rest => sep ++ value.text ++ rest.text

def Members.text : Members → List Char
  | .close sep => sep ++ ['\x7d']
  | .fault => []
  | .member sep key colon value rest =>
    sep ++ '"' :: key ++ '"' :: colon ++ value.text ++ rest.text

end

mutual

/-- The document holds no fault. -/
def Doc.isSound : Doc → Bool
  | .array items => items.isSound
  | .object members => members.isSound
  | .fault => false
  | _ => true

def Items.isSound : Items → Bool
  | .close _ => true
  | .fault => false
  | .item _ value rest => value.isSound && rest.isSound

def Members.isSound : Members → Bool
  | .close _ => true
  | .fault => false
  | .member _ _ _ value rest => value.isSound && rest.isSound

end

mutual

/-- How many arrays and objects stand inside one another. -/
def Doc.height : Doc → Nat
  | .array items => items.height + 1
  | .object members => members.height + 1
  | _ => 0

def Items.height : Items → Nat
  | .item _ value rest => max value.height rest.height
  | _ => 0

def Members.height : Members → Nat
  | .member _ _ _ value rest => max value.height rest.height
  | _ => 0

end

end Bindery.Json
