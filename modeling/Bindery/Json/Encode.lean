import Bindery.Json.Decode

/-!
# Writing JSON texts

The texts of values, without white space: the members of an object in the order given, numbers in
decimal digits, strings with the fewest escapes. `RawText.read?` takes a text that is JSON already,
and leaves it as it is written.
-/

namespace Bindery.Json

/-- The text of a string. -/
def stringChars (s : String) : List Char :=
  '"' :: escape s.toList ++ ['"']

/-- The text of an integer. -/
def intChars (n : Int) : List Char := (toString n).toList

/-- Texts one after the other, with a comma between them. -/
def commaChars (texts : List (List Char)) : List Char :=
  List.intercalate [','] texts

/-- The text of an array, from the texts of its values. -/
def arrayChars (values : List (List Char)) : List Char :=
  '[' :: commaChars values ++ [']']

/-- The text of one member of an object. -/
def memberChars (key : String) (value : List Char) : List Char :=
  stringChars key ++ ':' :: value

/-- The text of an object, from the texts of its values. -/
def objectChars (members : List (String × List Char)) : List Char :=
  '\x7b' :: commaChars (members.map fun (key, value) => memberChars key value) ++ ['\x7d']

/-- A member that is left out where the value is absent. -/
def optionalMember {α : Type} (key : String) (write : α → List Char) (value : Option α) :
    List (String × List Char) :=
  (value.map fun x => (key, write x)).toList

namespace RawText

/-- The characters of a raw text. -/
def chars (raw : RawText) : List Char := raw.text.toList

/-- A text of characters, as a raw text. -/
def ofChars (cs : List Char) : RawText := ⟨String.ofList cs⟩

/-- The object without members. -/
def emptyObject : RawText := ⟨"\x7b\x7d"⟩

/-- A text that is JSON as a whole, without the white space around it. -/
def read? (s : String) : Option RawText :=
  (parse s).sound?.map fun doc => ofChars doc.text

end RawText

end Bindery.Json
