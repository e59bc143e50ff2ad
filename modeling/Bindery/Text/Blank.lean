/-!
# Blank characters, trimming and lines

`isBlank` is the Unicode property `White_Space`. Trimming removes blank characters from the ends of
a text, and `lines` cuts a text at its newlines, dropping a carriage return that stands right
before one.
-/

namespace Bindery.Text

/-- A character with the Unicode property `White_Space`. -/
def isBlank (c : Char) : Bool :=
  let n := c.toNat
  (9 ≤ n && n ≤ 13) || n == 32 || n == 0x85 || n == 0xA0 || n == 0x1680 ||
    (0x2000 ≤ n && n ≤ 0x200A) || n == 0x2028 || n == 0x2029 || n == 0x202F || n == 0x205F ||
    n == 0x3000

/-- Every character that core counts as white space is blank. -/
theorem isBlank_of_isWhitespace {c : Char} (h : c.isWhitespace = true) : isBlank c = true := by
  simp only [Char.isWhitespace, Bool.or_eq_true, decide_eq_true_eq] at h
  rcases h with ((h | h) | h) | h <;> subst h <;> decide

/-- The characters from the first that is not blank. -/
def trimStart (cs : List Char) : List Char :=
  cs.dropWhile isBlank

/-- The characters up to the last that is not blank. -/
def trimEnd (cs : List Char) : List Char :=
  (cs.reverse.dropWhile isBlank).reverse

/-- A text of blank characters only. -/
def allBlank (cs : List Char) : Bool :=
  cs.all isBlank

/-- The pieces of a text between its newlines; one more than it has newlines. -/
def splitNewlines : List Char → List (List Char)
  | [] => [[]]
  | c :: cs =>
    match c, splitNewlines cs with
    | '\n', pieces => [] :: pieces
    | c, [] => [[c]]
    | c, piece :: pieces => (c :: piece) :: pieces

/-- A line without the carriage return that ends it. -/
def dropReturn (line : List Char) : List Char :=
  if line.getLast? = some '\r' then line.dropLast else line

/-- The lines of a text. A newline ends a line, with the carriage return before it; text after the
last newline is a line of its own, as it stands, unless it is empty. -/
def lines (cs : List Char) : List (List Char) :=
  let pieces := splitNewlines cs
  let ended := pieces.dropLast.map dropReturn
  match pieces.getLast? with
  | some [] | none => ended
  | some last => ended ++ [last]

end Bindery.Text
