import Bindery.Text.Printable

/-!
# Quoted text

`quote` writes a text as a string literal of the generated code: between double quotes, with the
quote and the backslash escaped, named escapes for the common controls, and a numbered escape for
every character that could not be seen. `unquote` reads such a literal back; it knows the same
escapes and takes every other character for itself.
-/

namespace Bindery.Text

/-- The lower-case hexadecimal digits of a number, without leading zeros. -/
def hexDigits (n : Nat) : List Char :=
  Nat.toDigits 16 n

/-- A numbered escape: the code point in hexadecimal, between braces. -/
def numberedEscape (c : Char) : List Char :=
  '\\' :: 'u' :: '\x7b' :: hexDigits c.toNat ++ ['\x7d']

/-- How a character is written inside double quotes. -/
def quoteChar (c : Char) : List Char :=
  match c with
  | '\x00' => ['\\', '0']
  | '\t' => ['\\', 't']
  | '\r' => ['\\', 'r']
  | '\n' => ['\\', 'n']
  | '"' => ['\\', '"']
  | '\\' => ['\\', '\\']
  | c => if isGraphemeExtend c || isUnprintable c then numberedEscape c else [c]

/-- The characters of a string literal that denotes the given text. -/
def quoteChars (cs : List Char) : List Char :=
  '"' :: cs.flatMap quoteChar ++ ['"']

/-- The string literal that denotes `s`. -/
def quote (s : String) : String :=
  String.ofList (quoteChars s.toList)

/-- The characters of a literal that also escapes the apostrophe, the form in which paths are
shown. -/
def quotePathChars (cs : List Char) : List Char :=
  '"' :: cs.flatMap (fun c => if c = '\'' then ['\\', '\''] else quoteChar c) ++ ['"']

/-- A path as it is shown to a reader. -/
def quotePath (s : String) : String :=
  String.ofList (quotePathChars s.toList)

/-- The value of a hexadecimal digit. -/
def hexValue? (c : Char) : Option Nat :=
  if '0' ≤ c && c ≤ '9' then some (c.toNat - 48)
  else if 'a' ≤ c && c ≤ 'f' then some (c.toNat - 87)
  else if 'A' ≤ c && c ≤ 'F' then some (c.toNat - 55)
  else none

/-- The number that hexadecimal digits denote, and the text after the brace that ends them. -/
def readBraced (value : Nat) : List Char → Option (Nat × List Char)
  | [] => none
  | '\x7d' :: rest => some (value, rest)
  | c :: rest =>
    match hexValue? c with
    | some d => readBraced (value * 16 + d) rest
    | none => none

theorem readBraced_length {cs rest : List Char} {value n : Nat}
    (h : readBraced value cs = some (n, rest)) : rest.length < cs.length := by
  fun_induction readBraced value cs with
  | case1 => simp at h
  | case2 value after =>
    obtain ⟨_, rfl⟩ := by simpa using h
    simp
  | case3 value c cs hc d hd ih => exact Nat.lt_succ_of_lt (ih h)
  | case4 => simp at h

/-- The text that the inside of a literal denotes, up to its closing quote, which must end it. -/
def unquoteBody : List Char → Option (List Char)
  | ['"'] => some []
  | '"' :: _ => none
  | '\\' :: '0' :: rest => (unquoteBody rest).map ('\x00' :: ·)
  | '\\' :: 't' :: rest => (unquoteBody rest).map ('\t' :: ·)
  | '\\' :: 'r' :: rest => (unquoteBody rest).map ('\r' :: ·)
  | '\\' :: 'n' :: rest => (unquoteBody rest).map ('\n' :: ·)
  | '\\' :: '"' :: rest => (unquoteBody rest).map ('"' :: ·)
  | '\\' :: '\'' :: rest => (unquoteBody rest).map ('\'' :: ·)
  | '\\' :: '\\' :: rest => (unquoteBody rest).map ('\\' :: ·)
  | '\\' :: 'u' :: '\x7b' :: rest =>
    match h : readBraced 0 rest with
    | some (n, after) =>
      have : after.length < rest.length := readBraced_length h
      if n.isValidChar then (unquoteBody after).map (Char.ofNat n :: ·) else none
    | none => none
  | '\\' :: _ => none
  | c :: rest => (unquoteBody rest).map (c :: ·)
  | [] => none
termination_by cs => cs.length
decreasing_by all_goals (simp_wf; try omega)

/-- The text that a string literal denotes, if it is one. -/
def unquote? : List Char → Option (List Char)
  | '"' :: rest => unquoteBody rest
  | _ => none

end Bindery.Text
