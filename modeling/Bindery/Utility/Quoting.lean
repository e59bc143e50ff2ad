/-!
# Names in messages

A name in a message is quoted in such a way that a shell would read it again: between single quotes,
or between double quotes if there is a single quote in it and nothing that these would not protect.
-/

namespace Bindery.Utility

namespace Quoting

/-- Characters that mean something to a shell wherever they stand. -/
def special : List Char :=
  [' ', '!', '"', '$', '&', '(', ')', '*', ';', '<', '=', '>', '?', '[', '\\', '^', '\x60', '|',
    '\'']

def isVisible (c : Char) : Bool := 32 ≤ c.toNat && c.toNat < 127

/-- Whether a shell would not take a name as it is. -/
def isNeeded (cs : List Char) : Bool :=
  match cs with
  | [] | ['\x7b'] | ['\x7d'] => true
  | c :: _ => c == '#' || c == '~' || cs.any fun c => special.contains c || !isVisible c

/-- Whether double quotes protect a character and nothing is to be protected from them. -/
def isMild (c : Char) : Bool := isVisible c && (c == ' ' || c == '\'' || !special.contains c)

/-- The escape of a byte that cannot be seen. -/
def escape (c : Char) : List Char :=
  match c with
  | '\x07' => ['\\', 'a']
  | '\x08' => ['\\', 'b']
  | '\x0c' => ['\\', 'f']
  | '\n' => ['\\', 'n']
  | '\r' => ['\\', 'r']
  | '\t' => ['\\', 't']
  | '\x0b' => ['\\', 'v']
  | c =>
    let n := c.toNat
    let digit (n : Nat) : Char := Char.ofNat (48 + n)
    ['\\', digit (n / 64), digit (n / 8 % 8), digit (n % 8)]

/-- A name between single quotes; `escaping` tells whether the text before it ends in escapes. -/
def body (escaping : Bool) : List Char → List Char
  | [] => if escaping then ['\''] else []
  | c :: rest =>
    if !isVisible c then (if escaping then [] else ['\'', '$', '\'']) ++ escape c ++ body true rest
    else
      let start := if escaping then ['\'', '\''] else []
      let text := if c == '\'' then ['\'', '\\', '\'', '\''] else [c]
      start ++ text ++ body false rest

end Quoting

/-- A name in quotes. -/
def quoted (name : String) : String :=
  let cs := name.toList
  if cs.contains '\'' && cs.all Quoting.isMild then s!"\"{name}\""
  else
    let text := String.ofList ('\'' :: Quoting.body false cs)
    if (cs.getLast?).any (!Quoting.isVisible ·) then text else text ++ "'"

/-- A word of an expression or a number in quotes, with a backslash before what means something
there. -/
def cited (word : String) : String :=
  let cs := word.toList.flatMap fun c =>
    if c == '\'' || c == '\\' then ['\\', c]
    else if Quoting.isVisible c then [c]
    else Quoting.escape c
  "'" ++ String.ofList cs ++ "'"

/-- A name as messages show it: in quotes if a shell would not take it as it is. -/
def shown (name : String) : String :=
  if Quoting.isNeeded name.toList then quoted name else name

end Bindery.Utility
