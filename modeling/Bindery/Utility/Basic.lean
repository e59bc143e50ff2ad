import Bindery.Utility.Quoting
import Bindery.Utility.Work

/-!
# Options and files of utilities

How utilities read their options, look for files, and take texts apart. Texts are bytes, each as the
character of its number.
-/

namespace Bindery.Utility

/-! ## Options -/

/-- Whether an option has a value. -/
inductive OptionValue where
  | none
  | required
  /-- A value stands in the same word, if there is one. -/
  | optional
  deriving DecidableEq

/-- The options that a utility knows: single letters, and long names. -/
structure OptionForm where
  letters : List (Char × OptionValue)
  /-- Long names, with the names under which they are noted. -/
  names : List (String × String × OptionValue) := []
  /-- The first operand ends the options. -/
  leads : Bool := false

/-- The options and operands of a call. -/
structure Words where
  /-- Options by their letters or names, with their values. -/
  options : List (String × String) := []
  operands : List String := []

namespace Words

def has (w : Words) (names : List String) : Bool := w.options.any fun o => names.contains o.1

/-- The value of an option; the last one counts. -/
def value? (w : Words) (names : List String) : Option String :=
  (w.options.reverse.find? fun o => names.contains o.1).map (·.2)

def addOption (w : Words) (name value : String) : Words :=
  { w with options := w.options ++ [(name, value)] }

def addOperand (w : Words) (word : String) : Words := { w with operands := w.operands ++ [word] }

end Words

namespace OptionForm

/-- The letters of a text, each with a colon after it if it has a value, and with two if it may
have one. -/
def lettersOf : List Char → List (Char × OptionValue)
  | c :: ':' :: ':' :: rest => (c, .optional) :: lettersOf rest
  | c :: ':' :: rest => (c, .required) :: lettersOf rest
  | c :: rest => (c, .none) :: lettersOf rest
  | [] => []

/-- The form of some letters and long names. A long name is noted as the letter after an equals
sign, or else as itself, with colons after it as after letters. -/
def of (letters : String) (names : List String := []) (leads : Bool := false) : OptionForm :=
  let letters := lettersOf letters.toList
  let entry (text : String) : String × String × OptionValue :=
    let cs := text.toList
    let name := String.ofList (cs.takeWhile fun c => c != '=' && c != ':')
    match cs.drop name.length with
    | '=' :: c :: _ => (name, String.singleton c, (letters.lookup c).getD .none)
    | [':'] => (name, name, .required)
    | ':' :: _ => (name, name, .optional)
    | _ => (name, name, .none)
  { letters, names := names.map entry, leads }

/-- Reads options that are run together, the dash removed. The result may lack the value of the last
one. -/
def readLetters (form : OptionForm) (w : Words) : List Char → Except String (Words × Option String)
  | [] => .ok (w, none)
  | c :: rest =>
    let name := String.singleton c
    match form.letters.lookup c with
    | none => .error s!"invalid option -- '{c}'"
    | some .none => form.readLetters (w.addOption name "") rest
    | some .optional => .ok (w.addOption name (String.ofList rest), none)
    | some .required =>
      if rest.isEmpty then .ok (w, some name)
      else .ok (w.addOption name (String.ofList rest), none)

/-- The long options that a name may be short for. -/
def matching (form : OptionForm) (name : String) : List (String × String × OptionValue) :=
  let known := form.names ++ [("help", "help", .none), ("version", "version", .none)]
  match known.filter (·.1 == name) with
  | [] =>
    match known.filter fun o => name.toList.isPrefixOf o.1.toList with
    | first :: others =>
      if others.all fun o => o.2.1 == first.2.1 then [first] else first :: others
    | [] => []
  | exact => exact.take 1

/-- Reads a long option, the dashes removed. The result may lack its value. -/
def readName (form : OptionForm) (w : Words) (text : String) :
    Except String (Words × Option String) :=
  let cs := text.toList
  let name := String.ofList (cs.takeWhile (· != '='))
  let value := match cs.dropWhile (· != '=') with
    | _ :: value => some (String.ofList value)
    | [] => none
  match form.matching name, value with
  | [], _ => .error s!"unrecognized option '--{text}'"
  | [(_, key, .none)], none => .ok (w.addOption key "", none)
  | [(full, _, .none)], some _ => .error s!"option '--{full}' doesn't allow an argument"
  | [(full, _, .required)], none => .ok (w, some full)
  | [(_, key, _)], value => .ok (w.addOption key (value.getD ""), none)
  | several, _ =>
    let names := String.join (several.map fun o => s!" '--{o.1}'")
    .error s!"option '--{name}' is ambiguous; possibilities:{names}"

/-- Notes the value of an option that waits for it. -/
def giveValue (form : OptionForm) (w : Words) (name value : String) : Words :=
  let key := match form.names.lookup name with
    | some (key, _) => if name.length = 1 then name else key
    | none => name
  w.addOption key value

/-- Reads the words of a call; `pending` is an option that waits for its value. -/
def readWords (form : OptionForm) (w : Words) (pending : Option String) :
    List String → Except String Words
  | [] =>
    match pending with
    | none => .ok w
    | some name =>
      if name.length = 1 then .error s!"option requires an argument -- '{name}'"
      else .error s!"option '--{name}' requires an argument"
  | word :: rest =>
    match pending, word.toList with
    | some name, _ => form.readWords (form.giveValue w name word) none rest
    | none, ['-', '-'] => .ok { w with operands := w.operands ++ rest }
    | none, '-' :: '-' :: name => do
      let (w, pending) ← form.readName w (String.ofList name)
      form.readWords w pending rest
    | none, '-' :: c :: cs => do
      let (w, pending) ← form.readLetters w (c :: cs)
      form.readWords w pending rest
    | none, _ =>
      if form.leads then .ok { w with operands := w.operands ++ word :: rest }
      else form.readWords (w.addOperand word) none rest

end OptionForm

/-- The form of options without values. -/
def OptionForm.flags (letters : String) (names : List String) : OptionForm := .of letters names

/-- Reads the options of a call and does the work, unless help was asked for. -/
def Call.withOptionsDo (c : Call) (form : OptionForm) (failure : Nat)
    (act : Words → Work Answer) : Work Answer :=
  match form.readWords {} none c.args with
  | .error reason => .done (c.misuse reason failure)
  | .ok w =>
    if w.has ["help"] then .done (c.start.print s!"Usage: {c.name} [OPTION]...\n")
    else if w.has ["version"] then .done (c.start.print (c.name ++ "\n"))
    else act w

/-- Reads the options of a call and does the work, unless help was asked for. -/
def Call.withOptions (c : Call) (form : OptionForm) (failure : Nat) (act : Words → Answer) :
    Answer :=
  match form.readWords {} none c.args with
  | .error reason => c.misuse reason failure
  | .ok w =>
    if w.has ["help"] then c.start.print s!"Usage: {c.name} [OPTION]...\n"
    else if w.has ["version"] then c.start.print (c.name ++ "\n")
    else act w

/-! ## Files -/

/-- The path that a word of a call names. -/
def pathOf (word : String) : String := Text.Octets.decode word

/-- What a word of a call names: a file, or the standard input. -/
def Call.read (c : Call) (a : Answer) (word : String) : Except SystemError String × Answer :=
  if word = "-" || word = "/dev/stdin" then
    if a.drains then (c.input.map fun _ => "", a)
    else (c.input.map Text.Octets.ofBytes, { a with drains := true })
  else (Text.Octets.ofBytes <$> a.tree.read (pathOf word), a)

/-- Makes a file hold a text. -/
def Call.write (c : Call) (tree : FileTree) (word text : String) :
    Except SystemError FileTree := do
  let path := pathOf word
  let isNew := (tree.seek path).toOption.isNone
  let after ← tree.save path (Text.Octets.toBytes text)
  if isNew then return after.withMask (← after.seekLocation path) 0o666 c.mask else return after

/-- Does something with each of a list of words; the failure of one does not spare the others. -/
def Call.each (c : Call) (words : List String)
    (act : FileTree → String → Except String FileTree) : Answer :=
  words.foldl (fun a word =>
    match act a.tree word with
    | .ok tree => { a with tree }
    | .error reason => c.fail a reason) c.start

/-! ## Lines -/

/-- The pieces of a text that end with a mark, each with it; the last one may lack it. -/
def splitAfter (mark : Char) (text : String) : List String :=
  let (lines, rest) := text.foldl (fun (lines, line) c =>
    if c == mark then (line.push c :: lines, "") else (lines, line.push c))
    (([] : List String), "")
  (if rest.isEmpty then lines else rest :: lines).reverse

/-- The lines of a text that end with a mark, without it. -/
def linesAt (mark : Char) (text : String) : List String :=
  (splitAfter mark text).map fun line =>
    if line.toList.getLast? == some mark then (line.dropEnd 1).toString else line

/-- The lines of a text, each with its line end. -/
def linesOf (text : String) : List String := splitAfter '\n' text

/-- A line without its line end. -/
def withoutEnd (line : String) : String :=
  if line.endsWith "\n" then (line.dropEnd 1).toString else line

/-- The lines of a text, without their line ends. -/
def plainLines (text : String) : List String := (linesOf text).map withoutEnd

/-- A text put at the right of a field of a width. -/
def padLeft (width : Nat) (text : String) : String :=
  String.ofList (List.replicate (width - text.length) ' ') ++ text

/-- A text put at the left of a field of a width. -/
def padRight (width : Nat) (text : String) : String :=
  text ++ String.ofList (List.replicate (width - text.length) ' ')

end Bindery.Utility
