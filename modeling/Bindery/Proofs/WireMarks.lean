import Bindery.Proofs.Comments
import Bindery.Proofs.Literals
import Bindery.Proofs.Words

/-!
# What code says about messages

Generated code talks to a peer that knows nothing of its identifiers: what it calls things in
messages stands in string literals. `WireMark.read` finds these literals in lines of code, each by
the line that it stands on or by the line above, and takes no notice of anything else. `Says` is the
same for layouts, and composes: since some lines are about the line below them, it promises that
nothing of the sort is left over at its end. Most lines say nothing (`Silent`), and their first
characters settle it (`Quiet.of_front` and its like).
-/

namespace Bindery

open Text

/-! ## Reading generated code -/

/-- Something that generated code says about messages. Names are those that literals denote, where
there is a literal. -/
inductive WireMark where
  /-- A structure begins. -/
  | struct
  /-- A field of the structure, and the name under which messages carry it. -/
  | member (name : Option String)
  /-- A constant of an enumeration. -/
  | constant (literal : Option String)
  /-- What the handle of a command calls itself. -/
  | method (name : Option String)
  /-- The notification that a callback is registered for. -/
  | event (name : Option String)
  deriving DecidableEq, Repr

namespace WireMark

/-- The text that the literal at the start of a line denotes. -/
def literal? (line : List Char) : Option String :=
  (readLiteral? line).map fun (text, _) => String.ofList text

/-- How the attribute starts that ties a field to its name in messages. -/
def renameHead : String := "#[serde(rename = "

/-- The header of the function by which a handle says what it calls. -/
def nameHeader : String := "fn name(&self) -> &'static str \x7b"

/-- The line above the name of a notification. -/
def sinkHeader : String := "transport.add_event_sink("

/-- The name that an attribute gives to the field below it. -/
def renamed? (line : List Char) : Option String :=
  if renameHead.toList <+: line then literal? (line.drop renameHead.length) else none

/-- What a line says about messages, given the line above it. A field takes its name from the
attribute above. -/
def ofLine? (above line : List Char) : Option WireMark :=
  if "pub struct ".toList <+: line then some .struct
  else if "pub const ".toList <+: line then some (.constant (literal? (line.dropWhile (· != '"'))))
  else if "pub ".toList <+: line ∧ line.getLast? = some ',' then some (.member (renamed? above))
  else if above = nameHeader.toList then some (.method (literal? line))
  else if above = sinkHeader.toList then some (.event (literal? line))
  else none

/-- What lines say about messages, given the line above them. -/
def below (above : List Char) : List (List Char) → List WireMark
  | [] => []
  | line :: rest => (ofLine? above line).toList ++ below line rest

/-- What lines of code say about messages. Indentation makes no difference. -/
def read (lines : List String) : List WireMark :=
  below [] (lines.map Layout.unindent)

/-! ## Lines that say nothing -/

/-- The line below this one does not name a command or a notification. -/
structure Opens (line : List Char) : Prop where
  name : line ≠ nameHeader.toList
  sink : line ≠ sinkHeader.toList

/-- A line that says nothing, and below which nothing is named. -/
structure Silent (line : List Char) : Prop extends Opens line where
  struct : ¬ "pub struct ".toList <+: line
  const : ¬ "pub const ".toList <+: line
  field : "pub ".toList <+: line → line.getLast? ≠ some ','

theorem ofLine?_of_silent {above line : List Char} (habove : Opens above) (h : Silent line) :
    ofLine? above line = none := by
  unfold ofLine?
  rw [if_neg h.struct, if_neg h.const, if_neg fun hfield => h.field hfield.1 hfield.2,
    if_neg habove.name, if_neg habove.sink]

theorem silent_nil : Silent [] := by
  refine ⟨⟨?_, ?_⟩, ?_, ?_, ?_⟩ <;> decide

theorem opens_of_front {c : Char} {rest : List Char} (hc : c ∉ ['f', 't']) :
    Opens (c :: rest) := by
  simp only [List.mem_cons, List.not_mem_nil, or_false, not_or] at hc
  obtain ⟨hf, ht⟩ := hc
  refine ⟨fun h => ?_, fun h => ?_⟩
  · exact hf (List.cons.inj h).1
  · exact ht (List.cons.inj h).1

theorem Opens.silent {c : Char} {rest : List Char} (h : Opens (c :: rest)) (hc : c ≠ 'p') :
    Silent (c :: rest) := by
  have hpub (tail : List Char) : ¬ 'p' :: tail <+: c :: rest := by
    rw [List.cons_prefix_cons]
    exact fun h => hc h.1.symm
  exact ⟨h, hpub _, hpub _, fun h => absurd h (hpub _)⟩

/-- All that could say something starts with one of a few characters. -/
theorem silent_of_front {c : Char} {rest : List Char} (hc : c ∉ ['p', 'f', 't']) :
    Silent (c :: rest) := by
  obtain ⟨hp, hc⟩ := not_or.mp (fun h => hc (List.mem_cons.mpr h))
  exact (opens_of_front hc).silent hp

/-- A `p` that is not the first letter of `pub` opens nothing that says something. -/
theorem silent_of_not_pub {c : Char} {rest : List Char} (hc : c ≠ 'u') :
    Silent ('p' :: c :: rest) := by
  have hpub (tail : List Char) : ¬ 'p' :: 'u' :: tail <+: 'p' :: c :: rest := by
    simp only [List.cons_prefix_cons, true_and, not_and]
    intro h
    exact absurd h.symm hc
  exact ⟨opens_of_front (by decide), hpub _, hpub _, fun h => absurd h (hpub _)⟩

/-- Functions and aliases of types say nothing, as their lines do not end in a comma. -/
theorem silent_of_pub {c : Char} {rest : List Char} (hc : c ∈ ['f', 't'])
    (hlast : (c :: rest).getLast? ≠ some ',') :
    Silent ('p' :: 'u' :: 'b' :: ' ' :: c :: rest) := by
  have hword {d : Char} (tail : List Char) (hd : d ∉ ['f', 't']) :
      ¬ 'p' :: 'u' :: 'b' :: ' ' :: d :: tail <+: 'p' :: 'u' :: 'b' :: ' ' :: c :: rest := by
    simp only [List.cons_prefix_cons, true_and, not_and]
    rintro rfl
    exact absurd hc hd
  refine ⟨opens_of_front (by decide), hword _ (by decide), hword _ (by decide), fun _ => ?_⟩
  simpa only [List.getLast?_cons_cons] using hlast

/-- Of the private functions, only the one that gives the name says something. -/
theorem silent_of_fn {c : Char} {rest : List Char} (hc : c ≠ 'n') :
    Silent ('f' :: 'n' :: ' ' :: c :: rest) := by
  refine Opens.silent ⟨fun h => ?_, fun h => ?_⟩ (by decide)
  · exact absurd (Option.some.inj (congrArg (fun line => (line.drop 3).head?) h)) hc
  · exact absurd (List.cons.inj h).1 (by decide)

/-- What is done with a transport says nothing, but for handing a callback over. -/
theorem silent_of_transport {c : Char} {rest : List Char} (hc : c ≠ 'a') :
    Silent ('t' :: 'r' :: 'a' :: 'n' :: 's' :: 'p' :: 'o' :: 'r' :: 't' :: '.' :: c :: rest) := by
  refine Opens.silent ⟨fun h => ?_, fun h => ?_⟩ (by decide)
  · exact absurd (List.cons.inj h).1 (by decide)
  · exact absurd (Option.some.inj (congrArg (fun line => (line.drop 10).head?) h)) hc

/-! ## Lines of layouts that say nothing -/

/-- A text ends with a character. -/
def Ends (s : String) (c : Char) : Prop := s.toList.getLast? = some c

namespace Ends

theorem lit {cs : List Char} {c : Char} (h : cs.getLast? = some c) : Ends (String.ofList cs) c := by
  rw [Ends, String.toList_ofList, h]

theorem append {s t : String} {c : Char} (h : Ends t c) : Ends (s ++ t) c := by
  rw [Ends] at h
  rw [Ends, String.toList_append, List.getLast?_append, h, Option.some_or]

end Ends

/-- A line of a layout that says nothing, and below which nothing is named. -/
def Quiet (s : String) : Prop := Silent (Layout.unindent s)

namespace Quiet

theorem of_front {s : String} {c : Char} {cs : List Char} (h : Starts s (c :: cs))
    (hc : c ∉ [' ', 'p', 'f', 't']) : Quiet s := by
  obtain ⟨hspace, hc⟩ := not_or.mp (fun h => hc (List.mem_cons.mpr h))
  rw [Quiet, h.unindent_eq hspace]
  obtain ⟨rest, h⟩ := h
  rw [h]
  exact silent_of_front hc

theorem of_starts {s : String} {c : Char} {cs : List Char} (h : Starts s (c :: cs))
    (hc : c ≠ ' ') (hsilent : ∀ rest, Silent (c :: cs ++ rest)) : Quiet s := by
  rw [Quiet, h.unindent_eq hc]
  obtain ⟨rest, h⟩ := h
  rw [h]
  exact hsilent rest

theorem of_pub {s : String} {c d : Char} {cs : List Char}
    (h : Starts s ('p' :: 'u' :: 'b' :: ' ' :: c :: cs)) (hc : c ∈ ['f', 't']) (hs : Ends s d)
    (hd : d ≠ ',') : Quiet s := by
  rw [Quiet, h.unindent_eq (by decide)]
  obtain ⟨rest, h⟩ := h
  rw [Ends, h] at hs
  simp only [List.cons_append, List.getLast?_cons_cons] at h hs
  rw [h]
  refine silent_of_pub hc ?_
  rw [hs]
  exact fun heq => hd (Option.some.inj heq)

end Quiet

/-! ## Layouts and what they say -/

/-- Layouts say something about messages, whatever is around them. -/
def Says (ls : List Layout) (marks : List WireMark) : Prop :=
  ∀ above, Opens above → ∀ rest, ∃ last, Opens last ∧
    below above ((Layout.allContents ls).map Layout.unindent ++ rest) = marks ++ below last rest

theorem read_of_says {ls : List Layout} {marks : List WireMark} (h : Says ls marks) (depth : Nat) :
    read (Layout.allLinesAt depth ls) = marks := by
  obtain ⟨last, -, heq⟩ := h [] silent_nil.toOpens []
  rw [read, Layout.map_unindent_allLinesAt]
  simpa [below] using heq

namespace Says

theorem nil : Says [] [] := fun above habove _ => ⟨above, habove, rfl⟩

theorem append {xs ys : List Layout} {ms ns : List WireMark} (hxs : Says xs ms) (hys : Says ys ns) :
    Says (xs ++ ys) (ms ++ ns) := by
  intro above habove rest
  -- the line that the first layouts end with is the one above the others
  obtain ⟨middle, hmiddle, hms⟩ :=
    hxs above habove ((Layout.allContents ys).map Layout.unindent ++ rest)
  obtain ⟨last, hlast, hns⟩ := hys middle hmiddle rest
  refine ⟨last, hlast, ?_⟩
  simp [hms, hns]

theorem cons {l : Layout} {ls : List Layout} {ms ns : List WireMark} (hl : Says [l] ms)
    (hls : Says ls ns) : Says (l :: ls) (ms ++ ns) :=
  hl.append hls

/-- A layout that says nothing changes nothing in front of others. -/
theorem skip {l : Layout} {ls : List Layout} {ms : List WireMark} (hl : Says [l] [])
    (hls : Says ls ms) : Says (l :: ls) ms :=
  hl.append hls

/-- Nor does it behind them. -/
theorem trail {xs ys : List Layout} {ms : List WireMark} (hxs : Says xs ms) (hys : Says ys []) :
    Says (xs ++ ys) ms := by
  have hall := hxs.append hys
  rwa [List.append_nil] at hall

/-- Lines that are silent, one and all. -/
theorem silent {ls : List Layout}
    (h : ∀ content ∈ Layout.allContents ls, Quiet content) : Says ls [] := by
  intro above habove rest
  generalize Layout.allContents ls = contents at h
  induction contents generalizing above with
  | nil => exact ⟨above, habove, rfl⟩
  | cons content contents ih =>
    have hsilent := h content List.mem_cons_self
    obtain ⟨last, hlast, heq⟩ := ih _ hsilent.toOpens fun c hc => h c (List.mem_cons_of_mem _ hc)
    refine ⟨last, hlast, ?_⟩
    rw [List.map_cons, List.cons_append, below, ofLine?_of_silent habove hsilent, heq]
    rfl

theorem line {content : String} (h : Quiet content) : Says [.line content] [] :=
  silent (by simpa using h)

theorem blank : Says [.blank] [] := line silent_nil

theorem doc (mark : DocMark) (description : Option String) (experimental : Bool) :
    Says [.doc mark description experimental] [] := by
  refine silent fun content hcontent => ?_
  obtain ⟨rest, hrest⟩ := opensComment_of_mem_docLines (by simpa using hcontent)
  have hstart : Starts content ['/', '/'] := ⟨rest, hrest⟩
  exact .of_front hstart (by decide)

theorem group {header close : String} {body : List Layout} {ms : List WireMark}
    (hheader : Quiet header) (hbody : Says body ms) (hclose : Quiet close) :
    Says [.group header close body] ms := by
  have hall := ((line hheader).append hbody).append (line hclose)
  simpa [Says] using hall

theorem block {header close : String} {body : List Layout} {ms : List WireMark}
    (hheader : Quiet (header ++ " \x7b")) (hbody : Says body ms) :
    Says [.block header close body] ms :=
  group hheader hbody (.of_front (.append .lit) (by decide))

/-- A line that says something by itself, and nothing about the line below. -/
theorem self {content : String} {m : WireMark} {c : Char} {cs : List Char}
    (hstart : Starts content (c :: cs)) (hc : c ∉ [' ', 'f', 't'])
    (h : ∀ above, ofLine? above content.toList = some m) : Says [.line content] [m] := by
  obtain ⟨hspace, hc⟩ := not_or.mp (fun h => hc (List.mem_cons.mpr h))
  intro above habove rest
  refine ⟨content.toList, ?_, ?_⟩
  · obtain ⟨rest, hrest⟩ := hstart
    rw [hrest]
    exact opens_of_front hc
  · simp [below, hstart.unindent_eq hspace, h above]

theorem struct {content : String} (h : Starts content "pub struct ".toList) :
    Says [.line content] [.struct] := by
  refine self (c := 'p') h (by decide) fun above => ?_
  rw [ofLine?, if_pos]
  obtain ⟨rest, h⟩ := h
  exact ⟨rest, h.symm⟩

theorem structBlock {header close : String} {body : List Layout} {ms : List WireMark}
    (h : Starts header "pub struct ".toList) (hbody : Says body ms) :
    Says [.block header close body] (.struct :: ms) := by
  have hclose : Says [.line ("\x7d" ++ close)] [] := line (.of_front (.append .lit) (by decide))
  have hall := ((struct (h.append (t := " \x7b"))).append hbody).append hclose
  simpa [Says, Layout.block] using hall

end Says

/-! ## Lines that name something -/

theorem literal?_quote (s : String) (rest : List Char) :
    literal? ((quote s).toList ++ rest) = some s := by
  rw [literal?, readLiteral?_quote]
  exact congrArg some String.ofList_toList

/-- Only what starts with a `p` says something without the line above. -/
theorem ofLine?_of_ne {above rest : List Char} {c : Char} (hc : c ≠ 'p') :
    ofLine? above (c :: rest) =
      if above = nameHeader.toList then some (.method (literal? (c :: rest)))
      else if above = sinkHeader.toList then some (.event (literal? (c :: rest)))
      else none := by
  have hpub (tail : List Char) : ¬ 'p' :: tail <+: c :: rest := by
    rw [List.cons_prefix_cons]
    exact fun h => hc h.1.symm
  have hstruct : ¬ "pub struct ".toList <+: c :: rest := hpub _
  have hconst : ¬ "pub const ".toList <+: c :: rest := hpub _
  have hfield : ¬ "pub ".toList <+: c :: rest := hpub _
  rw [ofLine?, if_neg hstruct, if_neg hconst, if_neg fun h => hfield h.1]

namespace Says

theorem constant {c : String × String} (hc : IsWord c.1) :
    Says [.line (Enumeration.constantLine c)] [.constant (some c.2)] := by
  have hstart : Starts (Enumeration.constantLine c) "pub const ".toList :=
    .append (.append (.append (.append .self)))
  refine self (c := 'p') hstart (by decide) fun above => ?_
  have hline : (Enumeration.constantLine c).toList =
      ("pub const ".toList ++ c.1.toList ++ ": Self = Self(Cow::Borrowed(".toList) ++
        ((quote c.2).toList ++ "));".toList) := by
    simp [Enumeration.constantLine, toString]
  -- the first quote of the line is that of the literal
  have hfront : ∀ d ∈ "pub const ".toList ++ c.1.toList ++ ": Self = Self(Cow::Borrowed(".toList,
      (d != '"') = true := by
    intro d hd
    rw [bne_iff_ne]
    rintro rfl
    simp only [List.mem_append] at hd
    rcases hd with (hd | hd) | hd
    · exact absurd hd (by decide)
    · exact hc.not_mem ⟨by decide, by decide⟩ hd
    · exact absurd hd (by decide)
  have hquote : ((quote c.2).toList ++ "));".toList).dropWhile (· != '"') =
      (quote c.2).toList ++ "));".toList := by
    obtain ⟨body, hbody, -⟩ := quote_form c.2
    rw [hbody]
    rfl
  obtain ⟨rest, hrest⟩ := hstart
  rw [ofLine?, if_neg, if_pos ⟨rest, hrest.symm⟩, hline, List.dropWhile_append_of_pos hfront,
    hquote, literal?_quote]
  rw [hrest]
  simp

/-- What the line of a field cannot start with: a word and a space. -/
theorem not_prefix_of_word {w : String} (hw : IsWord w) {front rest : List Char}
    (hspace : ' ' ∈ front) (hcolon : ':' ∉ front) : ¬ front <+: w.toList ++ ':' :: rest := by
  intro h
  have hword : w.toList ++ [':'] <+: w.toList ++ ':' :: rest := ⟨rest, by simp⟩
  rcases List.prefix_or_prefix_of_prefix h hword with h | h
  · rcases List.mem_append.mp (h.subset hspace) with hmem | hmem
    · exact hw.not_mem ⟨by decide, by decide⟩ hmem
    · exact absurd hmem (by decide)
  · exact hcolon (h.subset (by simp))

/-- A line about which the line above says something. -/
theorem pair {header content : String} {m : WireMark} {c d : Char} {cs ds : List Char}
    (hheader : Starts header (c :: cs)) (hc : c ∉ [' ', 'p']) (hcontent : Starts content (d :: ds))
    (hd : d ∉ [' ', 'f', 't']) (h : ofLine? header.toList content.toList = some m) :
    Says [.line header, .line content] [m] := by
  obtain ⟨hcspace, hcp⟩ := not_or.mp (fun h => hc (List.mem_cons.mpr h))
  obtain ⟨hdspace, hd⟩ := not_or.mp (fun h => hd (List.mem_cons.mpr h))
  intro above habove rest
  have hsilent : ofLine? above header.toList = none := by
    obtain ⟨rest, hrest⟩ := hheader
    rw [hrest, List.cons_append, ofLine?_of_ne (by simpa using hcp), if_neg habove.name,
      if_neg habove.sink]
  refine ⟨content.toList, ?_, ?_⟩
  · obtain ⟨rest, hrest⟩ := hcontent
    rw [hrest]
    exact opens_of_front hd
  · simp [below, hheader.unindent_eq hcspace, hcontent.unindent_eq hdspace, hsilent, h]

theorem field {f : RecordField} (hf : IsWord f.ident) :
    Says [.line f.attribute, .line s!"pub {f.ident}: {f.type.text},"]
      [.member (some f.wireName)] := by
  have hcolon : ": ".toList = [':', ' '] := String.toList_ofList
  have hattribute : f.attribute.toList = renameHead.toList ++ ((quote f.wireName).toList ++
      ((if f.optional then ", skip_serializing_if = \"Option::is_none\"" else "").toList ++
        ")]".toList)) := by
    unfold RecordField.attribute renameHead
    simp only [String.toList_append, List.append_assoc]
  have hfield : (s!"pub {f.ident}: {f.type.text},").toList =
      "pub ".toList ++ (f.ident.toList ++ ':' :: (' ' :: (f.type.text.toList ++ ",".toList))) := by
    simp only [toString, String.toList_append, List.append_assoc, hcolon, List.cons_append,
      List.nil_append]
  have hlast : Ends s!"pub {f.ident}: {f.type.text}," ',' := .append (.lit rfl)
  have hword (tail : List Char) (hspace : ' ' ∈ tail) (htail : ':' ∉ tail) :
      ¬ "pub ".toList ++ tail <+: (s!"pub {f.ident}: {f.type.text},").toList := by
    rw [hfield, List.prefix_append_right_inj]
    exact not_prefix_of_word hf hspace htail
  have hrenamed : renamed? f.attribute.toList = some f.wireName := by
    rw [renamed?, hattribute, if_pos (List.prefix_append _ _), ← String.length_toList,
      List.drop_left, literal?_quote]
  refine pair (c := '#') (d := 'p') (.append (.append (.append .lit))) (by decide)
    (.append (.append (.append (.append .lit)))) (by decide) ?_
  have hstruct : ¬ "pub struct ".toList <+: (s!"pub {f.ident}: {f.type.text},").toList :=
    hword "struct ".toList (by decide) (by decide)
  have hconst : ¬ "pub const ".toList <+: (s!"pub {f.ident}: {f.type.text},").toList :=
    hword "const ".toList (by decide) (by decide)
  have hpub : "pub ".toList <+: (s!"pub {f.ident}: {f.type.text},").toList := by
    rw [hfield]
    exact List.prefix_append _ _
  rw [ofLine?, if_neg hstruct, if_neg hconst, if_pos ⟨hpub, hlast⟩, hrenamed]

/-- A group that opens with a line about which its header says something. -/
theorem headed {header content close : String} {body : List Layout} {m : WireMark}
    (hpair : Says [.line header, .line content] [m]) (hbody : Says body []) (hclose : Quiet close) :
    Says [.group header close (.line content :: body)] [m] := by
  have hall := (hpair.append hbody).append (line hclose)
  simpa [Says] using hall

/-- What stands in the function by which a handle says what it calls. -/
theorem method (m : String) :
    Says [.block "fn name(&self) -> &'static str" "" [.line (quote m)]] [.method (some m)] := by
  have hheader : "fn name(&self) -> &'static str" ++ " \x7b" = nameHeader := by
    unfold nameHeader
    rw [← String.toList_inj]
    simp
  have hname : ofLine? nameHeader.toList (quote m).toList = some (.method (some m)) := by
    have hquote := literal?_quote m []
    obtain ⟨body, hbody, -⟩ := quote_form m
    rw [List.append_nil, hbody, List.cons_append] at hquote
    rw [hbody, List.cons_append, ofLine?_of_ne (by decide), if_pos rfl, hquote]
  rw [Layout.block, hheader]
  exact headed (pair .lit (by decide) (.quote m) (by decide) hname) nil
    (.of_front (.append .lit) (by decide))

/-- What stands first where a callback is handed over. -/
theorem event (m : String) {body : List Layout} (hbody : Says body []) :
    Says [.group "transport.add_event_sink(" ");" (.line s!"{quote m}," :: body)]
      [.event (some m)] := by
  have hsink : ofLine? sinkHeader.toList (s!"{quote m},").toList = some (.event (some m)) := by
    have hquote := literal?_quote m ",".toList
    have hline : (s!"{quote m},").toList = (quote m).toList ++ ",".toList := String.toList_append
    have hother : sinkHeader.toList ≠ nameHeader.toList := by
      intro h
      exact absurd (List.cons.inj h).1 (by decide)
    rw [hline]
    obtain ⟨inside, hinside, -⟩ := quote_form m
    rw [hinside, List.cons_append, List.cons_append] at hquote ⊢
    rw [ofLine?_of_ne (by decide), if_neg hother, if_pos rfl, hquote]
  exact headed (pair .lit (by decide) (.append (.quote m)) (by decide) hsink) hbody
    (.of_front .lit (by decide))

end Says

end WireMark

end Bindery
