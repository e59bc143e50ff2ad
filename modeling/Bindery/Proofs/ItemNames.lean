import Bindery.Proofs.Comments
import Bindery.Proofs.Definitions
import Bindery.Proofs.Emission
import Bindery.Proofs.Pieces

/-!
# Generated items

What can be used of the code of a domain are its public items: structures, aliases and functions.
`DefinesItems` finds them in layouts, by the lines without indentation that start with `pub`, and
holds such a line against an item without taking the name off it, since a name may hold anything.
It composes, as what stands deeper in a layout defines no item; there is a law for each form of
generated item, and one for each declaration (`Declaration.definesItems`). So the items of a domain
are all that its code defines (`Domain.definesItems`).
-/

namespace Bindery

open Text

/-! ## Items -/

/-- The namespaces of the generated code: structures and aliases share one. -/
inductive ItemKind where
  | type
  | function
  deriving DecidableEq, Repr

/-- The words that open the definition of an item. -/
def ItemKind.openings : ItemKind → List String
  | type => ["pub struct ", "pub type "]
  | function => ["pub fn "]

theorem ItemKind.prefix_of_mem_openings (kind : ItemKind) :
    ∀ opening ∈ kind.openings, "pub ".toList <+: opening.toList := by
  cases kind <;> decide

/-- An item of the generated code. -/
structure PublicItem where
  kind : ItemKind
  name : String
  deriving DecidableEq, Repr

namespace PublicItem

/-- The line opens the definition of the item: the words for its kind and its name come first, and
then a character that ends the name. -/
def OpenedBy (item : PublicItem) (line : String) : Prop :=
  ∃ opening ∈ item.kind.openings, ∃ c ∈ [' ', '(', '<'], ∃ rest,
    line.toList = opening.toList ++ item.name.toList ++ c :: rest

theorem OpenedBy.append {item : PublicItem} {line : String} (h : item.OpenedBy line)
    (tail : String) : item.OpenedBy (line ++ tail) := by
  obtain ⟨opening, hopening, c, hc, rest, hline⟩ := h
  refine ⟨opening, hopening, c, hc, rest ++ tail.toList, ?_⟩
  rw [String.toList_append, hline, List.append_assoc, List.cons_append]

theorem openedBy {kind : ItemKind} {opening : String} (hopening : opening ∈ kind.openings)
    (name : String) {tail : String} {c : Char} {cs : List Char} (h : Starts tail (c :: cs))
    (hc : c ∈ [' ', '(', '<']) : OpenedBy ⟨kind, name⟩ (opening ++ name ++ tail) := by
  obtain ⟨rest, h⟩ := h
  refine ⟨opening, hopening, c, hc, cs ++ rest, ?_⟩
  rw [String.toList_append, String.toList_append, h, List.cons_append]

end PublicItem

/-- A line that defines something that can be used from outside. What is defined inside of something
else is indented and does not count. -/
def isPublic (line : String) : Bool := "pub ".toList.isPrefixOf line.toList

theorem isPublic_of_openedBy {item : PublicItem} {line : String} (h : item.OpenedBy line) :
    isPublic line = true := by
  obtain ⟨opening, hopening, c, -, rest, hline⟩ := h
  have hpub := item.kind.prefix_of_mem_openings opening hopening
  rw [isPublic, List.isPrefixOf_iff_prefix, hline, List.append_assoc]
  exact hpub.trans (List.prefix_append _ _)

theorem isPublic_eq_false {line : String} {c : Char} {cs : List Char} (h : Starts line (c :: cs))
    (hc : c ≠ 'p') : isPublic line = false := by
  obtain ⟨rest, h⟩ := h
  rw [isPublic, h, List.cons_append]
  have hp : ('p' == c) = false := by simpa using hc.symm
  show ('p' == c && _) = false
  rw [hp, Bool.false_and]

namespace Text.Layout

theorem isPublic_indented (depth : Nat) (content : String) :
    isPublic (indented (depth + 1) content) = false := by
  unfold indented
  split
  · rfl
  · have hspace : Starts (indentation (depth + 1)) [' '] :=
      ⟨List.replicate (4 * depth + 3) ' ', by rw [indentation, String.toList_ofList]; rfl⟩
    exact isPublic_eq_false hspace.append (by decide)

mutual

theorem isPublic_of_mem_linesAt (depth : Nat) :
    ∀ l : Layout, ∀ text ∈ linesAt (depth + 1) l, isPublic text = false
  | .line content, _, h => by
    obtain rfl := List.mem_singleton.mp h
    exact isPublic_indented depth content
  | .doc mark description experimental, _, h => by
    obtain ⟨content, -, rfl⟩ := List.mem_map.mp h
    exact isPublic_indented depth content
  | .group header close body, text, h => by
    rcases List.mem_cons.mp h with rfl | h
    · exact isPublic_indented depth header
    · rcases List.mem_append.mp h with h | h
      · exact isPublic_of_mem_allLinesAt (depth + 1) body text h
      · obtain rfl := List.mem_singleton.mp h
        exact isPublic_indented depth close

/-- No indented line counts. -/
theorem isPublic_of_mem_allLinesAt (depth : Nat) :
    ∀ ls : List Layout, ∀ text ∈ allLinesAt (depth + 1) ls, isPublic text = false
  | [], _, h => absurd h List.not_mem_nil
  | l :: ls, text, h => by
    rcases List.mem_append.mp h with h | h
    · exact isPublic_of_mem_linesAt depth l text h
    · exact isPublic_of_mem_allLinesAt depth ls text h

end

end Text.Layout

/-! ## What layouts define -/

/-- Of the lines of these layouts, those that define something are the openings of the items, in
this order. -/
def DefinesItems (ls : List Layout) (items : List PublicItem) : Prop :=
  List.Forall₂ PublicItem.OpenedBy items ((Layout.allLinesAt 0 ls).filter isPublic)

namespace DefinesItems

theorem nil : DefinesItems [] [] := List.Forall₂.nil

theorem append {xs ys : List Layout} {is js : List PublicItem} (hxs : DefinesItems xs is)
    (hys : DefinesItems ys js) : DefinesItems (xs ++ ys) (is ++ js) := by
  unfold DefinesItems
  rw [Layout.allLinesAt_append, List.filter_append]
  exact List.rel_append hxs hys

theorem cons {l : Layout} {ls : List Layout} {i : PublicItem} {is : List PublicItem}
    (hl : DefinesItems [l] [i]) (hls : DefinesItems ls is) : DefinesItems (l :: ls) (i :: is) :=
  hl.append hls

theorem skip {l : Layout} {ls : List Layout} {is : List PublicItem} (hl : DefinesItems [l] [])
    (hls : DefinesItems ls is) : DefinesItems (l :: ls) is :=
  hl.append hls

theorem trail {ls : List Layout} {is : List PublicItem} (hls : DefinesItems ls is) {l : Layout}
    (hl : DefinesItems [l] []) : DefinesItems (ls ++ [l]) is := by
  simpa using hls.append hl

theorem none {l : Layout} (h : ∀ line ∈ l.linesAt 0, isPublic line = false) :
    DefinesItems [l] [] := by
  unfold DefinesItems
  have hnone : (l.linesAt 0).filter isPublic = [] := by simpa using h
  simp [hnone]

theorem doc (mark : DocMark) (description : Option String) (experimental : Bool) :
    DefinesItems [.doc mark description experimental] [] := by
  refine none fun line hline => ?_
  rw [Layout.linesAt] at hline
  obtain ⟨content, hcontent, rfl⟩ := List.mem_map.mp hline
  have hstart : Starts content ['/', '/'] := opensComment_of_mem_docLines hcontent
  rw [Layout.indented_zero]
  exact isPublic_eq_false hstart (by decide)

theorem blank : DefinesItems [.blank] [] := by
  refine none fun line hline => ?_
  obtain rfl : line = "" := by simpa using hline
  rfl

theorem other {content : String} {c : Char} {cs : List Char} (h : Starts content (c :: cs))
    (hc : c ≠ 'p') : DefinesItems [.line content] [] := by
  refine none fun line hline => ?_
  obtain rfl : line = content := by simpa using hline
  exact isPublic_eq_false h hc

theorem line {item : PublicItem} {content : String} (h : item.OpenedBy content) :
    DefinesItems [.line content] [item] := by
  unfold DefinesItems
  simpa [isPublic_of_openedBy h] using h

/-- Of a group in braces, only the first line can count. -/
theorem filter_block (header : String) (body : List Layout) :
    (Layout.allLinesAt 0 [.block header "" body]).filter isPublic =
      [header ++ " \x7b"].filter isPublic := by
  -- what stands inside is indented
  have hbody : (Layout.allLinesAt 1 body).filter isPublic = [] :=
    List.filter_eq_nil_iff.mpr fun line hline => by
      rw [Layout.isPublic_of_mem_allLinesAt 0 body line hline]
      decide
  have hclose : isPublic "\x7d" = false := rfl
  simp [List.filter_cons, hbody, hclose]

theorem block {item : PublicItem} {header : String} {body : List Layout}
    (h : item.OpenedBy (header ++ " \x7b")) : DefinesItems [.block header "" body] [item] := by
  unfold DefinesItems
  rw [filter_block, List.filter_cons, if_pos (isPublic_of_openedBy h)]
  exact .cons h .nil

theorem otherBlock {header : String} {body : List Layout} {c : Char} {cs : List Char}
    (h : Starts header (c :: cs)) (hc : c ≠ 'p') : DefinesItems [.block header "" body] [] := by
  unfold DefinesItems
  rw [filter_block, List.filter_cons, isPublic_eq_false h.append hc]
  exact .nil

end DefinesItems

/-! ## What declarations define -/

namespace Declaration

/-- The items of a declaration, given its identifier. -/
def itemsAs (ident : String) : Declaration → List PublicItem
  | type _ => [⟨.type, ident⟩]
  | command c =>
    (if c.parameters.isEmpty then [] else [⟨.type, ident ++ "Params"⟩]) ++
      (if c.returns.isEmpty then [] else [⟨.type, ident ++ "Result"⟩]) ++
      [⟨.type, ident ++ "Command"⟩, ⟨.function, Naming.fnIdent ident⟩] ++
      [⟨.type, ident ++ "Callback"⟩, ⟨.type, "Async" ++ ident ++ "Command"⟩]
  | event _ => [⟨.type, ident ++ "Event"⟩, ⟨.function, "on_" ++ Naming.snakeCase ident⟩]

/-- The items of a declaration of a domain. -/
def items (table : NameTable) (domain : String) (x : Declaration) : List PublicItem :=
  x.itemsAs (table.ident domain x.name)

end Declaration

namespace DefinesItems

theorem record (r : Record) : DefinesItems r.layout [⟨.type, r.ident⟩] := by
  unfold Record.layout
  cases r.fields with
  | nil =>
    refine skip (doc _ _ _) (skip (other .lit (by decide)) (line ?_))
    exact PublicItem.openedBy (by decide) r.ident .lit (by decide)
  | cons first rest =>
    refine skip (doc _ _ _) (skip (other .lit (by decide)) (block ?_))
    exact PublicItem.openedBy (by decide) r.ident .lit (by decide)

theorem enumeration (ident : String) (description : Option String) (experimental : Bool)
    (literals : List String) :
    DefinesItems (Enumeration.layout ident description experimental literals)
      [⟨.type, ident⟩] := by
  refine skip (doc _ _ _) (skip (other .lit (by decide)) (skip (other .lit (by decide))
    (cons (line ?_) (skip blank (skip (other .lit (by decide))
      (otherBlock (.append .lit) (by decide)))))))
  exact PublicItem.openedBy (by decide) ident .lit (by decide)

/-- What a type can do is no item of its own. -/
theorem impl {ident : String} {body : List Layout} :
    DefinesItems [.block ("impl " ++ ident) "" body] [] :=
  otherBlock (.append .lit) (by decide)

theorem impl' {ident : String} {body : List Layout} :
    DefinesItems [.block ("impl rt::Command for " ++ ident) "" body] [] :=
  otherBlock (.append .lit) (by decide)

variable (shape : CommandShape)

theorem blocking : DefinesItems (Blocking.layout shape)
    [⟨.type, shape.ident ++ "Command"⟩, ⟨.function, Naming.fnIdent shape.ident⟩] := by
  have hhandle : DefinesItems (Blocking.handle shape) [⟨.type, shape.ident ++ "Command"⟩] :=
    skip (other (.append (.append .lit)) (by decide))
      (block (PublicItem.openedBy (by decide) shape.blockingIdent .lit (by decide)))
  have hfunction : DefinesItems (Blocking.convenience shape)
      [⟨.function, Naming.fnIdent shape.ident⟩] := by
    refine skip (doc _ _ _) (block ?_)
    have hname : PublicItem.OpenedBy ⟨.function, Naming.fnIdent shape.ident⟩
        ("pub fn " ++ Naming.fnIdent shape.ident ++ "(") :=
      PublicItem.openedBy (by decide) _ .lit (by decide)
    exact (((hname.append _).append _).append _).append _
  exact ((((((hhandle.trail blank).trail impl).trail blank).trail impl').trail blank).append
    hfunction).trail blank

theorem callback : DefinesItems (Callback.layout shape)
    [⟨.type, shape.ident ++ "Callback"⟩, ⟨.type, "Async" ++ shape.ident ++ "Command"⟩] := by
  have htype : DefinesItems (Callback.callbackType shape) [⟨.type, shape.ident ++ "Callback"⟩] := by
    refine skip (other (.append (.append .lit)) (by decide)) (line ?_)
    have hname : PublicItem.OpenedBy ⟨.type, shape.callbackIdent⟩
        ("pub type " ++ shape.callbackIdent ++ " = ") :=
      PublicItem.openedBy (by decide) _ .lit (by decide)
    exact hname.append _
  have hhandle : DefinesItems (Callback.handle shape)
      [⟨.type, "Async" ++ shape.ident ++ "Command"⟩] :=
    skip (other (.append (.append .lit)) (by decide))
      (block (PublicItem.openedBy (by decide) shape.callbackHandleIdent .lit (by decide)))
  have hbefore := (htype.trail blank).append hhandle
  exact (((hbefore.trail blank).append (skip impl blank)).trail impl').trail blank

theorem registration (ident recordIdent method : String) :
    DefinesItems (Event.registration ident recordIdent method)
      [⟨.function, "on_" ++ Naming.snakeCase ident⟩] := by
  refine skip (other (.append (.append .lit)) (by decide)) (skip (other .lit (by decide))
    (skip (other .lit (by decide)) (block ?_)))
  have hname : PublicItem.OpenedBy ⟨.function, "on_" ++ Naming.snakeCase ident⟩
      ("pub fn " ++ ("on_" ++ Naming.snakeCase ident) ++ "<F>") :=
    PublicItem.openedBy (by decide) _ .lit (by decide)
  rw [← String.append_assoc] at hname
  exact ((hname.append _).append _).append _

end DefinesItems

theorem DefinesItems.record_of_properties {table : NameTable} {domain ident declaration : String}
    {properties : List Property} {r : Record}
    (h : Record.ofProperties? table domain ident declaration properties = .ok r)
    (description : Option String) (experimental : Bool) :
    DefinesItems ((r.withDoc description experimental).layout ++ [.blank]) [⟨.type, ident⟩] := by
  obtain ⟨fields, -, rfl⟩ := Record.ofProperties?_eq_ok h
  exact (record _).trail blank

theorem TypeDecl.definesItems {table : NameTable} {domain : String} {decl : TypeDecl}
    {piece : Piece} (h : decl.piece? table domain = .ok piece) :
    DefinesItems piece.layout [⟨.type, table.ident domain decl.name⟩] := by
  rcases piece?_eq_ok h with ⟨literals, -, hlayout⟩ | ⟨_, r, -, hr, hlayout⟩ |
    ⟨type, -, -, -, hlayout⟩
  · rw [hlayout]
    exact (DefinesItems.enumeration _ _ _ _).trail .blank
  · rw [hlayout]
    exact .record_of_properties hr _ _
  · have hname : PublicItem.OpenedBy ⟨.type, table.ident domain decl.name⟩
        ("pub type " ++ table.ident domain decl.name ++ " = ") :=
      PublicItem.openedBy (by decide) _ .lit (by decide)
    rw [hlayout]
    exact .skip (.doc _ _ _) (.cons (.line ((hname.append _).append _)) .blank)

theorem Command.definesItems_record? {table : NameTable} {domain ident title : String}
    {c : Command} {ps : List Property} {r : Option Record}
    (h : c.record? table domain ident title ps = .ok r) :
    DefinesItems (r.toList.flatMap fun record => record.layout ++ [.blank])
      (if ps.isEmpty then [] else [⟨.type, ident⟩]) := by
  rcases record?_eq_ok h with ⟨hempty, rfl⟩ | ⟨hsome, made, hmade, rfl⟩
  · rw [if_pos hempty]
    exact .nil
  · rw [if_neg (by rw [hsome]; decide), Option.toList_some, List.flatMap_singleton]
    exact .record_of_properties hmade _ _

/-- **A declaration defines its items** and no others. -/
theorem Declaration.definesItems {table : NameTable} {domain : String} {x : Declaration}
    {piece : Piece} (h : x.piece? table domain = .ok piece) :
    DefinesItems piece.layout (x.items table domain) := by
  cases x with
  | type decl => exact decl.definesItems h
  | command c =>
    obtain ⟨params, result, hparams, hresult, hlayout⟩ := Command.piece?_eq_ok h
    have hrecords := (Command.definesItems_record? hparams).append
      (Command.definesItems_record? hresult)
    rw [← List.flatMap_append] at hrecords
    rw [hlayout]
    exact (hrecords.append (.blocking _)).append (.callback _)
  | event e =>
    obtain ⟨r, hr, hlayout⟩ := Event.piece?_eq_ok h
    rw [hlayout]
    exact ((DefinesItems.record_of_properties hr _ _).append (.registration _ _ _)).trail .blank

/-! ## What domains define -/

/-- The items of a domain, in order. -/
def Domain.items (table : NameTable) (d : Domain) : List PublicItem :=
  d.declarations.flatMap (·.items table d.name)

theorem definesItems_pieces {table : NameTable} {domain : String} {xs : List Declaration}
    {pieces : List Piece}
    (h : List.Forall₂ (fun x piece => Declaration.piece? table domain x = .ok piece) xs pieces) :
    DefinesItems (pieces.flatMap (·.layout)) (xs.flatMap (·.items table domain)) := by
  induction h with
  | nil => exact .nil
  | cons hpiece _ ih => exact (Declaration.definesItems hpiece).append ih

/-- **The items of a domain are all that its code defines**, in the order of the declarations. -/
theorem Domain.definesItems {table : NameTable} {s : Selection} {d : Domain} {u : DomainUnit}
    (h : d.unit? table s = .ok u) :
    ∃ pieces, (d.included s).pieces? table = .ok pieces ∧
      u.body = joinLines (pieces.flatMap (·.lines)) ∧
      List.Forall₂ PublicItem.OpenedBy ((d.included s).items table)
        ((pieces.flatMap (·.lines)).filter isPublic) := by
  rw [unit?_eq_assembled?] at h
  obtain ⟨pieces, hpieces, h⟩ := Except.bind_eq_ok_iff.mp h
  obtain rfl := Except.ok.inj h
  refine ⟨pieces, hpieces, ?_, ?_⟩
  · rw [Piece.flatMap_lines]
    exact Layout.textAll_eq_joinLines 0 _
  · rw [pieces?_eq_mapM] at hpieces
    rw [Piece.flatMap_lines]
    exact definesItems_pieces (Except.mapM_eq_ok_iff.mp hpieces)

end Bindery
