import Bindery.Binding.DomainUnit
import Bindery.Proofs.Results
import Bindery.Text.Layout

/-!
# One declaration after another

The code of a domain is written in one go: a single writer, a single set of capabilities and a
single count go through the declarations in order, and those that are left out are only counted.
Nothing is passed from one declaration to the next that way, so that the code is that of the
declarations by themselves, put together (`Domain.unit?_eq_assembled?`). A domain is generated if
each of its declarations is when it stands alone, and then is what these are together:
`Domain.unit_of_declarations`.

A writer is a text that grows line by line and knows how deep the next line stands. Writing a layout
with it only appends, and leaves the depth as it was: what is appended is the text of the layout at
this depth (`Writer.write_eq`). So layouts that are written one after the other with the same writer
do not see one another.
-/

/-! ## Writing layouts line by line -/

namespace Bindery.Text

namespace Writer

theorem foldl_line (w : Writer) (contents : List String) :
    contents.foldl line w =
      { w with text := w.text ++ String.join (contents.map (Layout.lineText w.depth)) } := by
  induction contents generalizing w with
  | nil => simp [String.join]
  | cons content rest ih =>
    rw [List.foldl_cons, ih]
    simp [line, String.append_assoc]

mutual

/-- **A layout is written at the depth of the writer**, which it leaves as it was. -/
theorem write_eq (w : Writer) :
    ∀ l : Layout, w.write l = { w with text := w.text ++ l.text w.depth }
  | .line content => by rw [write, line, Layout.text]
  | .doc mark description experimental => by rw [write, foldl_line, Layout.text]
  | .group header close body => by
    rw [write, writeAll_eq (w.line header).indent body]
    simp [line, indent, dedent, Layout.text, String.append_assoc]

theorem writeAll_eq (w : Writer) :
    ∀ ls : List Layout, w.writeAll ls = { w with text := w.text ++ Layout.textAll w.depth ls }
  | [] => by simp [writeAll, Layout.textAll]
  | l :: ls => by
    rw [writeAll, write_eq w l, writeAll_eq _ ls, Layout.textAll, String.append_assoc]

end

@[simp] theorem writeAll_append (w : Writer) (xs ys : List Layout) :
    w.writeAll (xs ++ ys) = (w.writeAll xs).writeAll ys := by
  simp only [writeAll_eq, Layout.textAll_append, String.append_assoc]

end Writer

end Bindery.Text

namespace Bindery

open Text

/-! ## Declarations -/

namespace Declaration

/-- The domain, with this declaration only. -/
def alone (d : Domain) : Declaration → Domain
  | type decl => { d with types := [decl], commands := [], events := [] }
  | command decl => { d with types := [], commands := [decl], events := [] }
  | event decl => { d with types := [], commands := [], events := [decl] }

end Declaration

namespace Domain

/-- The declarations of a domain that are generated. -/
def included (s : Selection) (d : Domain) : Domain :=
  { d with
    types := d.types.filter fun t => s.includes t.experimental
    commands := d.commands.filter fun c => s.includes c.experimental
    events := d.events.filter fun e => s.includes e.experimental }

/-- How many declarations a domain has. -/
def declarationCount (d : Domain) : Nat :=
  d.types.length + d.commands.length + d.events.length

/-- The code of every declaration of a domain, in order. -/
def pieces? (table : NameTable) (d : Domain) : Except Error (List Piece) := do
  let types ← d.types.mapM (TypeDecl.piece? table d.name)
  let commands ← d.commands.mapM (Command.piece? table d.name)
  let events ← d.events.mapM (Event.piece? table d.name)
  return types ++ commands ++ events

/-- The code of a domain as it is put together from the code of its included declarations. -/
def assembled? (table : NameTable) (s : Selection) (d : Domain) : Except Error DomainUnit := do
  let chosen := d.included s
  let pieces ← chosen.pieces? table
  return {
    domain := d.name
    moduleName := Naming.moduleName d.name
    description := d.description
    experimental := d.experimental
    body := Layout.textAll 0 (pieces.flatMap (·.layout))
    capabilities := CapabilitySet.empty.require (pieces.flatMap (·.required))
    counts := {
      types := chosen.types.length
      commands := chosen.commands.length
      events := chosen.events.length
      skipped := d.declarationCount - chosen.declarationCount } }

/-- The domain without its experimental declarations. -/
def stable (d : Domain) : Domain :=
  { d with
    types := d.types.filter (!·.experimental)
    commands := d.commands.filter (!·.experimental)
    events := d.events.filter (!·.experimental) }

theorem declarations_included (s : Selection) (d : Domain) :
    (d.included s).declarations = d.declarations.filter (s.includes ·.experimental) := by
  simp only [declarations, included, List.filter_append, List.filter_map]
  rfl

theorem pieces?_eq_mapM (table : NameTable) (d : Domain) :
    d.pieces? table = d.declarations.mapM (Declaration.piece? table d.name) := by
  simp only [pieces?, declarations, List.mapM_append, List.mapM_map, bind_assoc, pure_bind]
  rfl

theorem declarationCount_eq (d : Domain) : d.declarationCount = d.declarations.length := by
  simp [declarationCount, declarations, Nat.add_assoc]

end Domain

/-! ## Counts -/

namespace DeclarationCounts

/-- The counts of all domains together. -/
def total (counts : List DeclarationCounts) : DeclarationCounts :=
  counts.foldr add ⟨0, 0, 0, 0⟩

theorem add_assoc (a b c : DeclarationCounts) : (a.add b).add c = a.add (b.add c) := by
  simp [add, Nat.add_assoc]

@[simp] theorem zero_add (c : DeclarationCounts) : add ⟨0, 0, 0, 0⟩ c = c := by
  simp [add]

@[simp] theorem total_cons (c : DeclarationCounts) (cs : List DeclarationCounts) :
    total (c :: cs) = c.add (total cs) := rfl

@[simp] theorem total_append (cs cs' : List DeclarationCounts) :
    total (cs ++ cs') = (total cs).add (total cs') := by
  induction cs with
  | nil => exact (zero_add _).symm
  | cons c cs ih => simp [ih, add_assoc]

/-- Of a kind, as many are counted as are included, and the others as left out. -/
theorem total_ite {α : Type} (p : α → Bool) (c : DeclarationCounts) (xs : List α) :
    total (xs.map fun x => if p x then c else ⟨0, 0, 0, 1⟩) =
      ⟨(xs.filter p).length * c.types, (xs.filter p).length * c.commands,
        (xs.filter p).length * c.events,
        (xs.filter p).length * c.skipped + (xs.length - (xs.filter p).length)⟩ := by
  induction xs with
  | nil => simp [total]
  | cons x xs ih =>
    have hle := List.length_filter_le p xs
    rw [List.map_cons, total_cons, ih]
    cases hp : p x with
    | true => simp [add, hp, Nat.add_mul, Nat.add_comm, Nat.add_assoc]
    | false =>
      simp only [add, hp, if_false, List.filter_cons, List.length_cons, Bool.false_eq_true,
        DeclarationCounts.mk.injEq]
      omega

end DeclarationCounts

/-! ## Writing in one go -/

@[simp] theorem CapabilitySet.require_append (caps : CapabilitySet) (cs cs' : List Capability) :
    caps.require (cs ++ cs') = (caps.require cs).require cs' := by
  simp [require, Bool.or_assoc]

/-- **Nothing is passed on.** What is written of declarations, one after the other, are the pieces
that each of them has by itself, behind what had been written before. -/
theorem Emission.foldlM_add (table : NameTable) (s : Selection) (domain : String) (e : Emission)
    (xs : List Declaration) :
    xs.foldlM (add table s domain) e = (do
      let pieces ← (xs.filter (s.includes ·.experimental)).mapM (Declaration.piece? table domain)
      return ⟨e.writer.writeAll (pieces.flatMap (·.layout)),
        e.capabilities.require (pieces.flatMap (·.required)),
        e.counts.add (DeclarationCounts.total (xs.map (Declaration.count s)))⟩) := by
  -- for any start, as what a declaration leaves is the start for those behind it
  induction xs generalizing e with
  | nil =>
    rw [List.foldlM_nil, List.filter_nil, List.mapM_nil, pure_bind]
    simp [Writer.writeAll, CapabilitySet.require, DeclarationCounts.total, DeclarationCounts.add]
  | cons x xs ih =>
    rw [List.foldlM_cons, add, List.map_cons, DeclarationCounts.total_cons]
    split
    · rename_i hincluded
      rw [List.filter_cons, if_pos hincluded, List.mapM_cons]
      simp [ih, DeclarationCounts.add_assoc]
    · rename_i hexcluded
      rw [List.filter_cons, if_neg hexcluded, ← DeclarationCounts.add_assoc]
      exact ih _

namespace Domain

/-- What the counts come to for a whole domain. -/
theorem total_count (s : Selection) (d : Domain) :
    DeclarationCounts.total (d.declarations.map (Declaration.count s)) =
      ⟨(d.included s).types.length, (d.included s).commands.length, (d.included s).events.length,
        d.declarationCount - (d.included s).declarationCount⟩ := by
  have htypes : DeclarationCounts.total (d.types.map fun t => Declaration.count s (.type t)) = _ :=
    DeclarationCounts.total_ite (fun t : TypeDecl => s.includes t.experimental) ⟨1, 0, 0, 0⟩ d.types
  have hcommands :
      DeclarationCounts.total (d.commands.map fun c => Declaration.count s (.command c)) = _ :=
    DeclarationCounts.total_ite (fun c : Command => s.includes c.experimental) ⟨0, 1, 0, 0⟩
      d.commands
  have hevents :
      DeclarationCounts.total (d.events.map fun e => Declaration.count s (.event e)) = _ :=
    DeclarationCounts.total_ite (fun e : Event => s.includes e.experimental) ⟨0, 0, 1, 0⟩ d.events
  have hle := List.length_filter_le (fun t : TypeDecl => s.includes t.experimental) d.types
  have hle' := List.length_filter_le (fun c : Command => s.includes c.experimental) d.commands
  have hle'' := List.length_filter_le (fun e : Event => s.includes e.experimental) d.events
  simp only [declarations, List.map_append, List.map_map, Function.comp_def,
    DeclarationCounts.total_append, htypes, hcommands, hevents, DeclarationCounts.add, included,
    declarationCount, DeclarationCounts.mk.injEq]
  omega

/-- **What is written in one go is put together.** -/
theorem unit?_eq_assembled? (table : NameTable) (s : Selection) (d : Domain) :
    d.unit? table s = d.assembled? table s := by
  have hname : (d.included s).name = d.name := rfl
  simp only [unit?, assembled?, Emission.foldlM_add, pieces?_eq_mapM, declarations_included,
    total_count, DeclarationCounts.zero_add, Writer.writeAll_eq, bind_assoc, pure_bind, hname]
  simp

/-! ## Declarations by themselves -/

theorem declarations_alone (d : Domain) (x : Declaration) : (x.alone d).declarations = [x] := by
  cases x <;> rfl

theorem name_alone (d : Domain) (x : Declaration) : (x.alone d).name = d.name := by
  cases x <;> rfl

/-- The code of a domain is made of the pieces of its declarations. -/
theorem unit?_eq_ok_iff {table : NameTable} {s : Selection} {d : Domain} {u : DomainUnit} :
    d.unit? table s = .ok u ↔
      ∃ pieces,
        List.Forall₂ (fun x piece => Declaration.piece? table d.name x = .ok piece)
          (d.declarations.filter (s.includes ·.experimental)) pieces ∧
        u = {
          domain := d.name
          moduleName := Naming.moduleName d.name
          description := d.description
          experimental := d.experimental
          body := Layout.textAll 0 (pieces.flatMap (·.layout))
          capabilities := CapabilitySet.empty.require (pieces.flatMap (·.required))
          counts := DeclarationCounts.total (d.declarations.map (Declaration.count s)) } := by
  have hname : (d.included s).name = d.name := rfl
  rw [unit?_eq_assembled?]
  simp only [assembled?, pieces?_eq_mapM, hname, declarations_included, Except.bind_eq_ok_iff,
    total_count]
  refine exists_congr fun pieces => and_congr Except.mapM_eq_ok_iff ?_
  constructor
  · intro h
    exact (Except.ok.inj h).symm
  · rintro rfl
    rfl

/-- By itself, a declaration is generated if it has a piece, which then is all there is. -/
theorem unit?_alone_eq_ok {table : NameTable} {s : Selection} {d : Domain} {x : Declaration}
    (hx : s.includes x.experimental = true) :
    (∀ v, (x.alone d).unit? table s = .ok v → ∃ piece, x.piece? table d.name = .ok piece ∧
      v.body = Layout.textAll 0 piece.layout ∧
      v.capabilities = CapabilitySet.empty.require piece.required) ∧
    ∀ piece, x.piece? table d.name = .ok piece → ∃ v, (x.alone d).unit? table s = .ok v := by
  constructor
  · intro v h
    obtain ⟨pieces, hpieces, rfl⟩ := unit?_eq_ok_iff.mp h
    rw [declarations_alone, List.filter_cons, if_pos hx, List.filter_nil, name_alone,
      List.forall₂_cons_left_iff] at hpieces
    obtain ⟨piece, rest, hpiece, hrest, rfl⟩ := hpieces
    obtain rfl := List.forall₂_nil_left_iff.mp hrest
    exact ⟨piece, hpiece, by simp, by simp⟩
  · intro piece hpiece
    refine ⟨_, unit?_eq_ok_iff.mpr ⟨[piece], ?_, rfl⟩⟩
    rw [declarations_alone, List.filter_cons, if_pos hx, List.filter_nil, name_alone]
    exact .cons hpiece .nil

/-- The units of declarations by themselves, put together. -/
theorem units_of_pieces {table : NameTable} {s : Selection} {d : Domain} {xs : List Declaration}
    {pieces : List Piece} (hxs : ∀ x ∈ xs, s.includes x.experimental = true)
    (h : List.Forall₂ (fun x piece => Declaration.piece? table d.name x = .ok piece) xs pieces) :
    ∃ us, List.Forall₂ (fun x v => (Declaration.alone d x).unit? table s = .ok v) xs us ∧
      Layout.textAll 0 (pieces.flatMap (·.layout)) = String.join (us.map (·.body)) ∧
      CapabilitySet.empty.require (pieces.flatMap (·.required)) =
        us.foldr (fun v caps => v.capabilities.union caps) .empty := by
  induction h with
  | nil => exact ⟨[], .nil, rfl, by simp [CapabilitySet.require, CapabilitySet.empty]⟩
  | @cons x piece xs pieces hpiece _ ih =>
    obtain ⟨us, hus, hbody, hcaps⟩ := ih fun x' hx' => hxs x' (List.mem_cons_of_mem _ hx')
    obtain ⟨hparts, halone⟩ := unit?_alone_eq_ok (hxs x List.mem_cons_self)
    obtain ⟨v, hv⟩ := halone piece hpiece
    obtain ⟨piece', hpiece', hvbody, hvcaps⟩ := hparts v hv
    obtain rfl := Except.ok.inj (hpiece.symm.trans hpiece')
    refine ⟨v :: us, .cons hv hus, ?_, ?_⟩
    · rw [List.flatMap_cons, Layout.textAll_append, hbody, List.map_cons, String.join_cons, hvbody]
    · rw [List.flatMap_cons, List.foldr_cons, ← hcaps, hvcaps]
      simp [CapabilitySet.require, CapabilitySet.union, CapabilitySet.empty]

/-! ## Leaving declarations out -/

theorem included_stable (d : Domain) : d.stable.included ⟨true⟩ = d.stable := by
  simp [included, Selection.includes]

theorem included_false (d : Domain) : d.included ⟨false⟩ = d.stable := by
  simp [stable, included, Selection.includes]

/-- The declarations that are left out are those that are missing. -/
theorem countP_experimental (d : Domain) :
    d.declarations.countP (·.experimental) = d.declarationCount - d.stable.declarationCount := by
  have hstable : d.stable.declarations = d.declarations.filter (!·.experimental) := by
    rw [← included_false, declarations_included]
    simp [Selection.includes]
  have hsplit := List.length_eq_countP_add_countP (fun x : Declaration => x.experimental)
    (l := d.declarations)
  simp only [Bool.not_eq_true, Bool.decide_eq_false] at hsplit
  rw [declarationCount_eq, declarationCount_eq, hstable, ← List.countP_eq_length_filter]
  omega

/-- What is left out of a domain could as well not be declared. -/
theorem unit?_stable (table : NameTable) (d : Domain) :
    d.unit? table ⟨false⟩ = (fun u => { u with counts := { u.counts with
      skipped := d.declarations.countP (·.experimental) } }) <$> d.stable.unit? table ⟨true⟩ := by
  have hname : d.stable.name = d.name := rfl
  simp only [unit?_eq_assembled?, assembled?, included_false, included_stable, hname,
    countP_experimental]
  cases d.stable.pieces? table <;> rfl

/-- **Declarations do not meet.** The code of a domain, written in one go, declaration after
declaration, those left out being passed over, is that of its included declarations put together. It
is generated if each included declaration is by itself, and then is what these give, one after the
other, and requires what any of them requires. Leaving experimental declarations out is the same as
not having them, but for the number of those that were left out. -/
theorem unit_of_declarations (table : NameTable) (s : Selection) (d : Domain) :
    d.unit? table s = d.assembled? table s ∧
    ((∃ u, d.unit? table s = .ok u) ↔
      ∀ x ∈ d.declarations.filter (s.includes ·.experimental),
        ∃ v, (x.alone d).unit? table s = .ok v) ∧
    (∀ u, d.unit? table s = .ok u → ∃ us,
      List.Forall₂ (fun x v => (Declaration.alone d x).unit? table s = .ok v)
        (d.declarations.filter (s.includes ·.experimental)) us ∧
      u.body = String.join (us.map (·.body)) ∧
      u.capabilities = us.foldr (fun v caps => v.capabilities.union caps) .empty) ∧
    d.unit? table ⟨false⟩ = (fun u => { u with counts := { u.counts with
      skipped := d.declarations.countP (·.experimental) } }) <$> d.stable.unit? table ⟨true⟩ := by
  have hincluded (x : Declaration) (hx : x ∈ d.declarations.filter (s.includes ·.experimental)) :
      s.includes x.experimental = true := (List.mem_filter.mp hx).2
  have together (u : DomainUnit) (h : d.unit? table s = .ok u) : ∃ us,
      List.Forall₂ (fun x v => (Declaration.alone d x).unit? table s = .ok v)
        (d.declarations.filter (s.includes ·.experimental)) us ∧
      u.body = String.join (us.map (·.body)) ∧
      u.capabilities = us.foldr (fun v caps => v.capabilities.union caps) .empty := by
    obtain ⟨pieces, hpieces, rfl⟩ := unit?_eq_ok_iff.mp h
    exact units_of_pieces hincluded hpieces
  refine ⟨d.unit?_eq_assembled? table s, ⟨?_, fun h => ?_⟩, together, d.unit?_stable table⟩
  · rintro ⟨u, h⟩ x hx
    obtain ⟨us, hus, -, -⟩ := together u h
    obtain ⟨v, -, hv⟩ := Except.mem_of_mapM_eq_ok (Except.mapM_eq_ok_iff.mpr hus) hx
    exact ⟨v, hv⟩
  · -- each unit by itself was made of a piece, and the pieces make the domain
    have hpieces : ∃ pieces, (d.declarations.filter (s.includes ·.experimental)).mapM
        (Declaration.piece? table d.name) = .ok pieces := by
      refine Except.exists_mapM_eq_ok fun x hx => ?_
      obtain ⟨v, hv⟩ := h x hx
      obtain ⟨piece, hpiece, -, -⟩ := (unit?_alone_eq_ok (hincluded x hx)).1 v hv
      exact ⟨piece, hpiece⟩
    obtain ⟨pieces, hpieces⟩ := hpieces
    exact ⟨_, unit?_eq_ok_iff.mpr ⟨pieces, Except.mapM_eq_ok_iff.mp hpieces, rfl⟩⟩

/-- A domain with a type, and with an event that is experimental. -/
def preview : Domain where
  name := "Page"
  description := none
  experimental := false
  types := [⟨"Mode", none, false, .enumeration ["on", "off"]⟩]
  commands := []
  events := [⟨"ready", none, true, []⟩]

theorem unit_of_declarations_preview :
    (∃ u, preview.unit? (NameTable.build [preview]) ⟨true⟩ = .ok u ∧ ∃ v v',
      (Declaration.alone preview (.type ⟨"Mode", none, false, .enumeration ["on", "off"]⟩)).unit?
        (NameTable.build [preview]) ⟨true⟩ = .ok v ∧
      (Declaration.alone preview (.event ⟨"ready", none, true, []⟩)).unit?
        (NameTable.build [preview]) ⟨true⟩ = .ok v' ∧
      u.body = String.join [v.body, v'.body]) ∧
    ∃ u, preview.unit? (NameTable.build [preview]) ⟨false⟩ = .ok u ∧ u.counts = ⟨1, 0, 0, 1⟩ := by
  constructor
  · have hunit : ∃ u, preview.unit? (NameTable.build [preview]) ⟨true⟩ = .ok u := ⟨_, rfl⟩
    obtain ⟨u, hu⟩ := hunit
    obtain ⟨us, hus, hbody, -⟩ := (unit_of_declarations _ _ preview).2.2.1 u hu
    obtain ⟨v, later, hv, hlater, rfl⟩ := List.forall₂_cons_left_iff.mp hus
    obtain ⟨v', rest, hv', hrest, rfl⟩ := List.forall₂_cons_left_iff.mp hlater
    obtain rfl := List.forall₂_nil_left_iff.mp hrest
    exact ⟨u, hu, v, v', hv, hv', hbody⟩
  · rw [(unit_of_declarations _ ⟨false⟩ preview).2.2.2]
    exact ⟨_, rfl, rfl⟩

end Domain

end Bindery
