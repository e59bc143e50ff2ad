import Bindery.Proofs.CamelCase
import Bindery.Proofs.ItemNames
import Mathlib.Data.List.Nodup
import Mathlib.Data.List.Pairwise

/-!
# When two items of a domain have one name

The names of items are put together from the identifiers of declarations, with prefixes and
suffixes, and spelled in snake case for functions. Unlike for fields and constants, nothing looks
whether a name has been taken, so different spellings do not keep all names apart
(`not_forall_item_names_nodup`). What does is an exact condition on the identifiers of a domain,
`TypesApart` for its types and `FunctionsApart` for its functions (`item_names_nodup_iff`).

No two suffixes end alike (`eq_of_append_suffix`), so that of the names that are made for commands
and events only those of handles can meet, by way of `Async`. In camel case, functions are told
apart by the identifiers themselves (`Domain.functionsApart_iff_of_camel`). Identifiers of one
domain that are spelled differently are equal only where the domain in front of one of them makes it
the other (`Domain.identifiers_nodup_iff`).
-/

namespace Bindery

open Text

/-! ## Suffixes -/

/-- What names of types are put together with. -/
def typeSuffixes : List String := ["Params", "Result", "Command", "Callback", "Event"]

/-- No two of the suffixes end alike, so a name shows which one it has. -/
theorem eq_of_append_suffix {a b s t : String} (hs : s ∈ typeSuffixes) (ht : t ∈ typeSuffixes)
    (h : a ++ s = b ++ t) : a = b ∧ s = t := by
  have hlength : ∀ r ∈ typeSuffixes, 2 ≤ r.toList.reverse.length := by decide
  -- their last two characters tell them apart
  have hends : ∀ r ∈ typeSuffixes, ∀ r' ∈ typeSuffixes,
      r.toList.reverse.take 2 = r'.toList.reverse.take 2 → r = r' := by decide
  have htake (x : String) {r : String} (hr : r ∈ typeSuffixes) :
      (x ++ r).toList.reverse.take 2 = r.toList.reverse.take 2 := by
    rw [String.toList_append, List.reverse_append, List.take_append_of_le_length (hlength r hr)]
  have hsame : s = t := hends s hs t ht (by rw [← htake a hs, ← htake b ht, h])
  subst hsame
  exact ⟨(String.append_left_inj s).mp h, rfl⟩

theorem ne_async_append (s : String) : s ≠ "Async" ++ s := by
  intro h
  have hlength := congrArg String.length h
  rw [String.length_append] at hlength
  have hasync : "Async".length = 5 := rfl
  omega

/-! ## Names of types -/

/-- What stands behind the identifier of a command in the names of its types. -/
def Command.suffixes (c : Command) : List String :=
  (if c.parameters.isEmpty then [] else ["Params"]) ++
    (if c.returns.isEmpty then [] else ["Result"]) ++ ["Command", "Callback"]

/-- The names of the types of a command, given its identifier. -/
def Command.typeNames (ident : String) (c : Command) : List String :=
  c.suffixes.map (ident ++ ·) ++ ["Async" ++ ident ++ "Command"]

namespace Command

theorem suffixes_nodup (c : Command) : c.suffixes.Nodup := by
  unfold suffixes
  cases c.parameters.isEmpty <;> cases c.returns.isEmpty <;> decide

theorem suffixes_subset (c : Command) :
    c.suffixes ⊆ ["Params", "Result", "Command", "Callback"] := by
  unfold suffixes
  cases c.parameters.isEmpty <;> cases c.returns.isEmpty <;> decide

theorem mem_suffixes_command (c : Command) : "Command" ∈ c.suffixes := by
  unfold suffixes
  exact List.mem_append_right _ List.mem_cons_self

/-- The names of the types of a command end in one of its suffixes, and what stands in front of that
is the identifier, or for one of the handles the identifier behind `Async`. -/
theorem mem_typeNames_iff {ident name : String} {c : Command} :
    name ∈ c.typeNames ident ↔
      (∃ s ∈ c.suffixes, name = ident ++ s) ∨ name = "Async" ++ ident ++ "Command" := by
  rw [typeNames, List.mem_append, List.mem_map, List.mem_singleton]
  simp only [eq_comm]

theorem mem_typeSuffixes {c : Command} {s : String} (hs : s ∈ c.suffixes) : s ∈ typeSuffixes :=
  (List.sublist_append_left _ ["Event"]).mem (c.suffixes_subset hs)

theorem typeNames_nodup (ident : String) (c : Command) : (c.typeNames ident).Nodup := by
  refine List.nodup_append'.mpr ⟨?_, List.nodup_singleton _, ?_⟩
  · refine (List.nodup_map_iff fun s t h => ?_).mpr c.suffixes_nodup
    exact (String.append_right_inj ident).mp h
  · rintro name hname hlast
    obtain ⟨s, hs, rfl⟩ := List.mem_map.mp hname
    have h := eq_of_append_suffix (mem_typeSuffixes hs) (by decide) (List.mem_singleton.mp hlast)
    exact ne_async_append ident h.1

/-- Two commands have a name in common if their identifiers are equal, or one is the other behind
`Async`. -/
theorem disjoint_typeNames_iff {x y : String} {c e : Command} :
    (c.typeNames x).Disjoint (e.typeNames y) ↔ x ≠ y ∧ x ≠ "Async" ++ y ∧ y ≠ "Async" ++ x := by
  have hcommand (z : String) (f : Command) : z ++ "Command" ∈ f.typeNames z :=
    mem_typeNames_iff.mpr (.inl ⟨_, f.mem_suffixes_command, rfl⟩)
  have hasync (z : String) (f : Command) : "Async" ++ z ++ "Command" ∈ f.typeNames z :=
    mem_typeNames_iff.mpr (.inr rfl)
  have hsuffix : "Command" ∈ typeSuffixes := by decide
  constructor
  · intro h
    refine ⟨?_, ?_, ?_⟩
    · rintro rfl
      exact h (hcommand x c) (hcommand x e)
    · rintro rfl
      exact h (hcommand _ c) (hasync y e)
    · rintro rfl
      exact h (hasync x c) (hcommand _ e)
  · rintro ⟨hne, hleft, hright⟩ name hname hname'
    rcases mem_typeNames_iff.mp hname with ⟨s, hs, rfl⟩ | rfl
    · rcases mem_typeNames_iff.mp hname' with ⟨t, ht, heq⟩ | heq
      · exact hne (eq_of_append_suffix (mem_typeSuffixes hs) (mem_typeSuffixes ht) heq).1
      · exact hleft (eq_of_append_suffix (mem_typeSuffixes hs) hsuffix heq).1
    · rcases mem_typeNames_iff.mp hname' with ⟨t, ht, heq⟩ | heq
      · exact hright (eq_of_append_suffix hsuffix (mem_typeSuffixes ht) heq).1.symm
      · have hstem := (eq_of_append_suffix hsuffix hsuffix heq).1
        exact hne ((String.append_right_inj "Async").mp hstem)

end Command

/-- The names of the items of a kind. -/
def PublicItem.names (kind : ItemKind) (items : List PublicItem) : List String :=
  (items.filter (·.kind = kind)).map (·.name)

theorem Domain.names_items (table : NameTable) (kind : ItemKind) (d : Domain) :
    PublicItem.names kind (d.items table) =
      d.types.flatMap (fun t => PublicItem.names kind ((Declaration.type t).items table d.name)) ++
        d.commands.flatMap
          (fun c => PublicItem.names kind ((Declaration.command c).items table d.name)) ++
        d.events.flatMap
          (fun e => PublicItem.names kind ((Declaration.event e).items table d.name)) := by
  simp only [items, declarations, PublicItem.names, List.flatMap_append, List.flatMap_map,
    List.filter_append, List.filter_flatMap, List.map_append, List.map_flatMap]

namespace Declaration

variable (table : NameTable) (domain : String)

theorem typeNames_command (c : Command) :
    PublicItem.names .type ((command c).items table domain) =
      c.typeNames (table.ident domain c.name) := by
  obtain ⟨name, description, experimental, parameters, returns⟩ := c
  cases parameters <;> cases returns <;> rfl

theorem functionNames_command (c : Command) :
    PublicItem.names .function ((command c).items table domain) =
      [Naming.fnIdent (table.ident domain c.name)] := by
  obtain ⟨name, description, experimental, parameters, returns⟩ := c
  cases parameters <;> cases returns <;> rfl

end Declaration

namespace Domain

variable (table : NameTable) (d : Domain)

/-- The names of the structures and aliases of a domain. -/
def typeNames : List String := PublicItem.names .type (d.items table)

/-- The names of the functions of a domain. -/
def functionNames : List String := PublicItem.names .function (d.items table)

theorem typeNames_eq :
    d.typeNames table = d.types.map (fun t => table.ident d.name t.name) ++
      d.commands.flatMap (fun c => c.typeNames (table.ident d.name c.name)) ++
      d.events.map (fun e => table.ident d.name e.name ++ "Event") := by
  simp only [typeNames, names_items, Declaration.typeNames_command, List.map_eq_flatMap]
  rfl

theorem functionNames_eq :
    d.functionNames table =
      d.commands.map (fun c => Naming.fnIdent (table.ident d.name c.name)) ++
        d.events.map (fun e => "on_" ++ Naming.snakeCase (table.ident d.name e.name)) := by
  have htypes : d.types.flatMap
      (fun t => PublicItem.names .function ((Declaration.type t).items table d.name)) = [] :=
    List.flatMap_eq_nil_iff.mpr fun _ _ => rfl
  rw [functionNames, names_items, htypes, List.nil_append]
  simp only [Declaration.functionNames_command, List.map_eq_flatMap]
  rfl

end Domain

/-! ## Names that are different -/

/-- What the identifiers of a domain have to keep apart, so that no two of its types have one
name. -/
structure TypesApart (ident : String → String) (d : Domain) : Prop where
  types : (d.types.map fun t => ident t.name).Nodup
  commands : (d.commands.map fun c => ident c.name).Nodup
  events : (d.events.map fun e => ident e.name).Nodup
  /-- No type is called like one that is made for a command. -/
  type_command : ∀ t ∈ d.types, ∀ c ∈ d.commands, ident t.name ∉ c.typeNames (ident c.name)
  /-- No type is called like the record of an event. -/
  type_event : ∀ t ∈ d.types, ∀ e ∈ d.events, ident t.name ≠ ident e.name ++ "Event"
  /-- The handle of one command is not called like the handle of another that takes a callback. -/
  handles : ∀ c ∈ d.commands, ∀ c' ∈ d.commands, ident c.name ≠ "Async" ++ ident c'.name

/-- What the identifiers of a domain have to keep apart, so that no two of its functions have one
name. -/
structure FunctionsApart (ident : String → String) (d : Domain) : Prop where
  commands : (d.commands.map fun c => Naming.fnIdent (ident c.name)).Nodup
  events : (d.events.map fun e => Naming.snakeCase (ident e.name)).Nodup
  /-- No command is called like the registration of an event. -/
  command_event : ∀ c ∈ d.commands, ∀ e ∈ d.events,
    Naming.snakeCase (ident c.name) ≠ "on_" ++ Naming.snakeCase (ident e.name)

theorem pairwise_disjoint_typeNames_iff {ident : String → String} {cs : List Command} :
    cs.Pairwise (fun c e => (c.typeNames (ident c.name)).Disjoint (e.typeNames (ident e.name))) ↔
      (cs.map fun c => ident c.name).Nodup ∧
        ∀ c ∈ cs, ∀ e ∈ cs, ident c.name ≠ "Async" ++ ident e.name := by
  simp only [Command.disjoint_typeNames_iff]
  rw [List.pairwise_and_iff, List.Nodup, List.pairwise_map]
  refine and_congr_right fun _ => ⟨fun h => ?_, fun h => ?_⟩
  · -- a command is never called like itself behind `Async`, so pairs of one are no exception
    have hsymm : Std.Symm fun c e : Command =>
        ident c.name ≠ "Async" ++ ident e.name ∧ ident e.name ≠ "Async" ++ ident c.name :=
      ⟨fun _ _ hce => ⟨hce.2, hce.1⟩⟩
    have hself (c : Command) := ne_async_append (ident c.name)
    intro c hc e he
    exact (h.forall_of_forall (fun c _ => ⟨hself c, hself c⟩) hc he).1
  · exact List.pairwise_of_forall_mem_list fun c hc e he => ⟨h c hc e he, h e he c hc⟩

namespace Domain

variable (table : NameTable) (d : Domain)

/-- Two spellings make one identifier if one is qualified, the other is not, and spells out what the
qualified one is. -/
theorem ident_eq_iff_of_spelling_ne {domain m n : String}
    (hne : Naming.typeIdent m ≠ Naming.typeIdent n) :
    table.ident domain m = table.ident domain n ↔
      (table.needsQualification m = true ∧ table.needsQualification n = false ∧
          Naming.typeIdent n = domain ++ Naming.typeIdent m) ∨
        (table.needsQualification n = true ∧ table.needsQualification m = false ∧
          Naming.typeIdent m = domain ++ Naming.typeIdent n) := by
  unfold NameTable.ident
  cases table.needsQualification m <;> cases table.needsQualification n
  · simpa using hne
  · simp
  · simp [eq_comm]
  · simpa using hne

/-- Where spellings are different, so are identifiers, unless the domain in front of a shared
spelling makes it another spelling of the domain. -/
theorem identifiers_nodup_iff (hspelled : (d.declaredNames.map Naming.typeIdent).Nodup) :
    (d.declaredNames.map (table.ident d.name)).Nodup ↔
      ∀ m ∈ d.declaredNames, ∀ n ∈ d.declaredNames, table.needsQualification m = true →
        table.needsQualification n = false →
          Naming.typeIdent n ≠ d.name ++ Naming.typeIdent m := by
  constructor
  · intro hnodup m hm n hn hqualified hbare heq
    have hident : table.ident d.name m = table.ident d.name n := by
      rw [NameTable.ident, NameTable.ident, hqualified, hbare, heq]
      rfl
    rw [List.inj_on_of_nodup_map hnodup hm hn hident, hbare] at hqualified
    cases hqualified
  · intro h
    rw [List.Nodup, List.pairwise_map] at hspelled ⊢
    refine hspelled.imp_of_mem fun {m n} hm hn hne heq => ?_
    rcases (ident_eq_iff_of_spelling_ne table hne).mp heq with hshift | hshift
    · exact h m hm n hn hshift.1 hshift.2.1 hshift.2.2
    · exact h n hn m hm hshift.1 hshift.2.1 hshift.2.2

/-- **The names of types are different** exactly if the identifiers keep apart what they have to. -/
theorem typeNames_nodup_iff : (d.typeNames table).Nodup ↔ TypesApart (table.ident d.name) d := by
  have hevents : (d.events.map fun e => table.ident d.name e.name ++ "Event").Nodup ↔
      (d.events.map fun e => table.ident d.name e.name).Nodup := by
    have h := List.nodup_map_iff (l := d.events.map fun e => table.ident d.name e.name)
      fun a b : String => (String.append_left_inj "Event").mp
    rwa [List.map_map] at h
  -- records of events have a suffix that nothing made for commands has
  have hcommand_event : ∀ c ∈ d.commands, ∀ e ∈ d.events,
      table.ident d.name e.name ++ "Event" ∉ c.typeNames (table.ident d.name c.name) := by
    intro c _ e _ hmem
    have hevent : "Event" ∉ c.suffixes := fun h => absurd (c.suffixes_subset h) (by decide)
    rcases Command.mem_typeNames_iff.mp hmem with ⟨s, hs, heq⟩ | heq
    · rw [(eq_of_append_suffix (by decide) (Command.mem_typeSuffixes hs) heq).2] at hevent
      exact hevent hs
    · exact absurd (eq_of_append_suffix (by decide) (by decide) heq).2 (by decide)
  rw [typeNames_eq, List.nodup_append', List.nodup_append', List.nodup_flatMap, hevents]
  constructor
  · rintro ⟨⟨htypes, ⟨-, hcommands⟩, htype_command⟩, hevents, hrest⟩
    obtain ⟨hcommands, hhandles⟩ := pairwise_disjoint_typeNames_iff.mp hcommands
    refine ⟨htypes, hcommands, hevents, fun t ht c hc hmem => ?_, fun t ht e he heq => ?_, hhandles⟩
    · exact htype_command (List.mem_map.mpr ⟨t, ht, rfl⟩) (List.mem_flatMap.mpr ⟨c, hc, hmem⟩)
    · exact hrest (List.mem_append_left _ (List.mem_map.mpr ⟨t, ht, heq⟩))
        (List.mem_map.mpr ⟨e, he, rfl⟩)
  · intro h
    refine ⟨⟨h.types, ⟨fun c _ => c.typeNames_nodup _, ?_⟩, ?_⟩, h.events, ?_⟩
    · exact pairwise_disjoint_typeNames_iff.mpr ⟨h.commands, h.handles⟩
    · rintro name htype hcommand
      obtain ⟨t, ht, rfl⟩ := List.mem_map.mp htype
      obtain ⟨c, hc, hname⟩ := List.mem_flatMap.mp hcommand
      exact h.type_command t ht c hc hname
    · rintro name hbefore hevent
      obtain ⟨e, he, rfl⟩ := List.mem_map.mp hevent
      rcases List.mem_append.mp hbefore with htype | hcommand
      · obtain ⟨t, ht, heq⟩ := List.mem_map.mp htype
        exact h.type_event t ht e he heq
      · obtain ⟨c, hc, hname⟩ := List.mem_flatMap.mp hcommand
        exact hcommand_event c hc e he hname

/-- **The names of functions are different** exactly if the identifiers keep apart what they have
to. -/
theorem functionNames_nodup_iff :
    (d.functionNames table).Nodup ↔ FunctionsApart (table.ident d.name) d := by
  have hevents : (d.events.map fun e =>
        "on_" ++ Naming.snakeCase (table.ident d.name e.name)).Nodup ↔
      (d.events.map fun e => Naming.snakeCase (table.ident d.name e.name)).Nodup := by
    have h := List.nodup_map_iff
      (l := d.events.map fun e => Naming.snakeCase (table.ident d.name e.name))
      fun a b : String => (String.append_right_inj "on_").mp
    rwa [List.map_map] at h
  rw [functionNames_eq, List.nodup_append', hevents]
  constructor
  · rintro ⟨hcommands, hevents, hapart⟩
    refine ⟨hcommands, hevents, fun c hc e he heq => ?_⟩
    exact hapart (List.mem_map.mpr ⟨c, hc, Naming.escapeKeyword_eq_on_iff.mpr heq⟩)
      (List.mem_map.mpr ⟨e, he, rfl⟩)
  · intro h
    refine ⟨h.commands, h.events, ?_⟩
    rintro name hcommand hevent
    obtain ⟨c, hc, rfl⟩ := List.mem_map.mp hcommand
    obtain ⟨e, he, heq⟩ := List.mem_map.mp hevent
    exact h.command_event c hc e he (Naming.escapeKeyword_eq_on_iff.mp heq.symm)

/-- In camel case, the functions are told apart by the identifiers themselves. -/
theorem functionsApart_iff_of_camel {ident : String → String} {d : Domain}
    (hcommands : ∀ c ∈ d.commands, Naming.IsCamel (ident c.name))
    (hevents : ∀ e ∈ d.events, Naming.IsCamel (ident e.name)) :
    FunctionsApart ident d ↔
      (d.commands.map fun c => ident c.name).Nodup ∧ (d.events.map fun e => ident e.name).Nodup ∧
        ∀ c ∈ d.commands, ∀ e ∈ d.events, ident c.name ≠ "On" ++ ident e.name := by
  have hcommand : (d.commands.map fun c => Naming.fnIdent (ident c.name)).Nodup ↔
      (d.commands.map fun c => ident c.name).Nodup := by
    simp only [List.Nodup, List.pairwise_map]
    refine List.Pairwise.iff_of_mem fun hc hc' => not_congr ?_
    exact Naming.fnIdent_inj (hcommands _ hc) (hcommands _ hc')
  have hevent : (d.events.map fun e => Naming.snakeCase (ident e.name)).Nodup ↔
      (d.events.map fun e => ident e.name).Nodup := by
    simp only [List.Nodup, List.pairwise_map]
    refine List.Pairwise.iff_of_mem fun he he' => not_congr ?_
    exact Naming.snakeCase_inj (hevents _ he) (hevents _ he')
  have hon {c : Command} {e : Event} (hc : c ∈ d.commands) (he : e ∈ d.events) :=
    Naming.snakeCase_eq_on_iff (hcommands c hc) (hevents e he)
  constructor
  · intro h
    refine ⟨hcommand.mp h.commands, hevent.mp h.events, fun c hc e he heq => ?_⟩
    exact h.command_event c hc e he ((hon hc he).mpr heq)
  · rintro ⟨hcs, hes, hapart⟩
    refine ⟨hcommand.mpr hcs, hevent.mpr hes, fun c hc e he heq => ?_⟩
    exact hapart c hc e he ((hon hc he).mp heq)

end Domain

/-- **When the items of a domain have different names.** The unindented lines of its code that
define something open its items, one after the other. The names of its structures and aliases are
different exactly if no two declarations of a kind share their identifier, no type is called like
what is made for a command or an event, and no command is called like another behind `Async`; those
of its functions exactly if the functions of its commands are, those of its events are, and no
command is spelled like an event behind `on_`. In camel case, that is to say that no two commands
and no two events share their identifier, and no command is called like an event behind `On`. -/
theorem item_names_nodup_iff {table : NameTable} {s : Selection} {d : Domain} {u : DomainUnit}
    (h : d.unit? table s = .ok u) :
    let chosen := d.included s
    let ident := table.ident d.name
    (∃ pieces, chosen.pieces? table = .ok pieces ∧
      u.body = joinLines (pieces.flatMap (·.lines)) ∧
      List.Forall₂ PublicItem.OpenedBy (chosen.items table)
        ((pieces.flatMap (·.lines)).filter isPublic)) ∧
    ((chosen.typeNames table).Nodup ↔ TypesApart ident chosen) ∧
    ((chosen.functionNames table).Nodup ↔ FunctionsApart ident chosen) ∧
    ((∀ c ∈ chosen.commands, Naming.IsCamel (ident c.name)) →
      (∀ e ∈ chosen.events, Naming.IsCamel (ident e.name)) →
        ((chosen.functionNames table).Nodup ↔
          (chosen.commands.map fun c => ident c.name).Nodup ∧
          (chosen.events.map fun e => ident e.name).Nodup ∧
          ∀ c ∈ chosen.commands, ∀ e ∈ chosen.events, ident c.name ≠ "On" ++ ident e.name)) := by
  intro chosen ident
  have htypes : (chosen.typeNames table).Nodup ↔ TypesApart ident chosen :=
    chosen.typeNames_nodup_iff table
  have hfunctions : (chosen.functionNames table).Nodup ↔ FunctionsApart ident chosen :=
    chosen.functionNames_nodup_iff table
  refine ⟨Domain.definesItems h, htypes, hfunctions, fun hcommands hevents => ?_⟩
  exact hfunctions.trans (Domain.functionsApart_iff_of_camel hcommands hevents)

/-- A domain of commands without parameters and returns. -/
def Domain.ofCommandNames (name : String) (commands : List String) : Domain where
  name
  description := none
  experimental := false
  types := []
  commands := commands.map fun c => ⟨c, none, false, [], []⟩
  events := []

/-- A domain whose items all have different names, one of them with the domain in front. -/
def loading : Domain where
  name := "Page"
  description := none
  experimental := false
  types := [⟨"FrameId", none, false, .primitive .string⟩, ⟨"Frame", none, false, .composite []⟩]
  commands :=
    [⟨"enable", none, false, [], []⟩,
      ⟨"getFrame", none, false, [⟨"id", none, false, false, .reference "FrameId"⟩],
        [⟨"frame", none, true, false, .reference "Frame"⟩]⟩]
  events := [⟨"loaded", none, false, []⟩, ⟨"frameAdded", none, true, []⟩]

/-- The schema of two domains that both declare `enable`. -/
def loadingDomains : List Domain := [loading, .ofCommandNames "Network" ["enable"]]

theorem item_names_nodup_of_loading :
    ∃ u, loading.unit? (NameTable.build loadingDomains) ⟨true⟩ = .ok u ∧
      (∃ pieces, loading.pieces? (NameTable.build loadingDomains) = .ok pieces ∧
        u.body = joinLines (pieces.flatMap (·.lines)) ∧
        List.Forall₂ PublicItem.OpenedBy (loading.items (NameTable.build loadingDomains))
          ((pieces.flatMap (·.lines)).filter isPublic)) ∧
      (loading.typeNames (NameTable.build loadingDomains)).Nodup ∧
      (loading.functionNames (NameTable.build loadingDomains)).Nodup := by
  have hunit : ∃ u, loading.unit? (NameTable.build loadingDomains) ⟨true⟩ = .ok u := ⟨_, rfl⟩
  obtain ⟨u, hu⟩ := hunit
  obtain ⟨hlines, htypes, -, hcamel⟩ := item_names_nodup_iff hu
  have hincluded : loading.included ⟨true⟩ = loading := rfl
  rw [hincluded] at hlines htypes hcamel
  refine ⟨u, hu, hlines, htypes.mpr ?_, (hcamel ?_ ?_).mpr ⟨?_, ?_, ?_⟩⟩
  · constructor <;> decide
  all_goals decide

/-- A domain whose commands are spelled differently: the second is the first behind `async`, and
the last two differ in how they write capitals. -/
def crossing : Domain := .ofCommandNames "Page" ["enable", "asyncEnable", "getURL", "getUrl"]

/-- Different spellings do not keep the names of items apart, neither those of types nor those of
functions. -/
theorem not_forall_item_names_nodup :
    (¬ ∀ (domains : List Domain) (s : Selection) (u : DomainUnit), ∀ d ∈ domains,
      (d.declaredNames.map Naming.typeIdent).Nodup →
        d.unit? (NameTable.build domains) s = .ok u →
          ((d.included s).typeNames (NameTable.build domains)).Nodup) ∧
    ¬ ∀ (domains : List Domain) (s : Selection) (u : DomainUnit), ∀ d ∈ domains,
      (d.declaredNames.map Naming.typeIdent).Nodup →
        d.unit? (NameTable.build domains) s = .ok u →
          ((d.included s).functionNames (NameTable.build domains)).Nodup := by
  have hspelled : (crossing.declaredNames.map Naming.typeIdent).Nodup := by decide
  have hunit : ∃ u, crossing.unit? (NameTable.build [crossing]) ⟨false⟩ = .ok u := ⟨_, rfl⟩
  obtain ⟨u, hu⟩ := hunit
  constructor
  · intro h
    have hnodup := h [crossing] ⟨false⟩ u crossing List.mem_cons_self hspelled hu
    exact absurd hnodup (by decide)
  · intro h
    have hnodup := h [crossing] ⟨false⟩ u crossing List.mem_cons_self hspelled hu
    exact absurd hnodup (by decide)

end Bindery
