import Bindery.Proofs.ModuleIndex

/-!
# The order of domains

The code of a domain depends on the rest of its schema through the name table only, and on that only
through what it answers: how often a spelling occurs, what is held by value, and what is declared.
Tables that answer alike are `NameTable.Alike`, and every function of the generator does the same on
them (`Domain.unit?_congr`). The answers do not depend on the order of the domains nor on what is
experimental in them (`NameTable.alike_build`), so neither does the code of a domain, and the index
lists the domains in whatever order they come: `Compiler.domain_order_irrelevant`.
-/

namespace Bindery

/-! ## Tables that answer alike -/

/-- Two tables give the same answers. -/
structure NameTable.Alike (t t' : NameTable) : Prop where
  occurrences : ∀ name, t.occurrences name = t'.occurrences name
  isValue : ∀ name, t.isValue name = t'.isValue name
  isDeclared : ∀ domain name, t.isDeclared domain name = t'.isDeclared domain name

namespace NameTable.Alike

variable {t t' : NameTable}

theorem ident (h : t.Alike t') (domain name : String) :
    t.ident domain name = t'.ident domain name := by
  unfold NameTable.ident needsQualification
  rw [h.occurrences]

theorem resolve? (h : t.Alike t') (domain reference : String) :
    t.resolve? domain reference = t'.resolve? domain reference := by
  simp only [NameTable.resolve?, h.isDeclared]

end NameTable.Alike

section

variable {t t' : NameTable} (h : t.Alike t') (domain : String)

include h

theorem CodeType.ofShape?_congr (declaration : String) : ∀ shape : Shape,
    ofShape? t domain declaration shape = ofShape? t' domain declaration shape
  | .primitive _ | .enumeration _ | .composite _ => rfl
  | .array items => congrArg (CodeType.vector <$> ·) (ofShape?_congr declaration items)
  | .reference target => by
    simp only [ofShape?, h.resolve?, h.isValue, h.ident]

theorem Record.fieldsFrom?_congr (declaration : String) (taken : List String)
    (properties : List Property) :
    fieldsFrom? t domain declaration taken properties =
      fieldsFrom? t' domain declaration taken properties := by
  induction properties generalizing taken with
  | nil => rfl
  | cons p rest ih =>
    simp only [fieldsFrom?, fieldType?, CodeType.ofShape?_congr h domain declaration, ih]

theorem Record.ofProperties?_congr (ident declaration : String) (properties : List Property) :
    ofProperties? t domain ident declaration properties =
      ofProperties? t' domain ident declaration properties := by
  simp only [ofProperties?, fieldsFrom?_congr h domain declaration]

theorem Record.required_congr (declaration : String) (properties : List Property) :
    required t domain declaration properties = required t' domain declaration properties := by
  induction properties with
  | nil => rfl
  | cons p rest ih =>
    simp only [required, CodeType.ofShape?_congr h domain declaration, ih]

theorem TypeDecl.piece?_congr (decl : TypeDecl) : decl.piece? t domain = decl.piece? t' domain := by
  simp only [piece?, h.ident, CodeType.ofShape?_congr h domain, Record.ofProperties?_congr h domain,
    Record.required_congr h domain]

theorem Command.piece?_congr (command : Command) :
    command.piece? t domain = command.piece? t' domain := by
  simp only [piece?, shape?, record?, recordsRequired, h.ident, Record.ofProperties?_congr h domain,
    Record.required_congr h domain]

theorem Event.piece?_congr (event : Event) : event.piece? t domain = event.piece? t' domain := by
  simp only [piece?, h.ident, Record.ofProperties?_congr h domain, Record.required_congr h domain]

/-- **A domain has the same code against tables that answer alike.** -/
theorem Domain.unit?_congr (s : Selection) (d : Domain) : d.unit? t s = d.unit? t' s := by
  have hpieces (chosen : Domain) : chosen.pieces? t = chosen.pieces? t' := by
    have htypes : TypeDecl.piece? t chosen.name = TypeDecl.piece? t' chosen.name :=
      funext (TypeDecl.piece?_congr h chosen.name)
    have hcommands : Command.piece? t chosen.name = Command.piece? t' chosen.name :=
      funext (Command.piece?_congr h chosen.name)
    have hevents : Event.piece? t chosen.name = Event.piece? t' chosen.name :=
      funext (Event.piece?_congr h chosen.name)
    rw [pieces?, htypes, hcommands, hevents]
    rfl
  rw [unit?_eq_assembled?, unit?_eq_assembled?, assembled?, hpieces]
  rfl

end

/-! ## What answers depend on -/

namespace Domain

/-- The domain with nothing in it marked as experimental. -/
def unflagged (d : Domain) : Domain :=
  { d with
    experimental := false
    types := d.types.map ({ · with experimental := false })
    commands := d.commands.map ({ · with experimental := false })
    events := d.events.map ({ · with experimental := false }) }

end Domain

namespace NameTable

/-- What is experimental has no part in the table. -/
theorem build_unflagged (domains : List Domain) :
    build (domains.map Domain.unflagged) = build domains := by
  refine build_map (fun table d => ?_) domains
  simp only [addDomain, Domain.declarations, Domain.unflagged, List.foldl_append, List.foldl_map]
  rfl

/-- Domains in another order make a table that answers alike. -/
theorem alike_of_perm {domains domains' : List Domain} (h : domains.Perm domains') :
    (build domains).Alike (build domains') where
  -- counting and looking for a member give the same in any order
  occurrences name := by
    rw [occurrences_build, occurrences_build]
    exact (h.flatMap_right _).countP_eq _
  isValue name := by
    unfold isValue
    rw [Bool.eq_iff_iff, List.contains_iff_mem, List.contains_iff_mem]
    simp only [mem_valueNames_build, h.mem_iff]
  isDeclared domain name := by
    rw [Bool.eq_iff_iff, isDeclared_iff, isDeclared_iff]
    simp only [mem_declared_build, h.mem_iff]

/-- **Neither the order of the domains nor what is experimental in them changes an answer.** -/
theorem alike_build {domains domains' : List Domain}
    (h : (domains.map Domain.unflagged).Perm (domains'.map Domain.unflagged)) :
    (build domains).Alike (build domains') := by
  -- the flags are taken away first, so that only the order is left
  rw [← build_unflagged domains, ← build_unflagged domains']
  exact alike_of_perm h

end NameTable

/-! ## The index -/

/-- What the index has of a domain: its entry, if it is generated. -/
def Selection.indexed (s : Selection) (d : Domain) : List IndexEntry :=
  if s.includes d.experimental then [d.entry] else []

namespace Compiler

variable {compiler : Compiler} {schema : Schema} {tree tree' : FileTree} {report : VersionReport}

theorem entries_eq_indexed (compiler : Compiler) (schema : Schema) :
    (compiler.includedDomains schema).map (·.entry) =
      schema.domains.flatMap compiler.selection.indexed := by
  unfold includedDomains Selection.indexed
  induction schema.domains with
  | nil => rfl
  | cons d rest ih =>
    rw [List.filter_cons, List.flatMap_cons, ← ih]
    split <;> rfl

/-- The index with the given entries is the last file that a run puts in place, and without a
formatter it is there in the end. -/
structure Lists (compiler : Compiler) (tree : FileTree) (schema : Schema)
    (entries : List IndexEntry) : Prop where
  planned : ∃ before, (compiler.plan schema).ops =
    before ++ (compiler.outputFor schema).placeIndex entries
  read : compiler.formatter = none → tree.DevicesApart → compiler.LinksApart schema tree →
    (compiler.compile tree schema).2.read (compiler.outputFor schema).indexPath =
      .ok ((compiler.outputFor schema).header.indexText entries).toUTF8

/-- The index of a run that succeeds lists the domains in the order of the schema. -/
theorem lists_of_compile (h : compiler.compile tree schema = (.ok report, tree')) :
    compiler.Lists tree schema (schema.domains.flatMap compiler.selection.indexed) := by
  obtain ⟨units, hunits, -, -⟩ := compile_eq_ok h
  rw [← entries_eq_indexed]
  constructor
  · rw [plan_eq, placedFiles_eq hunits, OutputDir.files_eq, entries_of_units hunits,
      List.flatMap_append, List.flatMap_singleton]
    exact ⟨_, (List.cons_append ..).symm⟩
  · intro hformatter hdevices hlinks
    rw [h]
    exact read_index hformatter hdevices hlinks h

/-- **The order of domains is irrelevant** to their code, and so is what is experimental elsewhere
in the schema: a domain ends alike against the tables of all lists that have the same domains, but
for their order and for what is experimental in them. When runs on both orders of the domains of a
schema succeed, the indexes list the same entries, in the order of the domains. -/
theorem domain_order_irrelevant (compiler : Compiler) :
    (∀ domains domains' : List Domain,
      (domains.map Domain.unflagged).Perm (domains'.map Domain.unflagged) →
        ∀ (s : Selection) (d : Domain),
          d.unit? (NameTable.build domains) s = d.unit? (NameTable.build domains') s) ∧
    ∀ (v : Version) (domains domains' : List Domain), domains.Perm domains' →
      ∀ (tree tree' : FileTree) (report report' : VersionReport),
        (compiler.compile tree ⟨v, domains⟩).1 = .ok report →
          (compiler.compile tree' ⟨v, domains'⟩).1 = .ok report' →
            compiler.Lists tree ⟨v, domains⟩ (domains.flatMap compiler.selection.indexed) ∧
            compiler.Lists tree' ⟨v, domains'⟩ (domains'.flatMap compiler.selection.indexed) ∧
            (domains.flatMap compiler.selection.indexed).Perm
              (domains'.flatMap compiler.selection.indexed) := by
  refine ⟨fun domains domains' h s d => d.unit?_congr (NameTable.alike_build h) s, ?_⟩
  intro v domains domains' hperm tree tree' report report' hfirst hsecond
  exact ⟨lists_of_compile (Prod.ext hfirst rfl), lists_of_compile (Prod.ext hsecond rfl),
    hperm.flatMap_right _⟩

/-- A domain with a type that another domain may have as well. -/
def nodeDomain (name : String) (experimental : Bool) : Domain :=
  ⟨name, none, experimental, [⟨"Node", none, experimental, .composite []⟩], [], []⟩

/-- A schema of given domains. -/
def schemaOfDomains (domains : List Domain) : Schema := ⟨⟨"1", "3"⟩, domains⟩

/-- Of two domains, either may come first, and the second may be experimental or not. -/
theorem domain_order_irrelevant_of_nodes :
    let dom := nodeDomain "DOM" false
    let css := nodeDomain "CSS" true
    dom.unit? (NameTable.build [dom, css]) ⟨true⟩ =
        dom.unit? (NameTable.build [nodeDomain "CSS" false, dom]) ⟨true⟩ ∧
      ∃ report report', (plain.compile emptyTree (schemaOfDomains [dom, css])).1 = .ok report ∧
        (plain.compile emptyTree (schemaOfDomains [css, dom])).1 = .ok report' ∧
        plain.Lists emptyTree (schemaOfDomains [dom, css]) [⟨"DOM", "dom"⟩, ⟨"CSS", "css"⟩] ∧
        plain.Lists emptyTree (schemaOfDomains [css, dom]) [⟨"CSS", "css"⟩, ⟨"DOM", "dom"⟩] := by
  intro dom css
  obtain ⟨hunits, hindexes⟩ := domain_order_irrelevant plain
  have hflags : ([dom, css].map Domain.unflagged).Perm
      ([nodeDomain "CSS" false, dom].map Domain.unflagged) := List.Perm.swap ..
  have hok : (plain.compile emptyTree (schemaOfDomains [dom, css])).1.isOk = true := by
    decide +kernel
  have hok' : (plain.compile emptyTree (schemaOfDomains [css, dom])).1.isOk = true := by
    decide +kernel
  obtain ⟨report, tree, hcompile⟩ := exists_eq_ok_of_isOk hok
  obtain ⟨report', tree', hcompile'⟩ := exists_eq_ok_of_isOk hok'
  have hfirst := congrArg Prod.fst hcompile
  have hsecond := congrArg Prod.fst hcompile'
  obtain ⟨hlists, hlists', -⟩ := hindexes _ _ _ (List.Perm.swap ..) _ _ _ _ hfirst hsecond
  have hentries : [dom, css].flatMap plain.selection.indexed =
      [⟨"DOM", "dom"⟩, ⟨"CSS", "css"⟩] := by
    decide
  have hentries' : [css, dom].flatMap plain.selection.indexed =
      [⟨"CSS", "css"⟩, ⟨"DOM", "dom"⟩] := by
    decide
  rw [hentries] at hlists
  rw [hentries'] at hlists'
  exact ⟨hunits _ _ hflags _ _, report, report', hfirst, hsecond, hlists, hlists'⟩

end Compiler

end Bindery
