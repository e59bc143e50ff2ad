import Bindery.Proofs.Emission
import Bindery.Proofs.KeptFiles

/-!
# What a report accounts for

A report is kept while a run goes through the domains of a schema: a domain is put on record with
its file and its declarations, or only by its name if it is left out. What is on record is
`Balanced` with the domains that have been gone through, and going on with one keeps the balance
(`Balanced.record`, `Balanced.skip`), so it holds of a whole run (`Balanced.planDomains`). The
report of a run that succeeds is what is on record at the end, closed with the index, and therefore
accounts for everything: `Compiler.report_accounts_for_all`.
-/

namespace Bindery

/-! ## Counts -/

namespace DeclarationCounts

/-- How many declarations have been counted in all. -/
def sum (c : DeclarationCounts) : Nat := c.types + c.commands + c.events + c.skipped

theorem sum_add (c d : DeclarationCounts) : (c.add d).sum = c.sum + d.sum := by
  simp only [sum, add]
  omega

end DeclarationCounts

/-- A declaration is counted once, whether or not it is generated. -/
theorem Declaration.sum_count (s : Selection) (x : Declaration) : (x.count s).sum = 1 := by
  unfold count
  split
  · cases x <;> rfl
  · rfl

namespace Domain

/-- What a domain adds to the counts of a run. -/
def count (s : Selection) (d : Domain) : DeclarationCounts :=
  DeclarationCounts.total (d.declarations.map (Declaration.count s))

theorem counts_of_unit {table : NameTable} {s : Selection} {d : Domain} {u : DomainUnit}
    (h : d.unit? table s = .ok u) : u.counts = d.count s := by
  obtain ⟨pieces, -, rfl⟩ := unit?_eq_ok_iff.mp h
  rfl

/-- All declarations of a domain are counted. -/
theorem sum_count (s : Selection) (d : Domain) : (d.count s).sum = d.declarations.length := by
  unfold count
  induction d.declarations with
  | nil => rfl
  | cons x xs ih =>
    rw [List.map_cons, DeclarationCounts.total_cons, DeclarationCounts.sum_add, ih,
      Declaration.sum_count, List.length_cons, Nat.add_comm]

/-- Of each kind, those are counted that are generated. -/
theorem count_eq (s : Selection) (d : Domain) :
    d.count s = ⟨d.types.countP (s.includes ·.experimental),
      d.commands.countP (s.includes ·.experimental), d.events.countP (s.includes ·.experimental),
      d.declarations.countP (!s.includes ·.experimental)⟩ := by
  -- what is left out is what is missing from the chosen declarations
  have hchosen : (d.included s).declarationCount =
      d.declarations.countP (s.includes ·.experimental) := by
    rw [declarationCount_eq, declarations_included, List.countP_eq_length_filter]
  have hsplit := List.length_eq_countP_add_countP (fun x : Declaration => s.includes x.experimental)
    (l := d.declarations)
  simp only [Bool.not_eq_true, Bool.decide_eq_false] at hsplit
  rw [count, total_count, hchosen, declarationCount_eq, hsplit, Nat.add_sub_cancel_left]
  simp only [included, List.countP_eq_length_filter]

end Domain

/-! ## Keeping account -/

/-- What is on record is what has been gone through. -/
structure Balanced (s : Selection) (domains : List Domain) (a : Account) : Prop where
  files : a.files.length = (s.chosen domains).length
  skippedDomains : a.skippedDomains = (s.leftOut domains).map (·.name)
  types : a.counts.types =
    ((s.chosen domains).flatMap (·.types)).countP (s.includes ·.experimental)
  commands : a.counts.commands =
    ((s.chosen domains).flatMap (·.commands)).countP (s.includes ·.experimental)
  events : a.counts.events =
    ((s.chosen domains).flatMap (·.events)).countP (s.includes ·.experimental)
  skipped : a.counts.skipped =
    ((s.chosen domains).flatMap (·.declarations)).countP (!s.includes ·.experimental)
  sum : a.counts.sum = ((s.chosen domains).flatMap (·.declarations)).length

namespace Balanced

variable {s : Selection} {domains : List Domain} {a : Account}

theorem nil (s : Selection) : Balanced s [] {} := ⟨rfl, rfl, rfl, rfl, rfl, rfl, rfl⟩

/-- **A generated domain keeps the balance**: it has a file, and its declarations are counted. -/
theorem record (h : Balanced s domains a) {d : Domain} (hd : s.includes d.experimental = true)
    {table : NameTable} {u : DomainUnit} (hu : d.unit? table s = .ok u) (path : String) :
    Balanced s (domains ++ [d]) (a.record u path) := by
  have hchosen : s.chosen (domains ++ [d]) = s.chosen domains ++ [d] := by
    simp [Selection.chosen, hd]
  have hleft : s.leftOut (domains ++ [d]) = s.leftOut domains := by
    simp [Selection.leftOut, hd]
  have hcount : u.counts = _ := (Domain.counts_of_unit hu).trans (d.count_eq s)
  unfold Account.record
  constructor
  · rw [hchosen, List.length_append, List.length_append, h.files]
    rfl
  · rw [hleft]
    exact h.skippedDomains
  · simp [hchosen, DeclarationCounts.add, hcount, h.types]
  · simp [hchosen, DeclarationCounts.add, hcount, h.commands]
  · simp [hchosen, DeclarationCounts.add, hcount, h.events]
  · simp [hchosen, DeclarationCounts.add, hcount, h.skipped]
  · rw [DeclarationCounts.sum_add, h.sum, Domain.counts_of_unit hu, d.sum_count, hchosen]
    simp

/-- **So does one that is left out**: nothing but its name is put on record. -/
theorem skip (h : Balanced s domains a) {d : Domain} (hd : s.includes d.experimental = false) :
    Balanced s (domains ++ [d]) (a.skip d) := by
  have hchosen : s.chosen (domains ++ [d]) = s.chosen domains := by
    simp [Selection.chosen, hd]
  have hleft : s.leftOut (domains ++ [d]) = s.leftOut domains ++ [d] := by
    simp [Selection.leftOut, hd]
  have hnames : a.skippedDomains ++ [d.name] = (s.leftOut (domains ++ [d])).map (·.name) := by
    rw [hleft, List.map_append, h.skippedDomains]
    rfl
  exact ⟨hchosen ▸ h.files, hnames, hchosen ▸ h.types, hchosen ▸ h.commands, hchosen ▸ h.events,
    hchosen ▸ h.skipped, hchosen ▸ h.sum⟩

/-- **Planning domains keeps the balance**, if all that are to be generated can be. -/
theorem planDomains (h : Balanced s domains a) {table : NameTable} {out : OutputDir}
    {later : List Domain} {a' : Account}
    (hplan : (planDomains table s out a later).outcome = .ok a') :
    Balanced s (domains ++ later) a' := by
  induction later generalizing domains a with
  | nil =>
    obtain rfl := Except.ok.inj hplan
    rw [List.append_nil]
    exact h
  | cons d later ih =>
    rw [List.append_cons]
    unfold Bindery.planDomains at hplan
    split at hplan
    · rename_i hd
      split at hplan
      · cases hplan
      · rename_i u hu
        exact ih (h.record hd hu _) hplan
    · rename_i hd
      exact ih (h.skip (Bool.eq_false_iff.mpr hd)) hplan

end Balanced

/-! ## The report of a run -/

namespace Compiler

variable {compiler : Compiler} {schema : Schema} {tree tree' : FileTree} {report : VersionReport}

/-- The report of a run that succeeds is what is on record at the end, closed with the index. -/
theorem exists_balanced_of_compile (h : compiler.compile tree schema = (.ok report, tree')) :
    ∃ a : Account, Balanced compiler.selection schema.domains a ∧
      report = a.report schema.version (compiler.outputFor schema) := by
  unfold compile at h
  simp only at h
  split at h
  · cases (Prod.mk.inj h).1
  · have houtcome := (Prod.mk.inj h).1
    unfold plan at houtcome
    simp only at houtcome
    split at houtcome
    · cases houtcome
    · rename_i a hplan
      exact ⟨a, (Balanced.nil _).planDomains hplan, (Except.ok.inj houtcome).symm⟩

/-- **A report accounts for everything.** Of a run that succeeds, it has one file for each included
domain and one more, the names of the domains that were left out, and in the included domains each
declaration once: under its kind if it was generated, and else as left out. -/
theorem report_accounts_for_all (h : compiler.compile tree schema = (.ok report, tree')) :
    let chosen := schema.domains.filter (compiler.selection.includes ·.experimental)
    report.files.length = chosen.length + 1 ∧
      report.skippedDomains =
        (schema.domains.filter (!compiler.selection.includes ·.experimental)).map (·.name) ∧
      report.types =
        (chosen.flatMap (·.types)).countP (compiler.selection.includes ·.experimental) ∧
      report.commands =
        (chosen.flatMap (·.commands)).countP (compiler.selection.includes ·.experimental) ∧
      report.events =
        (chosen.flatMap (·.events)).countP (compiler.selection.includes ·.experimental) ∧
      report.skippedDeclarations =
        (chosen.flatMap (·.declarations)).countP (!compiler.selection.includes ·.experimental) ∧
      report.types + report.commands + report.events + report.skippedDeclarations =
        (chosen.flatMap (·.declarations)).length := by
  intro chosen
  obtain ⟨a, hbalanced, rfl⟩ := exists_balanced_of_compile h
  refine ⟨?_, hbalanced.skippedDomains, hbalanced.types, hbalanced.commands, hbalanced.events,
    hbalanced.skipped, hbalanced.sum⟩
  -- the index is the one file more
  rw [Account.report, List.length_append, hbalanced.files]
  rfl

/-- A compiler without a formatter that leaves experimental declarations out. -/
def stableOnly : Compiler := ⟨"bindings", { formatter := none, includeExperimental := false }, none⟩

/-- A domain of each kind, with declarations of each kind. -/
def mixedSchema : Schema :=
  ⟨⟨"1", "3"⟩,
    [⟨"Page", none, false, [⟨"Frame", none, false, .primitive .string⟩],
        [⟨"enable", none, false, [], []⟩, ⟨"crash", none, true, [], []⟩],
        [⟨"loaded", none, true, []⟩]⟩,
      ⟨"Audits", none, true, [⟨"Issue", none, false, .primitive .string⟩], [], []⟩]⟩

theorem report_accounts_for_mixedSchema : ∃ report tree',
    stableOnly.compile emptyTree mixedSchema = (.ok report, tree') ∧
      report.files.length = 2 ∧ report.skippedDomains = ["Audits"] ∧ report.types = 1 ∧
      report.commands = 1 ∧ report.events = 0 ∧ report.skippedDeclarations = 2 := by
  have hok : (stableOnly.compile emptyTree mixedSchema).1.isOk = true := by decide +kernel
  obtain ⟨report, tree', hcompile⟩ := exists_eq_ok_of_isOk hok
  obtain ⟨hfiles, hdomains, htypes, hcommands, hevents, hskipped, -⟩ :=
    report_accounts_for_all hcompile
  exact ⟨report, tree', hcompile, hfiles, hdomains, htypes, hcommands, hevents, hskipped⟩

end Compiler

end Bindery
