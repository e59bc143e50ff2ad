import Bindery.Proofs.Comments
import Bindery.Proofs.GeneratedLines
import Bindery.Proofs.Words

/-!
# The constants of an enumeration

An enumeration has one constant for each literal. The constants are named in a row after the
escaped transliterations of the literals (`constantName`), so their names are pairwise different,
and each is the transliteration unless an earlier constant has it (`one_constant_per_literal`). No
transliteration becomes a raw identifier, since none begins with a small letter and so none is a
keyword (`Naming.enumConstIdent_not_mem_keywords`): the names also stay different as the generated
code reads them.
-/

namespace Bindery

open Text

/-! ## Capitals -/

namespace Text

/-- The images of a run are no small letters of ASCII. -/
def CaseRun.avoidsSmall (r : CaseRun) : Bool :=
  r.image + (r.last - r.first) < 'a'.toNat || 'z'.toNat < r.image

theorem isLower_ofNat {code : Nat} (h : code < 'a'.toNat ∨ 'z'.toNat < code) :
    (Char.ofNat code).isLower = false := by
  have ha : 'a'.val.toNat = 97 := rfl
  have hz : 'z'.val.toNat = 122 := rfl
  have hout : (Char.ofNat code).val.toNat < 97 ∨ 122 < (Char.ofNat code).val.toNat := by
    by_cases hvalid : code.isValidChar
    · have hcode : (Char.ofNat code).val.toNat = code := by
        rw [Char.ofNat, dif_pos hvalid]
        rfl
      rw [hcode]
      exact h
    · -- a code that no character has stands for the first one
      have hcode : (Char.ofNat code).val.toNat = 0 := by
        rw [Char.ofNat, dif_neg hvalid]
        rfl
      omega
  delta Char.isLower
  simp only [Bool.and_eq_false_iff, decide_eq_false_iff_not, ge_iff_le, UInt32.le_iff_toNat_le]
  omega

theorem isLower_of_upperRuns {r : CaseRun} {code image : Nat} (hr : r ∈ upperRuns)
    (h : r.map? code = some image) : (Char.ofNat image).isLower = false := by
  have hruns : upperRuns.all CaseRun.avoidsSmall = true := by decide +kernel
  have havoids := List.all_eq_true.mp hruns r hr
  rw [CaseRun.avoidsSmall, Bool.or_eq_true, decide_eq_true_eq, decide_eq_true_eq] at havoids
  unfold CaseRun.map? at h
  split at h
  · rename_i hrun
    simp only [Bool.and_eq_true, decide_eq_true_eq, beq_iff_eq] at hrun
    obtain rfl := Option.some.inj h
    exact isLower_ofNat (by omega)
  · cases h

/-- An upper-case form is a character at least, and holds no small letter of ASCII. -/
theorem isLower_of_mem_toUpper (c : Char) :
    toUpper c ≠ [] ∧ ∀ d ∈ toUpper c, d.isLower = false := by
  have hsequences : ∀ p ∈ upperSequences, p.2 ≠ [] ∧
      ∀ code ∈ p.2, code < 'a'.toNat ∨ 'z'.toNat < code := by
    decide +kernel
  unfold toUpper
  split
  · rename_i hsmall
    have hupper : c.toUpper.isLower = false :=
      forall_ascii (p := fun c => c.toUpper.isLower = false) (by decide) hsmall
    exact ⟨List.cons_ne_nil _ _, List.forall_mem_singleton.mpr hupper⟩
  · rename_i hlarge
    unfold mapCase
    split
    · rename_i image himage
      obtain ⟨r, hr, hmap⟩ := List.exists_of_findSome?_eq_some himage
      exact ⟨List.cons_ne_nil _ _, List.forall_mem_singleton.mpr (isLower_of_upperRuns hr hmap)⟩
    · split
      · rename_i codes hcodes
        obtain ⟨front, back, hsplit, -⟩ := List.lookup_eq_some_iff.mp hcodes
        obtain ⟨hne, hall⟩ := hsequences (c.toNat, codes) (by simp [hsplit])
        refine ⟨by simpa using hne, fun d hd => ?_⟩
        obtain ⟨code, hcode, rfl⟩ := List.mem_map.mp hd
        exact isLower_ofNat (hall code hcode)
      · refine ⟨List.cons_ne_nil _ _, List.forall_mem_singleton.mpr ?_⟩
        have hz : 'z'.toNat = 122 := rfl
        rw [← Char.ofNat_toNat c]
        exact isLower_ofNat (.inr (by omega))

end Text

/-! ## The name of a literal -/

namespace Naming

theorem isLower_of_head?_constCharsFrom {cs : List Char} {c : Char}
    (h : (constCharsFrom true cs).head? = some c) : c.isLower = false := by
  unfold constCharsFrom at h
  split at h
  · cases h
  · rw [if_pos rfl] at h
    obtain rfl := Option.some.inj h
    decide
  · rename_i first rest _
    obtain ⟨hne, hlower⟩ := isLower_of_mem_toUpper first
    rw [if_pos rfl, List.head?_append_of_ne_nil _ hne] at h
    exact hlower c (List.mem_of_head? h)

theorem isLower_of_head?_sanitizeChars {cs : List Char}
    (hcs : ∀ c, cs.head? = some c → c.isLower = false) {c : Char}
    (h : (sanitizeChars cs).head? = some c) : c.isLower = false := by
  have hunderscore : '_'.isLower = false := by decide
  unfold sanitizeChars at h
  cases cs with
  | nil =>
    obtain rfl := Option.some.inj h
    exact hunderscore
  | cons first rest =>
    have hfirst : (if isIdentChar first then first else '_').isLower = false := by
      split
      · exact hcs first rfl
      · exact hunderscore
    simp only [List.map_cons] at h
    generalize (if isIdentChar first then first else '_') = kept at h hfirst
    split at h
    · obtain rfl := Option.some.inj h
      exact hunderscore
    · obtain rfl := Option.some.inj h
      exact hfirst

/-- **No constant is named by a keyword**, as no transliteration begins with a small letter. -/
theorem enumConstIdent_not_mem_keywords (literal : String) : enumConstIdent literal ∉ keywords := by
  have hsmall : ∀ keyword ∈ keywords, keyword.toList.head?.any Char.isLower = true := by decide
  intro hkeyword
  have hfirst := hsmall _ hkeyword
  rw [enumConstIdent, String.toList_ofList] at hfirst
  cases hhead : (sanitizeChars (constCharsFrom true literal.toList)).head? with
  | none =>
    rw [hhead] at hfirst
    cases hfirst
  | some c =>
    rw [hhead, Option.any_some, isLower_of_head?_sanitizeChars
      (fun d hd => isLower_of_head?_constCharsFrom hd) hhead] at hfirst
    cases hfirst

theorem hash_not_mem_constantName (literal : String) : '#' ∉ (constantName literal).toList :=
  fun hmem => enumConstIdent_not_mem_keywords literal
    (eq_raw_of_mem_escapeKeyword (hash_not_mem_sanitize _) hmem).1

end Naming

/-! ## The constants -/

namespace Enumeration

open Naming (constantName)

/-- The constant of a literal depends on the literals in front of it, and on nothing behind it. -/
theorem constants_append_cons (before : List String) (literal : String) (after : List String) :
    ∃ name later,
      constants (before ++ literal :: after) = constants before ++ (name, literal) :: later ∧
        NamedAfter ((constants before).map Prod.fst) (constantName literal) "" name := by
  obtain ⟨name, later, hnames, hnamed⟩ := namesFrom_nil_append_cons "" (before.map constantName)
    (constantName literal) (after.map constantName)
  refine ⟨name, later.zip after, ?_, by rwa [map_fst_constants]⟩
  rw [constants, constants, constantsFrom_eq_zip, constantsFrom_eq_zip, List.map_append,
    List.map_cons, hnames, List.zip_append (by rw [length_namesFrom, List.length_map])]
  rfl

/-- A name of a constant is no raw identifier. -/
theorem bareName_constant {literals : List String} {constant : String × String}
    (h : constant ∈ constants literals) : bareName constant.1.toList = constant.1.toList := by
  obtain ⟨literal, k, hname⟩ := exists_candidate_of_mem_constants h
  rw [hname]
  refine bareName_of_not_mem fun hmem => ?_
  exact Naming.hash_not_mem_constantName literal (hash_mem_of_candidate (by decide) hmem)

/-! ## The lines of an enumeration -/

/-- A line that defines a constant. -/
def DefinesConstant (line : String) : Prop := "    pub const ".toList <+: line.toList

instance (line : String) : Decidable (DefinesConstant line) := inferInstanceAs (Decidable (_ <+: _))

theorem definesConstant_constantLine (c : String × String) :
    DefinesConstant ("    " ++ constantLine c) := by
  refine ⟨(c.1 ++ ": Self = Self(Cow::Borrowed(" ++ quote c.2 ++ "));").toList, ?_⟩
  simp [constantLine, toString]

/-- The lines above the constants. -/
def linesAbove (ident : String) (description : Option String) (experimental : Bool) : List String :=
  docLines .item description experimental ++
    ["#[derive(Debug, Clone, PartialEq, Eq, Hash, Serialize, Deserialize)]",
      "#[serde(transparent)]", s!"pub struct {ident}(pub Cow<'static, str>);", "",
      "#[allow(non_upper_case_globals)]", s!"impl {ident}" ++ " \x7b"]

/-- The lines below the constants. -/
def linesBelow (literals : List String) : List String :=
  (if literals.isEmpty then [] else [""]) ++
    ["    /// Returns the wire literal.", "    pub fn as_str(&self) -> &str \x7b",
      "        &self.0", "    \x7d", "\x7d"]

theorem allLinesAt_layout (ident : String) (description : Option String) (experimental : Bool)
    (literals : List String) :
    Layout.allLinesAt 0 (layout ident description experimental literals) =
      linesAbove ident description experimental ++
        (constants literals).map (fun c => "    " ++ constantLine c) ++ linesBelow literals := by
  have hconstants (cs : List (String × String)) :
      Layout.allLinesAt 1 (cs.map fun c => .line (constantLine c)) =
        cs.map fun c => "    " ++ constantLine c := by
    induction cs with
    | nil => rfl
    | cons c cs ih =>
      have hfirst : constantLine c ≠ "" := by simp [constantLine, toString]
      simp [ih, Layout.linesAt_line_one hfirst]
  have hdoc : Layout.linesAt 0 (.doc .item description experimental) =
      docLines .item description experimental := by
    rw [Layout.linesAt, funext Layout.indented_zero, List.map_id']
  have hgap : Layout.allLinesAt 1 (if literals.isEmpty then [] else [.blank]) =
      if literals.isEmpty then [] else [""] := by
    split <;> rfl
  have hfunction : Layout.allLinesAt 1 [.line "/// Returns the wire literal.",
      .block "pub fn as_str(&self) -> &str" "" [.line "&self.0"]] =
        ["    /// Returns the wire literal.", "    pub fn as_str(&self) -> &str \x7b",
          "        &self.0", "    \x7d"] := by
    decide
  unfold layout
  simp only [Layout.allLinesAt, hdoc, Layout.linesAt_blank_zero, Layout.linesAt_line_zero,
    Layout.linesAt_block_zero]
  rw [Layout.allLinesAt_append, Layout.allLinesAt_append, hconstants, hgap, hfunction]
  simp [linesAbove, linesBelow]

theorem mem_linesBelow {literals : List String} {line : String} (h : line ∈ linesBelow literals) :
    line ∈ ["", "    /// Returns the wire literal.", "    pub fn as_str(&self) -> &str \x7b",
      "        &self.0", "    \x7d", "\x7d"] := by
  rcases List.mem_append.mp h with hgap | hfunction
  · split at hgap
    · exact absurd hgap List.not_mem_nil
    · obtain rfl := List.mem_singleton.mp hgap
      exact List.mem_cons_self
  · exact List.mem_cons_of_mem _ hfunction

/-- The lines around the constants define none. -/
theorem not_definesConstant_around (ident : String) (description : Option String)
    (experimental : Bool) (literals : List String) :
    ∀ line ∈ linesAbove ident description experimental ++ linesBelow literals,
      ¬ DefinesConstant line := by
  intro line hline
  rcases List.mem_append.mp hline with habove | hbelow
  · -- nothing above is indented
    have hfirst : line.toList.head? ≠ some ' ' := by
      rcases List.mem_append.mp habove with hdoc | hfixed
      · obtain ⟨rest, hrest⟩ := opensComment_of_mem_docLines hdoc
        rw [hrest, List.head?_cons]
        decide
      · simp only [List.mem_cons, List.not_mem_nil, or_false] at hfixed
        rcases hfixed with rfl | rfl | rfl | rfl | rfl | rfl
        · decide
        · decide
        · simp [toString]
        · decide
        · decide
        · simp [toString]
    rintro ⟨rest, hrest⟩
    rw [← hrest] at hfirst
    exact hfirst rfl
  · have hfixed : ∀ line ∈ ["", "    /// Returns the wire literal.",
        "    pub fn as_str(&self) -> &str \x7b", "        &self.0", "    \x7d", "\x7d"],
        ¬ DefinesConstant line := by
      decide
    exact hfixed line (mem_linesBelow hbelow)

/-- The lines of an enumeration that define constants are those of its constants. -/
theorem filter_allLinesAt_layout (ident : String) (description : Option String)
    (experimental : Bool) (literals : List String) :
    (Layout.allLinesAt 0 (layout ident description experimental literals)).filter
        (fun line => DefinesConstant line) =
      (constants literals).map fun c => "    " ++ constantLine c := by
  have haround (lines : List String) (hlines : ∀ line ∈ lines, ¬ DefinesConstant line) :
      lines.filter (fun line => DefinesConstant line) = [] :=
    List.filter_eq_nil_iff.mpr fun line hline => by simpa using hlines line hline
  have hconstants : ∀ line ∈ (constants literals).map fun c => "    " ++ constantLine c,
      DefinesConstant line := by
    intro line hline
    obtain ⟨c, -, rfl⟩ := List.mem_map.mp hline
    exact definesConstant_constantLine c
  obtain ⟨habove, hbelow⟩ := List.forall_mem_append.mp
    (not_definesConstant_around ident description experimental literals)
  rw [allLinesAt_layout, List.filter_append, List.filter_append, haround _ habove,
    haround _ hbelow, List.nil_append, List.append_nil]
  exact List.filter_eq_self.mpr fun line hline => decide_eq_true (hconstants line hline)

/-- **One constant per literal.** Whatever the literals are, the lines of an enumeration that define
constants are those of its constants, one for each literal in the order of the literals, and the
text is made of these lines. As long as the identifier of the enumeration stands on one line, they
are the lines that the text has when it is cut at its newlines, whatever the literals and the
description hold. The names of the constants are pairwise different, also without the mark of raw
identifiers. What stands behind a literal has no influence on its constant, and the name is the
escaped transliteration of the literal, or if an earlier constant has it, the transliteration with
the smallest number from 2 on that no earlier constant has. -/
theorem one_constant_per_literal (ident : String) (description : Option String)
    (experimental : Bool) (literals : List String) :
    Layout.textAll 0 (layout ident description experimental literals) =
      joinLines (Layout.allLinesAt 0 (layout ident description experimental literals)) ∧
    (Layout.allLinesAt 0 (layout ident description experimental literals)).filter
        (fun line => DefinesConstant line) =
      (constants literals).map (fun c => "    " ++ constantLine c) ∧
    ('\n' ∉ ident.toList →
      ((splitNewlines (Layout.textAll 0
          (layout ident description experimental literals)).toList).map String.ofList).filter
          (fun line => DefinesConstant line) =
        (constants literals).map fun c => "    " ++ constantLine c) ∧
    (constants literals).map Prod.snd = literals ∧
    ((constants literals).map Prod.fst).Nodup ∧
    ((constants literals).map fun c => bareName c.1.toList).Nodup ∧
    ∀ (before : List String) (literal : String) (after : List String), ∃ name later,
      constants (before ++ literal :: after) = constants before ++ (name, literal) :: later ∧
        NamedAfter ((constants before).map Prod.fst)
          (Naming.escapeKeyword (Naming.enumConstIdent literal)) "" name := by
  have htext := Layout.textAll_eq_joinLines 0 (layout ident description experimental literals)
  have hfilter := filter_allLinesAt_layout ident description experimental literals
  have hnodup : ((constants literals).map Prod.fst).Nodup := by
    rw [map_fst_constants]
    exact (nodup_namesFrom _ _ _).1
  refine ⟨htext, hfilter, fun hident => ?_, map_snd_constants literals, hnodup, ?_,
    constants_append_cons⟩
  · -- behind the last newline of the text there is an empty line, which defines nothing
    have hlines := allOneLine_layout hident description experimental literals
    have hempty : [""].filter (fun line => DefinesConstant line) = [] := by decide
    rw [htext, map_splitNewlines_joinLines hlines.newline_not_mem, List.filter_append, hfilter,
      hempty, List.append_nil]
  · have hbare : (constants literals).map (fun c => bareName c.1.toList) =
        ((constants literals).map Prod.fst).map String.toList := by
      rw [List.map_map]
      exact List.map_congr_left fun c hc => bareName_constant hc
    rw [hbare]
    exact hnodup.map fun _ _ => String.toList_inj.mp

/-- Three literals with one transliteration, and one that a line could not hold as it is. -/
theorem one_constant_per_literal_of_collisions :
    '\n' ∉ "Mode".toList ∧
      ((splitNewlines (Layout.textAll 0
          (layout "Mode" (some "pub const X") true ["on", "On", "on", "\n"])).toList).map
          String.ofList).filter (fun line => DefinesConstant line) =
        ["    pub const On: Self = Self(Cow::Borrowed(\"on\"));",
          "    pub const On2: Self = Self(Cow::Borrowed(\"On\"));",
          "    pub const On3: Self = Self(Cow::Borrowed(\"on\"));",
          "    pub const _: Self = Self(Cow::Borrowed(\"\\n\"));"] := by
  have hident : '\n' ∉ "Mode".toList := by decide
  obtain ⟨-, -, htext, -⟩ :=
    one_constant_per_literal "Mode" (some "pub const X") true ["on", "On", "on", "\n"]
  refine ⟨hident, ?_⟩
  rw [htext hident]
  decide

/-- The number of `Url` makes it a name that a later literal would have. -/
example : (constants ["url", "Url", "url2", "self", "url"]).map Prod.fst =
    ["Url", "Url2", "Url22", "Self_", "Url3"] := by
  decide

end Enumeration

end Bindery
