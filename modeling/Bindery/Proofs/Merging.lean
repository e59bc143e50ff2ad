import Bindery.Proofs.Versions
import Bindery.Schema.Merge
import Mathlib.Data.List.Induction
import Mathlib.Data.List.Nodup
import Mathlib.Data.List.Sort

/-!
# What merging gives

The definitions in files are told by a key, and one of a key counts: the first. What is left of a
list then are its `firsts`, what is dropped are its `repeats`. Which of the two a member is depends
on all that stands in front of it, dropped members included, so both are defined by a test against
that (`sift`).

Files are merged one after the other into schemas that are there already. What that comes to is said
on the files alone: a schema for each version, with the first definitions of its domains
(`Schema.Gathered`), and a warning for each definition that repeats one. A step keeps this
(`Schema.Gathered.mergeInto`), so a run does, and no other result is like that
(`Schema.merge_eq_iff`).

Since a result depends on the first definitions only (`Schema.merge_congr`), files can be merged in
stages: `Schema.merge_incremental`. The warnings follow from an account of the definitions: each is
kept or reported, and a step keeps the sums (`Schema.count_mergeInto`).
-/

namespace Bindery

/-! ## First members of a list and repeated ones -/

section

variable {α β κ : Type}

/-- The members of a list that pass a test against all that stands in front of them; `before` stands
in front of the list. -/
def sift (test : List α → α → Bool) (before : List α) : List α → List α
  | [] => []
  | a :: l =>
    if test before a then a :: sift test (before ++ [a]) l else sift test (before ++ [a]) l

theorem sift_append (test : List α → α → Bool) (before l m : List α) :
    sift test before (l ++ m) = sift test before l ++ sift test (before ++ l) m := by
  induction l generalizing before with
  | nil => rw [List.append_nil]; rfl
  | cons a l ih =>
    simp only [List.cons_append, sift, ih, List.append_assoc, List.nil_append]
    split <;> rfl

/-- Members that are put in another form are sifted as before, if the tests agree. -/
theorem sift_map {f : α → β} {test : List α → α → Bool} {test' : List β → β → Bool}
    {before : List α} {before' : List β}
    (h : ∀ m a, test' (before' ++ m.map f) (f a) = test (before ++ m) a) (l : List α) :
    sift test' before' (l.map f) = (sift test before l).map f := by
  induction l generalizing before before' with
  | nil => rfl
  | cons a l ih =>
    have hrest : sift test' (before' ++ [f a]) (l.map f) = (sift test (before ++ [a]) l).map f := by
      refine ih fun m b => ?_
      simpa using h (a :: m) b
    have hhead : test' before' (f a) = test before a := by simpa using h [] a
    rw [List.map_cons, sift, sift, hhead, hrest]
    split <;> rfl

variable [DecidableEq κ] (key : α → κ)

/-- The members whose key no member in front of them has. -/
def firsts (l : List α) : List α :=
  sift (fun before a => key a ∉ before.map key) [] l

/-- The members whose key some member in front of them has; `before` stands in front of the list. -/
def repeats (before l : List α) : List α :=
  sift (fun before a => key a ∈ before.map key) before l

@[simp] theorem repeats_append (before l m : List α) :
    repeats key before (l ++ m) = repeats key before l ++ repeats key (before ++ l) m :=
  sift_append _ before l m

section Step

variable {key} {before l : List α} {a : α}

theorem repeats_cons_of_mem (h : key a ∈ before.map key) :
    repeats key before (a :: l) = a :: repeats key (before ++ [a]) l :=
  if_pos (decide_eq_true h)

theorem repeats_cons_of_not_mem (h : key a ∉ before.map key) :
    repeats key before (a :: l) = repeats key (before ++ [a]) l :=
  if_neg (mt of_decide_eq_true h)

theorem firsts_concat_of_mem (h : key a ∈ l.map key) : firsts key (l ++ [a]) = firsts key l := by
  unfold firsts
  rw [sift_append]
  simp [sift, h]

theorem firsts_concat_of_not_mem (h : key a ∉ l.map key) :
    firsts key (l ++ [a]) = firsts key l ++ [a] := by
  unfold firsts
  rw [sift_append]
  simp [sift, h]

end Step

/-- Every key is that of a first member. -/
theorem mem_map_firsts {k : κ} (l : List α) : k ∈ (firsts key l).map key ↔ k ∈ l.map key := by
  induction l using List.reverseRecOn with
  | nil => rfl
  | append_singleton l a ih =>
    by_cases h : key a ∈ l.map key
    · rw [firsts_concat_of_mem h, ih, List.map_append, List.mem_append]
      constructor
      · exact .inl
      · rintro (hk | hk)
        · exact hk
        · rwa [List.mem_singleton.mp hk]
    · rw [firsts_concat_of_not_mem h, List.map_append, List.map_append, List.mem_append,
        List.mem_append, ih]

/-- No two first members have one key. -/
theorem nodup_map_firsts (l : List α) : ((firsts key l).map key).Nodup := by
  induction l using List.reverseRecOn with
  | nil => exact .nil
  | append_singleton l a ih =>
    by_cases h : key a ∈ l.map key
    · rwa [firsts_concat_of_mem h]
    · rw [firsts_concat_of_not_mem h, List.map_append, List.map_singleton, ← List.concat_eq_append,
        List.nodup_concat, mem_map_firsts]
      exact ⟨h, ih⟩

/-- A key leads to its first member. -/
theorem find?_firsts (k : κ) (l : List α) :
    (firsts key l).find? (key · == k) = l.find? (key · == k) := by
  induction l using List.reverseRecOn with
  | nil => rfl
  | append_singleton l a ih =>
    by_cases h : key a ∈ l.map key
    · rw [firsts_concat_of_mem h, ih, List.find?_append]
      -- if the added member has the key that is looked for, so has one in front of it
      by_cases hk : key a = k
      · obtain ⟨b, hb, hkey⟩ := List.mem_map.mp h
        have hfound : (l.find? (key · == k)).isSome := by
          rw [List.find?_isSome]
          exact ⟨b, hb, by simp [hkey, hk]⟩
        rw [Option.or_of_isSome hfound]
      · simp [hk]
    · rw [firsts_concat_of_not_mem h, List.find?_append, List.find?_append, ih]

/-- Where no two members have one key, all are first. -/
theorem firsts_of_nodup {l : List α} (h : (l.map key).Nodup) : firsts key l = l := by
  induction l using List.reverseRecOn with
  | nil => rfl
  | append_singleton l a ih =>
    rw [List.map_append, List.map_singleton, ← List.concat_eq_append, List.nodup_concat] at h
    rw [firsts_concat_of_not_mem h.1, ih h.2]

/-- **First members can be taken in stages.** -/
theorem firsts_append_firsts (l m : List α) :
    firsts key (firsts key l ++ firsts key m) = firsts key (l ++ m) := by
  induction m using List.reverseRecOn with
  | nil =>
    show firsts key (firsts key l ++ []) = firsts key (l ++ [])
    rw [List.append_nil, List.append_nil]
    exact firsts_of_nodup key (nodup_map_firsts key l)
  | append_singleton m a ih =>
    rw [← List.append_assoc]
    by_cases hm : key a ∈ m.map key
    · have hboth : key a ∈ (l ++ m).map key := by
        rw [List.map_append]
        exact List.mem_append_right _ hm
      rw [firsts_concat_of_mem hm, ih, firsts_concat_of_mem hboth]
    · rw [firsts_concat_of_not_mem hm, ← List.append_assoc]
      -- the stages see the same keys in front of the added member
      have hkeys : key a ∈ (firsts key l ++ firsts key m).map key ↔ key a ∈ (l ++ m).map key := by
        simp only [List.map_append, List.mem_append, mem_map_firsts]
      by_cases hboth : key a ∈ (l ++ m).map key
      · rw [firsts_concat_of_mem (hkeys.mpr hboth), ih, firsts_concat_of_mem hboth]
      · rw [firsts_concat_of_not_mem (mt hkeys.mp hboth), ih, firsts_concat_of_not_mem hboth]

end

/-! ## What merging comes to -/

/-- A domain as a file of some version defines it. -/
structure Definition where
  version : Version
  domain : Domain

namespace Definition

/-- A domain of a version is defined once. -/
def key (d : Definition) : Version × String := (d.version, d.domain.name)

/-- The warning for a definition that is dropped. -/
def warning (d : Definition) : Warning := .domainDropped d.version d.domain.name

end Definition

namespace Schema

/-- The definitions in a file, in order. -/
def definitions (file : Schema) : List Definition :=
  file.domains.map (.mk file.version)

/-- The definitions of domains in all files of a version, in the order of the files. -/
def domainsOf (v : Version) (files : List Schema) : List Domain :=
  (files.filter (·.version = v)).flatMap (·.domains)

/-- The schemas hold what the files define: one for each version that a file has, in increasing
order, and in each the first definitions of the version, in the order in which they were seen. -/
structure Gathered (files merged : List Schema) : Prop where
  increasing : Increasing merged
  versions : ∀ v, v ∈ merged.map (·.version) ↔ v ∈ files.map (·.version)
  domains : ∀ s ∈ merged, s.domains = firsts (·.name) (domainsOf s.version files)

/-- The schemas and the warnings that merging files has to give. -/
structure IsMerge (files merged : List Schema) (warnings : List Warning) : Prop
    extends Gathered files merged where
  /-- No domain is there twice. -/
  names : ∀ s ∈ merged, (s.domains.map (·.name)).Nodup
  /-- Looking up a domain finds the first definition that a file of the version has of it. -/
  found : ∀ s ∈ merged, ∀ name,
    s.domain? name = (domainsOf s.version files).find? (·.name == name)
  /-- Each definition that is dropped is reported, in the order of the files. -/
  warnings : warnings = (repeats Definition.key [] (files.flatMap definitions)).map (·.warning)

@[simp] theorem domainsOf_append (v : Version) (files more : List Schema) :
    domainsOf v (files ++ more) = domainsOf v files ++ domainsOf v more := by
  unfold domainsOf
  rw [List.filter_append, List.flatMap_append]

@[simp] theorem domainsOf_singleton (file : Schema) :
    domainsOf file.version [file] = file.domains := by
  simp [domainsOf]

/-- A version that no file has is not defined. -/
theorem domainsOf_eq_nil {v : Version} {files : List Schema}
    (h : v ∉ files.map (·.version)) : domainsOf v files = [] := by
  unfold domainsOf
  rw [List.filter_eq_nil_iff.mpr, List.flatMap_nil]
  intro file hfile hversion
  exact h (List.mem_map.mpr ⟨file, hfile, by simpa using hversion⟩)

/-- A domain of a version is defined in files if their definitions of the version name it. -/
theorem mem_map_key_iff {files : List Schema} {v : Version} {name : String} :
    (v, name) ∈ (files.flatMap definitions).map Definition.key ↔
      name ∈ (domainsOf v files).map (·.name) := by
  simp only [definitions, domainsOf, Definition.key, List.map_flatMap, List.mem_flatMap,
    List.map_map, List.mem_map, List.mem_filter, Function.comp_apply, decide_eq_true_eq,
    Prod.mk.injEq]
  constructor
  · rintro ⟨file, hfile, d, hd, rfl, rfl⟩
    exact ⟨file, ⟨hfile, rfl⟩, d, hd, rfl⟩
  · rintro ⟨file, ⟨hfile, rfl⟩, d, hd, rfl⟩
    exact ⟨file, hfile, d, hd, rfl, rfl⟩

/-- Told by their names within the version, or by version and name among all: the same domains of a
file are repeated. -/
theorem repeats_definitions (files : List Schema) (file : Schema) :
    repeats Definition.key (files.flatMap definitions) file.definitions =
      (repeats (·.name) (domainsOf file.version files) file.domains).map (.mk file.version) := by
  refine sift_map (fun m d => ?_) file.domains
  -- what the file has in front of the domain is as good as a file of its own
  let front : Schema := ⟨file.version, m⟩
  have hdefinitions : files.flatMap definitions ++ m.map (.mk file.version) =
      (files ++ [front]).flatMap definitions := by
    rw [List.flatMap_append, List.flatMap_singleton]
    rfl
  have hdomains : domainsOf file.version files ++ m =
      domainsOf file.version (files ++ [front]) := by
    rw [domainsOf_append, domainsOf_singleton front]
  rw [hdefinitions, hdomains]
  exact decide_eq_decide.mpr mem_map_key_iff

/-! ## What a step does -/

theorem absorb_version (s : Schema) (domains : List Domain) :
    (s.absorb domains).1.version = s.version := by
  induction domains generalizing s with
  | nil => rfl
  | cons d ds ih =>
    rw [absorb]
    split
    · exact ih s
    · exact ih ⟨s.version, s.domains ++ [d]⟩

/-- Adding a file to the first definitions so far gives the first definitions with those of the file
behind them, and a warning for each that is repeated. -/
theorem absorb_eq (v : Version) (seen domains : List Domain) :
    absorb ⟨v, firsts (·.name) seen⟩ domains =
      (⟨v, firsts (·.name) (seen ++ domains)⟩,
        (repeats (·.name) seen domains).map fun d => .domainDropped v d.name) := by
  induction domains generalizing seen with
  | nil => rw [List.append_nil]; rfl
  | cons d ds ih =>
    have hseen : (firsts (·.name) seen).any (·.name == d.name) = true ↔
        d.name ∈ seen.map (·.name) := by
      rw [← mem_map_firsts, List.any_eq_true]
      simp
    have hrest := ih (seen ++ [d])
    rw [List.append_assoc, List.singleton_append] at hrest
    rw [absorb]
    by_cases h : d.name ∈ seen.map (·.name)
    · rw [firsts_concat_of_mem h] at hrest
      rw [if_pos (hseen.mpr h), hrest, repeats_cons_of_mem h, List.map_cons]
    · rw [firsts_concat_of_not_mem h] at hrest
      rw [if_neg (mt hseen.mp h), hrest, repeats_cons_of_not_mem h]

/-- A file changes the schema of its version and no other; if there is none yet, it comes in. -/
theorem mergeInto_cases {merged : List Schema} (h : Increasing merged) (file : Schema) :
    ∃ s : Schema, s.version = file.version ∧
      (s ∈ merged ∨ s.domains = [] ∧ file.version ∉ merged.map (·.version)) ∧
      (file.mergeInto merged).2 = (s.absorb file.domains).2 ∧
      ∀ t, t ∈ (file.mergeInto merged).1 ↔
        t = (s.absorb file.domains).1 ∨ t ∈ merged ∧ t.version ≠ file.version := by
  induction merged with
  | nil =>
    refine ⟨⟨file.version, []⟩, rfl, .inr ⟨rfl, List.not_mem_nil⟩, rfl, fun t => ?_⟩
    rw [mergeInto]
    simp
  | cons s rest ih =>
    obtain ⟨hfirst, hrest⟩ := List.pairwise_cons.mp h
    rw [mergeInto]
    split
    · rename_i hlt
      -- all versions there are behind that of the file
      have hother (t : Schema) (ht : t ∈ s :: rest) : t.version ≠ file.version := by
        rcases List.mem_cons.mp ht with rfl | ht
        · exact (Version.ne_of_lt hlt).symm
        · exact (Version.ne_of_lt (Version.lt_trans hlt (hfirst t ht))).symm
      refine ⟨⟨file.version, []⟩, rfl, .inr ⟨rfl, ?_⟩, rfl, fun t => ?_⟩
      · rintro hmem
        obtain ⟨t, ht, hversion⟩ := List.mem_map.mp hmem
        exact hother t ht hversion
      · rw [List.mem_cons]
        exact or_congr_right ⟨fun ht => ⟨ht, hother t ht⟩, And.left⟩
    · split
      · rename_i hsame
        have hother (t : Schema) (ht : t ∈ rest) : t.version ≠ file.version := by
          rw [hsame]
          exact (Version.ne_of_lt (hfirst t ht)).symm
        refine ⟨s, hsame.symm, .inl List.mem_cons_self, rfl, fun t => ?_⟩
        rw [List.mem_cons, List.mem_cons]
        constructor
        · rintro (rfl | ht)
          · exact .inl rfl
          · exact .inr ⟨.inr ht, hother t ht⟩
        · rintro (rfl | ⟨rfl | ht, hne⟩)
          · exact .inl rfl
          · exact absurd hsame.symm hne
          · exact .inr ht
      · rename_i hne
        obtain ⟨u, hversion, hu, hwarnings, hmem⟩ := ih hrest
        refine ⟨u, hversion, ?_, hwarnings, fun t => ?_⟩
        · rcases hu with hu | ⟨hnil, hnew⟩
          · exact .inl (List.mem_cons_of_mem _ hu)
          · refine .inr ⟨hnil, ?_⟩
            rw [List.map_cons, List.mem_cons]
            exact not_or.mpr ⟨hne, hnew⟩
        · rw [List.mem_cons, List.mem_cons, hmem]
          constructor
          · rintro (rfl | rfl | ht)
            · exact .inr ⟨.inl rfl, Ne.symm hne⟩
            · exact .inl rfl
            · exact .inr ⟨.inr ht.1, ht.2⟩
          · rintro (rfl | ⟨rfl | ht, hother⟩)
            · exact .inr (.inl rfl)
            · exact .inl rfl
            · exact .inr (.inr ⟨ht, hother⟩)

theorem Increasing.mergeInto {merged : List Schema} (h : Increasing merged) (file : Schema) :
    Increasing (file.mergeInto merged).1 := by
  induction merged with
  | nil => exact List.pairwise_singleton _ _
  | cons s rest ih =>
    obtain ⟨hfirst, hrest⟩ := List.pairwise_cons.mp h
    rw [Schema.mergeInto]
    split
    · rename_i hlt
      refine List.pairwise_cons.mpr ⟨fun t ht => ?_, h⟩
      rw [absorb_version]
      rcases List.mem_cons.mp ht with rfl | ht
      · exact hlt
      · exact Version.lt_trans hlt (hfirst t ht)
    · rename_i hnot
      split
      · refine List.pairwise_cons.mpr ⟨fun t ht => ?_, hrest⟩
        rw [absorb_version]
        exact hfirst t ht
      · rename_i hne
        refine List.pairwise_cons.mpr ⟨fun t ht => ?_, ih hrest⟩
        obtain ⟨u, hversion, -, -, hmem⟩ := mergeInto_cases hrest file
        rcases (hmem t).mp ht with rfl | ⟨ht, -⟩
        · rw [absorb_version, hversion]
          exact Version.lt_of_not_lt hne hnot
        · exact hfirst t ht

/-- A file adds its version. -/
theorem mem_versions_mergeInto {merged : List Schema} (h : Increasing merged) (file : Schema)
    (v : Version) : v ∈ (file.mergeInto merged).1.map (·.version) ↔
      v = file.version ∨ v ∈ merged.map (·.version) := by
  obtain ⟨s, hversion, -, -, hmem⟩ := mergeInto_cases h file
  simp only [List.mem_map, hmem]
  constructor
  · rintro ⟨t, rfl | ⟨ht, -⟩, rfl⟩
    · exact .inl (by rw [absorb_version, hversion])
    · exact .inr ⟨t, ht, rfl⟩
  · intro hv
    by_cases heq : v = file.version
    · exact ⟨_, .inl rfl, by rw [absorb_version, hversion, heq]⟩
    · obtain ⟨t, ht, rfl⟩ := hv.resolve_left heq
      exact ⟨t, .inr ⟨ht, heq⟩, rfl⟩

namespace Gathered

variable {files merged : List Schema}

/-- A step of a merge. -/
theorem mergeInto (h : Gathered files merged) (file : Schema) :
    Gathered (files ++ [file]) (file.mergeInto merged).1 ∧
      (file.mergeInto merged).2 =
        (repeats Definition.key (files.flatMap definitions) file.definitions).map (·.warning) := by
  obtain ⟨s, hversion, hs, hwarnings, hmem⟩ := mergeInto_cases h.increasing file
  -- the schema of the version holds the first definitions of the files so far
  have hstart : s = ⟨file.version, firsts (·.name) (domainsOf file.version files)⟩ := by
    have hdomains : s.domains = firsts (·.name) (domainsOf file.version files) := by
      rcases hs with hs | ⟨hnil, hnew⟩
      · rw [h.domains s hs, hversion]
      · rw [hnil, domainsOf_eq_nil (mt (h.versions _).mpr hnew)]
        rfl
    rw [← hdomains, ← hversion]
  rw [hstart, absorb_eq] at hwarnings hmem
  refine ⟨⟨h.increasing.mergeInto file, fun v => ?_, fun t ht => ?_⟩, ?_⟩
  · rw [mem_versions_mergeInto h.increasing, h.versions, List.map_append, List.mem_append,
      List.map_singleton, List.mem_singleton]
    exact or_comm
  · rw [domainsOf_append]
    rcases (hmem t).mp ht with rfl | ⟨ht, hother⟩
    · simp only [domainsOf_singleton]
    · have hnone : t.version ∉ [file].map (·.version) := by simpa using hother
      rw [h.domains t ht, domainsOf_eq_nil hnone, List.append_nil]
  · rw [hwarnings]
    rw [repeats_definitions, List.map_map]
    rfl

/-- A run of steps. -/
theorem mergeAll (h : Gathered files merged) (more : List Schema) :
    Gathered (files ++ more) (Schema.mergeAll merged more).1 ∧
      (Schema.mergeAll merged more).2 =
        (repeats Definition.key (files.flatMap definitions) (more.flatMap definitions)).map
          (·.warning) := by
  induction more generalizing files merged with
  | nil =>
    rw [List.append_nil]
    exact ⟨h, rfl⟩
  | cons file more ih =>
    obtain ⟨hstep, hwarnings⟩ := h.mergeInto file
    obtain ⟨hrun, hlater⟩ := ih hstep
    rw [Schema.mergeAll, List.append_cons]
    refine ⟨hrun, ?_⟩
    simp only [hwarnings, hlater]
    rw [List.flatMap_cons, repeats_append, List.map_append, List.flatMap_append,
      List.flatMap_singleton]

end Gathered

theorem gathered_merge (files : List Schema) :
    Gathered files (merge files).1 ∧
      (merge files).2 =
        (repeats Definition.key [] (files.flatMap definitions)).map (·.warning) := by
  have hstart : Gathered [] [] := ⟨.nil, fun _ => Iff.rfl, fun _ hs => absurd hs List.not_mem_nil⟩
  exact hstart.mergeAll files

/-- **One schema for each version, in increasing order.** -/
theorem merge_versions (files : List Schema) :
    Increasing (merge files).1 ∧
      ∀ v, v ∈ (merge files).1.map (·.version) ↔ v ∈ files.map (·.version) :=
  ⟨(gathered_merge files).1.increasing, (gathered_merge files).1.versions⟩

/-! ## The result is determined -/

/-- Two lists of files that have the same versions, and the same first definitions of each. -/
structure Alike (files files' : List Schema) : Prop where
  versions : ∀ v, v ∈ files.map (·.version) ↔ v ∈ files'.map (·.version)
  domains : ∀ v, firsts (·.name) (domainsOf v files) = firsts (·.name) (domainsOf v files')

theorem Alike.gathered {files files' merged : List Schema} (h : Alike files files')
    (hmerged : Gathered files merged) : Gathered files' merged where
  increasing := hmerged.increasing
  versions v := (hmerged.versions v).trans (h.versions v)
  domains s hs := (hmerged.domains s hs).trans (h.domains s.version)

instance : Std.Irrefl fun s t : Schema => s.version.lt t.version = true :=
  ⟨fun _ h => Version.ne_of_lt h rfl⟩

instance : Std.Antisymm fun s t : Schema => s.version.lt t.version = true :=
  ⟨fun _ _ h h' => absurd rfl (Version.ne_of_lt (Version.lt_trans h h'))⟩

namespace Gathered

variable {files merged merged' : List Schema}

theorem subset (h : Gathered files merged) (h' : Gathered files merged') : merged ⊆ merged' := by
  intro s hs
  have hversion : s.version ∈ merged'.map (·.version) :=
    (h'.versions _).mpr ((h.versions _).mp (List.mem_map_of_mem hs))
  obtain ⟨t, ht, heq⟩ := List.mem_map.mp hversion
  have hdomains : t.domains = s.domains := by rw [h.domains s hs, h'.domains t ht, heq]
  have hst : t = s := by
    cases t
    cases s
    exact congr (congrArg Schema.mk heq) hdomains
  exact hst ▸ ht

/-- What is gathered from files is determined: schemas in order of their versions are told by which
ones they are. -/
theorem unique (h : Gathered files merged) (h' : Gathered files merged') : merged = merged' :=
  h.increasing.eq_of_mem_iff h'.increasing fun _ =>
    ⟨fun hs => h.subset h' hs, fun hs => h'.subset h hs⟩

end Gathered

/-- **What merging does.** Merging files gives one schema for each version among them, in increasing
order; the domains of each are the first definitions of the version, in the order in which they were
seen, none of them twice and none left out; and the warnings are the definitions that are dropped,
in the order in which they stand. Nothing else is a merge of the files. -/
theorem merge_eq_iff {files merged : List Schema} {warnings : List Warning} :
    merge files = (merged, warnings) ↔ IsMerge files merged warnings := by
  obtain ⟨hgathered, hwarnings⟩ := gathered_merge files
  constructor
  · intro h
    rw [h] at hgathered hwarnings
    refine ⟨hgathered, fun s hs => ?_, fun s hs name => ?_, hwarnings⟩
    · rw [hgathered.domains s hs]
      exact nodup_map_firsts ..
    · rw [domain?, hgathered.domains s hs]
      exact find?_firsts ..
  · intro h
    exact Prod.ext (hgathered.unique h.toGathered) (hwarnings.trans h.warnings.symm)

/-- Two files of one version, and one of the version before. -/
def threeFiles : List Schema :=
  [⟨⟨"1", "2"⟩, [.ofRecordNames "Page" ["Frame"], .ofRecordNames "DOM" ["Node"]]⟩,
    ⟨⟨"1", "1"⟩, [.ofRecordNames "Page" []]⟩,
    ⟨⟨"1", "2"⟩, [.ofRecordNames "Runtime" [], .ofRecordNames "Page" ["Script"]]⟩]

example : (merge threeFiles).1.map (fun s => (s.version.tag, s.domains.map (·.name))) =
    [("1.1", ["Page"]), ("1.2", ["Page", "DOM", "Runtime"])] := by
  decide +kernel

/-! ## Every definition is kept or reported -/

/-- The warnings that definitions of a version would give. -/
def labels (v : Version) (domains : List Domain) : List Warning :=
  domains.map fun d => .domainDropped v d.name

/-- The warnings that all definitions in files would give. -/
def allLabels (files : List Schema) : List Warning :=
  files.flatMap fun file => labels file.version file.domains

@[simp] theorem allLabels_cons (file : Schema) (files : List Schema) :
    allLabels (file :: files) = labels file.version file.domains ++ allLabels files :=
  rfl

@[simp] theorem allLabels_append (files more : List Schema) :
    allLabels (files ++ more) = allLabels files ++ allLabels more :=
  List.flatMap_append

theorem labels_concat (v : Version) (domains : List Domain) (d : Domain) :
    labels v (domains ++ [d]) = labels v domains ++ [.domainDropped v d.name] :=
  List.map_append

theorem labels_cons (v : Version) (domains : List Domain) (d : Domain) :
    labels v (d :: domains) = [.domainDropped v d.name] ++ labels v domains :=
  rfl

theorem count_absorb (w : Warning) (v : Version) (seen domains : List Domain) :
    (labels v (absorb ⟨v, seen⟩ domains).1.domains).count w + (absorb ⟨v, seen⟩ domains).2.count w =
      (labels v seen).count w + (labels v domains).count w := by
  induction domains generalizing seen with
  | nil => rfl
  | cons d ds ih =>
    rw [absorb, labels_cons, List.count_append]
    split
    · have hrest := ih seen
      show (labels v (absorb ⟨v, seen⟩ ds).1.domains).count w +
        ([Warning.domainDropped v d.name] ++ (absorb ⟨v, seen⟩ ds).2).count w = _
      rw [List.count_append]
      omega
    · have hrest := ih (seen ++ [d])
      rw [labels_concat, List.count_append] at hrest
      simp only
      omega

/-- A step keeps the account: what is there and what is reported, against what was there and what
the file brings. -/
theorem count_mergeInto (w : Warning) (file : Schema) (merged : List Schema) :
    (allLabels (file.mergeInto merged).1).count w + (file.mergeInto merged).2.count w =
      (allLabels merged).count w + (labels file.version file.domains).count w := by
  have hnew := count_absorb w file.version [] file.domains
  have hnone : (labels file.version []).count w = 0 := rfl
  induction merged with
  | nil =>
    rw [mergeInto]
    simp only [allLabels_cons, absorb_version, List.count_append]
    omega
  | cons s rest ih =>
    rw [mergeInto]
    split
    · simp only [allLabels_cons, absorb_version, List.count_append]
      omega
    · split
      · rename_i hsame
        have hold : (labels s.version (s.absorb file.domains).1.domains).count w +
            (s.absorb file.domains).2.count w = _ :=
          count_absorb w s.version s.domains file.domains
        simp only [allLabels_cons, absorb_version, List.count_append, hsame]
        omega
      · simp only [allLabels_cons, List.count_append]
        omega

theorem count_mergeAll (w : Warning) (merged files : List Schema) :
    (allLabels (mergeAll merged files).1).count w + (mergeAll merged files).2.count w =
      (allLabels merged).count w + (allLabels files).count w := by
  induction files generalizing merged with
  | nil => rfl
  | cons file files ih =>
    have hstep := count_mergeInto w file merged
    have hrun := ih (file.mergeInto merged).1
    rw [mergeAll]
    simp only [allLabels_cons, List.count_append]
    omega

/-- A definition of a file is kept or reported, each as often as it is there. -/
theorem count_merge (w : Warning) (files : List Schema) :
    (allLabels (merge files).1).count w + (merge files).2.count w = (allLabels files).count w := by
  have h := count_mergeAll w [] files
  have hnone : (allLabels []).count w = 0 := rfl
  rw [hnone, Nat.zero_add] at h
  exact h

/-! ## Merging in stages -/

/-- Of a version, what is merged holds the first definitions. -/
theorem Gathered.domainsOf {files merged : List Schema} (h : Gathered files merged) (v : Version) :
    domainsOf v merged = firsts (·.name) (Schema.domainsOf v files) := by
  by_cases hv : v ∈ merged.map (·.version)
  · obtain ⟨s, hs, rfl⟩ := List.mem_map.mp hv
    obtain ⟨before, after, rfl⟩ := List.append_of_mem hs
    -- no other schema there has the version
    obtain ⟨-, hrest, hbefore⟩ := List.pairwise_append.mp h.increasing
    have hahead : s.version ∉ before.map (·.version) := by
      intro hmem
      obtain ⟨t, ht, heq⟩ := List.mem_map.mp hmem
      exact Version.ne_of_lt (hbefore t ht s List.mem_cons_self) heq
    have hbehind : s.version ∉ after.map (·.version) := by
      intro hmem
      obtain ⟨t, ht, heq⟩ := List.mem_map.mp hmem
      exact Version.ne_of_lt ((List.pairwise_cons.mp hrest).1 t ht) heq.symm
    rw [List.append_cons]
    simp only [domainsOf_append, domainsOf_singleton, domainsOf_eq_nil hahead,
      domainsOf_eq_nil hbehind, List.nil_append, List.append_nil]
    exact h.domains s hs
  · rw [domainsOf_eq_nil hv, domainsOf_eq_nil (mt (h.versions v).mpr hv)]
    rfl

theorem merge_congr {files files' : List Schema} (h : Alike files files') :
    (merge files).1 = (merge files').1 :=
  (h.gathered (gathered_merge files).1).unique (gathered_merge files').1

/-- Merged in two parts, files are as before. -/
theorem alike_merge_append (files more : List Schema) :
    Alike ((merge files).1 ++ (merge more).1) (files ++ more) where
  versions v := by
    simp only [List.map_append, List.mem_append, (gathered_merge _).1.versions]
  domains v := by
    simp [(gathered_merge files).1.domainsOf, (gathered_merge more).1.domainsOf,
      firsts_append_firsts]

theorem alike_swap {s t : Schema} (hne : s.version ≠ t.version) (before after : List Schema) :
    Alike (before ++ s :: t :: after) (before ++ t :: s :: after) where
  versions v := by
    simp only [List.map_append, List.map_cons, List.mem_append, List.mem_cons]
    rw [or_left_comm (a := v = s.version)]
  domains v := by
    -- at most one of the two has the version
    have hpair : domainsOf v [s, t] = domainsOf v [t, s] := by
      unfold domainsOf
      by_cases hs : s.version = v
      · have ht : t.version ≠ v := fun heq => hne (hs.trans heq.symm)
        simp [hs, ht]
      · simp [List.filter_cons, hs]
    have hsplit (a b : Schema) : domainsOf v (before ++ a :: b :: after) =
        domainsOf v before ++ (domainsOf v [a, b] ++ domainsOf v after) := by
      rw [← domainsOf_append, ← domainsOf_append]
      rfl
    rw [hsplit, hsplit, hpair]

/-- **Merging is incremental.** Files that are merged in two parts, and then the two results, give
what all of them give at once, with the same warnings in some order; what is merged already stays as
it is, without a warning; and two neighbours of different versions can change places, which changes
no more than the order of the warnings. -/
theorem merge_incremental :
    (∀ xs ys : List Schema,
      (merge ((merge xs).1 ++ (merge ys).1)).1 = (merge (xs ++ ys)).1 ∧
        ((merge xs).2 ++ (merge ys).2 ++ (merge ((merge xs).1 ++ (merge ys).1)).2).Perm
          (merge (xs ++ ys)).2) ∧
    (∀ xs : List Schema, merge (merge xs).1 = ((merge xs).1, [])) ∧
    ∀ (before after : List Schema) (s t : Schema), s.version ≠ t.version →
      (merge (before ++ s :: t :: after)).1 = (merge (before ++ t :: s :: after)).1 ∧
        (merge (before ++ s :: t :: after)).2.Perm (merge (before ++ t :: s :: after)).2 := by
  have hstages (xs ys : List Schema) := merge_congr (alike_merge_append xs ys)
  refine ⟨fun xs ys => ⟨hstages xs ys, ?_⟩, fun xs => ?_, fun before after s t hne => ?_⟩
  · rw [List.perm_iff_count]
    intro w
    have hxs := count_merge w xs
    have hys := count_merge w ys
    have hlast := count_merge w ((merge xs).1 ++ (merge ys).1)
    have hall := count_merge w (xs ++ ys)
    rw [hstages] at hlast
    simp only [allLabels_append, List.count_append] at hlast hall ⊢
    omega
  · have hagain : (merge (merge xs).1).1 = (merge xs).1 := by
      have h := hstages xs []
      rwa [List.append_nil, show (merge []).1 = [] from rfl, List.append_nil] at h
    refine Prod.ext hagain (List.eq_nil_iff_forall_not_mem.mpr fun w hw => ?_)
    have hcount := count_merge w (merge xs).1
    have hpos := List.count_pos_iff.mpr hw
    rw [hagain] at hcount
    omega
  · have hsame := merge_congr (alike_swap hne before after)
    refine ⟨hsame, List.perm_iff_count.mpr fun w => ?_⟩
    have hfirst := count_merge w (before ++ s :: t :: after)
    have hsecond := count_merge w (before ++ t :: s :: after)
    rw [hsame] at hfirst
    simp only [allLabels_append, allLabels_cons, List.count_append] at hfirst hsecond
    omega

/-- The two neighbours come out in order of their versions, whichever is merged first. -/
theorem merge_incremental_of_neighbours :
    let newer : Schema := ⟨⟨"1", "2"⟩, [.ofRecordNames "Page" ["Frame"], .ofRecordNames "Page" []]⟩
    let older : Schema := ⟨⟨"1", "1"⟩, [.ofRecordNames "DOM" [], .ofRecordNames "DOM" ["Node"]]⟩
    newer.version ≠ older.version ∧
      (merge (threeFiles ++ newer :: older :: threeFiles)).1 =
        (merge (threeFiles ++ older :: newer :: threeFiles)).1 ∧
      (merge (threeFiles ++ newer :: older :: threeFiles)).2.Perm
        (merge (threeFiles ++ older :: newer :: threeFiles)).2 := by
  intro newer older
  have hne : newer.version ≠ older.version := by decide
  exact ⟨hne, merge_incremental.2.2 threeFiles threeFiles newer older hne⟩

end Schema

end Bindery
