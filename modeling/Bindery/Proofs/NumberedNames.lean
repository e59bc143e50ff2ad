import Bindery.Binding.Record
import Mathlib.Data.List.Nodup
import Mathlib.Data.List.Perm.Subperm

/-!
# Numbered names

The fields of a record and the constants of an enumeration are named one after the other, each after
a text of its own. A text that is a name already is numbered: the names that could be tried for it
are its `candidate`s, and one more of them than there are names is enough to find an unused one
(`exists_free_candidate`). So what `firstUnused` gives is `NamedAfter` the text, and names given in
a row are pairwise different (`nodup_namesFrom`). A text whose candidates no other text shares uses
up one of them each time it stands in the row (`candidate_mem_namesFrom_iff`).
-/

namespace Bindery

/-- The names to try for a text, in order: the text itself, then the text with a number from 2
on. -/
def candidate (base mark : String) : Nat → String
  | 0 => base
  | k + 1 => base ++ mark ++ toString (k + 2)

/-- A name for a text beside names that are taken: the text itself if it is none of them, otherwise
the text with the smallest number from 2 on that makes it none of them. Counting to that number
takes no more tries than there are names. -/
inductive NamedAfter (taken : List String) (base mark : String) : String → Prop where
  | plain (hfree : base ∉ taken) : NamedAfter taken base mark base
  | numbered {n : Nat} (hbase : base ∈ taken) (hn : 2 ≤ n) (hbound : n ≤ taken.length + 1)
      (hfree : base ++ mark ++ toString n ∉ taken)
      (hsmallest : ∀ m, 2 ≤ m → m < n → base ++ mark ++ toString m ∈ taken) :
      NamedAfter taken base mark (base ++ mark ++ toString n)

variable {taken : List String} {base mark : String}

/-! ## Candidates -/

theorem toString_inj {m n : Nat} (h : toString m = toString n) : m = n := by
  rw [Nat.toString_eq_ofList_toDigits, Nat.toString_eq_ofList_toDigits] at h
  rw [← Nat.ofDigitChars_toDigits (b := 10) (n := m) (by decide) (by decide),
    ← Nat.ofDigitChars_toDigits (b := 10) (n := n) (by decide) (by decide), String.ofList_inj.mp h]

theorem isDigit_of_mem_toString {c : Char} {n : Nat} (h : c ∈ (toString n).toList) :
    c.isDigit = true := by
  rw [Nat.toString_eq_ofList_toDigits, String.toList_ofList] at h
  exact Nat.isDigit_of_mem_toDigits (by decide) (by decide) h

theorem ne_append_toString (n : Nat) : base ≠ base ++ mark ++ toString n := by
  intro h
  have hlength := congrArg String.length h
  have hdigits : 0 < (toString n).length := by
    rw [Nat.toString_eq_ofList_toDigits, String.length_ofList]
    exact List.length_pos_of_ne_nil Nat.toDigits_ne_nil
  rw [String.length_append, String.length_append] at hlength
  omega

/-- A text gives a different name at every try. -/
theorem candidate_injective : Function.Injective (candidate base mark) := by
  intro j k h
  cases j with
  | zero =>
    cases k with
    | zero => rfl
    | succ k => exact absurd h (ne_append_toString _)
  | succ j =>
    cases k with
    | zero => exact absurd h.symm (ne_append_toString _)
    | succ k =>
      have hnumber := toString_inj ((String.append_right_inj _).mp h)
      omega

/-- A number brings nothing but digits and the mark into a name. -/
theorem mem_candidate {c : Char} {k : Nat} (h : c ∈ (candidate base mark k).toList) :
    c ∈ base.toList ∨ c ∈ mark.toList ∨ c.isDigit = true := by
  cases k with
  | zero => exact .inl h
  | succ k =>
    rw [candidate, String.toList_append, String.toList_append, List.mem_append, List.mem_append,
      or_assoc] at h
    exact h.imp_right (.imp_right isDigit_of_mem_toString)

/-- A name holds the mark of raw identifiers only if the text does. -/
theorem hash_mem_of_candidate {k : Nat} (hmark : '#' ∉ mark.toList)
    (h : '#' ∈ (candidate base mark k).toList) : '#' ∈ base.toList := by
  rcases mem_candidate h with hbase | hmem | hdigit
  · exact hbase
  · exact absurd hmem hmark
  · exact absurd hdigit (by decide)

/-- Of the names to try, one more than there are taken ones cannot all be taken. -/
theorem exists_free_candidate (taken : List String) (base mark : String) :
    ∃ k ≤ taken.length, candidate base mark k ∉ taken := by
  by_contra hnone
  push Not at hnone
  have htried : ((List.range (taken.length + 1)).map (candidate base mark)).Nodup :=
    List.nodup_range.map candidate_injective
  have hsubset : (List.range (taken.length + 1)).map (candidate base mark) ⊆ taken := by
    intro name hname
    obtain ⟨k, hk, rfl⟩ := List.mem_map.mp hname
    have hlt := List.mem_range.mp hk
    exact hnone k (by omega)
  have hlength := (List.subperm_of_subset htried hsubset).length_le
  rw [List.length_map, List.length_range] at hlength
  omega

/-! ## The first unused name -/

theorem firstUnused_eq_find? (taken : List String) (base mark : String) :
    firstUnused taken base mark =
      (((List.range (taken.length + 1)).map (candidate base mark)).find?
        fun name => !taken.contains name).getD base := by
  rw [firstUnused, List.range_succ_eq_map, List.map_cons, List.map_map]
  rfl

/-- The name that is given is the first candidate that is not taken. -/
theorem firstUnused_eq_candidate (taken : List String) (base mark : String) :
    ∃ k ≤ taken.length, firstUnused taken base mark = candidate base mark k ∧
      candidate base mark k ∉ taken ∧ ∀ j < k, candidate base mark j ∈ taken := by
  rw [firstUnused_eq_find?, List.find?_map]
  cases hfound : (List.range (taken.length + 1)).find?
      ((fun name => !taken.contains name) ∘ candidate base mark) with
  | none =>
    obtain ⟨k, hk, hfree⟩ := exists_free_candidate taken base mark
    have htaken := List.find?_eq_none.mp hfound k (List.mem_range.mpr (by omega))
    simp [hfree] at htaken
  | some k =>
    obtain ⟨hfree, hk, hbefore⟩ := List.find?_range_eq_some.mp hfound
    have hlt := List.mem_range.mp hk
    refine ⟨k, by omega, rfl, by simpa using hfree, fun j hj => ?_⟩
    simpa using hbefore j hj

theorem namedAfter_firstUnused (taken : List String) (base mark : String) :
    NamedAfter taken base mark (firstUnused taken base mark) := by
  obtain ⟨k, hk, hname, hfree, hbefore⟩ := firstUnused_eq_candidate taken base mark
  rw [hname]
  cases k with
  | zero => exact .plain hfree
  | succ k =>
    refine .numbered (hbefore 0 (by omega)) (by omega) (by omega) hfree fun m hm hlt => ?_
    have hearlier := hbefore (m - 1) (by omega)
    obtain ⟨j, rfl⟩ : ∃ j, m = j + 2 := ⟨m - 2, by omega⟩
    exact hearlier

theorem NamedAfter.eq_of_free {name : String} (h : NamedAfter taken base mark name)
    (hfree : base ∉ taken) : name = base := by
  cases h with
  | plain => rfl
  | numbered hbase => exact absurd hbase hfree

theorem firstUnused_not_mem (taken : List String) (base mark : String) :
    firstUnused taken base mark ∉ taken := by
  obtain ⟨k, -, hname, hfree, -⟩ := firstUnused_eq_candidate taken base mark
  rwa [hname]

theorem firstUnused_reverse (taken : List String) (base mark : String) :
    firstUnused taken.reverse base mark = firstUnused taken base mark := by
  simp only [firstUnused, List.length_reverse, List.contains_reverse]

/-! ## Names in a row -/

/-- The names of texts in a row, beside names that are taken. -/
def namesFrom (mark : String) (taken : List String) : List String → List String
  | [] => []
  | base :: rest =>
    firstUnused taken base mark :: namesFrom mark (firstUnused taken base mark :: taken) rest

theorem length_namesFrom (mark : String) (taken bases : List String) :
    (namesFrom mark taken bases).length = bases.length := by
  induction bases generalizing taken with
  | nil => rfl
  | cons base rest ih => rw [namesFrom, List.length_cons, List.length_cons, ih]

@[simp] theorem namesFrom_append (mark : String) (taken xs ys : List String) :
    namesFrom mark taken (xs ++ ys) =
      namesFrom mark taken xs ++
        namesFrom mark ((namesFrom mark taken xs).reverse ++ taken) ys := by
  induction xs generalizing taken with
  | nil => rfl
  | cons base xs ih =>
    rw [List.cons_append, namesFrom, namesFrom, ih, List.reverse_cons, List.append_assoc,
      List.cons_append]
    rfl

/-- What a text is named depends on the names in front of it, and on nothing behind it. -/
theorem namesFrom_nil_append_cons (mark : String) (before : List String) (base : String)
    (after : List String) :
    ∃ name later, namesFrom mark [] (before ++ base :: after) =
        namesFrom mark [] before ++ name :: later ∧
      NamedAfter (namesFrom mark [] before) base mark name := by
  refine ⟨_, _, by rw [namesFrom_append, List.append_nil, namesFrom], ?_⟩
  rw [firstUnused_reverse]
  exact namedAfter_firstUnused _ _ _

/-- **Names given in a row are pairwise different**, and none of them was taken before. -/
theorem nodup_namesFrom (mark : String) (taken bases : List String) :
    (namesFrom mark taken bases).Nodup ∧ ∀ name ∈ namesFrom mark taken bases, name ∉ taken := by
  induction bases generalizing taken with
  | nil => exact ⟨.nil, fun name hname => absurd hname List.not_mem_nil⟩
  | cons base rest ih =>
    obtain ⟨hnodup, hfree⟩ := ih (firstUnused taken base mark :: taken)
    refine ⟨List.nodup_cons.mpr ⟨fun hmem => hfree _ hmem List.mem_cons_self, hnodup⟩, ?_⟩
    refine List.forall_mem_cons.mpr ⟨firstUnused_not_mem taken base mark, fun name hname => ?_⟩
    exact fun hmem => hfree name hname (List.mem_cons_of_mem _ hmem)

theorem exists_candidate_of_mem {bases : List String} {name : String}
    (h : name ∈ namesFrom mark taken bases) :
    ∃ base ∈ bases, ∃ k, name = candidate base mark k := by
  induction bases generalizing taken with
  | nil => exact absurd h List.not_mem_nil
  | cons base rest ih =>
    rcases List.mem_cons.mp h with rfl | hrest
    · obtain ⟨k, -, hname, -⟩ := firstUnused_eq_candidate taken base mark
      exact ⟨base, List.mem_cons_self, k, hname⟩
    · obtain ⟨base', hbase', k, rfl⟩ := ih hrest
      exact ⟨base', List.mem_cons_of_mem _ hbase', k, rfl⟩

/-- Every text in the row is the name of something in the end. -/
theorem mem_namesFrom_of_mem {bases : List String} (hbase : base ∈ bases) :
    base ∈ namesFrom mark taken bases ∨ base ∈ taken := by
  induction bases generalizing taken with
  | nil => exact absurd hbase List.not_mem_nil
  | cons first rest ih =>
    rw [namesFrom, List.mem_cons]
    rcases List.mem_cons.mp hbase with rfl | hrest
    · by_cases htaken : base ∈ taken
      · exact .inr htaken
      · exact .inl (.inl ((namedAfter_firstUnused taken base mark).eq_of_free htaken).symm)
    · have hlater : base ∈ namesFrom mark (firstUnused taken first mark :: taken) rest ∨
          base ∈ firstUnused taken first mark :: taken := ih hrest
      rcases hlater with hmem | hmem
      · exact .inl (.inr hmem)
      · rcases List.mem_cons.mp hmem with heq | htaken
        · exact .inl (.inl heq)
        · exact .inr htaken

/-- If no other text shares a candidate with a text, each time that the text stands in the row it
uses up its next candidate. -/
theorem candidate_mem_namesFrom_or_taken_iff {bases : List String}
    (hown : ∀ other ∈ bases, other ≠ base →
      ∀ i j, candidate other mark i ≠ candidate base mark j) {used : Nat}
    (hused : ∀ j, candidate base mark j ∈ taken ↔ j < used) (j : Nat) :
    (candidate base mark j ∈ namesFrom mark taken bases ∨ candidate base mark j ∈ taken) ↔
      j < used + bases.count base := by
  induction bases generalizing taken used with
  | nil => simp [namesFrom, hused]
  | cons first rest ih =>
    obtain ⟨hfirst, hrest⟩ := List.forall_mem_cons.mp hown
    have hregroup : (candidate base mark j ∈ namesFrom mark taken (first :: rest) ∨
        candidate base mark j ∈ taken) ↔
          candidate base mark j ∈ namesFrom mark (firstUnused taken first mark :: taken) rest ∨
            candidate base mark j ∈ firstUnused taken first mark :: taken := by
      rw [namesFrom, List.mem_cons, List.mem_cons, or_assoc]
      exact or_left_comm
    rw [hregroup]
    obtain ⟨k, -, hname, hfree, hbefore⟩ := firstUnused_eq_candidate taken first mark
    by_cases heq : first = base
    · subst heq
      -- the candidates that are taken are the first ones, so the next one is given
      have hk : k = used := by
        have hge := mt (hused k).mpr hfree
        by_contra hne
        have hlt := (hused used).mp (hbefore used (by omega))
        omega
      subst hk
      have hnext (i : Nat) :
          candidate first mark i ∈ firstUnused taken first mark :: taken ↔ i < k + 1 := by
        rw [List.mem_cons, hname, hused i, candidate_injective.eq_iff]
        omega
      rw [ih hrest hnext, List.count_cons_self]
      omega
    · have hnext (i : Nat) :
          candidate base mark i ∈ firstUnused taken first mark :: taken ↔ i < used := by
        rw [List.mem_cons, hname, hused i, or_iff_right (hfirst heq k i).symm]
      rw [ih hrest hnext, List.count_cons_of_ne heq]

/-- As many candidates of such a text are names as the text has places in the row. -/
theorem candidate_mem_namesFrom_iff {bases : List String}
    (hown : ∀ other ∈ bases, other ≠ base →
      ∀ i j, candidate other mark i ≠ candidate base mark j) (j : Nat) :
    candidate base mark j ∈ namesFrom mark [] bases ↔ j < bases.count base := by
  have hused (i : Nat) : candidate base mark i ∈ [] ↔ i < 0 := by simp
  have hcount := candidate_mem_namesFrom_or_taken_iff hown hused j
  simpa using hcount

end Bindery
