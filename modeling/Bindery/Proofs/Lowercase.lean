import Bindery.Text.FinalSigma
import Mathlib

/-!
# Lower-casing twice

A text in lower case stays as it is when it is lower-cased again (`lowercase_lowercase`). What the
case mapping of a character gives is not mapped further: no image of a run is a character of a run
(`lowerRuns_apart`). It brings no newline into a text either (`newline_not_mem_lowercase`).
-/

namespace Bindery.Text

/-! ## The runs -/

namespace CaseRun

theorem map?_eq_some {r : CaseRun} {n code : Nat} (h : r.map? n = some code) :
    r.first ≤ n ∧ n ≤ r.last ∧ (n - r.first) % r.step = 0 ∧ code = r.image + (n - r.first) := by
  unfold map? at h
  split at h
  · rename_i hrun
    simp only [Bool.and_eq_true, decide_eq_true_eq, beq_iff_eq] at hrun
    exact ⟨hrun.1.1, hrun.1.2, hrun.2, (Option.some.inj h).symm⟩
  · cases h

/-- The images of a run lie below or above the characters of another one, or in between where both
move by two. -/
def apartFrom (r s : CaseRun) : Bool :=
  r.image + (r.last - r.first) < s.first || s.last < r.image ||
    (s.step == 2 && (r.step == 2 || r.first == r.last) && (r.image + s.first) % 2 == 1)

theorem map?_eq_none_of_apartFrom {r s : CaseRun} (h : r.apartFrom s = true) {n code : Nat}
    (hcode : r.map? n = some code) : s.map? code = none := by
  obtain ⟨hfirst, hlast, hstep, rfl⟩ := map?_eq_some hcode
  cases hmapped : s.map? (r.image + (n - r.first)) with
  | none => rfl
  | some code' =>
    obtain ⟨hfirst', hlast', hstep', -⟩ := map?_eq_some hmapped
    simp only [apartFrom, Bool.or_eq_true, Bool.and_eq_true, decide_eq_true_eq, beq_iff_eq] at h
    rcases h with (hbelow | habove) | ⟨⟨htwo, hparity⟩, hodd⟩
    · omega
    · omega
    · rw [htwo] at hstep'
      rcases hparity with htwo' | hsingle
      · rw [htwo'] at hstep
        omega
      · omega

/-- The images of a run are characters above ASCII, or the small k alone, and the dotted capital I,
which no run maps, is none of them. -/
def leadsToLower (r : CaseRun) : Bool :=
  (128 ≤ r.image && (r.image + (r.last - r.first) < 304 || 304 < r.image) &&
      (r.image + (r.last - r.first) < 55296 ||
        57343 < r.image && r.image + (r.last - r.first) < 1114112)) ||
    (r.image == 107 && r.first == r.last)

end CaseRun

/-- No image of a run is a character of a run. -/
theorem lowerRuns_apart :
    (lowerRuns.all fun r => lowerRuns.all fun s => r.apartFrom s) = true := by
  decide +kernel

theorem lowerRuns_leadToLower : lowerRuns.all CaseRun.leadsToLower = true := by
  decide +kernel

/-! ## Characters -/

/-- A character that a run gives is mapped no further, and is no newline. -/
theorem toLower_of_mem_runs {n code : Nat}
    (h : lowerRuns.findSome? (·.map? n) = some code) :
    toLower (Char.ofNat code) = [Char.ofNat code] ∧ Char.ofNat code ≠ '\n' := by
  obtain ⟨r, hr, hcode⟩ := List.exists_of_findSome?_eq_some h
  have hnone : lowerRuns.findSome? (·.map? code) = none := by
    refine List.findSome?_eq_none_iff.mpr fun s hs => ?_
    exact CaseRun.map?_eq_none_of_apartFrom
      (List.all_eq_true.mp (List.all_eq_true.mp lowerRuns_apart r hr) s hs) hcode
  obtain ⟨hfirst, hlast, -, himage⟩ := CaseRun.map?_eq_some hcode
  have hlower := List.all_eq_true.mp lowerRuns_leadToLower r hr
  simp only [CaseRun.leadsToLower, Bool.or_eq_true, Bool.and_eq_true, decide_eq_true_eq,
    beq_iff_eq] at hlower
  rcases hlower with ⟨⟨hascii, hdotted⟩, hvalid⟩ | ⟨hk, hsingle⟩
  · have hvalid : code.isValidChar := by
      unfold Nat.isValidChar
      omega
    have hcode : (Char.ofNat code).toNat = code := by rw [Char.toNat_ofNat, if_pos hvalid]
    have hnosequence : lowerSequences.lookup code = none := by
      have hne : (code == 304) = false := beq_eq_false_iff_ne.mpr (by omega)
      rw [lowerSequences, List.lookup_cons, hne]
      rfl
    refine ⟨?_, fun hnewline => ?_⟩
    · rw [toLower, hcode, if_neg (by omega), mapCase, hcode, hnone, hnosequence]
    · have hten : code = 10 := by rw [← hcode, hnewline]; rfl
      omega
  · obtain rfl : code = 107 := by omega
    exact ⟨by decide, by decide⟩

theorem toLower_of_mem_sequences {n : Nat} {codes : List Nat} {c : Char}
    (h : lowerSequences.lookup n = some codes) (hc : c ∈ codes.map Char.ofNat) :
    toLower c = [c] ∧ c ≠ '\n' := by
  simp only [lowerSequences, List.lookup] at h
  split at h
  · obtain rfl := Option.some.inj h
    simp only [List.map_cons, List.map_nil, List.mem_cons, List.not_mem_nil, or_false] at hc
    rcases hc with rfl | rfl <;> exact ⟨by decide +kernel, by decide⟩
  · cases h

theorem toLower_of_ascii_toLower {c : Char} (hascii : c.toNat < 128) :
    toLower c.toLower = [c.toLower] ∧ (c.toLower = '\n' → c = '\n') :=
  forall_ascii (p := fun c => toLower c.toLower = [c.toLower] ∧ (c.toLower = '\n' → c = '\n'))
    (by decide +kernel) hascii

/-- **What a character becomes in lower case stays.** It brings no newline either. -/
theorem toLower_of_mem_toLower {c c' : Char} (h : c' ∈ toLower c) :
    toLower c' = [c'] ∧ (c' = '\n' → c = '\n') := by
  by_cases hascii : c.toNat < 128
  · rw [toLower_of_ascii hascii, List.mem_singleton] at h
    subst h
    exact toLower_of_ascii_toLower hascii
  · rw [toLower, if_neg hascii, mapCase] at h
    split at h
    · rename_i code hcode
      obtain rfl := List.mem_singleton.mp h
      exact (toLower_of_mem_runs hcode).imp_right fun hne heq => absurd heq hne
    · rename_i hnone
      split at h
      · rename_i codes hcodes
        exact (toLower_of_mem_sequences hcodes h).imp_right fun hne heq => absurd heq hne
      · rename_i hnosequence
        obtain rfl := List.mem_singleton.mp h
        refine ⟨?_, id⟩
        rw [toLower, if_neg hascii, mapCase, hnone, hnosequence]

/-! ## Texts -/

/-- The character is its own lower-case form, wherever it stands. -/
def IsLower (c : Char) : Prop := ∀ before after, toLowerBetween before c after = [c]

theorem isLower_of_toLower {c : Char} (h : toLower c = [c]) : IsLower c := by
  intro before after
  have hsigma : c ≠ 'Σ' := by
    rintro rfl
    exact absurd h (by decide +kernel)
  rw [toLowerBetween, if_neg hsigma]
  exact h

theorem of_mem_toLowerBetween {before after : List Char} {c c' : Char}
    (h : c' ∈ toLowerBetween before c after) : IsLower c' ∧ (c' = '\n' → c = '\n') := by
  unfold toLowerBetween at h
  split at h
  · split at h <;> obtain rfl := List.mem_singleton.mp h <;>
      exact ⟨isLower_of_toLower (by decide +kernel), fun heq => absurd heq (by decide)⟩
  · exact (toLower_of_mem_toLower h).imp_left isLower_of_toLower

theorem of_mem_lowercaseFrom {before cs : List Char} {c' : Char}
    (h : c' ∈ lowercaseFrom before cs) : IsLower c' ∧ (c' = '\n' → '\n' ∈ cs) := by
  induction cs generalizing before with
  | nil => exact absurd h List.not_mem_nil
  | cons c after ih =>
    rcases List.mem_append.mp h with hfirst | hrest
    · obtain ⟨hlower, hnewline⟩ := of_mem_toLowerBetween hfirst
      exact ⟨hlower, fun heq => hnewline heq ▸ List.mem_cons_self⟩
    · exact (ih hrest).imp_right fun hnewline heq => List.mem_cons_of_mem c (hnewline heq)

theorem lowercaseFrom_of_isLower {before cs : List Char} (h : ∀ c ∈ cs, IsLower c) :
    lowercaseFrom before cs = cs := by
  induction cs generalizing before with
  | nil => rfl
  | cons c after ih =>
    rw [lowercaseFrom, h c List.mem_cons_self, ih fun c' hc' => h c' (List.mem_cons_of_mem c hc')]
    rfl

/-- **A text in lower case is its own lower-case form.** -/
theorem lowercase_lowercase (s : String) : lowercase (lowercase s) = lowercase s := by
  unfold lowercase
  rw [String.toList_ofList, lowercaseFrom_of_isLower fun c hc => (of_mem_lowercaseFrom hc).1]

theorem newline_not_mem_lowercase {s : String} (h : '\n' ∉ s.toList) :
    '\n' ∉ (lowercase s).toList := by
  unfold lowercase
  rw [String.toList_ofList]
  exact fun hmem => h ((of_mem_lowercaseFrom hmem).2 rfl)

end Bindery.Text
