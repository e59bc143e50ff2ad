import Bindery.Proofs.Identifiers
import Mathlib.Data.String.Basic

/-!
# Versions and their directories

The directory of a version joins the parts of the version with an underscore, and a part may hold
underscores itself: two versions have one directory if a piece of the first part of the one moves to
the second part of the other (`Version.dirName_eq_iff`). Their tags are different then, since the
tag has a dot where the directory has an underscore (`Version.eq_of_dirName_of_tag`). Versions are
in order of their parts, as texts.
-/

namespace Bindery

namespace Version

/-- The first part of a version is that of the other with a piece behind it, and this piece stands
in front of the second part of the other. -/
def RunsInto (v w : Version) : Prop :=
  ∃ piece, v.major = w.major ++ "_" ++ piece ∧ w.minor = piece ++ "_" ++ v.minor

theorem dirName_eq (v : Version) : v.dirName = "v" ++ (v.major ++ ("_" ++ v.minor)) := by
  show "v" ++ v.major ++ "_" ++ v.minor = _
  rw [String.append_assoc, String.append_assoc]

theorem tag_eq (v : Version) : v.tag = v.major ++ ("." ++ v.minor) := by
  show v.major ++ "." ++ v.minor = _
  rw [String.append_assoc]

/-- An underscore in front of a text, and one within it. -/
theorem underscore_shift {a b x : String} :
    "_" ++ a = x ++ ("_" ++ b) ↔
      (x = "" ∧ a = b) ∨ ∃ piece, x = "_" ++ piece ∧ a = piece ++ "_" ++ b := by
  constructor
  · intro h
    have hmark : "_".toList = ['_'] := rfl
    rw [← String.toList_inj] at h
    simp only [String.toList_append, hmark, List.singleton_append] at h
    cases hx : x.toList with
    | nil =>
      rw [hx] at h
      refine .inl ⟨String.toList_inj.mp hx, String.toList_inj.mp ?_⟩
      exact (List.cons.inj h).2
    | cons c piece =>
      rw [hx] at h
      obtain ⟨rfl, ha⟩ := List.cons.inj h
      refine .inr ⟨String.ofList piece, ?_, ?_⟩
      · rw [← String.toList_inj, hx]
        simp
      · rw [← String.toList_inj]
        simpa using ha
  · rintro (⟨rfl, rfl⟩ | ⟨piece, rfl, rfl⟩)
    · rw [String.empty_append]
    · simp only [String.append_assoc]

theorem eq_of_parts {v w : Version} (hmajor : v.major = w.major) (hminor : v.minor = w.minor) :
    v = w := by
  cases v
  cases w
  exact congr (congrArg Version.mk hmajor) hminor

/-- **When versions share a directory.** -/
theorem dirName_eq_iff {v w : Version} :
    v.dirName = w.dirName ↔ v = w ∨ v.RunsInto w ∨ w.RunsInto v := by
  have hsplit : v.dirName = w.dirName ↔
      v.major ++ ("_" ++ v.minor) = w.major ++ ("_" ++ w.minor) := by
    rw [dirName_eq, dirName_eq, String.append_right_inj]
  rw [hsplit, append_eq_append_iff_shift]
  constructor
  · rintro ⟨x, ⟨hmajor, hminor⟩ | ⟨hmajor, hminor⟩⟩
    · rcases underscore_shift.mp hminor with ⟨rfl, heq⟩ | ⟨piece, rfl, heq⟩
      · rw [String.append_empty] at hmajor
        exact .inl (eq_of_parts hmajor heq.symm)
      · exact .inr (.inl ⟨piece, by rw [hmajor, String.append_assoc], heq⟩)
    · rcases underscore_shift.mp hminor with ⟨rfl, heq⟩ | ⟨piece, rfl, heq⟩
      · rw [String.append_empty] at hmajor
        exact .inl (eq_of_parts hmajor.symm heq)
      · exact .inr (.inr ⟨piece, by rw [hmajor, String.append_assoc], heq⟩)
  · rintro (rfl | ⟨piece, hmajor, hminor⟩ | ⟨piece, hmajor, hminor⟩)
    · exact ⟨"", .inl ⟨String.append_empty.symm, String.empty_append.symm⟩⟩
    · refine ⟨"_" ++ piece, .inl ⟨by rw [hmajor, String.append_assoc], ?_⟩⟩
      exact underscore_shift.mpr (.inr ⟨piece, rfl, hminor⟩)
    · refine ⟨"_" ++ piece, .inr ⟨by rw [hmajor, String.append_assoc], ?_⟩⟩
      exact underscore_shift.mpr (.inr ⟨piece, rfl, hminor⟩)

theorem RunsInto.tag_ne {v w : Version} (h : v.RunsInto w) : v.tag ≠ w.tag := by
  obtain ⟨piece, hmajor, hminor⟩ := h
  rw [tag_eq, tag_eq, hmajor, hminor, String.append_assoc, String.append_assoc, ne_eq,
    String.append_right_inj, String.append_assoc, ← String.toList_inj]
  -- behind the first part of `w` the one has an underscore, the other a dot
  intro heq
  have hhead := congrArg List.head? heq
  simp only [String.toList_append] at hhead
  cases hhead

/-- Different versions that share a directory have different tags. -/
theorem eq_of_dirName_of_tag {v w : Version} (hdir : v.dirName = w.dirName) (htag : v.tag = w.tag) :
    v = w := by
  rcases dirName_eq_iff.mp hdir with rfl | hinto | hinto
  · rfl
  · exact absurd htag hinto.tag_ne
  · exact absurd htag.symm hinto.tag_ne

theorem length_tag_of_dirName {v w : Version} (hdir : v.dirName = w.dirName) :
    v.tag.length = w.tag.length := by
  have hlength := congrArg String.length hdir
  rw [dirName_eq, dirName_eq] at hlength
  rw [tag_eq, tag_eq]
  simp only [String.length_append] at hlength ⊢
  have hdot : ".".length = "_".length := rfl
  omega

/-! ## The order of versions -/

theorem lt_iff {v w : Version} :
    v.lt w = true ↔ v.major < w.major ∨ v.major = w.major ∧ v.minor < w.minor := by
  unfold lt
  simp

theorem lt_trans {u v w : Version} (huv : u.lt v = true) (hvw : v.lt w = true) :
    u.lt w = true := by
  rw [lt_iff] at huv hvw ⊢
  rcases huv with huv | ⟨huv, huv'⟩
  · rcases hvw with hvw | ⟨hvw, -⟩
    · exact .inl (huv.trans hvw)
    · exact .inl (hvw ▸ huv)
  · rcases hvw with hvw | ⟨hvw, hvw'⟩
    · exact .inl (huv ▸ hvw)
    · exact .inr ⟨huv.trans hvw, huv'.trans hvw'⟩

theorem ne_of_lt {v w : Version} (h : v.lt w = true) : v ≠ w := by
  rintro rfl
  rcases lt_iff.mp h with h | ⟨-, h⟩
  · exact lt_irrefl _ h
  · exact lt_irrefl _ h

theorem lt_of_not_lt {v w : Version} (hne : v ≠ w) (h : ¬ v.lt w = true) : w.lt v = true := by
  rw [lt_iff] at h ⊢
  rcases lt_trichotomy v.major w.major with hmajor | hmajor | hmajor
  · exact absurd (.inl hmajor) h
  · rcases lt_trichotomy v.minor w.minor with hminor | hminor | hminor
    · exact absurd (.inr ⟨hmajor, hminor⟩) h
    · exact absurd (eq_of_parts hmajor hminor) hne
    · exact .inr ⟨hmajor.symm, hminor⟩
  · exact .inl hmajor

end Version

/-- The schemas are in increasing order of their versions. -/
def Schema.Increasing (schemas : List Schema) : Prop :=
  schemas.Pairwise fun s t => s.version.lt t.version = true

end Bindery
