/-!
# Sets of characters

A set of characters is stored by its boundaries, in increasing order: membership changes at each
of them, and nothing below the first belongs to the set. The tables of the Unicode properties are
values of this type.
-/

namespace Bindery.Text

/-- A set of characters, as the increasing list of code points at which membership changes. -/
structure CharSet where
  bounds : List Nat

/-- A character belongs to the set when an odd number of boundaries lie at or below it. -/
def CharSet.contains (s : CharSet) (c : Char) : Bool :=
  s.bounds.countP (· ≤ c.toNat) % 2 == 1

theorem CharSet.contains_empty (c : Char) : (CharSet.mk []).contains c = false := rfl

theorem CharSet.contains_range (first last : Nat) (c : Char) :
    (CharSet.mk [first, last]).contains c =
      (decide (first ≤ c.toNat) != decide (last ≤ c.toNat)) := by
  by_cases h : first ≤ c.toNat <;> by_cases k : last ≤ c.toNat <;> simp [contains, h, k]

end Bindery.Text
