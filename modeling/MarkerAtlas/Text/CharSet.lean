/-!
# Sets of characters

A set of characters is a list of closed ranges of code points. The tables of this library
(blanks, letters with two cases, characters that need an escape) are values of this type.
-/

namespace MarkerAtlas

/-- A set of characters, given by closed ranges of code points. -/
structure CharSet where
  ranges : List (Nat × Nat)

namespace CharSet

/-- Does the set hold the character? -/
def contains (s : CharSet) (c : Char) : Bool :=
  s.ranges.any fun r => r.1 ≤ c.toNat && c.toNat ≤ r.2

theorem contains_iff (s : CharSet) (c : Char) :
    s.contains c = true ↔ ∃ r ∈ s.ranges, r.1 ≤ c.toNat ∧ c.toNat ≤ r.2 := by
  simp [contains]

end CharSet

end MarkerAtlas
