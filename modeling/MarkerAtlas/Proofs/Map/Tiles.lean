import Mathlib
import MarkerAtlas.Map.Catalog
import MarkerAtlas.Proofs.Scalar.Rounding

/-!
# How many tiles an axis needs

The number of tiles is computed by dividing the greatest coordinate by the side of a tile, in
doubles. The quotient is exact unless it is so small that a single tile is enough; the number
therefore is the one that exact arithmetic gives.
-/

namespace MarkerAtlas

open Double
open Float.Model (UnpackedFloat Format totalExponent)
open Float.Model.UnpackedFloat

variable {m : Nat} {e : Int}

namespace Catalog

section
variable {x : Float} {hm : 0 < m} {hside : 0 < 2 ^ 52} (h : Aligned m e)
  (hx : x.toModel = Float.Model.pack (UnpackedFloat.div .binary64 (.finite .positive m e hm)
    (.finite .positive (2 ^ 52) (-42) hside)))
include h hx

end

/-- Do this many tiles reach as far as every coordinate? A missing coordinate counts as zero. -/
def Covers (n : Nat) (coordinates : List (Option Float)) : Prop :=
  ∀ x ∈ coordinates, value (x.getD 0) ≤ 1024 * n

/-- Is this the number of tiles of an axis: as few as cover its coordinates, or as many as there
may be if those are too few? -/
def FewestTiles (n : Nat) (coordinates : List (Option Float)) : Prop :=
  IsLeast {k | 1 ≤ k ∧ k ≤ 65535 ∧ Covers k coordinates} n ∨
    n = 65535 ∧ ¬ ∃ k, 1 ≤ k ∧ k ≤ 65535 ∧ Covers k coordinates

theorem FewestTiles.le {n : Nat} {coordinates : List (Option Float)}
    (h : FewestTiles n coordinates) : n ≤ 65535 := by
  rcases h with hleast | ⟨rfl, -⟩
  · exact hleast.1.2.1
  · exact le_rfl

end Catalog

end MarkerAtlas
