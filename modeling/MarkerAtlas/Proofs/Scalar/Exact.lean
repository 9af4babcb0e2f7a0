import Mathlib
import MarkerAtlas.Scalar.Basic

/-!
# Exact arithmetic

In an ordered field with integer parts the map computes without rounding, and every number is
finite. What is said of the map over such a field is what its formulas say, whatever doubles make
of them. The real numbers are such a field.
-/

namespace MarkerAtlas

/-- A field in which the map computes exactly. Roots need not exist in it, so that it says itself
what the third side of a right triangle is. -/
class ExactField (K : Type) extends Field K, LinearOrder K, IsStrictOrderedRing K, FloorRing K where
  hypot : K → K → K

namespace ExactField

instance (priority := low) scalar {K : Type} [ExactField K] : Scalar K where
  decLt := inferInstance
  decLe := inferInstance
  same x y := decide (x = y)
  ofNat n := n
  ofDecimal digits places := digits / 10 ^ places
  isFinite _ := true
  least := min
  greatest := max
  abs x := |x|
  floorIndex x := max Int64.minValue.toInt (min Int64.maxValue.toInt ⌊x⌋)
  hypot := ExactField.hypot

noncomputable instance : ExactField ℝ where
  hypot x y := √(x ^ 2 + y ^ 2)

/-! ## Operations that are those of the field -/

variable {K : Type} [ExactField K] (x y : K)

@[simp] theorem isFinite_eq_true : Scalar.isFinite x = true := rfl

@[simp] theorem finiteOr_eq : Scalar.finiteOr x y = x := if_pos rfl

@[simp] theorem greatest_eq_max : Scalar.greatest x y = max x y := rfl

@[simp] theorem abs_eq_abs : Scalar.abs x = |x| := rfl

@[simp] theorem least_eq_min : Scalar.least x y = min x y := rfl

@[simp] theorem ofNat_eq_cast (n : Nat) : (Scalar.ofNat n : K) = n := rfl

@[simp] theorem ofDecimal_eq (digits places : Nat) :
    (Scalar.ofDecimal digits places : K) = digits / 10 ^ places := rfl

@[simp] theorem two_eq : (Scalar.two : K) = 2 := Nat.cast_ofNat

/-- There is one zero only. -/
@[simp] theorem plainZero_eq : Scalar.plainZero x = x := by
  unfold Scalar.plainZero
  split
  · next hzero => exact (of_decide_eq_true hzero).symm
  · rfl

/-- First the lower bound raises the number, then the upper one lowers it. -/
theorem clamp_eq (low high : K) : Scalar.clamp x low high = min (max x low) high := by
  unfold Scalar.clamp
  rcases lt_or_ge x low with hlow | hlow
  · rw [if_pos hlow, max_eq_right hlow.le]
    exact (min_def_lt' low high).symm
  · rw [if_neg hlow.not_gt, max_eq_left hlow]
    exact (min_def_lt' x high).symm

end ExactField

end MarkerAtlas
