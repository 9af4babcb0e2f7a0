/-!
# The arithmetic of the map

Positions, scales and distances are computed with the operations of a `Scalar`. The map runs on
doubles; a field with an order and a floor is another scalar, on which the same definitions can
be studied without rounding.
-/

namespace MarkerAtlas

/-- The operations that the map computes with. -/
class Scalar (α : Type) extends Add α, Sub α, Mul α, Div α, Neg α, Zero α, One α, LT α, LE α where
  decLt : DecidableLT α
  decLe : DecidableLE α
  /-- Are two numbers equal? -/
  same : α → α → Bool
  /-- The number `n`. -/
  ofNat : Nat → α
  /-- The number `digits / 10 ^ places`. -/
  ofDecimal : (digits places : Nat) → α
  /-- Is it a number, and not infinite? -/
  isFinite : α → Bool
  /-- The smaller of two numbers; what is no number is passed over. -/
  least : α → α → α
  /-- The greater of two numbers; what is no number is passed over. -/
  greatest : α → α → α
  /-- The number without its sign. -/
  abs : α → α
  /-- The integer part below the number, kept within 64 bits with sign. -/
  floorIndex : α → Int
  /-- The third side of a right triangle. -/
  hypot : α → α → α

attribute [reducible, instance] Scalar.decLt Scalar.decLe

namespace Scalar

variable {α : Type} [Scalar α]

/-- The number two. -/
def two : α := ofNat 2

/-- The number, or another one in place of what is not finite. -/
def finiteOr (x other : α) : α := if isFinite x then x else other

/-- The number, moved to the nearer bound if it lies outside. -/
def clamp (x low high : α) : α :=
  let raised := if x < low then low else x
  if raised > high then high else raised

/-- Zero without its sign; every other number as it is. -/
def plainZero (x : α) : α := if same x 0 then 0 else x

end Scalar

end MarkerAtlas
