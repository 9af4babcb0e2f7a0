import MarkerAtlas.Decimal.Binary64

/-!
# Reading decimals

A decimal read as the nearest double. Decimals far outside the range of doubles are settled by
their size alone, so that a long exponent costs nothing.
-/

namespace MarkerAtlas.Decimal

/-- The nearest double, with a tie going to the even significand; infinity if the decimal lies
beyond every double. The decimal has at most `digitCount` digits. -/
def toFloat (d : Decimal) (digitCount : Nat) : Float :=
  if d.digits = 0 then 0
  else if d.exponent > 310 then 1.0 / 0.0
  else if d.exponent + digitCount < -330 then 0
  else Float.ofScientific d.digits (d.exponent < 0) d.exponent.natAbs

end MarkerAtlas.Decimal

namespace MarkerAtlas.Double

/-- The nearest double to a natural number. -/
def ofNat (n : Nat) : Float := Float.ofScientific n false 0

/-- The nearest double to an integer. -/
def ofInt (i : Int) : Float := if i < 0 then -(ofNat i.natAbs) else ofNat i.natAbs

end MarkerAtlas.Double
