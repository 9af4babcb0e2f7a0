/-!
# Binary64 numbers as exact quantities

The bits of a double read as sign, significand and power of two, and the test that says which
decimals read back to it: those inside the interval halfway to its two neighbours, the ends
included exactly when the significand is even.
-/

namespace MarkerAtlas

/-- A decimal: `digits · 10 ^ exponent`. -/
structure Decimal where
  digits : Nat
  exponent : Int
  deriving Repr, DecidableEq

namespace Decimal

/-- The size of a finite double: `significand · 2 ^ exponent`. -/
structure Magnitude where
  significand : Nat
  exponent : Int
  /-- The double below is only half as far away as the double above. -/
  closeBelow : Bool
  deriving Repr, DecidableEq

/-- The size that the bits of a finite double hold. -/
def Magnitude.ofBits (bits : UInt64) : Magnitude :=
  let biased := ((bits >>> 52) &&& 0x7FF).toNat
  let fraction := (bits &&& 0xFFFFFFFFFFFFF).toNat
  if biased = 0 then ⟨fraction, -1074, false⟩
  else ⟨0x10000000000000 + fraction, (biased : Int) - 1075, fraction == 0 && biased > 1⟩

/-- Compares `d · 10 ^ e` with `n · 2 ^ k`. -/
def compareScaled (d : Nat) (e : Int) (n : Nat) (k : Int) : Ordering :=
  compare ((d * Nat.pow 10 e.toNat) <<< (-k).toNat) ((n <<< k.toNat) * Nat.pow 10 (-e).toNat)

/-- Does the decimal round to this double? It does if it lies between the midpoints to the two
neighbours; a midpoint itself goes to the neighbour with the even significand. -/
def Magnitude.readsBack (x : Magnitude) (d : Decimal) : Bool :=
  let below := if x.closeBelow then 4 * x.significand - 1 else 4 * x.significand - 2
  let above := 4 * x.significand + 2
  let even := x.significand % 2 == 0
  let fromBelow := compareScaled d.digits d.exponent below (x.exponent - 2)
  let fromAbove := compareScaled d.digits d.exponent above (x.exponent - 2)
  (fromBelow == .gt || (even && fromBelow == .eq)) &&
    (fromAbove == .lt || (even && fromAbove == .eq))

/-- Is the sign bit set? -/
def signBit (x : Float) : Bool := x.toBits >>> 63 == 1

end Decimal

end MarkerAtlas
