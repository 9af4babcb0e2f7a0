import MarkerAtlas.Scalar.Basic
import MarkerAtlas.Scalar.Hypot
import MarkerAtlas.Decimal.Reader

/-!
# Doubles as the map's arithmetic
-/

namespace MarkerAtlas

/-- The smaller double, the first one of two equal ones; the other one where one is no number. -/
def Double.smaller (x y : Float) : Float :=
  if x.isNaN then y else if y < x then y else x

/-- The greater double, the second one of two equal ones; the other one where one is no number. -/
def Double.greater (x y : Float) : Float :=
  if y.isNaN then x else if x > y then x else y

/-- The least natural number that is not less than a double, if the double is finite. -/
def Double.natCeil? (x : Float) : Option Nat :=
  match x.toModel.unpack with
  | .notANumber => none
  | .infinity _ => none
  | .zero _ => some 0
  | .finite .negative _ _ _ => some 0
  | .finite .positive m e _ =>
    let parts := Nat.pow 2 (-e).toNat
    some ((m * Nat.pow 2 e.toNat + (parts - 1)) / parts)

instance : Scalar Float where
  zero := 0.0
  one := 1.0
  decLt := inferInstance
  decLe := inferInstance
  same x y := x == y
  ofNat := Double.ofNat
  ofDecimal digits places := Float.ofScientific digits true places
  isFinite x := x.isFinite
  least := Double.smaller
  greatest := Double.greater
  abs := Float.abs
  floorIndex x := x.floor.toInt64.toInt
  hypot := Hypot.hypot

end MarkerAtlas
