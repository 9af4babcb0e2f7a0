/-!
# The third side of a right triangle

`hypot x y` is the root of `x² + y²` without needless overflow or underflow: sides whose squares
would leave the range of doubles are scaled first, a side too small to matter is added, and what
the root loses by rounding is taken off again.
-/

namespace MarkerAtlas.Hypot

/-- `2 ^ e`. -/
def power (e : Int) : Float :=
  Float.scaleB 1.0 e

/-- The root of the sum of the squares of `ax ≥ ay`, whose squares stay in range. -/
def root (ax ay : Float) : Float :=
  let h := Float.sqrt (ax * ax + ay * ay)
  let (t1, t2) :=
    if h ≤ 2.0 * ay then
      let delta := h - ay
      (ax * (2.0 * delta - ax), (delta - 2.0 * (ax - ay)) * delta)
    else
      let delta := h - ax
      (2.0 * delta * (ax - 2.0 * ay), (4.0 * delta - ay) * ay + delta * delta)
  h - (t1 + t2) / (2.0 * h)

/-- The third side over sides `ax ≥ ay ≥ 0`. -/
def ordered (ax ay : Float) : Float :=
  let negligible := power (-54)
  let scale := power (-600)
  if ax > power 511 then
    if ay ≤ ax * negligible then ax + ay else root (ax * scale) (ay * scale) / scale
  else if ay < power (-459) then
    if ax ≥ ay / negligible then ax + ay else root (ax / scale) (ay / scale) * scale
  else if ay ≤ ax * negligible then ax + ay
  else root ax ay

/-- The third side of the right triangle over sides `x` and `y`; infinite if one side is. -/
def hypot (x y : Float) : Float :=
  if x.isInf || y.isInf then 1.0 / 0.0
  else if x.isNaN || y.isNaN then x + y
  else
    let ax := x.abs
    let ay := y.abs
    if ax < ay then ordered ay ax else ordered ax ay

end MarkerAtlas.Hypot
