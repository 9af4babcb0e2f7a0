import MarkerAtlas.Decimal.Binary64

/-!
# The shortest decimal of a double

Of the decimals that read back to a double, `shortest` picks one with the fewest digits and of
those the nearest. It tries one digit, then two, and so on: on the grid of decimals with that
many digits only the two neighbours of the double have to be tested.
-/

namespace MarkerAtlas.Decimal

/-- Which of two equally near decimals is taken. -/
inductive Tie where
  | toEven
  | up
  deriving Repr, DecidableEq

/-- How many decimal digits a number has. -/
def digitCount (n : Nat) : Nat := (Nat.toDigits 10 n).length

/-- The size as a fraction of natural numbers. -/
def Magnitude.fraction (x : Magnitude) : Nat × Nat :=
  (x.significand <<< x.exponent.toNat, 1 <<< (-x.exponent).toNat)

/-- The least `k` with `x < 10 ^ k`, for a size above zero. -/
def Magnitude.decimalScale (x : Magnitude) : Int :=
  let (num, den) := x.fraction
  if den ≤ num then digitCount (num / den)
  else -((digitCount ((den - 1) / num) : Int) - 1)

/-- The neighbour of the size on the grid of multiples of `10 ^ grid` that reads back to it and
is nearer, if one does. -/
def Magnitude.onGrid (x : Magnitude) (tie : Tie) (grid : Int) : Option Decimal :=
  let (num, den) := x.fraction
  let num := num * Nat.pow 10 (-grid).toNat
  let den := den * Nat.pow 10 grid.toNat
  let low := num / den
  let lowFits := x.readsBack ⟨low, grid⟩
  let highFits := x.readsBack ⟨low + 1, grid⟩
  let lowNearer :=
    match compare (2 * (num % den)) den with
    | .lt => true
    | .gt => false
    | .eq => match tie with
      | .toEven => low % 2 == 0
      | .up => false
  if lowFits && highFits then some ⟨if lowNearer then low else low + 1, grid⟩
  else if lowFits then some ⟨low, grid⟩
  else if highFits then some ⟨low + 1, grid⟩
  else none

/-- The decimal with its trailing zeros moved into the exponent, at most `fuel` of them. -/
def strip : Nat → Decimal → Decimal
  | 0, d => d
  | fuel + 1, d =>
    if d.digits ≠ 0 ∧ d.digits % 10 = 0 then strip fuel ⟨d.digits / 10, d.exponent + 1⟩ else d

/-- The exact decimal value of the size: what is left if no short decimal reads back. -/
def Magnitude.exact (x : Magnitude) : Decimal :=
  ⟨(x.significand <<< x.exponent.toNat) * Nat.pow 5 (-x.exponent).toNat,
    if x.exponent < 0 then x.exponent else 0⟩

/-- A decimal with the fewest digits that reads back to the size, and of those the nearest. -/
def Magnitude.shortest (x : Magnitude) (tie : Tie) : Decimal :=
  if x.significand = 0 then ⟨0, 0⟩
  else
    let scale := x.decimalScale
    let found := (List.range 17).findSome? fun (n : Nat) =>
      x.onGrid tie (scale - ((n : Int) + 1))
    let d := found.getD x.exact
    d.strip (digitCount d.digits)

end MarkerAtlas.Decimal
