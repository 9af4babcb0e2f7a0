import MarkerAtlas.Decimal.Shortest

/-!
# How a decimal is written

The digits of a number are a matter of arithmetic (`Magnitude.shortest`); where the point goes,
when an exponent is used and what stands for the values that are no number is a matter of the
format. A `Layout` holds those decisions, and `Layout.render` writes a double by them.
-/

namespace MarkerAtlas.Decimal

/-- The decisions of a number format. -/
structure Layout where
  /-- Is a number written without exponent, given the decimal exponent of its leading digit? -/
  positional : Int → Bool
  /-- A whole number ends in a point and a zero. -/
  pointZero : Bool
  /-- A positive exponent carries its sign. -/
  exponentPlus : Bool
  /-- Which of two equally near shortest decimals is written. -/
  tie : Tie

/-- The digits, most significant first. -/
def digitChars (d : Decimal) : List Char := Nat.toDigits 10 d.digits

/-- The number written without an exponent. -/
def Layout.plain (l : Layout) (d : Decimal) : List Char :=
  let ds := d.digitChars
  if 0 ≤ d.exponent then
    ds ++ List.replicate d.exponent.toNat '0' ++ (if l.pointZero then ['.', '0'] else [])
  else
    let places := (-d.exponent).toNat
    if places < ds.length then
      ds.take (ds.length - places) ++ '.' :: ds.drop (ds.length - places)
    else
      ['0', '.'] ++ List.replicate (places - ds.length) '0' ++ ds

/-- The number written with one digit before the point and an exponent. -/
def Layout.scientific (l : Layout) (d : Decimal) : List Char :=
  let ds := d.digitChars
  let exponent := d.exponent + (ds.length : Int) - 1
  let mantissa :=
    match ds with
    | c :: (_ :: _) => c :: '.' :: ds.drop 1
    | _ => ds
  let sign := if exponent < 0 then ['-'] else if l.exponentPlus then ['+'] else []
  mantissa ++ 'e' :: sign ++ Nat.toDigits 10 exponent.natAbs

/-- The text of a size without its sign. -/
def Layout.magnitude (l : Layout) (x : Magnitude) : List Char :=
  let d := x.shortest l.tie
  let leading := d.exponent + (d.digitChars.length : Int) - 1
  if d.digits = 0 ∨ l.positional leading then l.plain d else l.scientific d

/-- The text of a finite double. -/
def Layout.finite (l : Layout) (x : Float) : List Char :=
  let text := l.magnitude (Magnitude.ofBits x.toBits)
  if signBit x then '-' :: text else text

/-- The text of a double; what is no finite number is written as a word. -/
def Layout.render (l : Layout) (x : Float) : String :=
  if x.isNaN then "NaN"
  else if x.isInf then (if signBit x then "-inf" else "inf")
  else String.ofList (l.finite x)

end MarkerAtlas.Decimal
