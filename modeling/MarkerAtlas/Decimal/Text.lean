import MarkerAtlas.Decimal.Reader
import MarkerAtlas.Text.Integer

/-!
# Decimals in free form

The decimals that people write into settings: a sign is optional, and so are the digits on one
side of the point, the point itself and the exponent.
-/

namespace MarkerAtlas.Decimal

/-- The text without a sign in front, and whether the sign was a minus. -/
def splitSign : List Char → Bool × List Char
  | '-' :: cs => (true, cs)
  | '+' :: cs => (false, cs)
  | cs => (false, cs)

/-- The digits in front and after the point, and the rest of the text. At least one digit is
asked for. -/
def splitMantissa (cs : List Char) : Option (List Char × List Char × List Char) :=
  let (whole, rest) := cs.span Text.isDigit
  let (fraction, rest) :=
    match rest with
    | '.' :: rest => rest.span Text.isDigit
    | rest => ([], rest)
  if whole.isEmpty && fraction.isEmpty then none else some (whole, fraction, rest)

/-- The exponent that is the whole rest of a decimal; none counts as zero. -/
def exponent? : List Char → Option Int
  | [] => some 0
  | c :: cs => if c = 'e' ∨ c = 'E' then Text.integer? cs else none

end MarkerAtlas.Decimal

/-- The double nearest to the decimal that a text writes. -/
def MarkerAtlas.Double.ofText? (cs : List Char) : Option Float := do
  let (negative, cs) := Decimal.splitSign cs
  let (whole, fraction, rest) ← Decimal.splitMantissa cs
  let exponent ← Decimal.exponent? rest
  let digits := whole ++ fraction
  let n ← Text.numeral? digits
  let size := Decimal.toFloat ⟨n, exponent - (fraction.length : Int)⟩ digits.length
  some (if negative then -size else size)
