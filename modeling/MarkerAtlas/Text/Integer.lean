/-!
# Integers in text

The decimal text of an integer: digits with an optional sign in front, read within bounds; and
digits to other bases up to sixteen.
-/

namespace MarkerAtlas.Text

/-- The value of a decimal digit. -/
def digitValue? (c : Char) : Option Nat :=
  if '0' ≤ c ∧ c ≤ '9' then some (c.toNat - '0'.toNat) else none

/-- Is the character one of the ten decimal digits of ASCII? -/
def isDigit (c : Char) : Bool := '0' ≤ c ∧ c ≤ '9'

/-- The value of a hexadecimal digit, of either case. -/
def hexValue? (c : Char) : Option Nat :=
  if '0' ≤ c ∧ c ≤ '9' then some (c.toNat - '0'.toNat)
  else if 'a' ≤ c ∧ c ≤ 'f' then some (c.toNat - 'a'.toNat + 10)
  else if 'A' ≤ c ∧ c ≤ 'F' then some (c.toNat - 'A'.toNat + 10)
  else none

/-- The number that digits to a base write, after the digits of `acc`. -/
def numeralToBase? (base : Nat) (acc : Nat) : List Char → Option Nat
  | [] => some acc
  | c :: cs =>
    match hexValue? c with
    | none => none
    | some d => if d < base then numeralToBase? base (acc * base + d) cs else none

/-- The number that a run of digits writes, after the digits of `acc`. -/
def numeralFrom (acc : Nat) : List Char → Option Nat
  | [] => some acc
  | c :: cs => (digitValue? c).bind fun d => numeralFrom (10 * acc + d) cs

/-- The number that a non-empty run of digits writes. -/
def numeral? : List Char → Option Nat
  | [] => none
  | c :: cs => numeralFrom 0 (c :: cs)

/-- The integer that a text writes: digits, with at most one sign in front of them. -/
def integer? : List Char → Option Int
  | '-' :: cs => (numeral? cs).map fun n => -(n : Int)
  | '+' :: cs => (numeral? cs).map fun n => (n : Int)
  | cs => (numeral? cs).map fun n => (n : Int)

/-- The integer that a text writes, if it lies between the two bounds. -/
def integerWithin? (least greatest : Int) (cs : List Char) : Option Int :=
  (integer? cs).filter fun n => least ≤ n && n ≤ greatest

/-- The signed 64-bit integer that a text writes. -/
def int64? (cs : List Char) : Option Int64 :=
  (integerWithin? Int64.minValue.toInt Int64.maxValue.toInt cs).map Int64.ofInt

end MarkerAtlas.Text
