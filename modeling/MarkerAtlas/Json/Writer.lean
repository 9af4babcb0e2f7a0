import MarkerAtlas.Json.Basic
import MarkerAtlas.Decimal.Layout

/-!
# Writing JSON

The compact text of a value: no blanks, members in their order, characters beyond ASCII as they
are. A number that is not finite has no JSON text and is written as null.
-/

namespace MarkerAtlas.Json

/-- How numbers are written: without exponent from 0.00001 up to, not including, 10 ^ 16; whole
doubles end in `.0`; an exponent always has its sign. -/
def numberLayout : Decimal.Layout where
  positional e := -5 ≤ e && e < 16
  pointZero := true
  exponentPlus := true
  tie := .toEven

/-- The text of a number. -/
def numberText : JsonNumber → List Char
  | .whole n => if n < 0 then '-' :: Nat.toDigits 10 n.natAbs else Nat.toDigits 10 n.natAbs
  | .real x => if x.isFinite then numberLayout.finite x else ['n', 'u', 'l', 'l']

/-- The four hexadecimal digits of a control character. -/
def controlDigits (n : Nat) : List Char :=
  ['0', '0', Nat.digitChar (n / 16), Nat.digitChar (n % 16)]

/-- A character as it stands in the text of a string. -/
def escapeChar (c : Char) : List Char :=
  match c with
  | '"' => ['\\', '"']
  | '\\' => ['\\', '\\']
  | '\n' => ['\\', 'n']
  | '\r' => ['\\', 'r']
  | '\t' => ['\\', 't']
  | '\x08' => ['\\', 'b']
  | '\x0c' => ['\\', 'f']
  | c => if c.toNat < 0x20 then '\\' :: 'u' :: controlDigits c.toNat else [c]

/-- The text of a string, with its quotes. -/
def stringText (s : String) : List Char := '"' :: (s.toList.flatMap escapeChar ++ ['"'])

/-- Texts with commas between them. -/
def commaSeparated : List (List Char) → List Char
  | [] => []
  | [t] => t
  | t :: ts => t ++ ',' :: commaSeparated ts

mutual

/-- The compact text of a value. -/
def textOf : Json → List Char
  | .null => ['n', 'u', 'l', 'l']
  | .bool true => ['t', 'r', 'u', 'e']
  | .bool false => ['f', 'a', 'l', 's', 'e']
  | .num n => numberText n
  | .str s => stringText s
  | .arr items => '[' :: (commaSeparated (textsOf items) ++ [']'])
  | .obj members => '\x7b' :: (commaSeparated (memberTexts members) ++ ['\x7d'])

/-- The texts of the items of a list. -/
def textsOf : List Json → List (List Char)
  | [] => []
  | v :: vs => textOf v :: textsOf vs

/-- The texts of the members of an object. -/
def memberTexts : List (String × Json) → List (List Char)
  | [] => []
  | (name, v) :: ms => (stringText name ++ ':' :: textOf v) :: memberTexts ms

end

/-- The compact text of a value. -/
def render (v : Json) : String := String.ofList (textOf v)

end MarkerAtlas.Json
