/-!
# Conditions of queries

A query takes the rows of which its condition is true. A column or a parameter may have no value;
what compares it with another one is then neither true nor false, and a row is not taken for it.
-/

namespace MarkerAtlas

/-- Whether a condition is true, if that is known. -/
abbrev Condition := Option Bool

namespace Condition

/-- `a IS NULL`. -/
def isNull (a : Option String) : Condition := some a.isNone

/-- `a = b`. -/
def equal (a b : Option String) : Condition :=
  match a, b with
  | some a, some b => some (a == b)
  | _, _ => none

/-- `a OR b`: it takes only one that is true, however unknown the other one is. -/
def or (a b : Condition) : Condition :=
  match a, b with
  | some true, _ => some true
  | _, some true => some true
  | some false, some false => some false
  | _, _ => none

/-- Is a row taken? -/
def holds (a : Condition) : Bool := a == some true

end Condition

end MarkerAtlas
