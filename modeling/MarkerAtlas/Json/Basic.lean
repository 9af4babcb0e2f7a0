import MarkerAtlas.Decimal.Reader

/-!
# JSON values

A value keeps whole numbers apart from other numbers, and the members of an object in order.
Objects that were read from text have each name once (`Json.object`: the last member of a name
wins) and their members sorted by name.
-/

namespace MarkerAtlas

/-- A number in JSON. -/
inductive JsonNumber where
  | whole (n : Int)
  | real (x : Float)

/-- A JSON value. -/
inductive Json where
  | null
  | bool (b : Bool)
  | num (n : JsonNumber)
  | str (s : String)
  | arr (items : List Json)
  | obj (members : List (String × Json))

instance : Inhabited Json := ⟨.null⟩

/-- The number as a double. -/
def JsonNumber.toFloat : JsonNumber → Float
  | .whole n => Double.ofInt n
  | .real x => x

/-- Puts a member among members sorted by name; a member of the same name is replaced. -/
def insertMember {α : Type} (name : String) (value : α) : List (String × α) → List (String × α)
  | [] => [(name, value)]
  | (n, v) :: rest =>
    if name < n then (name, value) :: (n, v) :: rest
    else if name = n then (name, value) :: rest
    else (n, v) :: insertMember name value rest

namespace Json

/-- The object with these members: sorted by name, the last member of a name kept. -/
def object (members : List (String × Json)) : Json :=
  .obj (members.foldl (fun ms m => insertMember m.1 m.2 ms) [])

/-- A whole number. -/
def nat (n : Nat) : Json := .num (.whole n)

/-- A whole number. -/
def int (n : Int) : Json := .num (.whole n)

/-- A double. -/
def float (x : Float) : Json := .num (.real x)

/-- A value that may be missing, with null for a missing one. -/
def ofOption {α : Type} (f : α → Json) : Option α → Json
  | none => .null
  | some a => f a

/-- The value of an object's member. -/
def member? (name : String) : Json → Option Json
  | .obj members => (members.find? (·.1 == name)).map (·.2)
  | _ => none

/-- The text of a text value. -/
def text? : Json → Option String
  | .str s => some s
  | _ => none

/-- The truth value. -/
def bool? : Json → Option Bool
  | .bool b => some b
  | _ => none

/-- The number as a double. -/
def float? : Json → Option Float
  | .num n => some n.toFloat
  | _ => none

/-- The whole number, if it is one of 64 bits with sign. -/
def int64? : Json → Option Int64
  | .num (.whole n) => if Int64.minValue.toInt ≤ n ∧ n ≤ Int64.maxValue.toInt then
      some (Int64.ofInt n) else none
  | _ => none

/-- The members, if the value is an object. -/
def members? : Json → Option (List (String × Json))
  | .obj members => some members
  | _ => none

end Json

end MarkerAtlas
