import MarkerAtlas.Marker.Filter
import MarkerAtlas.Text.Integer
import MarkerAtlas.Text.Utf8

/-!
# Form fields

The query of a request holds fields: names and values with an equals sign between them and
ampersands around them. A plus sign stands for a space, and a percent sign with two hexadecimal
digits for a byte of UTF-8.
-/

namespace MarkerAtlas.Form

/-- The parts of a text between ampersands, empty ones left out. -/
def parts : List Char → List (List Char)
  | [] => []
  | c :: cs =>
    if c = '&' then parts cs
    else
      match cs with
      | [] => [[c]]
      | '&' :: _ => [c] :: parts cs
      | _ =>
        match parts cs with
        | [] => [[c]]
        | p :: ps => (c :: p) :: ps

/-- The bytes that a name or a value stands for. -/
def bytes : List Char → List UInt8
  | [] => []
  | '%' :: a :: b :: cs =>
    match Text.hexValue? a, Text.hexValue? b with
    | some high, some low => UInt8.ofNat (high * 16 + low) :: bytes cs
    | _, _ => 0x25 :: bytes (a :: b :: cs)
  | '+' :: cs => 0x20 :: bytes cs
  | c :: cs => String.utf8EncodeChar c ++ bytes cs

/-- The text that a name or a value stands for. -/
def text (cs : List Char) : String := Text.decodeUtf8 (bytes cs)

/-- The name and the value of a part; without an equals sign the value is empty. -/
def field (part : List Char) : String × String :=
  (text (part.takeWhile (· ≠ '=')), text ((part.dropWhile (· ≠ '=')).drop 1))

/-- The fields of a query. -/
def fields (query : String) : List (String × String) := (parts query.toList).map field

/-- The value of a field that may be missing but must not be repeated. -/
def single (fields : List (String × String)) (name : String) : Option (Option String) :=
  match fields.filter (·.1 == name) with
  | [] => some none
  | [f] => some (some f.2)
  | _ => none

/-- The value of a field that is one of a few words; `default` if the field is missing. -/
def word {β : Type} (fields : List (String × String)) (name : String) (words : List (String × β))
    (default : β) : Option β := do
  match ← single fields name with
  | none => some default
  | some s => (words.find? (·.1 == s)).map (·.2)

/-- The same for a field without default. -/
def optionalWord {β : Type} (fields : List (String × String)) (name : String)
    (words : List (String × β)) : Option (Option β) :=
  word fields name (words.map fun w => (w.1, some w.2)) none

/-- The truth values as words. -/
def truthWords : List (String × Bool) := [("true", true), ("false", false)]

end MarkerAtlas.Form

namespace MarkerAtlas

/-- The filter that the fields of a query describe. Fields of other names are passed over. -/
def MarkerFilter.ofFields? (fields : List (String × String)) : Option MarkerFilter := do
  some {
    scope := ← Form.word fields "scope" Scope.names .account
    characterId := ← Form.single fields "characterId"
    map := ← Form.single fields "map"
    kind := ← Form.optionalWord fields "kind" MarkerKind.names
    faction := ← Form.optionalWord fields "faction" Faction.names
    query := ← Form.single fields "q"
    onlyRemaining := ← Form.word fields "onlyRemaining" Form.truthWords false }

end MarkerAtlas
