import MarkerAtlas.Marker.Basic
import MarkerAtlas.Text.Integer

/-!
# Labels

The text that a marker is shown with. Names that only a program gave are put into words, or
replaced by the name of the marker's kind.
-/

namespace MarkerAtlas

namespace Label

/-- Is it a small letter of ASCII? -/
def isSmall (c : Char) : Bool := 'a' ≤ c && c ≤ 'z'

/-- Is it a capital letter of ASCII? -/
def isCapital (c : Char) : Bool := 'A' ≤ c && c ≤ 'Z'

/-- Sets a small letter apart from a capital right behind it. -/
def splitCamel : List Char → List Char
  | a :: b :: cs =>
    if isSmall a && isCapital b then a :: ' ' :: b :: splitCamel cs else a :: splitCamel (b :: cs)
  | cs => cs

/-- Words with one space between them. -/
def joinWords : List (List Char) → List Char
  | [] => []
  | [w] => w
  | w :: ws => w ++ ' ' :: joinWords ws

/-- Puts a name like `World_L_A` or `hiddenCube` into words. -/
def humanize (s : String) : String :=
  let spaced := s.toList.map fun c => if c = '_' then ' ' else c
  String.ofList (joinWords (Text.words (splitCamel spaced)))

/-- May the character stand in a name that a program gave? -/
def isTokenChar (c : Char) : Bool :=
  isSmall c || isCapital c || Text.isDigit c || c = '_' || c = ':' || c = '-'

/-- Is it a name that a program gave? -/
def isToken (s : String) : Bool := !s.isEmpty && s.toList.all isTokenChar

/-- How names begin that come from the map of the community. -/
def syncedPrefix : String := "aion2im:"

end Label

/-- What a marker of a kind is called that has no name of its own. -/
def MarkerKind.label : MarkerKind → String
  | .trace => "Trace"
  | .cube => "Hidden Cube"
  | .material => "Monolith Material"

/-- The text that a marker is shown with. -/
def Marker.label {α : Type} (m : Marker α) : String :=
  let name := Text.trim m.name
  if name.isEmpty then m.kind.label
  else if Label.syncedPrefix.toList.isPrefixOf name.toList then
    match m.kind with
    | .trace => name
    | kind => kind.label
  else if m.kind = .material ∧ name.toList.all Text.isDigit then
    MarkerKind.label .material ++ " #" ++ name
  else if Label.isToken name then Label.humanize name
  else name

end MarkerAtlas
