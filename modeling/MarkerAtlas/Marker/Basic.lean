import MarkerAtlas.Plane
import MarkerAtlas.Text.Blank

/-!
# Markers

A marker is a collectible on a map of the game: what it is, where it lies, and whether the
player has collected it. Markers may lack coordinates; only those with two finite coordinates
have a position.
-/

namespace MarkerAtlas

/-- What is collected. -/
inductive MarkerKind where
  | trace
  | cube
  | material
  deriving Repr, DecidableEq

/-- The names of the kinds. -/
def MarkerKind.names : List (String × MarkerKind) :=
  [("TRACE", .trace), ("CUBE", .cube), ("MATERIAL", .material)]

/-- The name of a kind. -/
def MarkerKind.name : MarkerKind → String
  | .trace => "TRACE"
  | .cube => "CUBE"
  | .material => "MATERIAL"

/-- The kind of a name. -/
def MarkerKind.ofName? (s : String) : Option MarkerKind :=
  (MarkerKind.names.find? (·.1 == s)).map (·.2)

/-- Which players can collect a marker. -/
inductive Faction where
  | elyos
  | asmo
  | both
  deriving Repr, DecidableEq

/-- The names of the factions. -/
def Faction.names : List (String × Faction) :=
  [("ELYOS", .elyos), ("ASMO", .asmo), ("BOTH", .both)]

/-- The name of a faction. -/
def Faction.name : Faction → String
  | .elyos => "ELYOS"
  | .asmo => "ASMO"
  | .both => "BOTH"

/-- Every word that players use for a faction, in capitals. -/
def Faction.aliases : List (String × Faction) :=
  [("ELYOS", .elyos), ("E", .elyos), ("LIGHT", .elyos), ("L", .elyos), ("천족", .elyos),
   ("ASMO", .asmo), ("ASMODIANS", .asmo), ("A", .asmo), ("DARK", .asmo), ("D", .asmo),
   ("마족", .asmo),
   ("BOTH", .both), ("ALL", .both), ("ANY", .both), ("공통", .both), ("전체", .both)]

/-- The capital of a letter whose capital is a plain Latin one. Besides the plain letters these
are the i without a dot and the long s. -/
def Faction.capital (c : Char) : Char :=
  if 'a' ≤ c ∧ c ≤ 'z' then Char.ofNat (c.toNat - 32)
  else if c.toNat = 0x131 then 'I'
  else if c.toNat = 0x17F then 'S'
  else c

/-- The faction that a word stands for, whatever its case and the blanks around it. -/
def Faction.normalize (s : String) : Option Faction :=
  let word := String.ofList ((Text.trimChars s.toList).map Faction.capital)
  (Faction.aliases.find? (·.1 == word)).map (·.2)

/-- Whose progress a done flag belongs to. -/
inductive Scope where
  | account
  | character
  deriving Repr, DecidableEq

/-- The names of the scopes. -/
def Scope.names : List (String × Scope) := [("ACCOUNT", .account), ("CHARACTER", .character)]

/-- The name of a scope. -/
def Scope.name : Scope → String
  | .account => "ACCOUNT"
  | .character => "CHARACTER"

/-- The scope of a name, blanks around it allowed. -/
def Scope.ofName? (s : String) : Option Scope :=
  (Scope.names.find? (·.1 == Text.trim s)).map (·.2)

/-- A collectible on a map. -/
structure Marker (α : Type) where
  id : String
  kind : MarkerKind
  faction : Option Faction
  map : String
  region : Option String
  name : String
  note : Option String
  x : Option α
  y : Option α
  source : Option String
  done : Bool

/-- Where the marker lies, if it has two finite coordinates. -/
def Marker.position {α : Type} [Scalar α] (m : Marker α) : Option (Point α) :=
  match m.x, m.y with
  | some x, some y => if Scalar.isFinite x && Scalar.isFinite y then some ⟨x, y⟩ else none
  | _, _ => none

/-- Does the marker have a position? -/
def Marker.isPlaced {α : Type} [Scalar α] (m : Marker α) : Bool := m.position.isSome

end MarkerAtlas
