import MarkerAtlas.Marker.Basic

/-!
# Filters

A filter says which markers a listing shows and whose done flags it shows them with.
-/

namespace MarkerAtlas

/-- Which markers to list, and whose progress to show. -/
structure MarkerFilter where
  scope : Scope
  characterId : Option String
  map : Option String
  kind : Option MarkerKind
  faction : Option Faction
  query : Option String
  onlyRemaining : Bool
  deriving DecidableEq

namespace MarkerFilter

/-- The filter that shows every marker with the account's progress. -/
def all : MarkerFilter := ⟨.account, none, none, none, none, none, false⟩

instance : Inhabited MarkerFilter := ⟨all⟩

/-- The text to search for, if there is one: blanks around it do not count. -/
def searchText (f : MarkerFilter) : Option String := f.query.bind Text.trimmed?

/-- Does a marker lie on the map, have the kind and belong to the faction that the filter asks
for? A marker without faction, or for both, belongs to every faction. -/
def admits {α : Type} (f : MarkerFilter) (m : Marker α) : Bool :=
  f.map.all (· == m.map) && f.kind.all (· == m.kind) &&
    f.faction.all fun wanted =>
      match m.faction with
      | none => true
      | some .both => true
      | some own => own == wanted

end MarkerFilter

end MarkerAtlas
